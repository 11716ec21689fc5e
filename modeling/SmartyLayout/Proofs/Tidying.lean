import SmartyLayout.Proofs.DocumentEndings
import SmartyLayout.Proofs.Margins

/-!
# SmartyLayout.Proofs.Tidying — a tidied text

Tidying trims the ends of the logical lines of a text and thins out its blank lines.

* `Kept` describes the lines that the blank-line rule leaves as they are. What it leaves of any
  lines are such lines (`kept_keptLines`), and it leaves those alone (`Kept.keptLines_append`);
* `Tidied.read_unlines`: the lines that are written are the logical lines of the tidied text, since
  all cores stay;
* `finish_tidies` puts this together: tidying is idempotent, its result is `Tidy`, and the lines
  that are not blank are those of the text, trimmed at their ends, with all literals.
-/

namespace SmartyLayout

open Text

namespace Markup

/-! ## The blank-line rule -/

/-- Lines that the blank-line rule leaves as they are: blank lines are empty, stand behind another
line, and `keeps` accepts each of them by its number in a row. -/
inductive Kept (keeps : Nat → Bool) : (started : Bool) → (run : Nat) → List Text → Prop
  | done {started : Bool} {run : Nat} : Kept keeps started run []
  | empty {run : Nat} {ls : List Text} (hkeeps : keeps (run + 1) = true)
      (h : Kept keeps true (run + 1) ls) : Kept keeps true run ([] :: ls)
  | line {started : Bool} {run : Nat} {l : Text} {ls : List Text} (hl : blank l = false)
      (h : Kept keeps true 0 ls) : Kept keeps started run (l :: ls)

section

variable {keeps : Nat → Bool} {started : Bool} {run : Nat} {ls ms : List Text}

/-- Fewer blank lines before leave more room. -/
theorem Kept.of_succ (hkeeps : ∀ n, keeps (n + 1) = true → keeps n = true)
    (h : Kept keeps true (run + 1) ls) : Kept keeps true run ls := by
  induction ls generalizing run with
  | nil => exact .done
  | cons l ls ih =>
    cases h with
    | empty hkeep h => exact .empty (hkeeps _ hkeep) (ih h)
    | line hl h => exact .line hl h

/-- What the rule leaves of any lines. -/
theorem kept_keptLines (hkeeps : ∀ n, keeps (n + 1) = true → keeps n = true) (started : Bool)
    (run : Nat) (ls : List Text) : Kept keeps started run (keptLines keeps started run ls) := by
  fun_induction keptLines keeps started run ls with
  | case1 => exact .done
  | case2 run l ls _ ih =>
    split
    · next hkeep => exact .empty hkeep ih
    · -- the line is left out, so the next one has no more blank lines before it
      exact ih.of_succ hkeeps
  | case3 started run l ls _ hstarted ih =>
    rw [Bool.eq_false_iff.2 hstarted]
    exact ih
  | case4 started run l ls hl ih => exact .line (by simpa using hl) ih

/-- The rule leaves such lines alone, whatever follows them. -/
theorem Kept.keptLines_append (h : Kept keeps started run ls) (ms : List Text) :
    ∃ started' run', keptLines keeps started run (ls ++ ms) =
      ls ++ keptLines keeps started' run' ms := by
  induction h with
  | @done started run => exact ⟨started, run, rfl⟩
  | empty hkeep _ ih =>
    obtain ⟨started', run', hrest⟩ := ih
    exact ⟨started', run', by simp [keptLines, hkeep, hrest]⟩
  | line hl _ ih =>
    obtain ⟨started', run', hrest⟩ := ih
    exact ⟨started', run', by simp [keptLines, hl, hrest]⟩

theorem Kept.left (h : Kept keeps started run (ls ++ ms)) : Kept keeps started run ls := by
  induction ls generalizing started run with
  | nil => exact .done
  | cons l ls ih =>
    cases h with
    | empty hkeep h => exact .empty hkeep (ih h)
    | line hl h => exact .line hl (ih h)

theorem Kept.right (h : Kept keeps started run (ls ++ ms)) :
    ∃ started' run', Kept keeps started' run' ms := by
  induction ls generalizing started run with
  | nil => exact ⟨started, run, h⟩
  | cons l ls ih =>
    cases h with
    | empty _ h => exact ih h
    | line _ h => exact ih h

/-- Each blank line of a row is accepted, counted with those before it. -/
theorem Kept.keeps_length (h : Kept keeps started run (ls ++ ms)) (hne : ls ≠ [])
    (hblank : ∀ l ∈ ls, blank l = true) : keeps (run + ls.length) = true := by
  induction ls generalizing started run with
  | nil => exact absurd rfl hne
  | cons l ls ih =>
    rw [List.forall_mem_cons] at hblank
    cases h with
    | line hl _ =>
      rw [hblank.1] at hl
      exact absurd hl (by decide)
    | empty hkeep h =>
      by_cases hnil : ls = []
      · rw [hnil]
        exact hkeep
      · have hrest := ih h hnil hblank.2
        rwa [List.length_cons, Nat.add_comm ls.length, ← Nat.add_assoc]

/-- Blank lines in a row are accepted together, counted with those before them. -/
theorem Kept.exists_keeps {row : List Text} (h : Kept keeps started run ls) (hrow : row <:+: ls)
    (hne : row ≠ []) (hblank : ∀ l ∈ row, blank l = true) :
    ∃ before, keeps (before + row.length) = true := by
  obtain ⟨front, back, rfl⟩ := hrow
  rw [List.append_assoc] at h
  obtain ⟨_, before, hrest⟩ := h.right
  exact ⟨before, hrest.keeps_length hne hblank⟩

/-- The first line is not blank. -/
theorem Kept.head {l : Text} (h : Kept keeps false run (l :: ls)) : blank l = false := by
  cases h with
  | line hl _ => exact hl

/-- Such lines are empty or not blank. -/
theorem Kept.eq_nil_or_visible (h : Kept keeps started run ls) :
    ∀ l ∈ ls, l = [] ∨ blank l = false := by
  induction h with
  | done => simp
  | empty _ _ ih => exact List.forall_mem_cons.2 ⟨.inl rfl, ih⟩
  | line hl _ ih => exact List.forall_mem_cons.2 ⟨.inr hl, ih⟩

theorem dropFinalEmpty_append_empty (hms : ∀ m ∈ ms, m = []) :
    dropFinalEmpty (ls ++ ms) = dropFinalEmpty ls := by
  rw [dropFinalEmpty, List.reverse_append, List.dropWhile_append_of_pos]
  · rfl
  · intro m hm
    rw [hms m (List.mem_reverse.1 hm)]
    rfl

end

theorem keepsBlankLine_iff {s : Beautifier.Settings} {n : Nat} :
    s.keepsBlankLine n = true ↔
      s.preserveNewlines = true ∧ ∀ most, s.maxPreserveNewlines = some most → n ≤ most := by
  unfold Beautifier.Settings.keepsBlankLine
  rw [Bool.and_eq_true]
  cases s.maxPreserveNewlines <;> simp

/-- With a number of blank lines in a row, all smaller ones are kept. -/
theorem keepsBlankLine_of_succ (s : Beautifier.Settings) (n : Nat)
    (h : s.keepsBlankLine (n + 1) = true) : s.keepsBlankLine n = true := by
  rw [keepsBlankLine_iff] at h ⊢
  exact ⟨h.1, fun most hmost => Nat.le_of_succ_le (h.2 most hmost)⟩

theorem kept_tidyLines (d : Dialect) (s : Beautifier.Settings) (t : Text) :
    Kept s.keepsBlankLine false 0 (tidyLines d s t) := by
  have hkept := kept_keptLines (keepsBlankLine_of_succ s) false 0
    ((LogicalLine.split d t).map fun l => trimEnd l.text)
  obtain ⟨back, hcut⟩ := List.rdropWhile_prefix List.isEmpty
    (keptLines s.keepsBlankLine false 0 ((LogicalLine.split d t).map fun l => trimEnd l.text))
  rw [← hcut] at hkept
  exact hkept.left

/-! ## The lines that are written -/

open Atom

/-- The blank-line rule on lines of units: it keeps those that are not blank, and puts empty ones in
place of some of the others. -/
theorem exists_keptLines (keeps : Nat → Bool) (started : Bool) (run : Nat) {ls : List (List Atom)}
    (hsound : ∀ as ∈ ls, ∀ a ∈ as, a.Sound) :
    ∃ os, keptLines keeps started run (ls.map written) = os.map written ∧ shown os = shown ls ∧
      ∀ o ∈ os, o = [] ∨ o ∈ ls := by
  induction ls generalizing started run with
  | nil => exact ⟨[], rfl, rfl, by simp⟩
  | cons as ls ih =>
    rw [List.forall_mem_cons] at hsound
    rw [List.map_cons, keptLines, blank_written hsound.1]
    cases hall : as.all isGap with
    | true =>
      -- a blank line shows nowhere, wherever the row it stands in began
      have hlater (started : Bool) (run : Nat) :
          ∃ os, keptLines keeps started run (ls.map written) = os.map written ∧
            shown os = shown (as :: ls) ∧ ∀ o ∈ os, o = [] ∨ o ∈ as :: ls := by
        obtain ⟨os, hos, hshown, hmem⟩ := ih started run hsound.2
        refine ⟨os, hos, by rw [hshown, shown_cons_of_all hall], ?_⟩
        exact fun o ho => (hmem o ho).imp_right (List.mem_cons_of_mem as)
      cases started with
      | false => exact hlater false run
      | true =>
        obtain ⟨os, hos, hshown, hmem⟩ := hlater true (run + 1)
        simp only [if_true]
        rw [hos]
        split
        · exact ⟨[] :: os, rfl, hshown, List.forall_mem_cons.2 ⟨.inl rfl, hmem⟩⟩
        · exact ⟨os, rfl, hshown, hmem⟩
    | false =>
      obtain ⟨os, hos, hshown, hmem⟩ := ih true 0 hsound.2
      simp only [Bool.false_eq_true, if_false]
      refine ⟨as :: os, by rw [hos, List.map_cons], ?_, ?_⟩
      · rw [shown_cons hall, shown_cons hall, hshown]
      · refine List.forall_mem_cons.2 ⟨.inr List.mem_cons_self, fun o ho => ?_⟩
        exact (hmem o ho).imp_right (List.mem_cons_of_mem as)

/-- The units of the lines that a text is tidied to. -/
structure Tidied (d : Dialect) (s : Beautifier.Settings) (t : Text) (os : List (List Atom)) :
    Prop where
  lines : tidyLines d s t = os.map written
  shown_eq : shown os = shown ((read d t).map dropTrailing)
  trimmed : ∀ o ∈ os, o = [] ∨ o ∈ (read d t).map dropTrailing

section

variable {d : Dialect} {s : Beautifier.Settings} {t : Text} {os : List (List Atom)}

theorem sound_of_mem_trimmed {o : List Atom} (h : o ∈ (read d t).map dropTrailing) :
    ∀ a ∈ o, a.Sound := by
  intro a ha
  obtain ⟨as, has, rfl⟩ := List.mem_map.1 h
  exact (facts_of_mem_read has).1 a ((List.rdropWhile_prefix isGap as).subset ha)

theorem map_trimEnd_split (d : Dialect) (t : Text) :
    (LogicalLine.split d t).map (fun l => trimEnd l.text) =
      ((read d t).map dropTrailing).map written := by
  rw [LogicalLine.split, List.map_map, List.map_map]
  exact List.map_congr_left fun as has => (written_dropTrailing (facts_of_mem_read has).1).symm

theorem exists_tidied (d : Dialect) (s : Beautifier.Settings) (t : Text) :
    ∃ os, Tidied d s t os := by
  obtain ⟨os, hos, hshown, hmem⟩ := exists_keptLines s.keepsBlankLine false 0
    fun o ho => sound_of_mem_trimmed (d := d) (t := t) ho
  -- what is dropped at the end is empty
  have hcut : os.map written = tidyLines d s t ++ (os.map written).rtakeWhile List.isEmpty := by
    rw [tidyLines, map_trimEnd_split, hos]
    exact List.rdropWhile_append_rtakeWhile.symm
  obtain ⟨front, back, rfl, hfront, hback⟩ := List.map_eq_append_iff.1 hcut
  rw [List.forall_mem_append] at hmem
  have hempty : shown back = [] := by
    refine shown_eq_nil fun o ho => ?_
    rcases hmem.2 o ho with rfl | hline
    · rfl
    · have hnil : written o ∈ (List.map written (front ++ back)).rtakeWhile List.isEmpty := by
        rw [← hback]
        exact List.mem_map_of_mem ho
      rw [← blank_written (sound_of_mem_trimmed hline),
        List.isEmpty_iff.1 (List.mem_rtakeWhile_imp hnil), blank_nil]
  refine ⟨front, hfront.symm, ?_, hmem.1⟩
  rw [← hshown, shown_append, hempty, List.append_nil]

namespace Tidied

variable (h : Tidied d s t os)
include h

theorem sound : ∀ o ∈ os, ∀ a ∈ o, a.Sound := by
  intro o ho
  rcases h.trimmed o ho with rfl | hline
  · simp
  · exact sound_of_mem_trimmed hline

theorem dropTrailing_eq : ∀ o ∈ os, dropTrailing o = o := by
  intro o ho
  rcases h.trimmed o ho with rfl | hline
  · rfl
  · obtain ⟨as, -, rfl⟩ := List.mem_map.1 hline
    exact List.rdropWhile_idempotent isGap as

theorem trimEnd_eq : ∀ l ∈ tidyLines d s t, trimEnd l = l := by
  rw [h.lines, List.forall_mem_map]
  intro o ho
  rw [← written_dropTrailing (h.sound o ho), h.dropTrailing_eq o ho]

theorem cores_eq : cores os = cores (read d t) := by
  rw [cores, h.shown_eq, ← cores, cores_map_dropTrailing]

/-- The lines that are written are the lines of what is written. -/
theorem read_unlines (hne : os ≠ []) : read d (unlines (tidyLines d s t)) = os := by
  rw [h.lines]
  refine read_unlines_of_cores hne (fun o ho hbreak => ?_) h.cores_eq
  rcases h.trimmed o ho with rfl | hline
  · simp at hbreak
  · obtain ⟨as, has, rfl⟩ := List.mem_map.1 hline
    exact (facts_of_mem_read has).2 ((List.rdropWhile_prefix isGap as).subset hbreak)

/-- Behind them stands at most an empty line. -/
theorem read_finish : ∃ tail, read d (finish d s t) = os ++ tail ∧ ∀ m ∈ tail, m = [] := by
  have hfinish : finish d s t =
      if s.endWithNewline && !(unlines (tidyLines d s t)).isEmpty then
        unlines (tidyLines d s t) ++ ['\n']
      else unlines (tidyLines d s t) := rfl
  by_cases hnil : os = []
  · have hlines : tidyLines d s t = [] := by rw [h.lines, hnil, List.map_nil]
    have hempty : finish d s t = [] := by
      rw [hfinish, hlines]
      simp [unlines]
    exact ⟨[[]], by rw [hempty, hnil]; rfl, by simp⟩
  · rw [hfinish]
    split
    · refine ⟨[[]], ?_, by simp⟩
      rw [Reindenter.read_append_newline, h.read_unlines hnil]
    · exact ⟨[], by rw [h.read_unlines hnil, List.append_nil], by simp⟩

/-- A tidied text has the lines it is tidied to. -/
theorem tidyLines_finish : tidyLines d s (finish d s t) = tidyLines d s t := by
  obtain ⟨tail, hread, htail⟩ := h.read_finish
  have hlines : ((read d (finish d s t)).map dropTrailing).map written =
      tidyLines d s t ++ tail.map fun _ => [] := by
    rw [hread, List.map_append, List.map_append, h.lines, List.map_map, List.map_map]
    congr 1
    · exact List.map_congr_left fun o ho => congrArg written (h.dropTrailing_eq o ho)
    · exact List.map_congr_left fun m hm => by rw [htail m hm]; rfl
  obtain ⟨started, run, hkept⟩ := (kept_tidyLines d s t).keptLines_append (tail.map fun _ => [])
  rw [tidyLines, map_trimEnd_split, hlines, hkept, dropFinalEmpty_append_empty]
  · -- the empty lines at the end are dropped already
    exact List.rdropWhile_idempotent ..
  · intro m hm
    rcases mem_keptLines hm with hnil | hm
    · exact hnil
    · obtain ⟨-, -, rfl⟩ := List.mem_map.1 hm
      rfl

end Tidied

end

/-! ## Tidied texts -/

/-- A text as tidying leaves it, its final break aside. -/
structure Tidy (d : Dialect) (s : Beautifier.Settings) (body : Text) : Prop where
  first : ∀ l, (LogicalLine.split d body).head? = some l → l.blank = false
  last : ∀ l, (LogicalLine.split d body).getLast? = some l → l.blank = false
  ends : ∀ l ∈ LogicalLine.split d body, ∀ c, l.text.getLast? = some c → isBlank c = false
  limit : ∀ run, run <:+: LogicalLine.split d body → (∀ l ∈ run, l.blank = true) →
    ∀ most, s.maxPreserveNewlines = some most → run.length ≤ most
  off : s.preserveNewlines = false → ∀ l ∈ LogicalLine.split d body, l.blank = false

theorem Tidied.tidy {d : Dialect} {s : Beautifier.Settings} {t : Text} {os : List (List Atom)}
    (h : Tidied d s t os) (hbody : unlines (tidyLines d s t) ≠ []) :
    Tidy d s (unlines (tidyLines d s t)) := by
  have hne : os ≠ [] := by
    rintro rfl
    exact hbody (by rw [h.lines]; rfl)
  have htexts :
      (LogicalLine.split d (unlines (tidyLines d s t))).map (·.text) = tidyLines d s t := by
    rw [LogicalLine.split, h.read_unlines hne, List.map_map, h.lines]
    rfl
  have hkept := kept_tidyLines d s t
  -- from here on the text matters by its lines only
  generalize unlines (tidyLines d s t) = body at htexts
  have hmem {l : LogicalLine} (hl : l ∈ LogicalLine.split d body) : l.text ∈ tidyLines d s t := by
    rw [← htexts]
    exact List.mem_map_of_mem hl
  -- a row of blank lines is accepted as a whole
  have hrow {run : List LogicalLine} (hin : run <:+: LogicalLine.split d body) (hrun : run ≠ [])
      (hblank : ∀ l ∈ run, l.blank = true) : ∃ before, s.keepsBlankLine (before + run.length) := by
    have htext : run.map (·.text) <:+: tidyLines d s t := by
      rw [← htexts]
      exact hin.map _
    have haccepted := hkept.exists_keeps htext (by simpa using hrun) (List.forall_mem_map.2 hblank)
    rwa [List.length_map] at haccepted
  constructor
  case first =>
    intro l hl
    obtain ⟨ls, hls⟩ := List.head?_eq_some_iff.1 hl
    rw [← htexts, hls, List.map_cons] at hkept
    exact hkept.head
  case last =>
    intro l hl
    obtain ⟨ls, hls⟩ := List.getLast?_eq_some_iff.1 hl
    -- the last line is not empty, and a blank line would be
    obtain ⟨front, last, hfront, -, hlast⟩ := exists_concat_of_dropFinalEmpty
      (show tidyLines d s t ≠ [] by rw [h.lines]; simpa using hne)
    have heq : front ++ [last] = ls.map (·.text) ++ [l.text] := by
      rw [← hfront, ← tidyLines, ← htexts, hls, List.map_append]
      rfl
    rw [(List.append_singleton_inj.1 heq).2] at hlast
    exact (hkept.eq_nil_or_visible l.text (hmem (by simp [hls]))).resolve_left hlast
  case ends =>
    intro l hl c hc
    have hne : trimEnd l.text ≠ [] := by
      rw [h.trimEnd_eq _ (hmem hl)]
      rintro hnil
      simp [hnil] at hc
    obtain ⟨front, e, hlast, he⟩ := exists_concat_of_trimEnd hne
    rw [h.trimEnd_eq _ (hmem hl)] at hlast
    rw [hlast, List.getLast?_concat] at hc
    rwa [← Option.some.inj hc]
  case limit =>
    intro run hin hblank most hmost
    by_cases hrun : run = []
    · simp [hrun]
    · obtain ⟨before, hkeeps⟩ := hrow hin hrun hblank
      have hle := (keepsBlankLine_iff.1 hkeeps).2 most hmost
      omega
  case off =>
    intro hoff l hl
    by_contra hblank
    obtain ⟨before, hkeeps⟩ := hrow ((List.singleton_infix_iff l _).2 hl) (by simp)
      (by simpa using hblank)
    rw [(keepsBlankLine_iff.1 hkeeps).1] at hoff
    exact absurd hoff (by decide)

/-- Tidying a text twice is tidying it once. Without its final break, the result is empty or `Tidy`.
Its lines that are not blank are those of the text in order, without the blanks at their ends, and
all literals are kept. -/
theorem finish_tidies (d : Dialect) (s : Beautifier.Settings) (t : Text) :
    finish d s (finish d s t) = finish d s t ∧
    (∃ body, finish d s t = (if s.endWithNewline && !body.isEmpty then body ++ ['\n'] else body) ∧
      (body ≠ [] → Tidy d s body)) ∧
    (LogicalLine.split d (finish d s t)).filter (fun l => !l.blank) =
      ((LogicalLine.split d t).filter fun l => !l.blank).map LogicalLine.trimmed ∧
    (LogicalLine.split d (finish d s t)).flatMap LogicalLine.literals =
      (LogicalLine.split d t).flatMap LogicalLine.literals := by
  obtain ⟨os, h⟩ := exists_tidied d s t
  obtain ⟨tail, hread, htail⟩ := h.read_finish
  have hshown : shown (read d (finish d s t)) = (shown (read d t)).map dropTrailing := by
    have hempty : shown tail = [] := shown_eq_nil fun m hm => by rw [htail m hm]; rfl
    rw [hread, shown_append, hempty, List.append_nil, h.shown_eq, shown_map_dropTrailing]
  refine ⟨?_, ⟨unlines (tidyLines d s t), rfl, h.tidy⟩, ?_, ?_⟩
  · have hagain := finish_endWithNewline d s s.endWithNewline (finish d s t)
    rw [h.tidyLines_finish] at hagain
    exact hagain
  · rw [LogicalLine.filter_split, LogicalLine.filter_split, hshown, List.map_map, List.map_map]
    refine List.map_congr_left fun as has => ?_
    exact LogicalLine.ofAtoms_dropTrailing (facts_of_mem_read (List.mem_of_mem_filter has)).1
  · refine (LogicalLine.eq_of_cores ?_).2.2
    rw [cores, hshown, ← shown_map_dropTrailing, ← cores, cores_map_dropTrailing]

end Markup

end SmartyLayout
