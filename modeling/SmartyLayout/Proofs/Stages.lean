import SmartyLayout.Document
import SmartyLayout.Proofs.Division
import SmartyLayout.Proofs.Placeholder
import SmartyLayout.Proofs.Trace

/-!
# SmartyLayout.Proofs.Stages — every stage keeps the trace

Each stage between inserting the ignore markers and removing them moves blanks only, and breaks
lines only at blanks or in front of an opening brace. So each keeps the trace of the text: line
endings (`trace_normalize`), the three beautifiers (`trace_beautified`), re-indentation
(`trace_reindent`).
-/

namespace SmartyLayout

open Text

/-! ## Line endings and final breaks -/

namespace LineEnding

theorem trace_normalize (joined : Bool) (t : Text) : trace joined (normalize t) = trace joined t := by
  fun_induction normalize t generalizing joined with
  | case1 cs ih =>
    -- both characters of the break are blank, and one blank or two leave the same trace
    have hreturn : isBlank '\r' = true := by decide
    rw [trace_cons_of_blank _ isBlank_newline, trace_cons_of_blank _ hreturn,
      trace_cons_of_blank _ isBlank_newline, ih]
  | case2 c cs _ ih =>
    cases hc : isBlank c with
    | true => rw [trace_cons_of_blank _ hc, trace_cons_of_blank _ hc, ih]
    | false => rw [trace_cons _ hc, trace_cons _ hc, ih]
  | case3 => rfl

theorem visible_restore (e : LineEnding) (t : Text) : visible (e.restore t) = visible t := by
  cases e with
  | lf => rfl
  | crlf =>
    induction t with
    | nil => rfl
    | cons c t ih =>
      have hcons : LineEnding.crlf.restore (c :: t) =
          (if c = '\n' then ['\r', '\n'] else [c]) ++ LineEnding.crlf.restore t := rfl
      have hbreak : visible ['\r', '\n'] = [] := by decide
      rw [hcons, visible_append, ih, ← List.singleton_append (l := t), visible_append]
      split
      · next hc =>
        subst hc
        rw [hbreak]
        rfl
      · rfl

end LineEnding

theorem visible_closeDocument (f : Formatter) (t : Text) : visible (f.closeDocument t) = visible t := by
  have hbreaks : visible (dropFinalBreaks t) = visible t := by
    have hsplit : dropFinalBreaks t ++ t.rtakeWhile (· == '\n') = t :=
      List.rdropWhile_append_rtakeWhile
    have hblank : blank (t.rtakeWhile (· == '\n')) = true := by
      rw [blank_iff]
      intro c hc
      rw [beq_iff_eq.1 (List.mem_rtakeWhile_imp (p := (· == '\n')) hc)]
      rfl
    -- what is dropped consists of breaks
    conv_rhs => rw [← hsplit, visible_append, visible_of_blank hblank, List.append_nil]
  have hnewline : visible ['\n'] = [] := by decide
  simp only [Formatter.closeDocument]
  split
  · rw [visible_append, hbreaks, hnewline, List.append_nil]
  · exact hbreaks

/-! ## Logical lines -/

namespace LogicalLine

/-- The logical lines of a text, one below the other, are the text. -/
theorem unlines_split (d : Dialect) (t : Text) : unlines ((split d t).map (·.text)) = t := by
  obtain ⟨us, rfl, hus⟩ := Atom.exists_reads d t
  rw [split, Atom.read_written hus, List.map_map]
  have hwritten := Atom.written_intercalate (us.splitOn (.plain '\n'))
  rw [List.intercalate_splitOn] at hwritten
  exact hwritten.symm

theorem trace_eq_flatMap_split (d : Dialect) (t : Text) :
    trace false t = (split d t).flatMap fun l => trace false l.text := by
  conv_lhs => rw [← unlines_split d t, trace_unlines, List.flatMap_map]

theorem text_infix_of_mem_split {d : Dialect} {t : Text} {l : LogicalLine} (h : l ∈ split d t) :
    l.text <:+: t := by
  have hmem : l.text ∈ (split d t).map (·.text) := List.mem_map_of_mem h
  conv_rhs => rw [← unlines_split d t]
  exact infix_unlines hmem

end LogicalLine

/-! ## Re-indentation -/

namespace Reindenter

open Atom

variable {r : Reindenter}

/-- Writing the pieces of a line keeps its trace. -/
theorem Divided.trace_emit (hunit : blank r.unit = true) {l : LogicalLine} {ts : List Transition}
    {start : Nat} {as : List Atom} {ps : List Piece} (h : Divided l ts start as ps) (m : Bool)
    (s : RegionStack) :
    (r.emit m s ps).1.flatMap (trace false) = trace false (written as) := by
  -- a piece is trimmed behind new blanks, and neither leaves a trace
  have hpiece (bs : List Atom) (n : Nat) :
      trace false (times n r.unit ++ (leading l.text ++ trim (written bs))) =
        trace false (written bs) := by
    rw [trace_blank_append (blank_times hunit n), trace_blank_append (blank_leading _), trace_trim]
  induction h generalizing s with
  | whole _ _ => simp [emit, hpiece]
  | @cut start stop as bs ps _ _ _ _ _ ih =>
    have hbrace : written (as ++ .plain '{' :: bs) = written as ++ '{' :: written bs := by simp
    -- a line is cut in front of a brace, where a trace joins nothing
    rw [hbrace, trace_append_brace, emit, List.flatMap_cons, hpiece, ih]
    rfl

theorem trace_line (hunit : blank r.unit = true) (st : State) (as : List Atom) :
    (r.line st (.ofAtoms as)).1.flatMap (trace false) = trace false (written as) := by
  cases hblank : (LogicalLine.ofAtoms as).blank with
  | true =>
    have hnone : trace false (written as) = [] := trace_of_blank _ hblank
    simp [line, hblank, hnone]
  | false =>
    have hdivided := divided_pieces (r := r) st.verbatim hblank
    simpa [line, hblank] using hdivided.trace_emit hunit _ _

theorem trace_run (hunit : blank r.unit = true) (st : State) (lines : List (List Atom)) :
    (r.run st (lines.map .ofAtoms)).1.flatMap (trace false) =
      lines.flatMap fun as => trace false (written as) := by
  induction lines generalizing st with
  | nil => rfl
  | cons as lines ih => simp [run, trace_line hunit, ih]

/-- Re-indenting a text keeps its trace. -/
theorem trace_reindent (hunit : blank r.unit = true) (d : Dialect) (t : Text) :
    trace false (r.reindent (LogicalLine.split d t)) = trace false t := by
  rw [reindent, trace_unlines, LogicalLine.split, trace_run hunit,
    LogicalLine.trace_eq_flatMap_split d t, LogicalLine.split, List.flatMap_map]
  rfl

end Reindenter

/-! ## Beautifiers -/

namespace Beautifier

theorem trace_trimLines (t : Text) :
    trace false (unlines ((readLines t).map trim)) = trace false t := by
  have hreturn (l : Text) :
      trace false (if l.getLast? = some '\r' then l.dropLast else l) = trace false l := by
    split
    · next h =>
      have hl : l.dropLast ++ ['\r'] = l := List.dropLast_append_getLast? _ h
      conv_rhs => rw [← hl, trace_append_blank _ _ (by decide : blank ['\r'] = true)]
    · rfl
  have hlines : trace false t = (lines t).flatMap (trace false) := by
    conv_lhs => rw [← unlines_lines t, trace_unlines]
  obtain ⟨front, last, hfront⟩ : ∃ front last, lines t = front ++ [last] :=
    ⟨_, _, (List.dropLast_append_getLast (lines_ne_nil t)).symm⟩
  have hread : (readLines t).flatMap (trace false) = (lines t).flatMap (trace false) := by
    simp only [readLines, hfront, List.dropLast_concat, List.getLast?_concat, List.flatMap_append,
      List.flatMap_map, hreturn]
    cases last <;> simp
  rw [trace_unlines, List.flatMap_map, hlines, ← hread]
  exact List.flatMap_congr fun l _ => trace_trim l

end Beautifier

namespace Markup

/-- Blank lines leave no trace, so the blank-line rule keeps it. -/
theorem trace_keptLines (keeps : Nat → Bool) (started : Bool) (run : Nat) (ls : List Text) :
    (keptLines keeps started run ls).flatMap (trace false) = ls.flatMap (trace false) := by
  fun_induction keptLines keeps started run ls with
  | case1 => rfl
  | case2 run l ls hblank ih =>
    rw [List.flatMap_append, ih, List.flatMap_cons, trace_of_blank _ hblank]
    split <;> rfl
  | case3 started run l ls hblank _ ih =>
    rw [ih, List.flatMap_cons, trace_of_blank _ hblank]
    rfl
  | case4 started run l ls _ ih => rw [List.flatMap_cons, ih, List.flatMap_cons]

theorem trace_dropFinalEmpty (ls : List Text) :
    (dropFinalEmpty ls).flatMap (trace false) = ls.flatMap (trace false) := by
  have hsplit : dropFinalEmpty ls ++ ls.rtakeWhile List.isEmpty = ls :=
    List.rdropWhile_append_rtakeWhile
  have hempty : (ls.rtakeWhile List.isEmpty).flatMap (trace false) = [] := by
    rw [List.flatMap_eq_nil_iff]
    intro l hl
    rw [List.isEmpty_iff.1 (List.mem_rtakeWhile_imp hl)]
    rfl
  conv_rhs => rw [← hsplit, List.flatMap_append, hempty, List.append_nil]

theorem trace_finish (d : Dialect) (s : Beautifier.Settings) (t : Text) :
    trace false (finish d s t) = trace false t := by
  have hbody : trace false (unlines (dropFinalEmpty (keptLines s.keepsBlankLine false 0
      ((LogicalLine.split d t).map fun l => trimEnd l.text)))) = trace false t := by
    rw [trace_unlines, trace_dropFinalEmpty, trace_keptLines, List.flatMap_map,
      LogicalLine.trace_eq_flatMap_split d t]
    exact List.flatMap_congr fun l _ => trace_trimEnd false l.text
  simp only [finish]
  split
  · rw [trace_append_blank _ _ (by decide : blank ['\n'] = true), hbody]
  · exact hbody

end Markup

namespace Shield

theorem exists_of_map_eq_ok {ε α β : Type} {f : α → β} {e : Except ε α} {b : β}
    (h : e.map f = .ok b) : ∃ a, e = .ok a ∧ f a = b := by
  cases e with
  | error fault => simp [Except.map] at h
  | ok a => exact ⟨a, rfl, by simpa [Except.map] using h⟩

/-- The items made of logical lines, the first of which begins on physical line `line`: a line is kept,
or it is a template line, trimmed and put aside. -/
inductive Shielded : Nat → List LogicalLine → List Item → Prop where
  | nil (line : Nat) : Shielded line [] []
  | markup {line : Nat} {l : LogicalLine} {ls : List LogicalLine} {items : List Item}
    (h : Shielded (line + l.breaks + 1) ls items) :
    Shielded line (l :: ls) (.markup line l.text :: items)
  | template {line : Nat} {l : LogicalLine} {ls : List LogicalLine} {items : List Item}
    (honly : isTemplateOnly l = true) (h : Shielded (line + l.breaks + 1) ls items) :
    Shielded line (l :: ls) (.template line (trim l.text) :: items)

theorem shielded_of_itemsFrom {line : Nat} {open? : Option Embedded.OpenElement}
    {ls : List LogicalLine} {items : List Item} (h : itemsFrom line open? ls = .ok items) :
    Shielded line ls items := by
  induction ls generalizing line open? items with
  | nil =>
    unfold itemsFrom at h
    split at h
    · cases h
    · cases h
      exact .nil line
  | cons l ls ih =>
    unfold itemsFrom at h
    split at h
    · -- a template line outside scripts and styles is put aside
      next honly =>
      obtain ⟨later, hlater, rfl⟩ := exists_of_map_eq_ok h
      exact .template (Bool.and_eq_true_iff.1 honly).2 (ih hlater)
    · split at h
      · cases h
      · obtain ⟨later, hlater, rfl⟩ := exists_of_map_eq_ok h
        exact .markup (ih hlater)

/-- Shielding keeps the trace of each line, and makes clean items of clean lines. -/
theorem itemsFrom_spec {line : Nat} {open? : Option Embedded.OpenElement} {ls : List LogicalLine}
    {items : List Item} (h : itemsFrom line open? ls = .ok items) :
    (items.flatMap fun i => trace false i.source) = (ls.flatMap fun l => trace false l.text) ∧
      ((∀ l ∈ ls, ¬ keyAttribute <:+: l.text) → ∀ i ∈ items, i.Clean) := by
  have hshielded := shielded_of_itemsFrom h
  clear h
  induction hshielded with
  | nil line => simp
  | @markup line l ls items h ih =>
    obtain ⟨htrace, hclean⟩ := ih
    refine ⟨by simp [htrace], ?_⟩
    intro hls
    have hfirst : ¬ keyAttribute <:+: l.text := hls l List.mem_cons_self
    simpa [Item.Clean, hfirst] using hclean fun k hk => hls k (List.mem_cons_of_mem l hk)
  | @template line l ls items honly h ih =>
    obtain ⟨htrace, hclean⟩ := ih
    refine ⟨by simp [trace_trim, htrace], ?_⟩
    intro hls
    simpa [Item.Clean] using hclean fun k hk => hls k (List.mem_cons_of_mem l hk)

end Shield

/-- The built-in beautifier over a printer that echoes keeps the trace of a text without
placeholders. -/
theorem Markup.trace_beautify {t out : Text} {s : Beautifier.Settings}
    (hkey : ¬ Shield.keyAttribute <:+: t) (h : Markup.beautify Printer.echo t s = .ok out) :
    trace false out = trace false t := by
  simp only [Markup.beautify] at h
  split at h
  · next hblank =>
    cases h
    rw [trace_of_blank _ hblank]
    rfl
  · split at h
    · simp at h
    · next shield hshield =>
      obtain ⟨items, hitems, rfl⟩ := Shield.exists_of_map_eq_ok hshield
      obtain ⟨htrace, hclean⟩ := Shield.itemsFrom_spec hitems
      -- the printer gives back what it got, so all placeholders are there to be replaced
      have hrestore := Shield.restore_text (s := ⟨items⟩) <| hclean fun l hl hmem =>
        hkey (hmem.trans (LogicalLine.text_infix_of_mem_split hl))
      simp only [Printer.echo, Shield.request, Except.ok.injEq] at h
      rw [← h, Markup.trace_finish, hrestore, trace_unlines, List.flatMap_map, htrace,
        ← LogicalLine.trace_eq_flatMap_split]

end SmartyLayout
