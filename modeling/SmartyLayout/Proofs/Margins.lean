import SmartyLayout.Proofs.Integrity
import SmartyLayout.Proofs.SecondPass

/-!
# SmartyLayout.Proofs.Margins — lines with other blanks around them

Tidying and indenting write each line that is not blank between other blanks, and put blank lines in
or leave them out. What stays are the *cores* of the lines: their units without the blanks at both
ends. Texts whose lines have the same cores are reflowed (`Lines.reflowed`), so lines with the cores
of a text are the logical lines of what is written (`read_unlines_of_cores`), and they hold what the
lines of the text hold (`LogicalLine.eq_of_cores`). `LogicalLine.split_unlines_margins` is the case in
which every line is kept and given a margin of its own.
-/

namespace SmartyLayout

open Text

namespace Atom

/-! ## Blanks at the ends of a line -/

/-- The unit is a blank that layout may touch. -/
def isGap : Atom → Bool
  | .plain c => isBlank c
  | .literal _ _ => false

theorem isGap_iff {a : Atom} : a.isGap = true ↔ ∃ c, a = plain c ∧ isBlank c = true := by
  cases a <;> simp [isGap]

/-- The units of a line without the blanks at its end. -/
def dropTrailing (as : List Atom) : List Atom :=
  as.rdropWhile isGap

/-- The units of a line without the blanks at both ends. -/
def core (as : List Atom) : List Atom :=
  dropTrailing (as.dropWhile isGap)

theorem exists_dropTrailing_append (as : List Atom) :
    ∃ g : Text, blank g = true ∧ as = dropTrailing as ++ g.map plain := by
  have hgap : ∀ a ∈ as.rtakeWhile isGap, ∃ c, a = plain c ∧ isBlank c = true :=
    fun a ha => isGap_iff.1 (List.mem_rtakeWhile_imp ha)
  obtain ⟨g, hg, hblank⟩ := exists_map_plain_of_gap hgap
  refine ⟨g, blank_iff.2 hblank, ?_⟩
  rw [← hg, dropTrailing, List.rdropWhile_append_rtakeWhile]

theorem exists_core_append (as : List Atom) :
    ∃ lead g : Text, blank lead = true ∧ blank g = true ∧
      as = lead.map plain ++ (core as ++ g.map plain) := by
  have hgap : ∀ a ∈ as.takeWhile isGap, ∃ c, a = plain c ∧ isBlank c = true :=
    fun a ha => isGap_iff.1 (List.mem_takeWhile_imp ha)
  obtain ⟨lead, hlead, hblank⟩ := exists_map_plain_of_gap hgap
  obtain ⟨g, hg, hrest⟩ := exists_dropTrailing_append (as.dropWhile isGap)
  refine ⟨lead, g, blank_iff.2 hblank, hg, ?_⟩
  rw [core, ← hrest, ← hlead, List.takeWhile_append_dropWhile]

theorem all_isGap_map_plain {g : Text} (hg : blank g = true) : (g.map plain).all isGap = true := by
  rw [List.all_eq_true]
  exact fun a ha => isGap_iff.2 (isGap_of_blank hg a ha)

theorem isGap_of_mem_map_plain {g : Text} (hg : blank g = true) :
    ∀ a ∈ g.map plain, a.isGap = true :=
  List.all_eq_true.1 (all_isGap_map_plain hg)

theorem dropTrailing_append_blank (as : List Atom) {g : Text} (hg : blank g = true) :
    dropTrailing (as ++ g.map plain) = dropTrailing as := by
  rw [dropTrailing, dropTrailing, List.rdropWhile, List.rdropWhile, List.reverse_append,
    List.dropWhile_append_of_pos]
  simpa using isGap_of_mem_map_plain hg

theorem dropWhile_isGap_eq_nil_iff {as : List Atom} :
    as.dropWhile isGap = [] ↔ as.all isGap = true := by
  rw [List.dropWhile_eq_nil_iff, List.all_eq_true]

theorem core_eq_nil_iff {as : List Atom} : core as = [] ↔ as.all isGap = true := by
  constructor
  · intro hnil
    obtain ⟨lead, g, hlead, hg, has⟩ := exists_core_append as
    rw [has, hnil, List.nil_append, List.all_append, all_isGap_map_plain hlead,
      all_isGap_map_plain hg, Bool.and_self]
  · intro hall
    rw [core, dropWhile_isGap_eq_nil_iff.2 hall, dropTrailing, List.rdropWhile_nil]

theorem core_blank_append {g : Text} (hg : blank g = true) (as : List Atom) :
    core (g.map plain ++ as) = core as := by
  rw [core, core, List.dropWhile_append_of_pos (isGap_of_mem_map_plain hg)]

theorem core_append_blank (as : List Atom) {g : Text} (hg : blank g = true) :
    core (as ++ g.map plain) = core as := by
  cases hall : as.all isGap with
  | true =>
    have hboth : (as ++ g.map plain).all isGap = true := by
      rw [List.all_append, hall, all_isGap_map_plain hg, Bool.and_self]
    rw [core_eq_nil_iff.2 hall, core_eq_nil_iff.2 hboth]
  | false =>
    have hne : (as.dropWhile isGap).isEmpty = false := by
      rw [List.isEmpty_eq_false_iff, Ne, dropWhile_isGap_eq_nil_iff, hall]
      decide
    rw [core, core, List.dropWhile_append, hne, if_neg (by decide), dropTrailing_append_blank _ hg]

theorem core_dropTrailing (as : List Atom) : core (dropTrailing as) = core as := by
  obtain ⟨g, hg, has⟩ := exists_dropTrailing_append as
  conv_rhs => rw [has, core_append_blank _ hg]

theorem core_core (as : List Atom) : core (core as) = core as := by
  obtain ⟨lead, g, hlead, hg, has⟩ := exists_core_append as
  conv_rhs => rw [has, core_blank_append hlead, core_append_blank _ hg]

theorem isInfix_core (as : List Atom) : core as <:+: as :=
  (List.rdropWhile_prefix _ _).isInfix.trans (List.dropWhile_suffix _).isInfix

/-! ### What is written -/

/-- What is no gap is written without blanks at its ends. -/
theorem solid_text {a : Atom} (ha : a.Sound) (hgap : a.isGap = false) : Solid a.text := by
  cases a with
  | plain c => exact solid_singleton hgap
  | literal kind lexeme => exact ha

variable {as : List Atom} (hsound : ∀ a ∈ as, a.Sound)
include hsound

theorem blank_written : blank (written as) = as.all isGap := by
  induction as with
  | nil => rfl
  | cons a as ih =>
    rw [List.forall_mem_cons] at hsound
    rw [written_cons, blank_append, List.all_cons, ih hsound.2]
    cases hgap : a.isGap with
    | true =>
      obtain ⟨c, rfl, hc⟩ := isGap_iff.1 hgap
      simp [hc]
    -- a literal may hold blanks, but not only blanks
    | false => rw [(solid_text hsound.1 hgap).not_blank]

theorem written_dropWhile : written (as.dropWhile isGap) = trimStart (written as) := by
  induction as with
  | nil => rfl
  | cons a as ih =>
    rw [List.forall_mem_cons] at hsound
    cases hgap : a.isGap with
    | true =>
      obtain ⟨c, rfl, hc⟩ := isGap_iff.1 hgap
      have hblank : blank [c] = true := by simp [hc]
      rw [List.dropWhile_cons_of_pos hgap, ih hsound.2, written_cons, text_plain,
        trimStart_blank_append hblank]
    | false =>
      obtain ⟨c, rest, htext, hc⟩ := (solid_text hsound.1 hgap).first
      rw [List.dropWhile_cons_of_neg (by simp [hgap]), written_cons, htext, List.cons_append,
        trimStart_cons hc]

theorem written_dropTrailing : written (dropTrailing as) = trimEnd (written as) := by
  induction as using List.reverseRecOn with
  | nil => rfl
  | append_singleton as a ih =>
    rw [List.forall_mem_append, List.forall_mem_singleton] at hsound
    rw [written_append, written_cons, written_nil, List.append_nil]
    cases hgap : a.isGap with
    | true =>
      obtain ⟨c, rfl, hc⟩ := isGap_iff.1 hgap
      have hblank : blank [c] = true := by simp [hc]
      rw [dropTrailing, List.rdropWhile_concat_pos _ _ _ hgap, ← dropTrailing, ih hsound.1,
        text_plain, trimEnd_append_blank _ hblank]
    | false =>
      obtain ⟨front, c, htext, hc⟩ := (solid_text hsound.2 hgap).last
      rw [dropTrailing, List.rdropWhile_concat_neg _ _ _ (by simp [hgap]), written_append,
        written_cons, written_nil, List.append_nil, htext, ← List.append_assoc, trimEnd_concat _ hc]

theorem written_core : written (core as) = trim (written as) := by
  have hrest : ∀ a ∈ as.dropWhile isGap, a.Sound :=
    fun a ha => hsound a ((List.dropWhile_suffix _).subset ha)
  rw [core, written_dropTrailing hrest, written_dropWhile hsound, trim]

/-- A core is written without blanks at its ends. -/
theorem solid_written_core (hne : core as ≠ []) : Solid (written (core as)) := by
  have hblank : blank (written as) = false := by
    rw [blank_written hsound, Bool.eq_false_iff, Ne, ← core_eq_nil_iff]
    exact hne
  obtain ⟨-, -, -, hsolid⟩ := exists_solid_core hblank
  rwa [written_core hsound]

omit hsound

/-! ### What a line holds -/

/-- What blanks do not add to is the same for a line and its core. -/
theorem flatMap_core {α : Type} {f : Atom → List α} (hf : ∀ a, a.isGap = true → f a = [])
    (as : List Atom) : (core as).flatMap f = as.flatMap f := by
  have hblank {g : Text} (hg : blank g = true) : (g.map plain).flatMap f = [] :=
    List.flatMap_eq_nil_iff.2 fun a ha => hf a (isGap_of_mem_map_plain hg a ha)
  obtain ⟨lead, g, hlead, hg, has⟩ := exists_core_append as
  conv_rhs => rw [has, List.flatMap_append, List.flatMap_append, hblank hlead, hblank hg,
    List.nil_append, List.append_nil]

def lexeme : Atom → List Text
  | .plain _ => []
  | .literal _ lexeme => [lexeme]

theorem lexeme_eq_nil {a : Atom} (h : a.isGap = true) : a.lexeme = [] := by
  obtain ⟨c, rfl, -⟩ := isGap_iff.1 h
  rfl

theorem units_eq_nil {a : Atom} (h : a.isGap = true) : a.units = [] := by
  obtain ⟨c, rfl, hc⟩ := isGap_iff.1 h
  simp [units, visibleUnits, visible, hc]

theorem spansFrom_eq_map (n : Nat) (as : List Atom) :
    spansFrom n as =
      (spansFrom 0 as).map fun s => { s with span := ⟨s.span.start + n, s.span.stop + n⟩ } := by
  -- the induction needs every position, not only the first
  have hmove (pos : Nat) : spansFrom (pos + n) as =
      (spansFrom pos as).map fun s => { s with span := ⟨s.span.start + n, s.span.stop + n⟩ } := by
    induction as generalizing pos with
    | nil => rfl
    | cons a as ih =>
      cases a with
      | plain c => rw [spansFrom, spansFrom, Nat.add_right_comm, ih]
      | literal kind lexeme =>
        rw [spansFrom, spansFrom, Nat.add_right_comm, ih]
        rfl
  simpa using hmove 0

/-- The literals of a line are those of its core, behind the blanks in front of it. -/
theorem spansFrom_core {as : List Atom} (hsound : ∀ a ∈ as, a.Sound) :
    spansFrom 0 as = spansFrom (size (leading (written as))) (core as) := by
  obtain ⟨lead, trail, hlead, -, has⟩ := exists_core_append as
  have hspans : spansFrom 0 as = spansFrom (size lead) (core as) := by
    conv_lhs => rw [has, spansFrom_append, spansFrom_append]
    simp
  rw [hspans]
  by_cases hnil : core as = []
  · rw [hnil]
    rfl
  · -- the core begins with a visible character
    obtain ⟨c, cs, hfirst, hc⟩ := (solid_written_core hsound hnil).first
    have hleading : leading (written as) = lead := by
      conv_lhs => rw [has, written_append, written_map_plain, written_append, hfirst]
      rw [leading, List.takeWhile_append_of_pos (blank_iff.1 hlead), List.cons_append,
        List.takeWhile_cons_of_neg (by simp [hc]), List.append_nil]
    rw [hleading]

/-- The literals of a line are the texts at its spans. -/
theorem literals_ofAtoms (as : List Atom) :
    (LogicalLine.ofAtoms as).literals = as.flatMap lexeme := by
  -- spans count from the beginning of the line, so what was passed is kept in front
  have hfrom (front : Text) : (spansFrom (size front) as).map
      (fun s => slice (front ++ written as) s.span) = as.flatMap lexeme := by
    induction as generalizing front with
    | nil => rfl
    | cons a as ih =>
      cases a with
      | plain c =>
        have hlater := ih (front ++ [c])
        rw [size_append, List.append_assoc] at hlater
        exact hlater
      | literal kind word =>
        have hlater := ih (front ++ word)
        rw [size_append] at hlater
        have hhere := slice_append front word (written as)
        rw [spansFrom, List.map_cons, written_cons, text_literal, ← List.append_assoc, hlater, hhere]
        rfl
  exact hfrom []

/-! ## Lines with the same cores -/

/-- The lines that are not blank. -/
def shown (ls : List (List Atom)) : List (List Atom) :=
  ls.filter fun as => !as.all isGap

/-- The cores of the lines that are not blank. -/
def cores (ls : List (List Atom)) : List (List Atom) :=
  (shown ls).map core

@[simp] theorem shown_append (ls ms : List (List Atom)) : shown (ls ++ ms) = shown ls ++ shown ms :=
  List.filter_append ..

theorem shown_cons_of_all {as : List Atom} (h : as.all isGap = true) (ls : List (List Atom)) :
    shown (as :: ls) = shown ls :=
  List.filter_cons_of_neg (by simp [h])

theorem shown_cons {as : List Atom} (h : as.all isGap = false) (ls : List (List Atom)) :
    shown (as :: ls) = as :: shown ls :=
  List.filter_cons_of_pos (by simp [h])

theorem shown_eq_nil {ls : List (List Atom)} (h : ∀ as ∈ ls, as.all isGap = true) : shown ls = [] :=
  List.filter_eq_nil_iff.2 fun as has => by simp [h as has]

theorem shown_map_dropTrailing (ls : List (List Atom)) :
    shown (ls.map dropTrailing) = (shown ls).map dropTrailing := by
  have hall (as : List Atom) : (dropTrailing as).all isGap = as.all isGap := by
    rw [Bool.eq_iff_iff, ← core_eq_nil_iff, ← core_eq_nil_iff, core_dropTrailing]
  rw [shown, List.filter_map, shown]
  congr 1
  exact List.filter_congr fun as _ => by rw [Function.comp_apply, hall]

theorem cores_map_dropTrailing (ls : List (List Atom)) :
    cores (ls.map dropTrailing) = cores ls := by
  rw [cores, shown_map_dropTrailing, List.map_map, cores]
  exact List.map_congr_left fun as _ => core_dropTrailing as

theorem cores_eq_filter (ls : List (List Atom)) :
    cores ls = (ls.map core).filter fun c => !c.isEmpty := by
  have hempty (as : List Atom) : (core as).isEmpty = as.all isGap := by
    rw [Bool.eq_iff_iff, List.isEmpty_iff, core_eq_nil_iff]
  rw [cores, shown, List.filter_map]
  congr 1
  exact List.filter_congr fun as _ => by rw [Function.comp_apply, hempty]

/-- What blanks do not add to is held by the cores. -/
theorem flatMap_cores {α : Type} {f : Atom → List α} (hf : ∀ a, a.isGap = true → f a = [])
    (ls : List (List Atom)) : (cores ls).flatMap (·.flatMap f) = ls.flatMap (·.flatMap f) := by
  induction ls with
  | nil => rfl
  | cons as ls ih =>
    cases hall : as.all isGap with
    | true =>
      have hnone : as.flatMap f = [] := by
        rw [← flatMap_core hf, core_eq_nil_iff.2 hall, List.flatMap_nil]
      rw [cores, shown_cons_of_all hall, ← cores, ih, List.flatMap_cons, hnone, List.nil_append]
    | false =>
      rw [cores, shown_cons hall, List.map_cons, ← cores, List.flatMap_cons, List.flatMap_cons, ih,
        flatMap_core hf]

/-- A stream that is `cs` with blanks between and behind them, each of `cs` on a line of its own. -/
inductive Lines : List (List Atom) → List Atom → Prop
  | done {g : List Atom} (hg : ∀ a ∈ g, ∃ c, a = plain c ∧ isBlank c = true) : Lines [] g
  | next {g c us : List Atom} {cs : List (List Atom)}
      (hg : ∀ a ∈ g, ∃ c, a = plain c ∧ isBlank c = true) (hbreak : plain '\n' ∈ g)
      (h : Lines cs us) : Lines (c :: cs) (g ++ (c ++ us))

theorem Lines.reflowed {cs : List (List Atom)} {us us' : List Atom} (h : Lines cs us)
    (h' : Lines cs us') : Reflowed us us' := by
  induction h generalizing us' with
  | done hg =>
    cases h' with
    | done hg' => exact .done hg hg'
  | @next g c us cs hg hbreak _ ih =>
    cases h' with
    -- the blanks differ, but there is a break among them on both sides
    | next hg' hbreak' hrest => exact .gap hg hg' hbreak' (.inl hbreak) ((ih hrest).keepAll c)

/-- Lines with a break in front of each; `g` are blanks in front of the first break. -/
theorem lines_cores {g : Text} (hg : blank g = true) (ls : List (List Atom)) :
    Lines (cores ls) (g.map plain ++ ls.flatMap (plain '\n' :: ·)) := by
  induction ls generalizing g with
  | nil => exact .done (by simpa using isGap_of_blank hg)
  | cons as ls ih =>
    obtain ⟨lead, trail, hlead, htrail, has⟩ := exists_core_append as
    have hbreak : blank (g ++ '\n' :: lead) = true := by simp [hg, hlead]
    cases hall : as.all isGap with
    | true =>
      -- the blanks of the line stand in front of the next break
      have hrest := ih (g := g ++ '\n' :: lead ++ trail) (by simp [hg, hlead, htrail])
      rw [core_eq_nil_iff.2 hall, List.nil_append] at has
      rw [cores, shown_cons_of_all hall, ← cores, List.flatMap_cons, has]
      simpa using hrest
    | false =>
      have hline : Lines (core as :: cores ls)
          ((g ++ '\n' :: lead).map plain ++
            (core as ++ (trail.map plain ++ ls.flatMap (plain '\n' :: ·)))) :=
        .next (isGap_of_blank hbreak) (by simp) (ih htrail)
      rw [cores, shown_cons hall, List.map_cons, ← cores, List.flatMap_cons]
      conv => rhs; rw [has]
      simpa using hline

/-- The units of the lines of a text are sound, and none is a line break. -/
theorem facts_of_mem_read {d : Dialect} {t : Text} {as : List Atom} (h : as ∈ read d t) :
    (∀ a ∈ as, a.Sound) ∧ plain '\n' ∉ as := by
  obtain ⟨us, rfl, hus⟩ := exists_reads d t
  rw [read_written hus] at h
  exact ⟨fun a ha => hus.sound a (mem_of_mem_splitOn h ha).1,
    fun hbreak => (mem_of_mem_splitOn h hbreak).2 rfl⟩

/-- Lines with the cores of a text are the logical lines of what is written. -/
theorem read_unlines_of_cores {d : Dialect} {t : Text} {os : List (List Atom)} (hne : os ≠ [])
    (hfree : ∀ o ∈ os, plain '\n' ∉ o) (hcores : cores os = cores (read d t)) :
    read d (unlines (os.map written)) = os := by
  obtain ⟨us, rfl, hus⟩ := exists_reads d t
  rw [read_written hus] at hcores
  refine hus.read_unlines hne hfree ?_
  -- both texts are the same cores on lines of their own, so one is the other reflowed
  have hold := lines_cores (g := []) rfl (us.splitOn (plain '\n'))
  have hnew := lines_cores (g := []) rfl os
  rw [hcores] at hnew
  exact hold.reflowed hnew

/-- The cores of lines, each behind a margin of its own. -/
def withMargins (margin : Nat → Text) (ls : List (List Atom)) : List (List Atom) :=
  ls.mapIdx fun i as => (margin i).map plain ++ core as

theorem cores_withMargins {margin : Nat → Text} (hmargin : ∀ i, blank (margin i) = true)
    (ls : List (List Atom)) : cores (withMargins margin ls) = cores ls := by
  have hsame : (withMargins margin ls).map core = ls.map core := by
    refine List.ext_getElem (by simp [withMargins]) fun i _ _ => ?_
    simp [withMargins, core_blank_append (hmargin i), core_core]
  rw [cores_eq_filter, cores_eq_filter, hsame]

theorem read_unlines_withMargins (d : Dialect) (t : Text) {margin : Nat → Text}
    (hmargin : ∀ i, blank (margin i) = true ∧ '\n' ∉ margin i) :
    read d (unlines ((withMargins margin (read d t)).map written)) = withMargins margin (read d t) := by
  refine read_unlines_of_cores (t := t) ?_ ?_ (cores_withMargins (fun i => (hmargin i).1) _)
  · rw [withMargins, Ne, List.mapIdx_eq_nil_iff]
    exact List.cons_ne_nil _ _
  · intro o ho hbreak
    obtain ⟨i, hi, rfl⟩ := List.mem_mapIdx.1 ho
    rcases List.mem_append.1 hbreak with hlead | hcore
    · exact (hmargin i).2 (by simpa using hlead)
    · exact (facts_of_mem_read (List.getElem_mem hi)).2 ((isInfix_core _).subset hcore)

end Atom

theorem Text.Spaced.visible_eq {us : List Text} {t : Text} (h : Spaced us t) :
    visible t = us.flatMap visible := by
  induction h with
  | done hg => exact visible_of_blank hg
  | unit hg _ ih =>
    rw [visible_append, visible_append, visible_of_blank hg, ih, List.nil_append, List.flatMap_cons]

namespace LogicalLine

open Atom

/-- The lines of a text that are not blank. -/
theorem filter_split (d : Dialect) (t : Text) :
    (split d t).filter (fun l => !l.blank) = (shown (read d t)).map ofAtoms := by
  rw [split, List.filter_map, shown]
  congr 1
  refine List.filter_congr fun as has => ?_
  rw [Function.comp_apply, blank, text_ofAtoms, blank_written (facts_of_mem_read has).1]

/-- Texts whose lines have the same cores hold the same: visible characters, literals, and the order
in which they stand. -/
theorem eq_of_cores {d : Dialect} {t t' : Text} (h : cores (read d t') = cores (read d t)) :
    visible t' = visible t ∧
    (split d t').flatMap units = (split d t).flatMap units ∧
    (split d t').flatMap literals = (split d t).flatMap literals := by
  have hunits (t : Text) :
      (split d t).flatMap units = (cores (read d t)).flatMap (·.flatMap Atom.units) := by
    rw [flatMap_cores fun _ => units_eq_nil, split, List.flatMap_map]
    exact List.flatMap_congr fun as _ => units_ofAtoms as
  have hliterals (t : Text) :
      (split d t).flatMap literals = (cores (read d t)).flatMap (·.flatMap lexeme) := by
    rw [flatMap_cores fun _ => lexeme_eq_nil, split, List.flatMap_map]
    exact List.flatMap_congr fun as _ => literals_ofAtoms as
  have hvisible (t : Text) : visible t = ((split d t).flatMap units).flatMap visible := by
    have hspaced := spaced_written (stream d t)
    rw [← flatMap_units_split, written_stream] at hspaced
    exact hspaced.visible_eq
  refine ⟨?_, ?_, ?_⟩
  · rw [hvisible t', hvisible t, hunits, hunits, h]
  · rw [hunits, hunits, h]
  · rw [hliterals, hliterals, h]

/-- The line without the blanks at its end. -/
def trimmed (l : LogicalLine) : LogicalLine :=
  { l with text := trimEnd l.text }

theorem ofAtoms_dropTrailing {as : List Atom} (hsound : ∀ a ∈ as, a.Sound) :
    ofAtoms (dropTrailing as) = (ofAtoms as).trimmed := by
  have hspans : spansFrom 0 (dropTrailing as) = spansFrom 0 as := by
    obtain ⟨g, -, has⟩ := exists_dropTrailing_append as
    conv_rhs => rw [has, spansFrom_append, spansFrom_map_plain, List.append_nil]
  exact congrArg₂ LogicalLine.mk (written_dropTrailing hsound) hspans

/-! ## Other margins -/

/-- The line with `margin` in place of the blanks in front of its text, and with nothing in place of
those behind it. Its literals move with the text. -/
def withMargin (margin : Text) (l : LogicalLine) : LogicalLine where
  text := margin ++ trim l.text
  spans := l.spans.map fun s =>
    { s with span := ⟨s.span.start - size (leading l.text) + size margin,
                      s.span.stop - size (leading l.text) + size margin⟩ }

theorem ofAtoms_margin {as : List Atom} (hsound : ∀ a ∈ as, a.Sound) (margin : Text) :
    ofAtoms (margin.map plain ++ core as) = (ofAtoms as).withMargin margin := by
  have htext : written (margin.map plain ++ core as) = margin ++ trim (written as) := by
    rw [written_append, written_map_plain, written_core hsound]
  have hspans : spansFrom 0 (margin.map plain ++ core as) =
      ((ofAtoms as).withMargin margin).spans := by
    -- both are the literals of the core, counted from its own start, and moved
    rw [spansFrom_append, spansFrom_map_plain, List.nil_append, written_map_plain, Nat.zero_add,
      spansFrom_eq_map]
    show _ = (spansFrom 0 as).map _
    rw [spansFrom_core hsound, spansFrom_eq_map (size _), List.map_map]
    refine List.map_congr_left fun s _ => ?_
    simp
  exact congrArg₂ LogicalLine.mk htext hspans

/-- The second line has the literals of the first, of the same kinds and in the same order. -/
def SameLiterals (l l' : LogicalLine) : Prop :=
  l'.spans.map (·.kind) = l.spans.map (·.kind) ∧ l'.literals = l.literals

theorem sameLiterals_withMargin {as : List Atom} (hsound : ∀ a ∈ as, a.Sound) (margin : Text) :
    SameLiterals (ofAtoms as) ((ofAtoms as).withMargin margin) := by
  constructor
  · rw [withMargin, List.map_map]
    rfl
  · have hnone : (margin.map plain).flatMap lexeme = [] := by
      simp [List.flatMap_eq_nil_iff, lexeme]
    rw [← ofAtoms_margin hsound, literals_ofAtoms, literals_ofAtoms, List.flatMap_append, hnone,
      List.nil_append, flatMap_core fun _ => lexeme_eq_nil]

/-- Literals do not depend on the blanks at the ends of lines. Write the lines of a text one below the
other, each without the blanks at its ends and behind a margin of its own, of any blanks but line
breaks: these are the lines of what is written. Each has the literals that it had, at the place to
which its text has moved. -/
theorem split_unlines_margins (d : Dialect) (t : Text) {margin : Nat → Text}
    (hmargin : ∀ i, Text.blank (margin i) = true ∧ '\n' ∉ margin i) :
    (split d (unlines ((split d t).mapIdx fun i l => margin i ++ trim l.text)) =
      (split d t).mapIdx fun i l => l.withMargin (margin i)) ∧
    ∀ l ∈ split d t, ∀ w, SameLiterals l (l.withMargin w) := by
  have hsound : ∀ as ∈ read d t, ∀ a ∈ as, a.Sound := fun as has => (facts_of_mem_read has).1
  have htexts : (split d t).mapIdx (fun i l => margin i ++ trim l.text) =
      (withMargins margin (read d t)).map written := by
    refine List.ext_getElem (by simp [withMargins, split]) fun i hi _ => ?_
    have has := hsound _ (List.getElem_mem (by simpa [split] using hi : i < (read d t).length))
    simp [withMargins, split, written_core has]
  have hlines : (withMargins margin (read d t)).map ofAtoms =
      (split d t).mapIdx fun i l => l.withMargin (margin i) := by
    refine List.ext_getElem (by simp [withMargins, split]) fun i hi _ => ?_
    have has := hsound _ (List.getElem_mem (by simpa [withMargins] using hi : i < (read d t).length))
    simp [withMargins, split, ofAtoms_margin has]
  constructor
  · rw [htexts, split, read_unlines_withMargins d t hmargin, hlines]
  · intro l hl w
    obtain ⟨as, has, rfl⟩ := List.mem_map.1 hl
    exact sameLiterals_withMargin (hsound as has) w

/-- A quote and a comment that are not closed, the quote with a backslash in front of the blanks that
go, and between them a comment over two lines. The margins grow by one blank from line to line. -/
theorem split_unlines_margins_unclosed :
    let margin (i : Nat) : Text := List.replicate i ' '
    let t := "  x \"a\\ \n<b> \n\x7b* c\n  d *\x7d 'q'\t\n/* e".toList
    (∀ i, Text.blank (margin i) = true ∧ '\n' ∉ margin i) ∧
    split .single t =
      [⟨"  x \"a\\ ".toList, []⟩, ⟨"<b> ".toList, []⟩,
        ⟨"\x7b* c\n  d *\x7d 'q'\t".toList,
          [⟨.templateComment, ⟨0, 11⟩⟩, ⟨.string, ⟨12, 15⟩⟩]⟩,
        ⟨"/* e".toList, []⟩] ∧
    split .single "x \"a\\\n <b>\n  \x7b* c\n  d *\x7d 'q'\n   /* e".toList =
      [⟨"x \"a\\".toList, []⟩, ⟨" <b>".toList, []⟩,
        ⟨"  \x7b* c\n  d *\x7d 'q'".toList,
          [⟨.templateComment, ⟨2, 13⟩⟩, ⟨.string, ⟨14, 17⟩⟩]⟩,
        ⟨"   /* e".toList, []⟩] := by
  intro margin t
  have hmargin : ∀ i, Text.blank (margin i) = true ∧ '\n' ∉ margin i := by
    intro i
    constructor
    · rw [blank_iff]
      intro c hc
      rw [List.eq_of_mem_replicate hc]
      rfl
    · intro hmem
      exact absurd (List.eq_of_mem_replicate hmem) (by decide)
  have hlines := (split_unlines_margins .single t hmargin).1
  refine ⟨hmargin, by decide, hlines.trans (by decide)⟩

end LogicalLine

end SmartyLayout
