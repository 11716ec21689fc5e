import Mathlib.Data.List.DropRight
import SmartyLayout.Text.Blank

/-!
# SmartyLayout.Proofs.Trimming — blanks around a text

A text is its leading blanks, its trimmed part and its trailing blanks. The trimmed part is empty or
*solid*: it begins and ends with a visible character, so no further trimming reaches into it.
At the end of the module stand the equations for lines written one below the other.
-/

namespace SmartyLayout

/-- The blank characters, as code points. -/
def blankCodes : List Nat :=
  List.range' 9 5 ++ [0x20, 0x85, 0xA0, 0x1680] ++ List.range' 0x2000 11 ++
    [0x2028, 0x2029, 0x202F, 0x205F, 0x3000]

/-- What holds of each of the blank characters holds of a blank character. -/
theorem forall_of_isBlank {P : Char → Prop} (h : ∀ n ∈ blankCodes, P (Char.ofNat n)) {c : Char}
    (hc : isBlank c = true) : P c := by
  have hmem : c.toNat ∈ blankCodes := by
    simp only [isBlank, Bool.or_eq_true, Bool.and_eq_true, decide_eq_true_eq, beq_iff_eq] at hc
    simp only [blankCodes, List.mem_append, List.mem_range'_1, List.mem_cons, List.not_mem_nil,
      or_false]
    -- one case for each range of the definition
    rcases hc with (((((((((hc | hc) | hc) | hc) | hc) | hc) | hc) | hc) | hc) | hc) | hc <;> omega
  have hP := h c.toNat hmem
  rwa [Char.ofNat_toNat] at hP

/-- What holds of every element in turn. To decide this never runs through all elements there are. -/
theorem forall_mem_of_all {α : Type} {P : α → Prop} [DecidablePred P] {l : List α}
    (h : l.all (fun a => decide (P a)) = true) : ∀ a ∈ l, P a :=
  fun a ha => of_decide_eq_true (List.all_eq_true.1 h a ha)

/-- What stands in a part of a divided list stands in the list, and is no separator. -/
theorem mem_of_mem_splitOn {α : Type} [BEq α] [LawfulBEq α] {sep a : α} {us line : List α}
    (hline : line ∈ us.splitOn sep) (ha : a ∈ line) : a ∈ us ∧ a ≠ sep := by
  induction us generalizing line with
  | nil =>
    rw [List.splitOn_nil, List.mem_singleton] at hline
    simp [hline] at ha
  | cons b us ih =>
    rw [List.splitOn_cons_eq_if_modifyHead] at hline
    split at hline
    · rcases List.mem_cons.1 hline with rfl | hline
      · simp at ha
      · exact ⟨List.mem_cons_of_mem b (ih hline ha).1, (ih hline ha).2⟩
    · next hb =>
      -- an element that is no separator joins the first part
      obtain ⟨first, later, hlines⟩ := List.exists_cons_of_ne_nil (List.splitOn_ne_nil sep us)
      rw [hlines, List.modifyHead_cons, List.mem_cons] at hline
      rw [hlines] at ih
      rcases hline with rfl | hline
      · rcases List.mem_cons.1 ha with rfl | ha
        · exact ⟨List.mem_cons_self, by simpa using hb⟩
        · exact ⟨List.mem_cons_of_mem b (ih List.mem_cons_self ha).1, (ih List.mem_cons_self ha).2⟩
      · have hmem := ih (List.mem_cons_of_mem first hline) ha
        exact ⟨List.mem_cons_of_mem b hmem.1, hmem.2⟩

theorem intercalate_append {α : Type} (sep : α) {xs ys : List (List α)} (hxs : xs ≠ []) (hys : ys ≠ []) :
    [sep].intercalate (xs ++ ys) = [sep].intercalate xs ++ sep :: [sep].intercalate ys := by
  induction xs with
  | nil => exact absurd rfl hxs
  | cons x xs ih =>
    cases xs with
    | nil => simp [List.intercalate_cons_of_ne_nil hys]
    | cons x' xs =>
      have hne : x' :: xs ++ ys ≠ [] := List.cons_ne_nil x' _
      rw [List.cons_append, List.intercalate_cons_of_ne_nil hne, ih (List.cons_ne_nil x' xs),
        List.intercalate_cons_of_ne_nil (List.cons_ne_nil x' xs), List.append_assoc,
        List.append_assoc, List.append_assoc]

namespace Text

@[simp] theorem blank_nil : blank [] = true := rfl

@[simp] theorem blank_cons (c : Char) (t : Text) : blank (c :: t) = (isBlank c && blank t) := rfl

@[simp] theorem blank_append (s t : Text) : blank (s ++ t) = (blank s && blank t) :=
  List.all_append

theorem blank_iff {t : Text} : blank t = true ↔ ∀ c ∈ t, isBlank c = true :=
  List.all_eq_true

theorem mem_of_mem_times {u : Text} {n : Nat} {c : Char} (h : c ∈ times n u) : c ∈ u := by
  obtain ⟨t, ht, hc⟩ := List.mem_flatten.1 h
  rwa [(List.mem_replicate.1 ht).2] at hc

theorem blank_times {u : Text} (hu : blank u = true) (n : Nat) : blank (times n u) = true :=
  blank_iff.2 fun c hc => blank_iff.1 hu c (mem_of_mem_times hc)

theorem blank_leading (t : Text) : blank (leading t) = true :=
  List.all_takeWhile

/-- The characters of a text that are not blank. -/
def visible (t : Text) : Text :=
  t.filter fun c => !isBlank c

@[simp] theorem visible_nil : visible [] = [] := rfl

@[simp] theorem visible_append (s t : Text) : visible (s ++ t) = visible s ++ visible t :=
  List.filter_append ..

theorem visible_cons (c : Char) (t : Text) :
    visible (c :: t) = (if isBlank c then [] else [c]) ++ visible t := by
  cases hc : isBlank c <;> simp [visible, hc]

theorem visible_of_blank {t : Text} (h : blank t = true) : visible t = [] :=
  List.filter_eq_nil_iff.2 fun c hc => by simp [blank_iff.1 h c hc]

/-- The text has no blank at either end, and is not empty. -/
structure Solid (t : Text) : Prop where
  first : ∃ c rest, t = c :: rest ∧ isBlank c = false
  last : ∃ front c, t = front ++ [c] ∧ isBlank c = false

theorem solid_singleton {c : Char} (hc : isBlank c = false) : Solid [c] :=
  ⟨⟨c, [], rfl, hc⟩, ⟨[], c, rfl, hc⟩⟩

theorem Solid.not_blank {t : Text} (h : Solid t) : blank t = false := by
  obtain ⟨c, rest, rfl, hc⟩ := h.first
  simp [hc]

/-- What ends a text with a visible character ends with it too. -/
theorem exists_concat_of_append {s t : Text}
    (h : ∃ front c, s ++ t = front ++ [c] ∧ isBlank c = false) (ht : t ≠ []) :
    ∃ front c, t = front ++ [c] ∧ isBlank c = false := by
  obtain ⟨front, c, heq, hc⟩ := h
  have hlast := List.dropLast_append_getLast ht
  refine ⟨t.dropLast, t.getLast ht, hlast.symm, ?_⟩
  rw [← hlast, ← List.append_assoc] at heq
  rw [(List.append_singleton_inj.1 heq).2]
  exact hc

/-! ## Trimming at the start -/

theorem trimStart_blank_append {g : Text} (hg : blank g = true) (t : Text) :
    trimStart (g ++ t) = trimStart t :=
  List.dropWhile_append_of_pos (blank_iff.1 hg)

theorem trimStart_cons {c : Char} (hc : isBlank c = false) (t : Text) :
    trimStart (c :: t) = c :: t := by
  simp [trimStart, hc]

theorem leading_cons {c : Char} (hc : isBlank c = false) (t : Text) : leading (c :: t) = [] := by
  simp [leading, hc]

theorem trimStart_of_blank {t : Text} (h : blank t = true) : trimStart t = [] :=
  List.dropWhile_eq_nil_iff.2 (blank_iff.1 h)

/-- What is left begins with a visible character. -/
theorem exists_cons_of_trimStart {t : Text} (h : trimStart t ≠ []) :
    ∃ c rest, trimStart t = c :: rest ∧ isBlank c = false := by
  obtain ⟨c, rest, heq⟩ := List.exists_cons_of_ne_nil h
  have hhead := List.head?_dropWhile_not isBlank t
  rw [show t.dropWhile isBlank = c :: rest from heq] at hhead
  exact ⟨c, rest, heq, by simpa using hhead⟩

/-! ## Trimming at the end -/

theorem trimEnd_eq_rdropWhile (t : Text) : trimEnd t = t.rdropWhile isBlank := rfl

theorem trimEnd_of_blank {t : Text} (h : blank t = true) : trimEnd t = [] :=
  List.rdropWhile_eq_nil_iff.2 (blank_iff.1 h)

theorem trimEnd_append_blank (t : Text) {g : Text} (hg : blank g = true) :
    trimEnd (t ++ g) = trimEnd t := by
  rw [trimEnd, List.reverse_append, List.dropWhile_append_of_pos]
  · rfl
  · simpa using blank_iff.1 hg

theorem trimEnd_concat (t : Text) {c : Char} (hc : isBlank c = false) :
    trimEnd (t ++ [c]) = t ++ [c] :=
  List.rdropWhile_concat_neg _ _ _ (by simp [hc])

/-- Trailing blanks are what trimming takes from the end. -/
theorem exists_trimEnd_append (t : Text) : ∃ g, blank g = true ∧ trimEnd t ++ g = t := by
  refine ⟨t.rtakeWhile isBlank, ?_, List.rdropWhile_append_rtakeWhile⟩
  exact blank_iff.2 fun c hc => List.mem_rtakeWhile_imp hc

theorem exists_concat_of_trimEnd {t : Text} (h : trimEnd t ≠ []) :
    ∃ front c, trimEnd t = front ++ [c] ∧ isBlank c = false := by
  refine ⟨_, _, (List.dropLast_append_getLast h).symm, ?_⟩
  exact Bool.eq_false_iff.2 (List.rdropWhile_last_not isBlank t h)

/-- Trimming the end of a text does not reach past a visible character. -/
theorem trimEnd_append_of_solid {s : Text} (hs : ∃ front c, s = front ++ [c] ∧ isBlank c = false)
    (t : Text) : trimEnd (s ++ t) = s ++ trimEnd t := by
  obtain ⟨g, hg, ht⟩ := exists_trimEnd_append t
  -- blanks at the end go first, whatever stands in front of them
  have hcut : trimEnd (s ++ t) = trimEnd (s ++ trimEnd t) := by
    rw [← trimEnd_append_blank (s ++ trimEnd t) hg, List.append_assoc, ht]
  rw [hcut]
  by_cases hnil : trimEnd t = []
  · obtain ⟨front, c, rfl, hc⟩ := hs
    rw [hnil, List.append_nil, trimEnd_concat front hc]
  · obtain ⟨front, c, heq, hc⟩ := exists_concat_of_trimEnd hnil
    rw [heq, ← List.append_assoc, trimEnd_concat _ hc]

/-! ## Trimming at both ends -/

theorem trim_of_blank {t : Text} (h : blank t = true) : trim t = [] := by
  rw [trim, trimStart_of_blank h]
  rfl

/-- A text between blanks is what trimming leaves. -/
theorem Solid.trim_append {s g g' : Text} (hs : Solid s) (hg : blank g = true)
    (hg' : blank g' = true) : trim (g ++ s ++ g') = s := by
  obtain ⟨c, rest, hfirst, hc⟩ := hs.first
  obtain ⟨front, e, hlast, he⟩ := hs.last
  calc trim (g ++ s ++ g') = trimEnd (trimStart (s ++ g')) := by
        rw [trim, List.append_assoc, trimStart_blank_append hg]
    _ = trimEnd (s ++ g') := by rw [hfirst, List.cons_append, trimStart_cons hc]
    _ = trimEnd s := trimEnd_append_blank s hg'
    _ = s := by rw [hlast, trimEnd_concat front he]

theorem Solid.trim_eq {s : Text} (hs : Solid s) : trim s = s := by
  simpa using hs.trim_append blank_nil blank_nil

theorem Solid.leading_eq {s : Text} (hs : Solid s) : leading s = [] := by
  obtain ⟨c, rest, rfl, hc⟩ := hs.first
  exact leading_cons hc rest

theorem Solid.trimEnd_eq {s : Text} (hs : Solid s) : trimEnd s = s := by
  obtain ⟨front, e, rfl, he⟩ := hs.last
  exact trimEnd_concat front he

/-- A text that is not blank has a solid core between blanks. -/
theorem exists_solid_core {t : Text} (h : blank t = false) :
    ∃ g', blank g' = true ∧ t = leading t ++ trim t ++ g' ∧ Solid (trim t) := by
  -- a visible character stops trimming from the front, and then from the end
  have hstart : trimStart t ≠ [] := by
    intro hnil
    have hall : blank t = true := blank_iff.2 (List.dropWhile_eq_nil_iff.1 hnil)
    rw [h] at hall
    exact absurd hall (by decide)
  obtain ⟨c, rest, hcons, hc⟩ := exists_cons_of_trimStart hstart
  obtain ⟨g', hg', htrim⟩ := exists_trimEnd_append (trimStart t)
  have hcore : trim t = c :: trimEnd rest := by
    rw [trim, hcons]
    exact trimEnd_append_of_solid ⟨[], c, rfl, hc⟩ rest
  have hne : trimEnd (trimStart t) ≠ [] := by
    rw [← trim, hcore]
    simp
  refine ⟨g', hg', ?_, ⟨c, _, hcore, hc⟩, exists_concat_of_trimEnd hne⟩
  rw [List.append_assoc, show trim t ++ g' = trimStart t from htrim, leading_append_trimStart]

theorem trim_append_blank (t : Text) {g : Text} (hg : blank g = true) : trim (t ++ g) = trim t := by
  cases h : blank t with
  | true =>
    have hall : blank (t ++ g) = true := by simp [h, hg]
    rw [trim_of_blank h, trim_of_blank hall]
  | false =>
    obtain ⟨g', hg', ht, hsolid⟩ := exists_solid_core h
    -- the blanks join those behind the core
    have hend : blank (g' ++ g) = true := by simp [hg', hg]
    conv_lhs => rw [ht, List.append_assoc, hsolid.trim_append (blank_leading t) hend]

/-- Trimming the end of a text that is not blank leaves its leading blanks and its core. -/
theorem trimEnd_eq_leading_append {t : Text} (h : blank t = false) :
    trimEnd t = leading t ++ trim t := by
  obtain ⟨g', hg', ht, hsolid⟩ := exists_solid_core h
  obtain ⟨front, e, hlast, he⟩ := hsolid.last
  have hcut : trimEnd t = trimEnd (leading t ++ trim t) := by
    rw [← trimEnd_append_blank (leading t ++ trim t) hg', ← ht]
  rw [hcut, hlast, ← List.append_assoc, trimEnd_concat _ he]

/-! ## Lines one below the other -/

@[simp] theorem unlines_singleton (t : Text) : unlines [t] = t :=
  List.intercalate_singleton

theorem unlines_cons (t : Text) {ts : List Text} (h : ts ≠ []) :
    unlines (t :: ts) = t ++ '\n' :: unlines ts := by
  rw [unlines, List.intercalate_cons_of_ne_nil h, List.append_assoc]
  rfl

theorem unlines_append {ss ts : List Text} (hss : ss ≠ []) (hts : ts ≠ []) :
    unlines (ss ++ ts) = unlines ss ++ '\n' :: unlines ts :=
  intercalate_append '\n' hss hts

theorem infix_unlines {l : Text} {ls : List Text} (h : l ∈ ls) : l <:+: unlines ls := by
  induction ls with
  | nil => simp at h
  | cons k ls ih =>
    by_cases hls : ls = []
    · rw [hls, List.mem_singleton] at h
      exact ⟨[], [], by simp [hls, h]⟩
    · rw [unlines_cons k hls]
      rcases List.mem_cons.1 h with rfl | h
      · exact (List.prefix_append l _).isInfix
      · exact (ih h).trans ((List.suffix_cons '\n' _).trans (List.suffix_append k _)).isInfix

/-- Runs of something that writes text, joined by what writes a line break, write lines one below
the other. -/
theorem flatMap_intercalate {α : Type} {write : α → Text} {a : α} (ha : write a = ['\n'])
    (runs : List (List α)) :
    ([a].intercalate runs).flatMap write = unlines (runs.map (·.flatMap write)) := by
  induction runs with
  | nil => rfl
  | cons run runs ih =>
    cases runs with
    | nil => simp
    | cons next runs =>
      have hbelow := unlines_cons (run.flatMap write)
        (List.cons_ne_nil (next.flatMap write) (runs.map (·.flatMap write)))
      rw [List.intercalate_cons_cons, List.flatMap_append, List.flatMap_append, ih]
      simpa [ha] using hbelow.symm

theorem lines_eq_splitOn (t : Text) : lines t = t.splitOn '\n' := by
  induction t with
  | nil => rfl
  | cons c t ih =>
    rw [List.splitOn_cons_eq_if_modifyHead, ← ih, lines]
    by_cases hc : c = '\n'
    · simp [hc]
    · have hne : lines t ≠ [] := by
        rw [ih]
        exact List.splitOn_ne_nil '\n' t
      obtain ⟨l, ls, hlines⟩ := List.exists_cons_of_ne_nil hne
      simp [hc, hlines]

theorem lines_ne_nil (t : Text) : lines t ≠ [] := by
  rw [lines_eq_splitOn]
  exact List.splitOn_ne_nil '\n' t

@[simp] theorem unlines_lines (t : Text) : unlines (lines t) = t := by
  rw [lines_eq_splitOn, unlines, List.intercalate_splitOn]

end Text

end SmartyLayout
