import SmartyLayout.Literal.Kind
import Mathlib.Data.List.Basic

/-!
# SmartyLayout.Proofs.Coverage — searches that see only what they cover

Literals and tags are found by searches at the front of a text that answer with a width. A search is
`Local` if its answer fits into the text and depends on the covered characters alone: whatever
follows them may change. This is what makes it safe to lay out a text piece by piece.

* `Local` and its interface `Local.find_append_iff`;
* prefixes, prefixes up to letter case and searches for a closing text as decompositions of the
  text (`after?_eq_some_iff`, `afterFolded?_eq_some_iff`, `through_local`);
* searches from left to right, one step at a time (`segments_of_hit`, `substitute_append_of_none`).
-/

namespace SmartyLayout

namespace Text

/-! ## Local searches -/

variable {α β : Type} {width : α → Nat} {find : Text → Option α}

/-- What the search finds lies inside the text and depends on the covered characters alone. -/
def Local (width : α → Nat) (find : Text → Option α) : Prop :=
  ∀ ⦃t : Text⦄ ⦃a : α⦄, find t = some a →
    width a ≤ t.length ∧ ∀ rest, find (t.take (width a) ++ rest) = some a

namespace Local

theorem width_le (h : Local width find) {t : Text} {a : α} (ha : find t = some a) :
    width a ≤ t.length :=
  (h ha).1

/-- Whether something is found on exactly `lexeme` does not depend on what follows. -/
theorem find_append_iff (h : Local width find) {lexeme : Text} {a : α}
    (hw : width a = lexeme.length) (rest : Text) :
    find (lexeme ++ rest) = some a ↔ find lexeme = some a := by
  constructor
  · intro ha
    have hcut := (h ha).2 []
    rwa [hw, List.take_left, List.append_nil] at hcut
  · intro ha
    have hext := (h ha).2 rest
    rwa [hw, List.take_length] at hext

/-- What is found at the front of a text stays when the text goes on. -/
theorem find_append (h : Local width find) {t : Text} {a : α} (ha : find t = some a)
    (rest : Text) : find (t ++ rest) = some a := by
  have hext := (h ha).2 (t.drop (width a) ++ rest)
  rwa [← List.append_assoc, List.take_append_drop] at hext

/-- What is found on a text is found on the covered part of it. -/
theorem find_take (h : Local width find) {t : Text} {a : α} (ha : find t = some a) :
    find (t.take (width a)) = some a := by
  simpa using (h ha).2 []

/-- What is found inside the front part of a text is found on that part. -/
theorem find_of_append (h : Local width find) {t rest : Text} {a : α}
    (ha : find (t ++ rest) = some a) (hw : width a ≤ t.length) : find t = some a := by
  have hcut := (h ha).2 (t.drop (width a))
  rwa [List.take_append_of_le_length hw, List.take_append_drop] at hcut

/-- What is not found on a text is not found on the front part of it. -/
theorem find_eq_none_of_append (h : Local width find) {t u : Text}
    (hnone : find (t ++ u) = none) : find t = none := by
  cases hshort : find t with
  | none => rfl
  | some a =>
    rw [h.find_append hshort] at hnone
    exact hnone

/-- What follows a text changes nothing for a search that ends inside it. -/
theorem find_append_eq (h : Local width find) {t rest : Text}
    (hw : ∀ a, find (t ++ rest) = some a → width a ≤ t.length) : find (t ++ rest) = find t := by
  cases hlong : find (t ++ rest) with
  | none => exact (h.find_eq_none_of_append hlong).symm
  | some a => exact (h.find_of_append hlong (hw a hlong)).symm

/-- Blanks behind a text change nothing for a search that ends at a visible character. -/
theorem find_append_blank (h : Local width find)
    (hlast : ∀ {t : Text} {a : α}, find t = some a →
      ∃ front c, t.take (width a) = front ++ [c] ∧ isBlank c = false)
    (t : Text) {g : Text} (hg : blank g = true) : find (t ++ g) = find t := by
  refine h.find_append_eq fun a hfind => ?_
  obtain ⟨front, c, hcovered, hc⟩ := hlast hfind
  by_contra hlong
  -- otherwise the last covered character is one of the blanks
  have htake : t ++ g.take (width a - t.length) = front ++ [c] := by
    have hall : t.take (width a) = t := List.take_of_length_le (by omega)
    rw [← hcovered, List.take_append, hall]
  have hne : g.take (width a - t.length) ≠ [] := by
    intro hnil
    have hlen := congrArg List.length hnil
    have hwidth := h.width_le hfind
    simp only [List.length_take, List.length_append, List.length_nil] at hlen hwidth
    omega
  have hmem : c ∈ g.take (width a - t.length) := by
    have hgetLast := congrArg List.getLast? htake
    rw [List.getLast?_append_of_ne_nil _ hne, List.getLast?_concat] at hgetLast
    exact List.mem_of_getLast? hgetLast
  rw [List.all_eq_true.1 hg c (List.mem_of_mem_take hmem)] at hc
  exact absurd hc (by decide)

/-- Dressing up what is found keeps a search local. -/
theorem map {g : α → β} {width' : β → Nat} (h : Local width find)
    (hg : ∀ a, width' (g a) = width a) : Local width' (fun t => (find t).map g) := by
  intro t b hb
  obtain ⟨a, ha, rfl⟩ := Option.map_eq_some_iff.1 hb
  refine ⟨by rw [hg]; exact h.width_le ha, fun rest => ?_⟩
  show (find (t.take (width' (g a)) ++ rest)).map g = some (g a)
  rw [hg, (h ha).2 rest, Option.map_some]

/-- Two searches in turn, if the first finds nothing where the second does. -/
theorem orElse {find' : Text → Option α} (h : Local width find) (h' : Local width find')
    (hfirst : ∀ t a, find' t = some a → ∀ rest, find (t.take (width a) ++ rest) = none) :
    Local width (fun t => find t <|> find' t) := by
  intro t a ha
  cases hf : find t with
  | some b =>
    have hb : b = a := by simpa [hf] using ha
    subst hb
    refine ⟨h.width_le hf, fun rest => ?_⟩
    simp [(h hf).2 rest]
  | none =>
    have hf' : find' t = some a := by simpa [hf] using ha
    refine ⟨h'.width_le hf', fun rest => ?_⟩
    simp [hfirst t a hf' rest, (h' hf').2 rest]

end Local

/-! ## Fixed texts -/

theorem after?_eq_some_iff {p t rest : Text} : after? p t = some rest ↔ t = p ++ rest := by
  unfold after?
  rw [List.isPrefixOf?_eq_some_iff_append_eq]
  exact eq_comm

theorem startsWith_iff {p t : Text} : startsWith p t = true ↔ p <+: t :=
  List.isPrefixOf_iff_prefix

/-- What follows the characters other than `c` begins with `c`. -/
theorem eq_of_dropWhile_bne {c e : Char} {t rest : Text} (h : t.dropWhile (· != c) = e :: rest) :
    e = c ∧ t = t.takeWhile (· != c) ++ c :: rest := by
  have hhead := List.head?_dropWhile_not (· != c) t
  obtain rfl : e = c := by simpa [h] using hhead
  exact ⟨rfl, by rw [← h, List.takeWhile_append_dropWhile]⟩

theorem afterFolded?_eq_some_iff {p t rest : Text} :
    afterFolded? p t = some rest ↔ ∃ word, t = word ++ rest ∧ word.map foldCase = p := by
  induction p generalizing t with
  | nil => simp [afterFolded?, eq_comm]
  | cons q p ih =>
    cases t with
    | nil => simp [afterFolded?]
    | cons c t =>
      by_cases hc : foldCase c = q
      · simp only [afterFolded?, hc, if_true, ih]
        constructor
        · rintro ⟨word, rfl, hword⟩
          exact ⟨c :: word, rfl, by simp [hc, hword]⟩
        · rintro ⟨word, ht, hword⟩
          cases word with
          | nil => simp at hword
          | cons c' word =>
            obtain ⟨rfl, rfl⟩ := List.cons_eq_cons.1 ht
            exact ⟨word, rfl, (List.cons_eq_cons.1 hword).2⟩
      · simp only [afterFolded?, hc, if_false, reduceCtorEq, false_iff]
        rintro ⟨word, ht, hword⟩
        cases word with
        | nil => simp at hword
        | cons c' word =>
          obtain ⟨rfl, rfl⟩ := List.cons_eq_cons.1 ht
          exact hc (List.cons_eq_cons.1 hword).1

/-! ## The first closing text -/

/-- A search for a closing text ends with that text. -/
theorem suffix_of_through {p t : Text} {n : Nat} (h : through p t = some n) :
    n ≤ t.length ∧ p <:+ t.take n := by
  induction t generalizing n with
  | nil =>
    unfold through at h
    split at h
    · next hp =>
      cases h
      simp [List.isEmpty_iff.1 hp]
    · simp at h
  | cons c cs ih =>
    unfold through at h
    split at h
    · next hp =>
      cases h
      obtain ⟨rest, hrest⟩ := startsWith_iff.1 hp
      rw [← hrest]
      simp
    · obtain ⟨m, hm, rfl⟩ := Option.map_eq_some_iff.1 h
      obtain ⟨hle, hsuffix⟩ := ih hm
      exact ⟨by simpa using hle, hsuffix.trans (List.suffix_cons c _)⟩

theorem length_le_of_through {p t : Text} {n : Nat} (h : through p t = some n) : p.length ≤ n := by
  obtain ⟨hle, hsuffix⟩ := suffix_of_through h
  simpa [Nat.min_eq_left hle] using hsuffix.length_le

/-- Whether a text begins with `p` shows in its front. -/
theorem startsWith_of_take_append {p t rest : Text} {m : Nat} (hlen : p.length ≤ (t.take m).length)
    (h : startsWith p (t.take m ++ rest) = true) : startsWith p t = true := by
  have hfront : p <+: t.take m :=
    List.prefix_of_prefix_length_le (startsWith_iff.1 h) (List.prefix_append _ _) hlen
  exact startsWith_iff.2 (hfront.trans (List.take_prefix m t))

theorem through_local (p : Text) : Local id (through p) := by
  intro t n h
  refine ⟨(suffix_of_through h).1, fun rest => ?_⟩
  induction t generalizing n with
  | nil =>
    unfold through at h
    split at h
    · next hp =>
      cases h
      cases rest <;> simp [through, List.isEmpty_iff.1 hp, startsWith]
    · simp at h
  | cons c cs ih =>
    by_cases hp : startsWith p (c :: cs) = true
    · -- found at once: the covered part is the closing text
      simp only [through, hp, if_true, Option.some.injEq] at h
      subst h
      obtain ⟨tail, htail⟩ := startsWith_iff.1 hp
      have htake : (c :: cs).take p.length = p := by rw [← htail, List.take_left]
      rw [id, htake]
      cases p with
      | nil => cases rest <;> simp [through, startsWith]
      | cons q p => simp [through, startsWith]
    · simp only [through, hp, Bool.false_eq_true, if_false] at h
      obtain ⟨m, hm, rfl⟩ := Option.map_eq_some_iff.1 h
      -- the later hit is long enough to decide the test at `c`
      have hnot : ¬ startsWith p (c :: (cs.take m ++ rest)) = true := by
        intro hstart
        have hlen : p.length ≤ (c :: cs.take m).length := by
          have := length_le_of_through hm
          simp only [List.length_cons, List.length_take, Nat.min_eq_left (suffix_of_through hm).1]
          omega
        exact hp (startsWith_of_take_append (m := m + 1) hlen hstart)
      simp only [id, List.take_succ_cons, List.cons_append, through, hnot, Bool.false_eq_true,
        if_false, Option.map_eq_some_iff]
      exact ⟨m, ih hm, rfl⟩

/-! ## Searches from left to right -/

section Segments

variable {at? : Text → Option (Nat × α)}

theorem segmentsFrom_skip (n : Nat) (t : Text) :
    segmentsFrom at? n t = segmentsFrom at? 0 (t.drop n) := by
  induction n generalizing t with
  | zero => rfl
  | succ n ih =>
    cases t with
    | nil => rfl
    | cons c cs => simpa [segmentsFrom] using ih cs

theorem segments_cons_of_none {c : Char} {cs : Text} (h : at? (c :: cs) = none) :
    segments at? (c :: cs) = .char c :: segments at? cs := by
  simp [segments, segmentsFrom, h]

theorem segments_of_hit {t : Text} {w : Nat} {a : α} (h : at? t = some (w, a)) (hw : 0 < w)
    (ht : t ≠ []) : segments at? t = .hit a :: segments at? (t.drop w) := by
  obtain ⟨c, cs, rfl⟩ := List.exists_cons_of_ne_nil ht
  obtain ⟨k, rfl⟩ : ∃ k, w = k + 1 := ⟨w - 1, by omega⟩
  simp [segments, segmentsFrom, h, segmentsFrom_skip k]

theorem exists_of_mem_segmentsFrom {n : Nat} {t : Text} {a : α}
    (h : .hit a ∈ segmentsFrom at? n t) : ∃ s w, at? s = some (w, a) := by
  fun_induction segmentsFrom at? n t with
  | case1 => simp at h
  | case2 skip c cs ih => exact ih h
  | case3 c cs w b hb ih =>
    rcases List.mem_cons.1 h with hab | h
    · cases hab
      exact ⟨_, _, hb⟩
    · exact ih h
  | case4 c cs hnone ih =>
    rcases List.mem_cons.1 h with hab | h
    · cases hab
    · exact ih h

/-- If every hit covers the text it is written as, the segments of a text write it. -/
theorem flatMap_segments {write : α → Text}
    (hwrite : ∀ {t : Text} {w : Nat} {a : α}, at? t = some (w, a) → 0 < w ∧ t.take w = write a)
    (t : Text) : (segments at? t).flatMap (Segment.text write) = t := by
  have hfrom : ∀ n, (segmentsFrom at? n t).flatMap (Segment.text write) = t.drop n := by
    intro n
    fun_induction segmentsFrom at? n t with
    | case1 => simp
    | case2 skip c cs ih => simpa using ih
    | case3 c cs w a ha ih =>
      obtain ⟨hw, htake⟩ := hwrite ha
      obtain ⟨k, rfl⟩ : ∃ k, w = k + 1 := ⟨w - 1, by omega⟩
      have hsplit := List.take_append_drop (k + 1) (c :: cs)
      rw [htake] at hsplit
      simp only [Nat.add_sub_cancel] at ih
      simpa [ih, Segment.text] using hsplit
    | case4 c cs hnone ih => simp [ih, Segment.text]
  exact hfrom 0

end Segments

section Substitute

variable {at? : Text → Option (Nat × Text)}

theorem substitute_of_hit {t : Text} {w : Nat} {q : Text} (h : at? t = some (w, q)) (hw : 0 < w)
    (ht : t ≠ []) : substitute at? t = q ++ substitute at? (t.drop w) := by
  simp [substitute, segments_of_hit h hw ht, Segment.text]

/-- A part at which no hit starts is kept. -/
theorem substitute_append_of_none {front rest : Text}
    (h : ∀ s, s ≠ [] → s <:+ front → at? (s ++ rest) = none) :
    substitute at? (front ++ rest) = front ++ substitute at? rest := by
  induction front with
  | nil => rfl
  | cons c front ih =>
    have hnone : at? (c :: (front ++ rest)) = none := h (c :: front) (by simp) List.suffix_rfl
    have hrest := ih fun s hs hsuffix => h s hs (hsuffix.trans (List.suffix_cons c front))
    simp only [substitute] at hrest
    simp [substitute, segments_cons_of_none hnone, Segment.text, hrest]

end Substitute

/-! ## Occurrences -/

/-- What stands in two lists one behind the other stands in the second or in the first. -/
theorem append_eq_append_cons_iff {s t u v : List α} {a : α} :
    s ++ t = u ++ a :: v ↔
      (∃ m, u = s ++ m ∧ t = m ++ a :: v) ∨ ∃ m, s = u ++ a :: m ∧ v = m ++ t := by
  rw [List.append_eq_append_iff]
  constructor
  · rintro (hbehind | ⟨m, rfl, hm⟩)
    · exact .inl hbehind
    cases m with
    | nil => exact .inl ⟨[], by simp, hm.symm⟩
    | cons b m =>
      obtain ⟨rfl, rfl⟩ := List.cons.inj hm
      exact .inr ⟨m, rfl, rfl⟩
  · rintro (hbehind | ⟨m, hs, rfl⟩)
    · exact .inl hbehind
    · exact .inr ⟨a :: m, hs, rfl⟩

theorem contains_iff {p t : Text} : contains p t = true ↔ p <:+: t := by
  induction t with
  | nil => simp [contains]
  | cons c cs ih =>
    rw [contains, Bool.or_eq_true, startsWith_iff, ih, List.infix_cons_iff]

/-- A text without `c` occurs in front of a `c` or behind it. -/
theorem infix_append_cons_iff {p s t : Text} {c : Char} (hc : c ∉ p) :
    p <:+: s ++ c :: t ↔ p <:+: s ∨ p <:+: t := by
  constructor
  · rintro ⟨before, after, heq⟩
    rcases append_eq_append_cons_iff.1 heq with ⟨k, rfl, -⟩ | ⟨k, hfront, rfl⟩
    · exact .inl ⟨before, k, rfl⟩
    -- `p` cannot run across `c`
    rcases append_eq_append_cons_iff.1 hfront with ⟨m, -, rfl⟩ | ⟨m, -, rfl⟩
    · exact absurd (by simp) hc
    · exact .inr ⟨m, after, rfl⟩
  · rintro (h | h)
    · exact h.trans (List.prefix_append s _).isInfix
    · exact h.trans ((List.suffix_cons c t).trans (List.suffix_append s _)).isInfix

end Text

end SmartyLayout
