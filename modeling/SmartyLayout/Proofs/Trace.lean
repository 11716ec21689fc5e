import SmartyLayout.Proofs.Marker

/-!
# SmartyLayout.Proofs.Trace — what layout leaves of a text

The *trace* of a text lists its visible characters, each with a flag that tells whether it stands
right behind the one before. An opening brace never counts as standing right behind anything, since
layout may break a line in front of it. Moving blanks about keeps the trace (`trace_unlines`,
`trace_trim`), and the trace decides where ignore markers stand: `visible_unprotect` reads the
visible characters that are left when the markers are removed off the trace alone.
-/

namespace SmartyLayout

namespace Text

/-! ## Traces -/

/-- The visible characters of a text, each with the flag that it stands right behind the one before;
`joined` is the flag of a first character that is visible. -/
def trace : (joined : Bool) → Text → List (Char × Bool)
  | _, [] => []
  | joined, c :: cs =>
    if isBlank c then trace false cs else (c, joined && c != '{') :: trace true cs

@[simp] theorem trace_nil (joined : Bool) : trace joined [] = [] := rfl

theorem trace_cons_of_blank (joined : Bool) {c : Char} (hc : isBlank c = true) (cs : Text) :
    trace joined (c :: cs) = trace false cs := by
  simp [trace, hc]

theorem trace_cons (joined : Bool) {c : Char} (hc : isBlank c = false) (cs : Text) :
    trace joined (c :: cs) = (c, joined && c != '{') :: trace true cs := by
  simp [trace, hc]

theorem map_fst_trace (joined : Bool) (t : Text) : (trace joined t).map Prod.fst = visible t := by
  induction t generalizing joined with
  | nil => rfl
  | cons c cs ih =>
    cases hc : isBlank c with
    | true => rw [trace_cons_of_blank _ hc, ih, visible_cons, hc]; rfl
    | false => rw [trace_cons _ hc, List.map_cons, ih, visible_cons, hc]; rfl

theorem visible_eq_of_trace_eq {s t : Text} (h : trace false s = trace false t) :
    visible s = visible t := by
  rw [← map_fst_trace false s, h, map_fst_trace]

theorem trace_of_blank (joined : Bool) {t : Text} (h : blank t = true) : trace joined t = [] := by
  induction t generalizing joined with
  | nil => rfl
  | cons c cs ih =>
    rw [blank_cons, Bool.and_eq_true] at h
    rw [trace_cons_of_blank _ h.1, ih _ h.2]

theorem trace_blank_append {g : Text} (hg : blank g = true) (t : Text) :
    trace false (g ++ t) = trace false t := by
  induction g with
  | nil => rfl
  | cons c g ih =>
    rw [blank_cons, Bool.and_eq_true] at hg
    rw [List.cons_append, trace_cons_of_blank _ hg.1, ih hg.2]

/-- What is read alike behind a visible character and behind a blank is read on its own. -/
theorem trace_append {t : Text} (ht : ∀ joined, trace joined t = trace false t) (joined : Bool)
    (s : Text) : trace joined (s ++ t) = trace joined s ++ trace false t := by
  induction s generalizing joined with
  | nil => exact ht joined
  | cons e s ih =>
    cases he : isBlank e with
    | true => rw [List.cons_append, trace_cons_of_blank _ he, trace_cons_of_blank _ he, ih]
    | false => rw [List.cons_append, trace_cons _ he, trace_cons _ he, ih, List.cons_append]

theorem trace_append_blank (joined : Bool) (t : Text) {g : Text} (hg : blank g = true) :
    trace joined (t ++ g) = trace joined t := by
  rw [trace_append fun joined => by rw [trace_of_blank joined hg, trace_of_blank false hg],
    trace_of_blank false hg, List.append_nil]

/-- A blank separates what stands in front of it from what follows. -/
theorem trace_append_cons_of_blank (joined : Bool) (s : Text) {c : Char} (hc : isBlank c = true)
    (t : Text) : trace joined (s ++ c :: t) = trace joined s ++ trace false t := by
  rw [trace_append fun joined => by rw [trace_cons_of_blank joined hc, trace_cons_of_blank _ hc],
    trace_cons_of_blank _ hc]

/-- So does an opening brace. -/
theorem trace_append_brace (joined : Bool) (s t : Text) :
    trace joined (s ++ '{' :: t) = trace joined s ++ trace false ('{' :: t) :=
  trace_append (fun joined => by simp [trace_cons _ (by decide : isBlank '{' = false)]) joined s

/-- The trace of lines is made of the traces of the lines. -/
theorem trace_unlines (ls : List Text) : trace false (unlines ls) = ls.flatMap (trace false) := by
  induction ls with
  | nil => rfl
  | cons l ls ih =>
    cases ls with
    | nil => simp
    | cons next ls =>
      rw [unlines_cons l (by simp), trace_append_cons_of_blank _ _ isBlank_newline, ih]
      rfl

theorem trace_trimEnd (joined : Bool) (t : Text) : trace joined (trimEnd t) = trace joined t := by
  obtain ⟨g, hg, ht⟩ := exists_trimEnd_append t
  rw [← trace_append_blank joined (trimEnd t) hg, ht]

theorem trace_trimStart (t : Text) : trace false (trimStart t) = trace false t := by
  rw [← trace_blank_append (blank_leading t), leading_append_trimStart]

theorem trace_trim (t : Text) : trace false (trim t) = trace false t := by
  rw [trim, trace_trimEnd, trace_trimStart]

/-! ## Reading a text off its trace -/

/-- The first visible character behind a blank is not joined. -/
theorem exists_of_trace_false {t : Text} {c : Char} {joined : Bool} {more : List (Char × Bool)}
    (h : trace false t = (c, joined) :: more) :
    ∃ g rest, t = g ++ c :: rest ∧ blank g = true ∧ joined = false ∧ trace true rest = more := by
  induction t with
  | nil => simp at h
  | cons e t ih =>
    cases he : isBlank e with
    | true =>
      rw [trace_cons_of_blank _ he] at h
      obtain ⟨g, rest, rfl, hg, hjoined, hrest⟩ := ih h
      exact ⟨e :: g, rest, rfl, by simp [he, hg], hjoined, hrest⟩
    | false =>
      rw [trace_cons _ he, List.cons.injEq, Prod.mk.injEq] at h
      obtain ⟨⟨rfl, hjoined⟩, hrest⟩ := h
      exact ⟨[], t, rfl, rfl, by simpa using hjoined.symm, hrest⟩

/-- Joined characters stand next to each other. -/
theorem exists_of_trace_word {w : Text} {t : Text} {more : List (Char × Bool)}
    (h : trace true t = w.map (·, true) ++ more) : ∃ rest, t = w ++ rest ∧ trace true rest = more := by
  induction w generalizing t with
  | nil => exact ⟨t, rfl, h⟩
  | cons c w ih =>
    rw [List.map_cons, List.cons_append] at h
    cases t with
    | nil => simp at h
    | cons e t =>
      cases he : isBlank e with
      | true =>
        rw [trace_cons_of_blank _ he] at h
        -- behind a blank the flag would be down
        obtain ⟨-, -, -, -, hfalse, -⟩ := exists_of_trace_false h
        exact absurd hfalse (by decide)
      | false =>
        rw [trace_cons _ he, List.cons.injEq, Prod.mk.injEq] at h
        obtain ⟨⟨rfl, -⟩, hrest⟩ := h
        obtain ⟨rest, rfl, hmore⟩ := ih hrest
        exact ⟨rest, rfl, hmore⟩

/-- In front of a character that is not joined stands a blank. -/
theorem exists_of_trace_gap {t : Text} {c : Char} (hc : c ≠ '{') {more : List (Char × Bool)}
    (h : trace true t = (c, false) :: more) :
    ∃ g rest, t = g ++ c :: rest ∧ blank g = true ∧ g ≠ [] ∧ trace true rest = more := by
  cases t with
  | nil => simp at h
  | cons e t =>
    cases he : isBlank e with
    | true =>
      rw [trace_cons_of_blank _ he] at h
      obtain ⟨g, rest, rfl, hg, -, hrest⟩ := exists_of_trace_false h
      exact ⟨e :: g, rest, rfl, by simp [he, hg], by simp, hrest⟩
    | false =>
      rw [trace_cons _ he, List.cons.injEq, Prod.mk.injEq] at h
      obtain ⟨⟨rfl, hjoined⟩, -⟩ := h
      exact absurd (by simpa using hjoined) hc

theorem trace_word_append {w : Text} (hw : ∀ c ∈ w, isBlank c = false ∧ c ≠ '{') (t : Text) :
    trace true (w ++ t) = w.map (·, true) ++ trace true t := by
  induction w with
  | nil => rfl
  | cons c w ih =>
    obtain ⟨hc, hbrace⟩ := hw c (by simp)
    rw [List.cons_append, trace_cons _ hc, ih fun e he => hw e (List.mem_cons_of_mem c he)]
    simp [hbrace]

/-- A word behind a blank. -/
theorem trace_gap_append {g : Text} (hg : blank g = true) (hne : g ≠ []) (joined : Bool) {c : Char}
    {w : Text} (hw : ∀ e ∈ c :: w, isBlank e = false ∧ e ≠ '{') (t : Text) :
    trace joined (g ++ ((c :: w) ++ t)) = (c, false) :: w.map (·, true) ++ trace true t := by
  obtain ⟨b, g, rfl⟩ := List.exists_cons_of_ne_nil hne
  rw [blank_cons, Bool.and_eq_true] at hg
  rw [List.cons_append, trace_cons_of_blank _ hg.1, trace_blank_append hg.2, List.cons_append,
    trace_cons _ (hw c (by simp)).1, trace_word_append fun e he => hw e (List.mem_cons_of_mem c he)]
  rfl

end Text

namespace IgnoreMarker

open Text

/-! ## Markers in a trace -/

/-- What follows the first slash of a marker, in the trace. -/
def markerTrace (word : Text) : List (Char × Bool) :=
  ('*', true) :: ('b', false) :: "eautify".toList.map (·, true) ++
    ('i', false) :: ("gnore:".toList ++ word).map (·, true) ++ [('*', false), ('/', true)]

theorem trace_of_isMarker {m : Text} (hm : IsMarker m) :
    ∃ inner word, m = '/' :: inner ∧ (word = "start".toList ∨ word = "end".toList) ∧
      ∀ rest, trace true (inner ++ rest) = markerTrace word ++ trace true rest := by
  obtain @⟨g₁, g₂, word, g₃, hg₁, hne₁, hg₂, hne₂, hword, hg₃, hne₃⟩ := hm
  refine ⟨'*' :: (g₁ ++ ("beautify".toList ++ (g₂ ++ (("ignore:".toList ++ word) ++ (g₃ ++ "*/".toList))))),
    word, by simp [markerText], hword, fun rest => ?_⟩
  have hstar : isBlank '*' = false := by decide
  have hignore : ∀ e ∈ 'i' :: ("gnore:".toList ++ word), isBlank e = false ∧ e ≠ '{' := by
    rcases hword with rfl | rfl <;> exact forall_mem_of_all (by decide)
  have hbeautify : ∀ e ∈ 'b' :: "eautify".toList, isBlank e = false ∧ e ≠ '{' :=
    forall_mem_of_all (by decide)
  have hclose : ∀ e ∈ '*' :: ['/'], isBlank e = false ∧ e ≠ '{' := forall_mem_of_all (by decide)
  calc trace true ('*' :: (g₁ ++ ("beautify".toList ++ (g₂ ++ (("ignore:".toList ++ word) ++
          (g₃ ++ "*/".toList))))) ++ rest)
      = ('*', true) :: trace true (g₁ ++ (('b' :: "eautify".toList) ++ (g₂ ++
          (('i' :: ("gnore:".toList ++ word)) ++ (g₃ ++ (('*' :: ['/']) ++ rest)))))) := by
        rw [List.cons_append, trace_cons _ hstar]
        simp
    _ = markerTrace word ++ trace true rest := by
        rw [trace_gap_append hg₁ hne₁ _ hbeautify, trace_gap_append hg₂ hne₂ _ hignore,
          trace_gap_append hg₃ hne₃ _ hclose]
        simp [markerTrace]

/-- A trace that reads like a marker behind a slash is that of a marker. -/
theorem marker?_of_trace {t word : Text} {more : List (Char × Bool)}
    (hword : word = "start".toList ∨ word = "end".toList)
    (h : trace true t = markerTrace word ++ more) : marker? ('/' :: t) ≠ none := by
  have h₁ : trace true t = ['*'].map (·, true) ++ (('b', false) :: ("eautify".toList.map (·, true) ++
      (('i', false) :: (("gnore:".toList ++ word).map (·, true) ++ (('*', false) ::
        (['/'].map (·, true) ++ more)))))) := by
    rw [h]
    simp [markerTrace]
  -- word by word, with a gap in front of each but the first
  obtain ⟨t₁, rfl, h₂⟩ := exists_of_trace_word h₁
  obtain ⟨g₁, t₂, rfl, hg₁, hne₁, h₃⟩ := exists_of_trace_gap (by decide) h₂
  obtain ⟨t₃, rfl, h₄⟩ := exists_of_trace_word h₃
  obtain ⟨g₂, t₄, rfl, hg₂, hne₂, h₅⟩ := exists_of_trace_gap (by decide) h₄
  obtain ⟨t₅, rfl, h₆⟩ := exists_of_trace_word h₅
  obtain ⟨g₃, t₆, rfl, hg₃, hne₃, h₇⟩ := exists_of_trace_gap (by decide) h₆
  obtain ⟨rest, rfl, -⟩ := exists_of_trace_word h₇
  have hm : IsMarker (markerText g₁ g₂ word g₃) := ⟨hg₁, hne₁, hg₂, hne₂, hword, hg₃, hne₃⟩
  have htext : '/' :: (['*'] ++ (g₁ ++ 'b' :: ("eautify".toList ++ (g₂ ++ 'i' :: ("gnore:".toList ++
      word ++ (g₃ ++ '*' :: (['/'] ++ rest))))))) = markerText g₁ g₂ word g₃ ++ rest := by
    simp [markerText]
  rw [htext, marker?_append hm]
  simp

/-- The visible characters of a trace outside its markers; `skip` counts the entries left of a
marker. -/
def strip : (skip : Nat) → List (Char × Bool) → Text
  | _, [] => []
  | skip + 1, _ :: xs => strip skip xs
  | 0, x :: xs =>
    if x.1 = '/' ∧ markerTrace "start".toList <+: xs then
      strip (markerTrace "start".toList).length xs
    else if x.1 = '/' ∧ markerTrace "end".toList <+: xs then
      strip (markerTrace "end".toList).length xs
    else x.1 :: strip 0 xs

theorem strip_length_append (xs ys : List (Char × Bool)) :
    strip xs.length (xs ++ ys) = strip 0 ys := by
  induction xs with
  | nil => rfl
  | cons x xs ih => simpa [strip] using ih

/-- The flag of the first character does not matter. -/
theorem strip_zero_cons (c : Char) (j j' : Bool) (xs : List (Char × Bool)) :
    strip 0 ((c, j) :: xs) = strip 0 ((c, j') :: xs) := by
  simp [strip]

theorem strip_trace_joined (j j' : Bool) (t : Text) : strip 0 (trace j t) = strip 0 (trace j' t) := by
  cases t with
  | nil => rfl
  | cons c cs =>
    cases hc : isBlank c with
    | true => rw [trace_cons_of_blank _ hc, trace_cons_of_blank _ hc]
    | false =>
      rw [trace_cons _ hc, trace_cons _ hc]
      exact strip_zero_cons ..

theorem strip_markerTrace {word : Text} (hword : word = "start".toList ∨ word = "end".toList)
    (j : Bool) (xs : List (Char × Bool)) :
    strip 0 (('/', j) :: (markerTrace word ++ xs)) = strip 0 xs := by
  rcases hword with rfl | rfl
  · rw [strip, if_pos ⟨rfl, List.prefix_append _ _⟩]
    exact strip_length_append _ xs
  · -- the two kinds of marker differ, so one does not hide the other
    have hnot : ¬ markerTrace "start".toList <+: markerTrace "end".toList ++ xs := by
      rintro ⟨ys, hys⟩
      simp [markerTrace] at hys
    rw [strip, if_neg (fun h => hnot h.2), if_pos ⟨rfl, List.prefix_append _ _⟩]
    exact strip_length_append _ xs

/-- The visible characters left when the markers are removed show in the trace. -/
theorem visible_unprotect (j : Bool) (t : Text) : visible (unprotect t) = strip 0 (trace j t) := by
  -- on the length of the text, since a marker takes more than one character
  induction hn : t.length using Nat.strong_induction_on generalizing t j with
  | _ n ih =>
    cases t with
    | nil => rfl
    | cons c cs =>
      cases hmarker : marker? (c :: cs) with
      | some found =>
        obtain ⟨w, q⟩ := found
        obtain ⟨-, m, rest, heq, hm, -⟩ := marker?_eq_some_iff.1 hmarker
        have hshort : rest.length < n := by
          have hlen := congrArg List.length heq
          have hpos := hm.length_pos
          rw [hn, List.length_append] at hlen
          omega
        obtain ⟨inner, word, rfl, hword, htrace⟩ := trace_of_isMarker hm
        have hslash : isBlank '/' = false := by decide
        rw [heq, unprotect_append_marker hm, ih _ hshort true rest rfl, List.cons_append,
          trace_cons _ hslash, htrace, strip_markerTrace hword]
      | none =>
        have hkeep : unprotect (c :: cs) = c :: unprotect cs := by
          simp [unprotect, substitute, segments_cons_of_none hmarker, Segment.text]
        have hrest := ih cs.length (by simp [← hn]) true cs rfl
        rw [hkeep, visible_cons, hrest]
        cases hc : isBlank c with
        | true =>
          rw [trace_cons_of_blank _ hc]
          exact strip_trace_joined ..
        | false =>
          -- no marker begins here, and then the trace shows none
          have hnot : ∀ word, (word = "start".toList ∨ word = "end".toList) →
              ¬ (c = '/' ∧ markerTrace word <+: trace true cs) := by
            rintro word hword ⟨rfl, more, hmore⟩
            exact marker?_of_trace hword hmore.symm hmarker
          rw [trace_cons _ hc, strip, if_neg (hnot _ (.inl rfl)), if_neg (hnot _ (.inr rfl))]
          rfl

/-- Texts with the same trace show the same characters when their markers are removed. -/
theorem visible_unprotect_eq_of_trace_eq {s t : Text} (h : trace false s = trace false t) :
    visible (unprotect s) = visible (unprotect t) := by
  rw [visible_unprotect false, h, ← visible_unprotect]

end IgnoreMarker

end SmartyLayout
