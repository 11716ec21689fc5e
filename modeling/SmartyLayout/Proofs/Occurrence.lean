import SmartyLayout.Proofs.Lexeme

/-!
# SmartyLayout.Proofs.Occurrence — what has to stand in a text for a literal to open

The searches for literals answer with widths. Whether they find anything at all is a simpler matter:
a comment opens if its closer occurs behind the opener, an element if its closing tag does. This
module says so without widths, kind by kind, so that a search can be carried over from one text to
another:

* comments (`isSome_enclosed?_iff`), elements (`isSome_element?_iff`), the attribute that makes a
  script a template (`templateTypeAt_iff`);
* `isSome_at?_mono`: a literal opens in one text as soon as it opens in another, if this holds of
  comments, strings and elements.
-/

namespace SmartyLayout

namespace Literal

open Text

/-! ## Comments -/

theorem isSome_through_iff {p t : Text} : (through p t).isSome = true ↔ p <:+: t := by
  induction t with
  | nil =>
    cases p with
    | nil => simp [through]
    | cons c p => simp [through]
  | cons c t ih =>
    rw [through, List.infix_cons_iff, ← startsWith_iff]
    by_cases hp : startsWith p (c :: t) = true
    · simp [hp]
    · simp [hp, ih]

theorem isSome_enclosed?_iff {opener closer t : Text} :
    (enclosed? opener closer t).isSome = true ↔ ∃ rest, t = opener ++ rest ∧ closer <:+: rest := by
  rw [Option.isSome_iff_exists]
  constructor
  · rintro ⟨w, hw⟩
    obtain ⟨rest, n, rfl, hn, -⟩ := enclosed?_eq_some_iff.1 hw
    exact ⟨rest, rfl, isSome_through_iff.1 (by rw [hn]; rfl)⟩
  · rintro ⟨rest, rfl, hrest⟩
    obtain ⟨n, hn⟩ := Option.isSome_iff_exists.1 (isSome_through_iff.2 hrest)
    exact ⟨_, enclosed?_eq_some_iff.2 ⟨rest, n, rfl, hn, rfl⟩⟩

/-! ## Elements -/

/-- The closing tag of `name`, with `blanks` in front of its `>`. -/
def IsCloseTag (name : Text) (t : Text) : Prop :=
  ∃ word blanks, t = '<' :: '/' :: (word ++ (blanks ++ ['>'])) ∧ word.map foldCase = name ∧
    blank blanks = true

theorem isSome_closeTag?_iff {name t : Text} :
    (closeTag? name t).isSome = true ↔ ∃ close, IsCloseTag name close ∧ close <+: t := by
  rw [Option.isSome_iff_exists]
  constructor
  · rintro ⟨n, hn⟩
    obtain ⟨word, blanks, tail, rfl, hword, hblanks, -⟩ := closeTag?_eq_some_iff.1 hn
    exact ⟨_, ⟨word, blanks, rfl, hword, hblanks⟩, tail, by simp⟩
  · rintro ⟨_, ⟨word, blanks, rfl, hword, hblanks⟩, tail, rfl⟩
    exact ⟨_, closeTag?_eq_some_iff.2 ⟨word, blanks, tail, by simp, hword, hblanks, rfl⟩⟩

theorem isSome_throughCloseTag_iff {name t : Text} :
    (throughCloseTag name t).isSome = true ↔ ∃ close, IsCloseTag name close ∧ close <:+: t := by
  induction t with
  | nil =>
    simp only [throughCloseTag, Option.isSome_none, Bool.false_eq_true, false_iff, List.infix_nil]
    rintro ⟨_, ⟨word, blanks, rfl, -⟩, hnil⟩
    simp at hnil
  | cons c t ih =>
    -- the tag is found here or further on
    have hstep : (throughCloseTag name (c :: t)).isSome = true ↔
        (closeTag? name (c :: t)).isSome = true ∨ (throughCloseTag name t).isSome = true := by
      rw [throughCloseTag]
      cases closeTag? name (c :: t) <;> simp
    rw [hstep, isSome_closeTag?_iff, ih]
    constructor
    · rintro (⟨close, hclose, hpre⟩ | ⟨close, hclose, hin⟩)
      · exact ⟨close, hclose, hpre.isInfix⟩
      · exact ⟨close, hclose, hin.trans (List.suffix_cons c t).isInfix⟩
    · rintro ⟨close, hclose, hin⟩
      rcases List.infix_cons_iff.1 hin with hpre | hin
      · exact .inl ⟨close, hclose, hpre⟩
      · exact .inr ⟨close, hclose, hin⟩

theorem isSome_element?_iff {name t : Text} {accepts : Text → Bool} :
    (element? name accepts t).isSome = true ↔
      ∃ word attrs content, t = '<' :: (word ++ (attrs ++ '>' :: content)) ∧
        word.map foldCase = name ∧ '>' ∉ attrs ∧ atWordEnd (attrs ++ ['>']) = true ∧
        accepts attrs = true ∧ ∃ close, IsCloseTag name close ∧ close <:+: content := by
  rw [Option.isSome_iff_exists]
  constructor
  · rintro ⟨w, hw⟩
    obtain ⟨word, attrs, content, n, rfl, hword, hattrs, hend, haccepts, hn, -⟩ :=
      element?_eq_some_iff.1 hw
    exact ⟨word, attrs, content, rfl, hword, hattrs, hend, haccepts,
      isSome_throughCloseTag_iff.1 (by rw [hn]; rfl)⟩
  · rintro ⟨word, attrs, content, rfl, hword, hattrs, hend, haccepts, hclose⟩
    obtain ⟨n, hn⟩ := Option.isSome_iff_exists.1 (isSome_throughCloseTag_iff.2 hclose)
    exact ⟨_, element?_eq_some_iff.2
      ⟨word, attrs, content, n, rfl, hword, hattrs, hend, haccepts, hn, rfl⟩⟩

/-! ## The type of a script -/

/-- The quote that may stand in front of the type of a script. -/
def typeQuotes : List Text :=
  [[], ['"'], ['\x27']]

/-- What is left of a text behind the quote that it may begin with. -/
def afterTypeQuote (t : Text) : Text :=
  if t.head? = some '"' ∨ t.head? = some '\x27' then t.tail else t

theorem exists_of_afterTypeQuote (t : Text) : ∃ quote ∈ typeQuotes, t = quote ++ afterTypeQuote t := by
  cases t with
  | nil => exact ⟨[], by simp [typeQuotes], rfl⟩
  | cons c t =>
    by_cases hc : c = '"' ∨ c = '\x27'
    · refine ⟨[c], ?_, by simp [afterTypeQuote, hc]⟩
      rcases hc with rfl | rfl <;> simp [typeQuotes]
    · exact ⟨[], by simp [typeQuotes], by simp [afterTypeQuote, hc]⟩

theorem afterTypeQuote_append {quote : Text} (hquote : quote ∈ typeQuotes) {t : Text}
    (ht : ∀ c ∈ t.head?, c ≠ '"' ∧ c ≠ '\x27') : afterTypeQuote (quote ++ t) = t := by
  simp only [typeQuotes, List.mem_cons, List.not_mem_nil, or_false] at hquote
  rcases hquote with rfl | rfl | rfl
  · cases t with
    | nil => rfl
    | cons c t =>
      have hc := ht c (by simp)
      simp [afterTypeQuote, hc.1, hc.2]
  · simp [afterTypeQuote]
  · simp [afterTypeQuote]

theorem templateTypeAt_eq_true_iff {t : Text} :
    templateTypeAt t = true ↔
      ∃ afterKey, afterFolded? "type".toList t = some afterKey ∧
      ∃ afterSign, after? ['='] (trimStart afterKey) = some afterSign ∧
      ∃ afterValue, afterFolded? "text/".toList (afterTypeQuote (trimStart afterSign)) = some afterValue ∧
      ∃ kind ∈ templateTypes, ∃ rest, afterFolded? kind afterValue = some rest ∧
        atWordEnd rest = true := by
  have hgetD (o : Option Bool) : o.getD false = true ↔ o = some true := by cases o <;> simp
  simp only [templateTypeAt, hgetD, Option.bind_eq_bind, Option.bind_eq_some_iff, Option.some.injEq,
    List.any_eq_true, Option.map_eq_some_iff]
  rfl

/-- A letter of a word that is read letter case aside is neither blank nor a mark. -/
theorem fold_facts {word name : Text} (h : word.map foldCase = name)
    (hname : ∀ c ∈ name, c.isAlpha = true ∨ c = '/' ∨ c = '-') :
    ∀ c ∈ word, isBlank c = false ∧ c ≠ '"' ∧ c ≠ '\x27' ∧ c ≠ '=' ∧ c ≠ '{' ∧ c ≠ '<' ∧ c ≠ '>' := by
  intro c hc
  have hfold := hname (foldCase c) (h ▸ List.mem_map_of_mem hc)
  -- folding a blank gives no letter, so all 25 blanks can be tried
  have hblank : isBlank c = false := by
    by_contra hblank
    have hnot : ¬ ((foldCase c).isAlpha = true ∨ foldCase c = '/' ∨ foldCase c = '-') :=
      forall_of_isBlank (P := fun c => ¬ ((foldCase c).isAlpha = true ∨ foldCase c = '/' ∨ foldCase c = '-'))
        (by decide) (by simpa using hblank)
    exact hnot hfold
  refine ⟨hblank, ?_, ?_, ?_, ?_, ?_, ?_⟩ <;> rintro rfl <;> exact absurd hfold (by decide)

/-- A `type` attribute that names a template type: its words, with blanks around the sign between
them and perhaps a quote in front of the value. -/
theorem templateTypeAt_iff {t : Text} :
    templateTypeAt t = true ↔
      ∃ key blanks blanks' quote value kind rest,
        t = key ++ (blanks ++ '=' :: (blanks' ++ (quote ++ (value ++ (kind ++ rest))))) ∧
        key.map foldCase = "type".toList ∧ blank blanks = true ∧ blank blanks' = true ∧
        quote ∈ typeQuotes ∧ value.map foldCase = "text/".toList ∧
        kind.map foldCase ∈ templateTypes ∧ atWordEnd rest = true := by
  simp only [templateTypeAt_eq_true_iff, after?_eq_some_iff, afterFolded?_eq_some_iff]
  constructor
  · rintro ⟨afterKey, ⟨key, rfl, hkey⟩, afterSign, hsign, afterValue, ⟨value, hvalue, htext⟩, kind, hkind,
      rest, ⟨word, rfl, hword⟩, hend⟩
    obtain ⟨quote, hquote, hsplit⟩ := exists_of_afterTypeQuote (trimStart afterSign)
    refine ⟨key, leading afterKey, leading afterSign, quote, value, word, rest, ?_, hkey,
      blank_leading _, blank_leading _, hquote, htext, hword ▸ hkind, hend⟩
    rw [← hvalue, ← hsplit, leading_append_trimStart, ← List.singleton_append, ← hsign,
      leading_append_trimStart]
  · rintro ⟨key, blanks, blanks', quote, value, kind, rest, rfl, hkey, hblanks, hblanks', hquote, hvalue,
      hkind, hend⟩
    obtain ⟨c, value', rfl⟩ : ∃ c value', value = c :: value' :=
      List.exists_cons_of_ne_nil (by rintro rfl; simp at hvalue)
    have hc := fold_facts hvalue (forall_mem_of_all (by decide)) c (by simp)
    -- neither a quote nor a letter is blank, so the blanks in front of it end there
    have hquoted : trimStart (quote ++ (c :: value' ++ (kind ++ rest))) =
        quote ++ (c :: value' ++ (kind ++ rest)) := by
      simp only [typeQuotes, List.mem_cons, List.not_mem_nil, or_false] at hquote
      rcases hquote with rfl | rfl | rfl
      · exact trimStart_cons hc.1 _
      · exact trimStart_cons (by decide) _
      · exact trimStart_cons (by decide) _
    refine ⟨_, ⟨key, rfl, hkey⟩, blanks' ++ (quote ++ (c :: value' ++ (kind ++ rest))), ?_,
      kind ++ rest, ⟨c :: value', ?_, hvalue⟩, _, hkind, rest, ⟨kind, rfl, rfl⟩, hend⟩
    · rw [trimStart_blank_append hblanks, trimStart_cons (by decide), List.singleton_append]
    · rw [trimStart_blank_append hblanks', hquoted]
      refine afterTypeQuote_append hquote fun e he => ?_
      obtain rfl : c = e := by simpa using he
      exact ⟨hc.2.1, hc.2.2.1⟩

/-! ## All kinds -/

/-- The opener and the closer of each kind of comment. -/
def commentPairs (d : Dialect) : List (Text × Text) :=
  [d.commentPair, ("/*".toList, "*/".toList), ("<!--".toList, "-->".toList)]

/-- The names of the verbatim elements, and which attributes they are verbatim with. -/
def verbatimNames : List (Text × (Text → Bool)) :=
  [("script".toList, namesTemplateType true), ("pre".toList, fun _ => true),
    ("textarea".toList, fun _ => true)]

theorem isSome_string?_cons {c : Char} {x : Text} :
    (string? (c :: x)).isSome = true ↔
      ∃ q ∈ [doubleQuote, backQuote, singleQuote], c = q.mark ∧ (q.closing? x).isSome = true := by
  simp only [Option.isSome_iff_exists, string?_eq_some_iff, List.cons.injEq]
  constructor
  · rintro ⟨w, q, hq, rest, n, ⟨hc, rfl⟩, hn, -⟩
    exact ⟨q, hq, hc, n, hn⟩
  · rintro ⟨q, hq, hc, n, hn⟩
    exact ⟨n + 1, q, hq, x, n, ⟨hc, rfl⟩, hn, rfl⟩

theorem isSome_verbatimElement?_iff {t : Text} :
    (verbatimElement? t).isSome = true ↔
      ∃ p ∈ verbatimNames, (element? p.1 p.2 t).isSome = true := by
  simp [verbatimElement?, verbatimNames, Option.isSome_or]

/-- A literal opens at a character in front of `x` if one opens at it in front of `x'`, as soon as
this holds of each kind of comment, string and element. -/
theorem isSome_at?_mono {d : Dialect} {c : Char} {x x' : Text}
    (hcomment : ∀ p ∈ commentPairs d, (enclosed? p.1 p.2 (c :: x')).isSome = true →
      (enclosed? p.1 p.2 (c :: x)).isSome = true)
    (hstring : ∀ q ∈ [doubleQuote, backQuote, singleQuote], (q.closing? x').isSome = true →
      (q.closing? x).isSome = true)
    (helement : ∀ p ∈ verbatimNames, (element? p.1 p.2 (c :: x')).isSome = true →
      (element? p.1 p.2 (c :: x)).isSome = true)
    (h : (at? d (c :: x')).isSome = true) : (at? d (c :: x)).isSome = true := by
  -- the first character tells which kinds are possible
  rw [at?_cons, startingWith] at h ⊢
  by_cases hbrace : c = '{'
  · rw [if_pos hbrace, Option.isSome_map] at h ⊢
    exact hcomment d.commentPair (by simp [commentPairs]) h
  rw [if_neg hbrace] at h ⊢
  by_cases hslash : c = '/'
  · rw [if_pos hslash, Option.isSome_map] at h ⊢
    exact hcomment ("/*".toList, "*/".toList) (by simp [commentPairs]) h
  rw [if_neg hslash] at h ⊢
  by_cases hangle : c = '<'
  · rw [if_pos hangle] at h ⊢
    simp only [angled?, Option.orElse_eq_orElse, Option.orElse_eq_or, Option.isSome_or,
      Option.isSome_map, Bool.or_eq_true] at h ⊢
    rcases h with h | h
    · exact .inl (hcomment ("<!--".toList, "-->".toList) (by simp [commentPairs]) h)
    · obtain ⟨p, hp, hfound⟩ := isSome_verbatimElement?_iff.1 h
      exact .inr (isSome_verbatimElement?_iff.2 ⟨p, hp, helement p hp hfound⟩)
  · rw [if_neg hangle, Option.isSome_map, isSome_string?_cons] at h ⊢
    obtain ⟨q, hq, hc, hclose⟩ := h
    exact ⟨q, hq, hc, hstring q hq hclose⟩

end Literal

end SmartyLayout
