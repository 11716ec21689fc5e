import SmartyLayout.Proofs.Occurrence

/-!
# SmartyLayout.Proofs.Grammar — the shapes of complete literals

What the searches for literals accept is written down as a grammar, without widths and without a
search: `IsComplete d kind t` says that `t` is one whole literal of the given kind. Comments and
elements run through the *first* closer behind their opener, so what follows the opener is the
shortest text that holds a closer (`Shortest`); a string is a quote, a body without bare quotes
(`Quote.Body`) and the quote again. `isComplete_iff_at?` shows that the grammar and the search agree.
-/

namespace SmartyLayout

namespace Text

/-- The text has the property, and no shorter text that it begins with has it. -/
def Shortest (P : Text → Prop) (t : Text) : Prop :=
  P t ∧ ∀ front, front <+: t → P front → front = t

/-- A search for a closer covers exactly the shortest text in which it finds one. -/
theorem Local.eq_length_iff {find : Text → Option Nat} (h : Local id find) {t : Text} :
    find t = some t.length ↔ Shortest (fun s => (find s).isSome = true) t := by
  constructor
  · intro ht
    refine ⟨by simp [ht], fun front hfront hsome => ?_⟩
    obtain ⟨n, hn⟩ := Option.isSome_iff_exists.1 hsome
    obtain ⟨rest, rfl⟩ := hfront
    -- what is found in the front is found at the same place in the whole
    have hlong := h.find_append hn rest
    rw [ht, Option.some.injEq] at hlong
    have hle : n ≤ front.length := h.width_le hn
    have hrest : rest = [] := by
      rw [List.length_append] at hlong
      exact List.length_eq_zero_iff.1 (by omega)
    rw [hrest, List.append_nil]
  · rintro ⟨hsome, hshort⟩
    obtain ⟨n, hn⟩ := Option.isSome_iff_exists.1 hsome
    have htake : t.take n = t := by
      refine hshort (t.take n) (List.take_prefix n t) ?_
      have hcovered : find (t.take n) = some n := h.find_take hn
      simp [hcovered]
    have hle : n ≤ t.length := h.width_le hn
    have hlen := congrArg List.length htake
    rw [List.length_take] at hlen
    rw [hn, Option.some.injEq]
    omega

end Text

namespace Literal

open Text

/-- What may stand between the quotes of a string. -/
inductive Quote.Body (q : Quote) : Text → Prop
  | nil : Body q []
  | bare {c : Char} {t : Text} (hmark : c ≠ q.mark) (hslash : c ≠ '\\') (hbar : q.bars c = false)
      (h : Body q t) : Body q (c :: t)
  | escaped {c : Char} {t : Text} (hc : q.escapes c = true) (h : Body q t) : Body q ('\\' :: c :: t)

/-- The text is one whole literal of a kind. -/
inductive IsComplete (d : Dialect) : Kind → Text → Prop
  | string {q : Quote} (hq : q ∈ [doubleQuote, backQuote, singleQuote]) {body : Text}
      (hbody : q.Body body) : IsComplete d .string (q.mark :: (body ++ [q.mark]))
  | templateComment {rest : Text} (h : Shortest (d.commentPair.2 <:+: ·) rest) :
      IsComplete d .templateComment (d.commentPair.1 ++ rest)
  | markupComment {rest : Text} (h : Shortest ("-->".toList <:+: ·) rest) :
      IsComplete d .markupComment ("<!--".toList ++ rest)
  | styleComment {rest : Text} (h : Shortest ("*/".toList <:+: ·) rest) :
      IsComplete d .styleComment ("/*".toList ++ rest)
  | verbatimElement {p : Text × (Text → Bool)} (hp : p ∈ verbatimNames) {word attrs content : Text}
      (hword : word.map foldCase = p.1) (hattrs : '>' ∉ attrs)
      (hend : atWordEnd (attrs ++ ['>']) = true) (haccepts : p.2 attrs = true)
      (h : Shortest (fun t => ∃ close, IsCloseTag p.1 close ∧ close <:+: t) content) :
      IsComplete d .verbatimElement ('<' :: (word ++ (attrs ++ '>' :: content)))

/-! ## The searches, kind by kind -/

theorem enclosed?_eq_length_iff {opener closer t : Text} :
    enclosed? opener closer t = some t.length ↔
      ∃ rest, t = opener ++ rest ∧ Shortest (closer <:+: ·) rest := by
  rw [enclosed?_eq_some_iff]
  constructor
  · rintro ⟨rest, n, rfl, hn, hlen⟩
    obtain rfl : n = rest.length := by
      rw [List.length_append] at hlen
      omega
    have hshort := (through_local closer).eq_length_iff.1 hn
    simp only [isSome_through_iff] at hshort
    exact ⟨rest, rfl, hshort⟩
  · rintro ⟨rest, rfl, hshort⟩
    simp only [← isSome_through_iff] at hshort
    exact ⟨rest, rest.length, rfl, (through_local closer).eq_length_iff.2 hshort, by simp⟩

theorem Quote.closing?_eq_length_iff {q : Quote} (hq : q.mark ≠ '\\') {t : Text} :
    q.closing? t = some t.length ↔ ∃ body, t = body ++ [q.mark] ∧ q.Body body := by
  constructor
  · intro h
    fun_induction Quote.closing? q t with
    | case1 => simp at h
    | case2 c cs hescape ih =>
      obtain ⟨body, rfl, hbody⟩ := ih (by simpa using h)
      exact ⟨'\\' :: c :: body, rfl, .escaped hescape hbody⟩
    | case3 => simp at h
    | case4 cs =>
      obtain rfl : cs = [] := by simpa using h
      exact ⟨[], rfl, .nil⟩
    | case5 => simp at h
    | case6 c cs _ hmark hbar ih =>
      obtain ⟨body, rfl, hbody⟩ := ih (by simpa using h)
      simp only [Bool.or_eq_true, decide_eq_true_eq, not_or, Bool.not_eq_true] at hbar
      exact ⟨c :: body, rfl, .bare hmark hbar.1 hbar.2 hbody⟩
  · rintro ⟨body, rfl, hbody⟩
    induction hbody with
    | nil => simp [Quote.closing?_cons q hq]
    | bare hmark hslash hbar _ ih => simp [Quote.closing?_cons q hslash, hmark, hbar, ih]
    | escaped hc _ ih => simp [Quote.closing?, hc, ih]

theorem string?_eq_length_iff {t : Text} :
    string? t = some t.length ↔ ∃ q ∈ [doubleQuote, backQuote, singleQuote], ∃ body,
      t = q.mark :: (body ++ [q.mark]) ∧ q.Body body := by
  rw [string?_eq_some_iff]
  constructor
  · rintro ⟨q, hq, rest, n, rfl, hn, hlen⟩
    obtain rfl : n = rest.length := by simpa using hlen.symm
    obtain ⟨body, rfl, hbody⟩ := (Quote.closing?_eq_length_iff (mark_facts q hq).1).1 hn
    exact ⟨q, hq, body, rfl, hbody⟩
  · rintro ⟨q, hq, body, rfl, hbody⟩
    have hclose := (Quote.closing?_eq_length_iff (mark_facts q hq).1).2 ⟨body, rfl, hbody⟩
    exact ⟨q, hq, body ++ [q.mark], _, rfl, hclose, rfl⟩

theorem element?_eq_length_iff {name : Text} (hname : '>' ∉ name) {accepts : Text → Bool} {t : Text} :
    element? name accepts t = some t.length ↔
      ∃ word attrs content, t = '<' :: (word ++ (attrs ++ '>' :: content)) ∧
        word.map foldCase = name ∧ '>' ∉ attrs ∧ atWordEnd (attrs ++ ['>']) = true ∧
        accepts attrs = true ∧
        Shortest (fun t => ∃ close, IsCloseTag name close ∧ close <:+: t) content := by
  have hlocal := throughCloseTag_local hname
  rw [element?_eq_some_iff]
  constructor
  · rintro ⟨word, attrs, content, n, rfl, hword, hattrs, hend, haccepts, hn, hlen⟩
    obtain rfl : n = content.length := by
      simp only [List.length_cons, List.length_append] at hlen
      omega
    have hshort := hlocal.eq_length_iff.1 hn
    simp only [isSome_throughCloseTag_iff] at hshort
    exact ⟨word, attrs, content, rfl, hword, hattrs, hend, haccepts, hshort⟩
  · rintro ⟨word, attrs, content, rfl, hword, hattrs, hend, haccepts, hshort⟩
    simp only [← isSome_throughCloseTag_iff] at hshort
    refine ⟨word, attrs, content, content.length, rfl, hword, hattrs, hend, haccepts,
      hlocal.eq_length_iff.2 hshort, ?_⟩
    simp only [List.length_cons, List.length_append]
    omega

/-- The names of verbatim elements begin with different letters, so at most one search succeeds. -/
theorem verbatimElement?_eq_length_iff {t : Text} :
    verbatimElement? t = some t.length ↔
      ∃ p ∈ verbatimNames, element? p.1 p.2 t = some t.length := by
  -- a search that succeeds tells the first letter of the name
  have hother {name name' : Text} {accepts accepts' : Text → Bool} {p p' : Char} {ps ps' : Text}
      (hname : name = p :: ps) (hname' : name' = p' :: ps') (hne : p ≠ p')
      (h : element? name' accepts' t = some t.length) : element? name accepts t = none := by
    have hnone : element? name accepts (t.take t.length ++ []) = none :=
      element?_eq_none_of_head hname hname' hne h []
    simpa using hnone
  simp only [verbatimElement?, verbatimNames, List.mem_cons, List.not_mem_nil, or_false,
    exists_eq_or_imp, exists_eq_left, Option.orElse_eq_orElse, Option.orElse_eq_or]
  constructor
  · intro h
    rcases Option.or_eq_some_iff.1 h with h | ⟨-, h⟩
    · exact .inl h
    · rcases Option.or_eq_some_iff.1 h with h | ⟨-, h⟩
      · exact .inr (.inl h)
      · exact .inr (.inr h)
  · rintro (h | h | h)
    · rw [h]
      rfl
    · have hscript : element? "script".toList (namesTemplateType true) t = none :=
        hother rfl rfl (by decide) h
      rw [hscript, h]
      rfl
    · have hscript : element? "script".toList (namesTemplateType true) t = none :=
        hother rfl rfl (by decide) h
      have hpre : element? "pre".toList (fun _ => true) t = none := hother rfl rfl (by decide) h
      rw [hscript, hpre, h]
      rfl

/-! ## All kinds -/

/-- Which kind of literal is found follows from its first characters. -/
theorem at?_cons_eq_some_iff {d : Dialect} {c : Char} {cs : Text} {kind : Kind} {w : Nat} :
    at? d (c :: cs) = some (kind, w) ↔
      (kind = .templateComment ∧ c = '{' ∧
        enclosed? d.commentPair.1 d.commentPair.2 (c :: cs) = some w) ∨
      (kind = .styleComment ∧ c = '/' ∧ enclosed? "/*".toList "*/".toList (c :: cs) = some w) ∨
      (kind = .markupComment ∧ c = '<' ∧ enclosed? "<!--".toList "-->".toList (c :: cs) = some w) ∨
      (kind = .verbatimElement ∧ c = '<' ∧ verbatimElement? (c :: cs) = some w) ∨
      (kind = .string ∧ string? (c :: cs) = some w) := by
  have hmap {f : Option Nat} {k : Kind} : f.map (k, ·) = some (kind, w) ↔ kind = k ∧ f = some w := by
    cases f with
    | none => simp
    | some v => simp [eq_comm]
  have hstring (hc : c ≠ '"' ∧ c ≠ '\x60' ∧ c ≠ '\x27') : string? (c :: cs) = none := by
    simp [string?, hc.1, hc.2.1, hc.2.2]
  rw [at?_cons, startingWith]
  by_cases hbrace : c = '{'
  · subst hbrace
    simp [hmap, hstring (by decide)]
  by_cases hslash : c = '/'
  · subst hslash
    simp [hmap, hstring (by decide)]
  by_cases hangle : c = '<'
  · subst hangle
    -- comments are tried first, but none begins where an element does
    have hcomment (h : verbatimElement? ('<' :: cs) = some w) :
        enclosed? "<!--".toList "-->".toList ('<' :: cs) = none := by
      have hnone := enclosed?_eq_none_of_verbatimElement? h (('<' :: cs).drop w)
      rwa [List.take_append_drop] at hnone
    simp only [hbrace, hslash, hstring (by decide), if_true, if_false, angled?, Option.orElse_eq_orElse,
      Option.orElse_eq_or, Option.or_eq_some_iff, Option.map_eq_none_iff, hmap]
    constructor
    · rintro (⟨hkind, h⟩ | ⟨-, hkind, h⟩)
      · exact .inr (.inr (.inl ⟨hkind, trivial, h⟩))
      · exact .inr (.inr (.inr (.inl ⟨hkind, trivial, h⟩)))
    · rintro (⟨-, h, -⟩ | ⟨-, h, -⟩ | ⟨rfl, -, h⟩ | ⟨rfl, -, h⟩ | ⟨-, h⟩)
      · simp at h
      · simp at h
      · exact .inl ⟨rfl, h⟩
      · exact .inr ⟨hcomment h, rfl, h⟩
      · simp at h
  · simp [hbrace, hslash, hangle, hmap]

/-- The grammar and the search agree. -/
theorem isComplete_iff_at? {d : Dialect} {kind : Kind} {t : Text} :
    IsComplete d kind t ↔ at? d t = some (kind, t.length) := by
  have hname : ∀ p ∈ verbatimNames, '>' ∉ p.1 := by simp [verbatimNames]
  constructor
  · intro h
    cases h with
    | @string q hq body hbody =>
      have hfound := string?_eq_length_iff.2 ⟨q, hq, body, rfl, hbody⟩
      exact at?_cons_eq_some_iff.2 (.inr (.inr (.inr (.inr ⟨rfl, hfound⟩))))
    | @templateComment rest h =>
      have hfound : enclosed? d.commentPair.1 d.commentPair.2 (d.commentPair.1 ++ rest) =
          some (d.commentPair.1 ++ rest).length := enclosed?_eq_length_iff.2 ⟨rest, rfl, h⟩
      cases d
      · exact at?_cons_eq_some_iff.2 (.inl ⟨rfl, rfl, hfound⟩)
      · exact at?_cons_eq_some_iff.2 (.inl ⟨rfl, rfl, hfound⟩)
    | @markupComment rest h =>
      have hfound : enclosed? "<!--".toList "-->".toList ("<!--".toList ++ rest) =
          some ("<!--".toList ++ rest).length := enclosed?_eq_length_iff.2 ⟨rest, rfl, h⟩
      exact at?_cons_eq_some_iff.2 (.inr (.inr (.inl ⟨rfl, rfl, hfound⟩)))
    | @styleComment rest h =>
      have hfound : enclosed? "/*".toList "*/".toList ("/*".toList ++ rest) =
          some ("/*".toList ++ rest).length := enclosed?_eq_length_iff.2 ⟨rest, rfl, h⟩
      exact at?_cons_eq_some_iff.2 (.inr (.inl ⟨rfl, rfl, hfound⟩))
    | verbatimElement hp hword hattrs hend haccepts h =>
      have helement := (element?_eq_length_iff (hname _ hp)).2
        ⟨_, _, _, rfl, hword, hattrs, hend, haccepts, h⟩
      have hfound := verbatimElement?_eq_length_iff.2 ⟨_, hp, helement⟩
      exact at?_cons_eq_some_iff.2 (.inr (.inr (.inr (.inl ⟨rfl, rfl, hfound⟩))))
  · intro h
    cases t with
    | nil => simp [at?] at h
    | cons c cs =>
      -- one case per kind of literal
      replace h := at?_cons_eq_some_iff.1 h
      rcases h with ⟨rfl, -, h⟩ | ⟨rfl, -, h⟩ | ⟨rfl, -, h⟩ | ⟨rfl, -, h⟩ | ⟨rfl, h⟩
      · obtain ⟨rest, heq, h⟩ := enclosed?_eq_length_iff.1 h
        rw [heq]
        exact .templateComment h
      · obtain ⟨rest, heq, h⟩ := enclosed?_eq_length_iff.1 h
        rw [heq]
        exact .styleComment h
      · obtain ⟨rest, heq, h⟩ := enclosed?_eq_length_iff.1 h
        rw [heq]
        exact .markupComment h
      · obtain ⟨p, hp, h⟩ := verbatimElement?_eq_length_iff.1 h
        obtain ⟨word, attrs, content, heq, hword, hattrs, hend, haccepts, h⟩ :=
          (element?_eq_length_iff (hname p hp)).1 h
        rw [heq]
        exact .verbatimElement hp hword hattrs hend haccepts h
      · obtain ⟨q, hq, body, heq, hbody⟩ := string?_eq_length_iff.1 h
        rw [heq]
        exact .string hq hbody

end Literal

end SmartyLayout
