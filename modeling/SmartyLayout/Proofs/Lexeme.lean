import Mathlib.Data.List.TakeWhile
import Mathlib.Data.Option.Basic
import SmartyLayout.Proofs.Coverage
import SmartyLayout.Proofs.Trimming

/-!
# SmartyLayout.Proofs.Lexeme — literals are self-contained

Whether a text is a literal shows in its own characters: `Literal.at?_local` says that the search
for a literal depends on the covered characters alone, and `Literal.solid_of_at?` that a literal
neither begins nor ends with a blank, so that no trimming reaches into it.

Every kind of literal is treated in turn: comments, strings, verbatim elements.
-/

namespace SmartyLayout

namespace Literal

open Text

/-! ## Comments -/

theorem enclosed?_eq_some_iff {opener closer t : Text} {w : Nat} :
    enclosed? opener closer t = some w ↔
      ∃ rest n, t = opener ++ rest ∧ through closer rest = some n ∧ w = opener.length + n := by
  simp only [enclosed?, Option.bind_eq_bind, Option.bind_eq_some_iff, after?_eq_some_iff,
    Option.some.injEq]
  constructor
  · rintro ⟨rest, rfl, n, hn, rfl⟩
    exact ⟨rest, n, rfl, hn, rfl⟩
  · rintro ⟨rest, n, rfl, hn, rfl⟩
    exact ⟨rest, rfl, n, hn, rfl⟩

theorem enclosed?_local (opener closer : Text) : Local id (enclosed? opener closer) := by
  intro t w h
  obtain ⟨rest, n, rfl, hn, rfl⟩ := enclosed?_eq_some_iff.1 h
  have hlocal := through_local closer hn
  refine ⟨by simpa using hlocal.1, fun more => ?_⟩
  refine enclosed?_eq_some_iff.2 ⟨rest.take n ++ more, n, ?_, hlocal.2 more, rfl⟩
  rw [id, List.take_length_add_append, List.append_assoc]

theorem solid_of_enclosed? {opener closer t : Text} {w : Nat} (ho : opener.Solid)
    (hc : closer.Solid) (h : enclosed? opener closer t = some w) : Solid (t.take w) := by
  obtain ⟨rest, n, rfl, hn, rfl⟩ := enclosed?_eq_some_iff.1 h
  obtain ⟨before, hbefore⟩ := (suffix_of_through hn).2
  rw [List.take_length_add_append]
  constructor
  · obtain ⟨c, cs, hopener, hblank⟩ := ho.first
    exact ⟨c, cs ++ rest.take n, by rw [hopener]; rfl, hblank⟩
  · obtain ⟨front, c, hcloser, hblank⟩ := hc.last
    exact ⟨opener ++ (before ++ front), c, by rw [← hbefore, hcloser]; simp, hblank⟩

/-! ## Strings -/

/-- A string ends with its quote. -/
theorem Quote.mark_of_closing? {q : Quote} {t : Text} {n : Nat} (h : q.closing? t = some n) :
    n ≤ t.length ∧ ∃ front, t.take n = front ++ [q.mark] := by
  fun_induction Quote.closing? q t generalizing n with
  | case1 => simp at h
  | case2 c cs hescape ih =>
    obtain ⟨m, hm, rfl⟩ := Option.map_eq_some_iff.1 h
    obtain ⟨hle, front, hfront⟩ := ih hm
    exact ⟨by simpa using hle, '\\' :: c :: front, by simp [hfront]⟩
  | case3 => simp at h
  | case4 cs =>
    cases h
    exact ⟨by simp, [], by simp⟩
  | case5 => simp at h
  | case6 c cs _ _ _ ih =>
    obtain ⟨m, hm, rfl⟩ := Option.map_eq_some_iff.1 h
    obtain ⟨hle, front, hfront⟩ := ih hm
    exact ⟨by simpa using hle, c :: front, by simp [hfront]⟩

theorem Quote.closing?_cons (q : Quote) {c : Char} (hc : c ≠ '\\') (cs : Text) :
    q.closing? (c :: cs) =
      if c = q.mark then some 1
      else if q.bars c then none
      else (q.closing? cs).map (· + 1) := by
  rw [Quote.closing?]
  · simp [hc]
  · rintro c' cs' rfl
    exact fun _ => hc rfl

theorem Quote.closing?_local {q : Quote} (hq : q.mark ≠ '\\') : Local id q.closing? := by
  intro t n h
  refine ⟨(Quote.mark_of_closing? h).1, fun rest => ?_⟩
  fun_induction Quote.closing? q t generalizing n with
  | case1 => simp at h
  | case2 c cs hescape ih =>
    obtain ⟨m, hm, rfl⟩ := Option.map_eq_some_iff.1 h
    have hrest := ih hm
    simp only [id, List.take_succ_cons, List.cons_append] at hrest ⊢
    simp [Quote.closing?, hescape, hrest]
  | case3 => simp at h
  | case4 cs hpat =>
    cases h
    rw [id, List.take_succ_cons, List.take_zero, List.singleton_append, q.closing?_cons hq]
    simp
  | case5 => simp at h
  | case6 c cs hpat hmark hbar ih =>
    obtain ⟨m, hm, rfl⟩ := Option.map_eq_some_iff.1 h
    have hrest := ih hm
    simp only [Bool.or_eq_true, decide_eq_true_eq, not_or] at hbar
    simp only [id, List.take_succ_cons, List.cons_append] at hrest ⊢
    rw [q.closing?_cons hbar.1]
    simp [hmark, hbar.2, hrest]

/-- A string is an opening quote of one of the three kinds and what follows through the closing
one. -/
theorem string?_eq_some_iff {t : Text} {w : Nat} :
    string? t = some w ↔
      ∃ q ∈ [doubleQuote, backQuote, singleQuote], ∃ rest n,
        t = q.mark :: rest ∧ q.closing? rest = some n ∧ w = n + 1 := by
  cases t with
  | nil => simp [string?]
  | cons c cs =>
    have hclose (q : Quote) : (q.closing? cs).map (· + 1) = some w ↔
        ∃ n, q.closing? cs = some n ∧ w = n + 1 := by
      rw [Option.map_eq_some_iff]
      simp only [eq_comm (a := w)]
    by_cases h1 : c = '"'
    · -- the marks differ, so the first character chooses the quote
      simp [string?, h1, hclose, doubleQuote, backQuote, singleQuote]
    · by_cases h2 : c = '\x60'
      · simp [string?, h2, hclose, doubleQuote, backQuote, singleQuote]
      · by_cases h3 : c = '\x27'
        · simp [string?, h3, hclose, doubleQuote, backQuote, singleQuote]
        · simp [string?, h1, h2, h3, doubleQuote, backQuote, singleQuote]

/-- The three quotes are neither blank nor a backslash. -/
theorem mark_facts : ∀ q ∈ [doubleQuote, backQuote, singleQuote],
    q.mark ≠ '\\' ∧ isBlank q.mark = false := by
  simp [doubleQuote, backQuote, singleQuote, isBlank]

theorem string?_local : Local id string? := by
  intro t w h
  obtain ⟨q, hq, rest, n, rfl, hn, rfl⟩ := string?_eq_some_iff.1 h
  have hlocal := Quote.closing?_local (mark_facts q hq).1 hn
  refine ⟨by simpa using hlocal.1, fun more => ?_⟩
  exact string?_eq_some_iff.2 ⟨q, hq, rest.take n ++ more, n, rfl, hlocal.2 more, rfl⟩

theorem solid_of_string? {t : Text} {w : Nat} (h : string? t = some w) : Solid (t.take w) := by
  obtain ⟨q, hq, rest, n, rfl, hn, rfl⟩ := string?_eq_some_iff.1 h
  obtain ⟨-, front, hfront⟩ := Quote.mark_of_closing? hn
  have hmark := (mark_facts q hq).2
  rw [List.take_succ_cons, hfront]
  exact ⟨⟨q.mark, _, rfl, hmark⟩, ⟨q.mark :: front, q.mark, rfl, hmark⟩⟩

/-! ## Verbatim elements -/

theorem closeTag?_eq_some_iff {name t : Text} {n : Nat} :
    closeTag? name t = some n ↔
      ∃ word blanks tail, t = '<' :: '/' :: (word ++ (blanks ++ '>' :: tail)) ∧
        word.map foldCase = name ∧ blanks.all isBlank = true ∧
        n = word.length + blanks.length + 3 := by
  simp only [closeTag?, Option.bind_eq_bind, Option.bind_eq_some_iff, after?_eq_some_iff,
    afterFolded?_eq_some_iff]
  constructor
  · rintro ⟨_, rfl, rest, ⟨word, rfl, hword⟩, hn⟩
    split at hn
    · next tail hdrop =>
      cases hn
      -- the blanks in front of the `>` are those that were passed over
      have hrest : rest = rest.takeWhile isBlank ++ '>' :: tail := by
        rw [← hdrop, List.takeWhile_append_dropWhile]
      refine ⟨word, rest.takeWhile isBlank, tail, ?_, hword, by simp, ?_⟩
      · rw [← hrest]; rfl
      · have hlen := congrArg List.length hrest
        simp only [List.length_append, List.length_cons] at hlen
        simp
        omega
    · simp at hn
  · rintro ⟨word, blanks, tail, rfl, hword, hblanks, rfl⟩
    refine ⟨_, rfl, _, ⟨word, rfl, hword⟩, ?_⟩
    have hdrop : (blanks ++ '>' :: tail).dropWhile isBlank = '>' :: tail := by
      rw [List.dropWhile_append_of_pos (by simpa using hblanks)]
      simp [isBlank]
    rw [hdrop]
    simp
    omega

theorem closeTag?_local (name : Text) : Local id (closeTag? name) := by
  intro t n h
  obtain ⟨word, blanks, tail, rfl, hword, hblanks, rfl⟩ := closeTag?_eq_some_iff.1 h
  refine ⟨?_, fun more => ?_⟩
  · simp only [id, List.length_cons, List.length_append]
    omega
  refine closeTag?_eq_some_iff.2 ⟨word, blanks, more, ?_, hword, hblanks, rfl⟩
  have htake : ('<' :: '/' :: (word ++ (blanks ++ '>' :: tail))).take
      (word.length + blanks.length + 3) = '<' :: '/' :: (word ++ (blanks ++ ['>'])) := by
    have hsplit : '<' :: '/' :: (word ++ (blanks ++ '>' :: tail)) =
        '<' :: '/' :: (word ++ (blanks ++ ['>'])) ++ tail := by simp
    rw [hsplit]
    exact List.take_left' (by simp; omega)
  rw [id, htake]
  simp

/-- A closing tag ends at the first `>` of the text. -/
theorem not_mem_of_closeTag? {name t : Text} {n : Nat} (hname : '>' ∉ name)
    (h : closeTag? name t = some n) : ∃ front, t.take n = front ++ ['>'] ∧ '>' ∉ front := by
  obtain ⟨word, blanks, tail, rfl, hword, hblanks, rfl⟩ := closeTag?_eq_some_iff.1 h
  refine ⟨'<' :: '/' :: (word ++ blanks), ?_, ?_⟩
  · have hsplit : '<' :: '/' :: (word ++ (blanks ++ '>' :: tail)) =
        ('<' :: '/' :: (word ++ blanks) ++ ['>']) ++ tail := by simp
    rw [hsplit]
    exact List.take_left' (by simp; omega)
  · have hfold : foldCase '>' = '>' := by decide
    have hblank : '>' ∉ blanks := by
      intro hmem
      have := List.all_eq_true.1 hblanks _ hmem
      exact absurd this (by decide)
    have hfree : '>' ∉ word := by
      intro hmem
      exact hname (hword ▸ hfold ▸ List.mem_map_of_mem hmem)
    simp [hfree, hblank]

/-- What runs through a closing tag ends with `>`. -/
theorem suffix_of_throughCloseTag {name t : Text} {n : Nat} (hname : '>' ∉ name)
    (h : throughCloseTag name t = some n) :
    n ≤ t.length ∧ ∃ front, t.take n = front ++ ['>'] := by
  induction t generalizing n with
  | nil => simp [throughCloseTag] at h
  | cons c cs ih =>
    unfold throughCloseTag at h
    split at h
    · next m hm =>
      cases h
      obtain ⟨front, hfront, -⟩ := not_mem_of_closeTag? hname hm
      exact ⟨(closeTag?_local name).width_le hm, front, hfront⟩
    · obtain ⟨m, hm, rfl⟩ := Option.map_eq_some_iff.1 h
      obtain ⟨hle, front, hfront⟩ := ih hm
      exact ⟨by simpa using hle, c :: front, by simp [hfront]⟩

/-- A closing tag ends at the first `>`. -/
theorem le_length_of_closeTag? {name t u : Text} (hname : '>' ∉ name) {k : Nat}
    (h : closeTag? name (t ++ u) = some k) (ht : '>' ∈ t) : k ≤ t.length := by
  obtain ⟨front, hfront, hfree⟩ := not_mem_of_closeTag? hname h
  by_contra hlong
  refine hfree (List.IsPrefix.subset ?_ ht)
  have htake : t <+: front ++ ['>'] := by
    rw [← hfront]
    exact List.prefix_take_iff.2 ⟨List.prefix_append _ _, by omega⟩
  -- the tag would be longer than `t` and so hold its `>`, but has one at its end only
  refine List.prefix_of_prefix_length_le htake (List.prefix_append _ _) ?_
  have hlen := congrArg List.length hfront
  have hle := (closeTag?_local name).width_le h
  simp only [List.length_take, List.length_append, List.length_singleton, id] at hlen hle
  omega

theorem throughCloseTag_local {name : Text} (hname : '>' ∉ name) :
    Local id (throughCloseTag name) := by
  intro t n h
  refine ⟨(suffix_of_throughCloseTag hname h).1, fun rest => ?_⟩
  induction t generalizing n with
  | nil => simp [throughCloseTag] at h
  | cons c cs ih =>
    cases hclose : closeTag? name (c :: cs) with
    | some m =>
      simp only [throughCloseTag, hclose, Option.some.injEq] at h
      subst h
      have hlocal := (closeTag?_local name hclose).2 rest
      cases m with
      | zero =>
        obtain ⟨front, hfront, -⟩ := not_mem_of_closeTag? hname hclose
        simp at hfront
      | succ m =>
        simp only [id, List.take_succ_cons, List.cons_append] at hlocal ⊢
        simp [throughCloseTag, hlocal]
    | none =>
      simp only [throughCloseTag, hclose] at h
      obtain ⟨m, hm, rfl⟩ := Option.map_eq_some_iff.1 h
      -- a closing tag at `c` would end at the first `>`, inside what was searched before
      have hnone : closeTag? name (c :: (cs.take m ++ rest)) = none := by
        obtain ⟨-, front, hfront⟩ := suffix_of_throughCloseTag hname hm
        have hmem : '>' ∈ c :: cs.take m := by simp [hfront]
        have hsame := (closeTag?_local name).find_append_eq fun k hk =>
          le_length_of_closeTag? (u := rest) hname hk hmem
        rw [← List.cons_append, hsame]
        refine (closeTag?_local name).find_eq_none_of_append (u := cs.drop m) ?_
        rwa [List.cons_append, List.take_append_drop]
      simp only [id, List.take_succ_cons, List.cons_append, throughCloseTag, hnone,
        Option.map_eq_some_iff]
      exact ⟨m, ih hm, rfl⟩

/-- An element is its name, attributes up to the first `>`, and its content through the closing
tag. -/
theorem element?_eq_some_iff {name t : Text} {accepts : Text → Bool} {w : Nat} :
    element? name accepts t = some w ↔
      ∃ word attrs content n, t = '<' :: (word ++ (attrs ++ '>' :: content)) ∧
        word.map foldCase = name ∧ '>' ∉ attrs ∧ atWordEnd (attrs ++ ['>']) = true ∧
        accepts attrs = true ∧ throughCloseTag name content = some n ∧
        w = word.length + attrs.length + 2 + n := by
  -- one character decides whether a name ends
  have hend (attrs content : Text) :
      atWordEnd (attrs ++ '>' :: content) = atWordEnd (attrs ++ ['>']) := by
    cases attrs <;> rfl
  have hfree {attrs : Text} : '>' ∉ attrs ↔ ∀ c ∈ attrs, (c != '>') = true := by
    constructor
    · intro hattrs c hc
      simpa using fun heq : c = '>' => hattrs (heq ▸ hc)
    · intro hall hmem
      simpa using hall '>' hmem
  simp only [element?, Option.bind_eq_bind, Option.bind_eq_some_iff, after?_eq_some_iff,
    afterFolded?_eq_some_iff]
  constructor
  · rintro ⟨_, rfl, rest, ⟨word, rfl, hword⟩, hw⟩
    split at hw
    · next hwordEnd =>
      split at hw
      · simp at hw
      · next c content hdrop =>
        obtain ⟨rfl, hrest⟩ := eq_of_dropWhile_bne hdrop
        split at hw
        · next haccepts =>
          obtain ⟨n, hn, hw⟩ := Option.bind_eq_some_iff.1 hw
          cases hw
          have hlen := congrArg List.length hrest
          simp only [List.length_append, List.length_cons] at hlen
          refine ⟨word, rest.takeWhile (· != '>'), content, n, ?_, hword, ?_, ?_, haccepts, hn, ?_⟩
          · rw [← hrest]; rfl
          · exact hfree.2 fun c hc => List.mem_takeWhile_imp (p := (· != '>')) hc
          · rw [← hend _ content, ← hrest]
            exact hwordEnd
          · simp only [List.length_append, List.length_cons, List.length_nil]
            omega
        · simp at hw
    · simp at hw
  · rintro ⟨word, attrs, content, n, rfl, hword, hattrs, hwordEnd, haccepts, hn, rfl⟩
    refine ⟨_, rfl, _, ⟨word, rfl, hword⟩, ?_⟩
    have hall := hfree.1 hattrs
    have htake : (attrs ++ '>' :: content).takeWhile (· != '>') = attrs := by
      rw [List.takeWhile_append_of_pos hall]
      simp
    have hdrop : (attrs ++ '>' :: content).dropWhile (· != '>') = '>' :: content := by
      rw [List.dropWhile_append_of_pos hall]
      simp
    rw [hend, if_pos hwordEnd, hdrop, htake]
    simp only [haccepts, if_true, hn, Option.bind_some, Option.some.injEq, List.length_append,
      List.length_cons]
    omega

/-- The covered part of an element. -/
theorem take_element {word attrs content : Text} (n : Nat) :
    ('<' :: (word ++ (attrs ++ '>' :: content))).take (word.length + attrs.length + 2 + n) =
      '<' :: (word ++ (attrs ++ '>' :: content.take n)) := by
  have hfront : '<' :: (word ++ (attrs ++ '>' :: content)) =
      ('<' :: (word ++ (attrs ++ ['>']))) ++ content := by simp
  have hlen : word.length + attrs.length + 2 + n =
      ('<' :: (word ++ (attrs ++ ['>']))).length + n := by
    simp only [List.length_append, List.length_cons, List.length_nil]
    omega
  rw [hfront, hlen, List.take_length_add_append]
  simp

theorem element?_local {name : Text} (hname : '>' ∉ name) (accepts : Text → Bool) :
    Local id (element? name accepts) := by
  intro t w h
  obtain ⟨word, attrs, content, n, rfl, hword, hattrs, hend, haccepts, hn, rfl⟩ :=
    element?_eq_some_iff.1 h
  have hlocal := throughCloseTag_local hname hn
  refine ⟨?_, fun more => ?_⟩
  · have := hlocal.1
    simp only [id, List.length_append, List.length_cons] at this ⊢
    omega
  · refine element?_eq_some_iff.2
      ⟨word, attrs, content.take n ++ more, n, ?_, hword, hattrs, hend, haccepts, hlocal.2 more, rfl⟩
    rw [id, take_element]
    simp

theorem solid_of_element? {name t : Text} {accepts : Text → Bool} {w : Nat} (hname : '>' ∉ name)
    (h : element? name accepts t = some w) : Solid (t.take w) := by
  obtain ⟨word, attrs, content, n, rfl, -, -, -, -, hn, rfl⟩ := element?_eq_some_iff.1 h
  obtain ⟨-, front, hfront⟩ := suffix_of_throughCloseTag hname hn
  rw [take_element, hfront]
  exact ⟨⟨'<', _, rfl, by decide⟩, ⟨'<' :: (word ++ (attrs ++ '>' :: front)), '>', by simp, by decide⟩⟩

/-- The first letter of an element's name, letter case aside. -/
theorem head_of_element? {name t : Text} {accepts : Text → Bool} {w : Nat} {p : Char} {ps : Text}
    (hname : name = p :: ps) (h : element? name accepts t = some w) :
    ∃ c rest, t = '<' :: c :: rest ∧ foldCase c = p ∧ 2 ≤ w := by
  obtain ⟨word, attrs, content, n, rfl, hword, -, -, -, -, rfl⟩ := element?_eq_some_iff.1 h
  cases word with
  | nil => simp [hname] at hword
  | cons c word =>
    simp only [hname, List.map_cons, List.cons.injEq] at hword
    exact ⟨c, _, rfl, hword.1, by simp; omega⟩

/-- Elements whose names begin with different letters do not compete. -/
theorem element?_eq_none_of_head {name name' t : Text} {accepts accepts' : Text → Bool} {w : Nat}
    {p p' : Char} {ps ps' : Text} (hname : name = p :: ps) (hname' : name' = p' :: ps')
    (hne : p ≠ p') (h : element? name' accepts' t = some w) (rest : Text) :
    element? name accepts (t.take w ++ rest) = none := by
  obtain ⟨c, tail, rfl, hc, hw⟩ := head_of_element? hname' h
  obtain ⟨k, rfl⟩ : ∃ k, w = k + 2 := ⟨w - 2, by omega⟩
  -- the letter behind the bracket is covered, so it is still there
  cases hsome : element? name accepts (('<' :: c :: tail).take (k + 2) ++ rest) with
  | none => rfl
  | some v =>
    obtain ⟨c', tail', heq, hc', -⟩ := head_of_element? hname hsome
    simp only [List.take_succ_cons, List.cons_append, List.cons.injEq, true_and] at heq
    rw [← heq.1, hc] at hc'
    exact absurd hc'.symm hne

theorem verbatimElement?_local : Local id verbatimElement? := by
  refine (element?_local (by decide) _).orElse ((element?_local (by decide) _).orElse
    (element?_local (by decide) _) ?_) ?_
  · intro t w h rest
    exact element?_eq_none_of_head rfl rfl (by decide) h rest
  · intro t w h rest
    rcases (Option.orElse_eq_some _ _ _).1 h with h | ⟨-, h⟩
    · exact element?_eq_none_of_head rfl rfl (by decide) h rest
    · exact element?_eq_none_of_head rfl rfl (by decide) h rest

/-- A verbatim element is one of three kinds of element. -/
theorem element?_of_verbatimElement? {t : Text} {w : Nat} (h : verbatimElement? t = some w) :
    ∃ name accepts, '>' ∉ name ∧ (∃ p ps, name = p :: ps ∧ p ≠ '!') ∧
      element? name accepts t = some w := by
  rcases (Option.orElse_eq_some _ _ _).1 h with h | ⟨-, h⟩
  · exact ⟨_, _, by decide, ⟨_, _, rfl, by decide⟩, h⟩
  · rcases (Option.orElse_eq_some _ _ _).1 h with h | ⟨-, h⟩
    · exact ⟨_, _, by decide, ⟨_, _, rfl, by decide⟩, h⟩
    · exact ⟨_, _, by decide, ⟨_, _, rfl, by decide⟩, h⟩

/-! ## All kinds -/

/-- A comment has `!` where an element has the first letter of its name. -/
theorem enclosed?_eq_none_of_verbatimElement? {t : Text} {w : Nat} (h : verbatimElement? t = some w)
    (rest : Text) : enclosed? "<!--".toList "-->".toList (t.take w ++ rest) = none := by
  obtain ⟨name, accepts, -, ⟨p, ps, hname, hp⟩, helement⟩ := element?_of_verbatimElement? h
  obtain ⟨c, tail, rfl, hc, hle⟩ := head_of_element? hname helement
  obtain ⟨k, rfl⟩ : ∃ k, w = k + 2 := ⟨w - 2, by omega⟩
  cases hsome : enclosed? "<!--".toList "-->".toList
      (('<' :: c :: tail).take (k + 2) ++ rest) with
  | none => rfl
  | some v =>
    obtain ⟨more, n, heq, -, -⟩ := enclosed?_eq_some_iff.1 hsome
    simp only [List.take_succ_cons, List.cons_append] at heq
    -- no name begins with `!`
    have hbang : c = '!' := (List.cons.inj (List.cons.inj heq).2).1
    subst hbang
    exact absurd (hc.symm.trans (by decide)) hp

/-- The literals that begin with `<`. -/
def angled? (t : Text) : Option (Kind × Nat) :=
  (enclosed? "<!--".toList "-->".toList t).map (Kind.markupComment, ·)
    <|> (verbatimElement? t).map (Kind.verbatimElement, ·)

theorem angled?_local : Local Prod.snd angled? := by
  have hcomment : Local Prod.snd fun t : Text =>
      (enclosed? "<!--".toList "-->".toList t).map (Kind.markupComment, ·) :=
    (enclosed?_local _ _).map fun _ => rfl
  have helement : Local Prod.snd fun t : Text =>
      (verbatimElement? t).map (Kind.verbatimElement, ·) :=
    verbatimElement?_local.map fun _ => rfl
  -- the first search finds nothing where the second one does, whatever follows
  refine hcomment.orElse helement ?_
  intro t a ha rest
  obtain ⟨w, hw, rfl⟩ := Option.map_eq_some_iff.1 ha
  exact Option.map_eq_none_iff.2 (enclosed?_eq_none_of_verbatimElement? hw rest)

/-- The search for the literals that begin with `c`. -/
def startingWith (d : Dialect) (c : Char) (t : Text) : Option (Kind × Nat) :=
  if c = '{' then (enclosed? d.commentPair.1 d.commentPair.2 t).map (Kind.templateComment, ·)
  else if c = '/' then (enclosed? "/*".toList "*/".toList t).map (Kind.styleComment, ·)
  else if c = '<' then angled? t
  else (string? t).map (Kind.string, ·)

theorem at?_cons (d : Dialect) (c : Char) (cs : Text) :
    at? d (c :: cs) = startingWith d c (c :: cs) := rfl

theorem startingWith_local (d : Dialect) (c : Char) : Local Prod.snd (startingWith d c) := by
  unfold startingWith
  split
  · exact (enclosed?_local _ _).map fun _ => rfl
  · split
    · exact (enclosed?_local _ _).map fun _ => rfl
    · split
      · exact angled?_local
      · exact string?_local.map fun _ => rfl

theorem solid_of_startingWith {d : Dialect} {c : Char} {t : Text} {kind : Kind} {w : Nat}
    (h : startingWith d c t = some (kind, w)) : Solid (t.take w) := by
  -- openers and closers have no blanks at their ends, and a literal ends with them
  have hpair (p : Text × Text) (hp : p = d.commentPair) : p.1.Solid ∧ p.2.Solid := by
    subst hp
    cases d
    · exact ⟨⟨⟨_, _, rfl, by decide⟩, ⟨['{'], '*', rfl, by decide⟩⟩,
        ⟨⟨_, _, rfl, by decide⟩, ⟨['*'], '}', rfl, by decide⟩⟩⟩
    · exact ⟨⟨⟨_, _, rfl, by decide⟩, ⟨['{', '{'], '*', rfl, by decide⟩⟩,
        ⟨⟨_, _, rfl, by decide⟩, ⟨['*', '}'], '}', rfl, by decide⟩⟩⟩
  unfold startingWith at h
  split at h
  · obtain ⟨v, hv, heq⟩ := Option.map_eq_some_iff.1 h
    cases heq
    exact solid_of_enclosed? (hpair _ rfl).1 (hpair _ rfl).2 hv
  · split at h
    · obtain ⟨v, hv, heq⟩ := Option.map_eq_some_iff.1 h
      cases heq
      refine solid_of_enclosed? ?_ ?_ hv
      · exact ⟨⟨_, _, rfl, by decide⟩, ⟨['/'], '*', rfl, by decide⟩⟩
      · exact ⟨⟨_, _, rfl, by decide⟩, ⟨['*'], '/', rfl, by decide⟩⟩
    · split at h
      · rcases (Option.orElse_eq_some _ _ _).1 h with h | ⟨-, h⟩
        · obtain ⟨v, hv, heq⟩ := Option.map_eq_some_iff.1 h
          cases heq
          refine solid_of_enclosed? ?_ ?_ hv
          · exact ⟨⟨_, _, rfl, by decide⟩, ⟨['<', '!', '-'], '-', rfl, by decide⟩⟩
          · exact ⟨⟨_, _, rfl, by decide⟩, ⟨['-', '-'], '>', rfl, by decide⟩⟩
        · obtain ⟨v, hv, heq⟩ := Option.map_eq_some_iff.1 h
          cases heq
          obtain ⟨name, accepts, hname, -, helement⟩ := element?_of_verbatimElement? hv
          exact solid_of_element? hname helement
      · obtain ⟨v, hv, heq⟩ := Option.map_eq_some_iff.1 h
        cases heq
        exact solid_of_string? hv

variable {d : Dialect}

/-- A literal neither begins nor ends with a blank. -/
theorem solid_of_at? {t : Text} {kind : Kind} {w : Nat} (h : at? d t = some (kind, w)) :
    Solid (t.take w) := by
  cases t with
  | nil => simp [at?] at h
  | cons c cs => exact solid_of_startingWith h

theorem width_pos_of_at? {t : Text} {kind : Kind} {w : Nat} (h : at? d t = some (kind, w)) :
    0 < w := by
  obtain ⟨c, rest, htake, -⟩ := (solid_of_at? h).first
  cases w with
  | zero => simp at htake
  | succ w => omega

/-- Whether a literal stands at the front of a text shows in the characters it covers. -/
theorem at?_local (d : Dialect) : Local Prod.snd (at? d) := by
  rintro t ⟨kind, w⟩ h
  have hpos := width_pos_of_at? h
  cases t with
  | nil => simp [at?] at h
  | cons c cs =>
    refine ⟨(startingWith_local d c).width_le h, fun rest => ?_⟩
    obtain ⟨k, rfl⟩ : ∃ k, w = k + 1 := ⟨w - 1, by omega⟩
    exact (startingWith_local d c h).2 rest

/-- A literal does not begin with a blank. -/
theorem at?_eq_none_of_blank {c : Char} (hc : isBlank c = true) (cs : Text) :
    at? d (c :: cs) = none := by
  cases h : at? d (c :: cs) with
  | none => rfl
  | some a =>
    obtain ⟨kind, w⟩ := a
    have hpos := width_pos_of_at? h
    obtain ⟨c', rest, htake, hblank⟩ := (solid_of_at? h).first
    obtain ⟨k, rfl⟩ : ∃ k, w = k + 1 := ⟨w - 1, by omega⟩
    simp only [List.take_succ_cons, List.cons.injEq] at htake
    rw [← htake.1, hc] at hblank
    exact absurd hblank (by decide)

end Literal

end SmartyLayout
