import SmartyLayout.Proofs.Origins
import SmartyLayout.Proofs.Partition

/-!
# SmartyLayout.Proofs.Unterminated — where unterminated markup is reported

Shielding fails at a comment that is never closed, or at the end of the text if a script or style is
still open. `Place` is a place of a text as the scan meets it: inside a logical line, below others.
Both faults are told by the list of all places.

* `itemsFrom_eq_error_iff`, by induction on the lines: the fault is that of the first place at which a
  comment opens, or else that of the element which the places leave open;
* `foldl_follow_eq_some_iff`: an element is left open by its opening tag, and no closing tag of the
  same name follows;
* `build_eq_error_iff`: the line in the report is the one on which the *logical* line of that place
  begins. Where a literal with a break stands in front of the place, on the same logical line, this is
  not the line of the place.
-/

namespace SmartyLayout

open Text LogicalLine

/-! ## Texts and folds -/

theorem Text.size_concat (t : Text) (c : Char) : size (t ++ [c]) = size t + c.utf8Size := by
  rw [size_append, size_cons, size_nil, Nat.add_zero]

/-- A run of steps that change nothing. -/
theorem foldl_eq_self {α β : Type} {f : β → α → β} {b : β} {l : List α} (h : ∀ a ∈ l, f b a = b) :
    l.foldl f b = b := by
  induction l with
  | nil => rfl
  | cons a l ih =>
    rw [List.foldl_cons, h a List.mem_cons_self]
    exact ih fun a ha => h a (List.mem_cons_of_mem _ ha)

/-- A logical line stands in the text behind the lines above it. -/
theorem LogicalLine.above_append_isPrefix (before after : List LogicalLine) (l : LogicalLine) :
    above before ++ l.text <+: unlines ((before ++ l :: after).map (·.text)) := by
  induction before with
  | nil =>
    rw [List.nil_append, List.map_cons]
    by_cases hafter : after.map (·.text) = []
    · rw [hafter, unlines_singleton]
      exact List.prefix_rfl
    · rw [unlines_cons _ hafter]
      exact List.prefix_append _ _
  | cons b before ih =>
    have hne : (before ++ l :: after).map (·.text) ≠ [] := by simp
    rw [List.cons_append, List.map_cons, unlines_cons _ hne, above, List.flatMap_cons]
    obtain ⟨rest, hrest⟩ := ih
    rw [← hrest]
    exact ⟨rest, by simp [above]⟩

namespace Shield

open Embedded (OpenElement Tag tagAt? tagsFrom tags)

/-! ## Places of a text -/

/-- A place inside a logical line: the lines above, and what stands on the line in front of the place
and behind it. -/
structure Place where
  before : List LogicalLine
  line : LogicalLine
  front : Text
  rest : Text
deriving DecidableEq, Repr

namespace Place

/-- The places on a line, from a cut on. -/
def onLine (before : List LogicalLine) (l : LogicalLine) : Text → Text → List Place
  | _, [] => []
  | front, c :: cs => ⟨before, l, front, c :: cs⟩ :: onLine before l (front ++ [c]) cs

/-- The places on the lines below the given ones, from the top. -/
def below (before : List LogicalLine) : List LogicalLine → List Place
  | [] => []
  | l :: ls => onLine before l [] l.text ++ below (before ++ [l]) ls

def textBefore (p : Place) : Text :=
  above p.before ++ p.front

/-- The physical line a place is on, from 1. -/
def sourceLine (p : Place) : Nat :=
  p.textBefore.count '\n' + 1

/-- The physical line on which the logical line of a place begins. -/
def startLine (p : Place) : Nat :=
  firstLine p.before

def free (p : Place) : Bool :=
  !p.line.inLiteral (size p.front)

/-- The script or style tag at a place. In literals and on template lines there is none. -/
def tag? (p : Place) : Option Tag :=
  if p.free && !isTemplateOnly p.line then tagAt? p.rest else none

/-- The element that is open behind a place. -/
def follow (open? : Option OpenElement) (p : Place) : Option OpenElement :=
  p.tag?.elim open? (Embedded.follow p.startLine open?)

/-- A comment opens at a place: outside literals, and with no element open above the line. -/
def opensComment (p : Place) : Bool :=
  p.free && startsWith "<!--".toList p.rest && ((below [] p.before).foldl follow none).isNone

theorem sourceLine_eq (p : Place) : p.sourceLine = p.startLine + p.front.count '\n' := by
  rw [sourceLine, textBefore, List.count_append, startLine, firstLine]
  omega

theorem of_mem_onLine {before : List LogicalLine} {l : LogicalLine} {front rest : Text} {p : Place}
    (h : p ∈ onLine before l front rest) :
    p.before = before ∧ p.line = l ∧ p.front ++ p.rest = front ++ rest := by
  induction rest generalizing front with
  | nil => simp [onLine] at h
  | cons c rest ih =>
    rw [onLine, List.mem_cons] at h
    rcases h with rfl | h
    · exact ⟨rfl, rfl, rfl⟩
    · obtain ⟨hbefore, hline, htext⟩ := ih h
      exact ⟨hbefore, hline, by simpa using htext⟩

theorem below_append (before xs ys : List LogicalLine) :
    below before (xs ++ ys) = below before xs ++ below (before ++ xs) ys := by
  induction xs generalizing before with
  | nil => simp [below]
  | cons x xs ih => simp [below, ih]

theorem below_concat (before : List LogicalLine) (l : LogicalLine) :
    below [] (before ++ [l]) = below [] before ++ onLine before l [] l.text := by
  simp [below_append, below]

theorem of_mem_below {before ls : List LogicalLine} {p : Place} (h : p ∈ below before ls) :
    (∃ after, before ++ ls = p.before ++ p.line :: after) ∧ p.front ++ p.rest = p.line.text := by
  induction ls generalizing before with
  | nil => simp [below] at h
  | cons l ls ih =>
    rw [below, List.mem_append] at h
    rcases h with h | h
    · obtain ⟨rfl, rfl, htext⟩ := of_mem_onLine h
      exact ⟨⟨ls, rfl⟩, htext⟩
    · obtain ⟨⟨after, hafter⟩, htext⟩ := ih h
      exact ⟨⟨after, by rw [← hafter, List.append_cons]⟩, htext⟩

end Place

open Place

/-! ## One line -/

section Line

variable {before : List LogicalLine} {l : LogicalLine}

/-- A tag of a line stands at one of its places outside literals. -/
theorem exists_place_of_mem_tagsFrom (before : List LogicalLine) (front : Text) {rest : Text} {tag : Tag}
    (h : tag ∈ tagsFrom l (size front) rest) :
    ∃ p ∈ onLine before l front rest, p.free = true ∧ tagAt? p.rest = some tag := by
  induction rest generalizing front with
  | nil => simp [tagsFrom] at h
  | cons c rest ih =>
    rw [tagsFrom, List.mem_append] at h
    rcases h with h | h
    · refine ⟨⟨before, l, front, c :: rest⟩, List.mem_cons_self, ?_⟩
      split at h
      · simp at h
      · next hfree => exact ⟨by simpa [free] using hfree, by simpa using h⟩
    · rw [← size_concat] at h
      obtain ⟨p, hp, hfree, htag⟩ := ih (front ++ [c]) h
      exact ⟨p, List.mem_cons_of_mem _ hp, hfree, htag⟩

theorem opensCommentFrom_iff (before : List LogicalLine) (l : LogicalLine) (front rest : Text) :
    opensCommentFrom l (size front) rest = true ↔
      ∃ p ∈ onLine before l front rest, p.free = true ∧ startsWith "<!--".toList p.rest = true := by
  induction rest generalizing front with
  | nil => simp [opensCommentFrom, onLine]
  | cons c rest ih =>
    rw [opensCommentFrom, ← size_concat, Bool.or_eq_true, ih, onLine, List.exists_mem_cons_iff,
      Bool.and_eq_true, and_comm]
    rfl

/-- Outside its literals no markup begins on a template line. -/
theorem opensMarkup_of_noMarkupFrom {front rest : Text}
    (h : noMarkupFrom l (size front) rest = true) {p : Place} (hp : p ∈ onLine before l front rest)
    (hfree : p.free = true) {cs : Text} (hcs : p.rest = '<' :: cs) : opensMarkup cs = false := by
  induction rest generalizing front with
  | nil => simp [onLine] at hp
  | cons c rest ih =>
    rw [noMarkupFrom, ← size_concat, Bool.and_eq_true] at h
    rw [onLine, List.mem_cons] at hp
    rcases hp with rfl | hp
    · obtain ⟨rfl, rfl⟩ := List.cons.inj hcs
      have hplain : l.inLiteral (size front) = false := by simpa [free] using hfree
      simpa [hplain] using h.1
    · exact ih h.2 hp

theorem noMarkupFrom_of_isTemplateOnly (h : isTemplateOnly l = true) :
    noMarkupFrom l (size []) l.text = true := by
  unfold isTemplateOnly at h
  exact (Bool.and_eq_true_iff.1 h).2

theorem opensComment_of_isTemplateOnly (h : isTemplateOnly l = true) : Shield.opensComment l = false := by
  rw [Bool.eq_false_iff]
  intro hopens
  obtain ⟨p, hp, hfree, hstart⟩ := (opensCommentFrom_iff [] l [] l.text).1 hopens
  obtain ⟨more, hmore⟩ := startsWith_iff.1 hstart
  have hrest : p.rest = '<' :: '!' :: '-' :: '-' :: more := hmore.symm
  have hmarkup := opensMarkup_of_noMarkupFrom (noMarkupFrom_of_isTemplateOnly h) hp hfree hrest
  exact absurd hmarkup (by simp [opensMarkup])

/-- Tags on a template line open: a closing tag would be markup. -/
theorem closing_of_isTemplateOnly (h : isTemplateOnly l = true) {tag : Tag} (htag : tag ∈ tags l) :
    tag.closing = false := by
  obtain ⟨p, hp, hfree, hat⟩ := exists_place_of_mem_tagsFrom [] [] htag
  unfold tagAt? at hat
  split at hat
  · next rest hrest =>
    have hmarkup := opensMarkup_of_noMarkupFrom (noMarkupFrom_of_isTemplateOnly h) hp hfree hrest
    exact absurd hmarkup (by simp [opensMarkup])
  · obtain ⟨name, -, rfl⟩ := Option.map_eq_some_iff.1 hat
    rfl
  · cases hat

/-- The tags of a line that is no template line are those at its places. -/
theorem foldl_tagsFrom (honly : isTemplateOnly l = false) (open? : Option OpenElement)
    (front rest : Text) :
    (tagsFrom l (size front) rest).foldl (Embedded.follow (firstLine before)) open? =
      (onLine before l front rest).foldl follow open? := by
  induction rest generalizing front open? with
  | nil => rfl
  | cons c rest ih =>
    have hhere : (if l.inLiteral (size front) then [] else (tagAt? (c :: rest)).toList).foldl
        (Embedded.follow (firstLine before)) open? = follow open? ⟨before, l, front, c :: rest⟩ := by
      cases hliteral : l.inLiteral (size front) with
      | true => simp [follow, tag?, free, hliteral]
      | false =>
        cases htag : tagAt? (c :: rest) with
        | none => simp [follow, tag?, free, hliteral, honly, htag]
        | some tag => simp [follow, tag?, free, hliteral, honly, htag, startLine]
    rw [tagsFrom, List.foldl_append, hhere, ← size_concat, ih, onLine, List.foldl_cons]

/-- The element that is open behind a line. Template lines are passed over only while no element is
open, which makes no difference. -/
theorem track_eq_foldl (open? : Option OpenElement) :
    (if open?.isNone && isTemplateOnly l then open? else Embedded.track (firstLine before) open? l) =
      (onLine before l [] l.text).foldl follow open? := by
  cases honly : isTemplateOnly l with
  | false =>
    rw [Bool.and_false, if_neg Bool.false_ne_true]
    exact foldl_tagsFrom honly open? [] l.text
  | true =>
    have hplaces : (onLine before l [] l.text).foldl follow open? = open? := by
      refine foldl_eq_self fun p hp => ?_
      simp [follow, tag?, (of_mem_onLine hp).2.1, honly]
    rw [hplaces]
    cases open? with
    | none => rfl
    | some e =>
      -- the tags of the line are followed after all, but none of them closes
      refine foldl_eq_self fun tag htag => ?_
      simp [Embedded.follow, closing_of_isTemplateOnly honly htag]

end Line

/-! ## All lines -/

theorem map_eq_error_iff {ε α β : Type} {f : α → β} {e : Except ε α} {fault : ε} :
    e.map f = .error fault ↔ e = .error fault := by
  cases e with
  | error other => simp [Except.map]
  | ok a => simp [Except.map]

/-- What one line adds to a fault. -/
theorem itemsFrom_cons_eq_error_iff {before ls : List LogicalLine} {l : LogicalLine}
    {open? : Option OpenElement} {fault : Beautifier.Fault} :
    itemsFrom (firstLine before) open? (l :: ls) = .error fault ↔
      if open?.isNone && Shield.opensComment l then unterminatedComment (firstLine before) = fault
      else itemsFrom (firstLine (before ++ [l])) ((onLine before l [] l.text).foldl follow open?) ls =
        .error fault := by
  rw [firstLine_concat, ← track_eq_foldl]
  conv_lhs => unfold itemsFrom
  by_cases honly : (open?.isNone && isTemplateOnly l) = true
  · have hcomment := opensComment_of_isTemplateOnly (Bool.and_eq_true_iff.1 honly).2
    simp only [honly, hcomment, if_true, Bool.and_false, Bool.false_eq_true, if_false]
    exact map_eq_error_iff
  · rw [if_neg honly, if_neg honly]
    split
    · simp
    · exact map_eq_error_iff

/-- The first place of a line at which a comment opens. -/
theorem find?_onLine (before : List LogicalLine) (l : LogicalLine) :
    ((onLine before l [] l.text).find? Place.opensComment).isSome =
      (((below [] before).foldl follow none).isNone && Shield.opensComment l) := by
  rw [Bool.eq_iff_iff, List.find?_isSome, Bool.and_eq_true]
  have hiff := opensCommentFrom_iff before l [] l.text
  constructor
  · rintro ⟨p, hp, hopens⟩
    obtain ⟨hbefore, -, -⟩ := of_mem_onLine hp
    unfold Place.opensComment at hopens
    rw [hbefore, Bool.and_eq_true, Bool.and_eq_true] at hopens
    exact ⟨hopens.2, hiff.2 ⟨p, hp, hopens.1⟩⟩
  · rintro ⟨hopen, hopens⟩
    obtain ⟨p, hp, hfree, hstart⟩ := hiff.1 hopens
    refine ⟨p, hp, ?_⟩
    unfold Place.opensComment
    rw [(of_mem_onLine hp).1, hfree, hstart, hopen]
    rfl

/-- The fault of the lines below the given ones, if the lines above have none. -/
theorem itemsFrom_eq_error_iff (before ls : List LogicalLine) (fault : Beautifier.Fault) :
    itemsFrom (firstLine before) ((below [] before).foldl follow none) ls = .error fault ↔
      (∃ p, (below before ls).find? Place.opensComment = some p ∧
        fault = unterminatedComment p.startLine) ∨
      ((below before ls).find? Place.opensComment = none ∧
        ∃ e, (below [] (before ++ ls)).foldl follow none = some e ∧ fault = unterminatedElement e) := by
  induction ls generalizing before with
  | nil =>
    rw [List.append_nil]
    cases (below [] before).foldl follow none with
    | none => simp [itemsFrom, below]
    | some e => simp [itemsFrom, below, eq_comm]
  | cons l ls ih =>
    have hfind := find?_onLine before l
    rw [itemsFrom_cons_eq_error_iff, below, List.find?_append]
    cases hfirst : (onLine before l [] l.text).find? Place.opensComment with
    | some p =>
      -- the fault is found on this line, which all its places share
      have hstart : p.startLine = firstLine before := by
        rw [startLine, (of_mem_onLine (List.mem_of_find?_eq_some hfirst)).1]
      rw [hfirst, Option.isSome_some] at hfind
      rw [← hfind, if_pos rfl]
      simp [hstart, eq_comm]
    | none =>
      rw [hfirst, Option.isSome_none] at hfind
      rw [← hfind, if_neg Bool.false_ne_true, ← List.foldl_append, ← below_concat, ih,
        Option.none_or, ← List.append_cons]

/-! ## Elements that stay open -/

/-- Of the places of a text, one has the opening tag of an element that is never closed: no other
element is open there, and no closing tag of the name follows. -/
def Unclosed (ps : List Place) (p : Place) (name : Text) : Prop :=
  ∃ before after, ps = before ++ p :: after ∧ before.foldl follow none = none ∧
    p.tag? = some ⟨false, name⟩ ∧ ∀ q ∈ after, q.tag? ≠ some ⟨true, name⟩

theorem follow_some_of_ne {e : OpenElement} {p : Place} (h : p.tag? ≠ some ⟨true, e.name⟩) :
    follow (some e) p = some e := by
  unfold follow
  cases htag : p.tag? with
  | none => rfl
  | some tag =>
    have hne : ¬ (tag.closing = true ∧ tag.name = e.name) := by
      rintro ⟨hclosing, hname⟩
      exact h (by rw [htag, ← hclosing, ← hname])
    exact if_neg hne

theorem foldl_follow_eq_some_iff {ps : List Place} {e : OpenElement} :
    ps.foldl follow none = some e ↔ ∃ p, Unclosed ps p e.name ∧ e.line = p.startLine := by
  constructor
  · intro h
    induction ps using List.reverseRecOn with
    | nil => cases h
    | append_singleton ps p ih =>
      rw [List.foldl_concat] at h
      cases hopen : ps.foldl follow none with
      | none =>
        -- the last place opens the element
        rw [hopen] at h
        unfold follow at h
        cases htag : p.tag? with
        | none => simp [htag] at h
        | some tag =>
          rw [htag, Option.elim_some, Embedded.follow] at h
          split at h
          · cases h
          · next hclosing =>
            cases h
            refine ⟨p, ⟨ps, [], rfl, hopen, ?_, by simp⟩, rfl⟩
            rw [htag, ← Bool.eq_false_iff.2 hclosing]
      | some e' =>
        -- it was open before, and the last place does not close it
        rw [hopen] at h
        have hne : p.tag? ≠ some ⟨true, e'.name⟩ := by
          intro htag
          simp [follow, htag, Embedded.follow] at h
        rw [follow_some_of_ne hne] at h
        cases h
        obtain ⟨q, ⟨front, after, rfl, hfront, htag, hafter⟩, hline⟩ := ih hopen
        refine ⟨q, ⟨front, after ++ [p], by simp, hfront, htag, ?_⟩, hline⟩
        intro r hr
        rcases List.mem_append.1 hr with hr | hr
        · exact hafter r hr
        · rw [List.mem_singleton.1 hr]
          exact hne
  · rintro ⟨p, ⟨before, after, rfl, hbefore, htag, hafter⟩, hline⟩
    have hhere : follow none p = some e := by
      simp [follow, htag, Embedded.follow, ← hline]
    rw [List.foldl_append, hbefore, List.foldl_cons, hhere]
    exact foldl_eq_self fun q hq => follow_some_of_ne (hafter q hq)

/-! ## Reports -/

def places (d : Dialect) (t : Text) : List Place :=
  below [] (split d t)

/-- Shielding fails exactly in two cases. Either a comment opens and is not closed; the first such
place is reported. Or there is none, and a script or style is never closed; its opening tag is
reported. What is reported of a place is the physical line on which its logical line begins. This is
the line of the place itself, unless a literal that holds a break stands in front of it. -/
theorem build_eq_error_iff (d : Dialect) (t : Text) :
    (∀ fault, build d t = .error fault ↔
      (∃ p, (places d t).find? Place.opensComment = some p ∧
        fault = unterminatedComment p.startLine) ∨
      ((places d t).find? Place.opensComment = none ∧
        ∃ p name, Unclosed (places d t) p name ∧
          fault = unterminatedElement ⟨name, p.startLine⟩)) ∧
    ∀ p ∈ places d t, p.textBefore ++ p.rest <+: t ∧ p.startLine ≤ p.sourceLine ∧
      (p.startLine ≠ p.sourceLine ↔
        ∃ before after, p.front = before ++ '\n' :: after ∧
          p.line.inLiteral (size before) = true) := by
  constructor
  · intro fault
    have hrun := itemsFrom_eq_error_iff [] (split d t) fault
    rw [build, map_eq_error_iff]
    refine hrun.trans (or_congr Iff.rfl (and_congr Iff.rfl ?_))
    constructor
    · rintro ⟨e, hopen, rfl⟩
      obtain ⟨p, hunclosed, hline⟩ := foldl_follow_eq_some_iff.1 hopen
      exact ⟨p, e.name, hunclosed, by rw [← hline]⟩
    · rintro ⟨p, name, hunclosed, rfl⟩
      exact ⟨⟨name, p.startLine⟩, foldl_follow_eq_some_iff.2 ⟨p, hunclosed, rfl⟩, rfl⟩
  · intro p hp
    obtain ⟨⟨after, hsplit⟩, htext⟩ := of_mem_below hp
    rw [List.nil_append] at hsplit
    have hline := p.sourceLine_eq
    refine ⟨?_, by omega, ?_⟩
    · have hstands := above_append_isPrefix p.before after p.line
      rw [← hsplit, unlines_split, ← htext, ← List.append_assoc] at hstands
      exact hstands
    · constructor
      · intro hne
        have hmem : '\n' ∈ p.front := List.count_pos_iff.1 (by omega)
        obtain ⟨x, y, hfront⟩ := List.append_of_mem hmem
        have hwell : p.line.WellFormed d := wellFormed_of_mem_split (t := t) (by simp [hsplit])
        refine ⟨x, y, hfront, hwell.breaks x (y ++ p.rest) ?_⟩
        rw [← htext, hfront, List.append_assoc, List.cons_append]
      · rintro ⟨x, y, hfront, -⟩
        have hpos : 0 < p.front.count '\n' := by
          rw [hfront]
          exact List.count_pos_iff.2 (by simp)
        omega

/-- A script behind a comment over two lines is reported on the first line, which holds no angle
bracket. -/
theorem report_without_bracket :
    ¬ ∀ d t line message, build d t = .error (.unparseable line message) →
      ∃ front rest, t = front ++ '<' :: rest ∧ line = front.count '\n' + 1 := by
  intro h
  let t := "\x7b* a\nb *\x7d<script>".toList
  have hbuild : build .single t = .error (.unparseable 1 "unterminated <script> element") := by
    decide
  obtain ⟨front, rest, ht, hline⟩ := h .single t 1 _ hbuild
  -- a break stands in front of the only angle bracket
  have hbreak : ∀ k < t.length, t[k]? = some '<' → '\n' ∈ t.take k := by decide
  have hmem := hbreak front.length (by simp [ht]) (by simp [ht])
  rw [ht, List.take_left] at hmem
  have hpos := List.count_pos_iff.2 hmem
  omega

end Shield

end SmartyLayout
