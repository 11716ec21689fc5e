import SmartyLayout.Proofs.MarkedLiterals
import SmartyLayout.Proofs.Reading

/-!
# SmartyLayout.Proofs.MarkedReading — a text with markers is read as the text is

A literal that markers fall into stays a literal of its kind (`at?_guarded_of_sturdy`), unless it is
`frail` there: the first marker inside a style comment ends it, and the tags of an element may not be
read behind a marker as they were.
-/

namespace SmartyLayout

namespace IgnoreMarker

open Text Literal

/-! ## Literals that markers fall into -/

/-- A marker at this place may change a literal: a style comment, or the tags of an element. `front`
is the part of the literal in front of the place and `back` the part behind it. -/
def frail (kind : Kind) (front back : Text) : Bool :=
  match kind with
  | .styleComment => true
  | .verbatimElement => decide ('>' ∉ front ∨ '<' ∉ back)
  | _ => false

/-- Every marker that falls into the literal falls where it is not frail. -/
def Sturdy (kind : Kind) (ss : List Sign) : Prop :=
  ∀ xs side g ys, ss = xs ++ .mark side g :: ys → frail kind (source xs) (g ++ source ys) = false

/-- No marker falls into the opening tag of a sturdy element. -/
theorem Sturdy.eq_map_left {xs ys : List Sign} (h : Sturdy .verbatimElement (xs ++ ys))
    (hfront : '>' ∉ source xs) : xs = (source xs).map .char := by
  refine eq_map_of_no_mark fun side g hmem => ?_
  obtain ⟨as, bs, rfl⟩ := List.append_of_mem hmem
  have hhere := h as side g (bs ++ ys) (by simp)
  rw [source_append, List.mem_append, not_or] at hfront
  simp [frail, hfront.1] at hhere

/-- No marker falls into the closing tag of a sturdy element. -/
theorem Sturdy.eq_map_right {xs ys : List Sign} (h : Sturdy .verbatimElement (xs ++ ys))
    (hback : '<' ∉ source ys) : ys = (source ys).map .char := by
  refine eq_map_of_no_mark fun side g hmem => ?_
  obtain ⟨as, bs, rfl⟩ := List.append_of_mem hmem
  have hhere := h (xs ++ as) side g bs (by simp)
  rw [source_append, source_mark, List.mem_append, not_or] at hback
  simp [frail, hback.2] at hhere

/-- A text in which no line begins or ends is not divided by markers. -/
theorem infix_guarded_of_infix_source {p e : Char} {ss : List Sign} {w : Text}
    (hss : Placed AtBreak p ss) (he : e ≠ '\t' ∧ e ≠ ' ')
    (hbehind : ∀ c ∈ (e :: w).dropLast, c ≠ '\n' ∧ c ≠ '>') (hfront : ∀ c ∈ w, c ≠ '\n' ∧ c ≠ '<')
    (h : e :: w <:+: source ss) : e :: w <:+: guarded ss := by
  obtain ⟨before, after, heq⟩ := h
  have hsplit : source ss = before ++ e :: (w ++ after) := by
    rw [← heq]
    simp
  obtain ⟨xs, ys, rfl, -, hys⟩ := exists_of_source_eq_append_cons hss he hsplit
  obtain ⟨zs, rfl, -⟩ := exists_of_source_eq_append hss.of_append_char hbehind hfront hys
  exact ⟨guarded xs, guarded zs, by simp⟩

theorem isSome_enclosed?_guarded {d : Dialect} {p : Text × Text} (hp : IsMarkPair d p) {c : Char}
    {ss : List Sign} (hss : Placed AtBreak c ss)
    (h : (enclosed? p.1 p.2 (c :: source ss)).isSome = true) :
    (enclosed? p.1 p.2 (c :: guarded ss)).isSome = true := by
  have hpair : ∃ e opener e' closer, p = (e :: opener, e' :: closer) ∧
      (∀ c ∈ (e :: opener).dropLast, c ≠ '\n' ∧ c ≠ '>') ∧ (∀ c ∈ opener, c ≠ '\n' ∧ c ≠ '<') ∧
      (e' ≠ '\t' ∧ e' ≠ ' ') ∧ (∀ c ∈ (e' :: closer).dropLast, c ≠ '\n' ∧ c ≠ '>') ∧
      ∀ c ∈ closer, c ≠ '\n' ∧ c ≠ '<' := by
    rcases hp with rfl | rfl
    · cases d
      · exact ⟨'{', ['*'], '*', ['}'], rfl, forall_mem_of_all (by decide), forall_mem_of_all (by decide),
          by decide, forall_mem_of_all (by decide), forall_mem_of_all (by decide)⟩
      · exact ⟨'{', ['{', '*'], '*', ['}', '}'], rfl, forall_mem_of_all (by decide),
          forall_mem_of_all (by decide), by decide, forall_mem_of_all (by decide), forall_mem_of_all (by decide)⟩
    · exact ⟨'<', ['!', '-', '-'], '-', ['-', '>'], rfl, forall_mem_of_all (by decide),
        forall_mem_of_all (by decide), by decide, forall_mem_of_all (by decide), forall_mem_of_all (by decide)⟩
  obtain ⟨e, opener, e', closer, rfl, hbehind, hfront, he', hbehind', hfront'⟩ := hpair
  obtain ⟨rest, heq, hin⟩ := isSome_enclosed?_iff.1 h
  rw [List.cons_append, List.cons.injEq] at heq
  obtain ⟨rfl, heq⟩ := heq
  obtain ⟨ss', rfl, rfl⟩ := exists_of_source_eq_append hss hbehind hfront heq
  refine isSome_enclosed?_iff.2 ⟨guarded ss', by simp, ?_⟩
  exact infix_guarded_of_infix_source hss.of_map_append he' hbehind' hfront' hin

theorem isSome_element?_guarded {p : Text × (Text → Bool)} (hp : p ∈ verbatimNames) {c : Char}
    {ss : List Sign} (hss : Placed AtBreak c ss) (hsturdy : Sturdy .verbatimElement (.char c :: ss))
    (h : Literal.element? p.1 p.2 (c :: source ss) = some (c :: source ss).length) :
    (Literal.element? p.1 p.2 (c :: guarded ss)).isSome = true := by
  obtain ⟨-, hname, -⟩ := verbatimNames_facts hp
  have hmarks {word : Text} (hword : word.map foldCase = p.1) : '>' ∉ word ∧ '<' ∉ word := by
    have hfacts := fold_facts hword fun c hc => (hname c hc).imp id .inr
    exact ⟨fun hmem => (hfacts _ hmem).2.2.2.2.2.2 rfl, fun hmem => (hfacts _ hmem).2.2.2.2.2.1 rfl⟩
  have hangle : '>' ∉ p.1 := by
    intro hmem
    exact absurd (hname _ hmem) (by decide)
  obtain ⟨word, attrs, content, heq, hword, hattrs, hend, haccepts, hshort⟩ :=
    (element?_eq_length_iff hangle).1 h
  rw [List.cons.injEq] at heq
  obtain ⟨rfl, heq⟩ := heq
  have hopening : source ss = (word ++ attrs) ++ '>' :: content := by
    rw [heq]
    simp
  obtain ⟨as, bs, rfl, has, rfl⟩ := exists_of_source_eq_append_cons hss (by decide) hopening
  -- no marker falls into the opening tag
  have htag : as = (word ++ attrs).map .char := by
    have hfree : '>' ∉ source (.char '<' :: as) := by
      intro hmem
      simp only [source_char, has, List.mem_cons, List.mem_append] at hmem
      rcases hmem with hmem | hmem | hmem
      · exact absurd hmem (by decide)
      · exact (hmarks hword).1 hmem
      · exact hattrs hmem
    have hall : Sturdy .verbatimElement ((.char '<' :: as) ++ .char '>' :: bs) := hsturdy
    have hmap := hall.eq_map_left hfree
    rw [source_char, has, List.map_cons, List.cons.injEq] at hmap
    exact hmap.2
  obtain ⟨⟨_, ⟨word', blanks, rfl, hword', hblanks⟩, before, after, hcontent⟩, hshort⟩ := hshort
  -- the element is as short as can be, so the closing tag ends it
  have hclosing : source bs = before ++ '<' :: ('/' :: (word' ++ (blanks ++ ['>']))) := by
    refine (hshort _ ⟨after, ?_⟩ ⟨_, ⟨word', blanks, rfl, hword', hblanks⟩, before, [], ?_⟩).symm
    · rw [← hcontent]
    · simp
  have hbs : Placed AtBreak '>' bs := hss.of_append_char
  obtain ⟨cs, ds, rfl, -, hds⟩ := exists_of_source_eq_append_cons hbs (by decide) hclosing
  -- nor does one fall into the closing tag
  have hclose : ds = ('/' :: (word' ++ (blanks ++ ['>']))).map .char := by
    have hfree : '<' ∉ source ds := by
      intro hmem
      simp only [hds, List.mem_cons, List.mem_append, List.not_mem_nil, or_false] at hmem
      rcases hmem with hmem | hmem | hmem | hmem
      · exact absurd hmem (by decide)
      · exact (hmarks hword').2 hmem
      · exact absurd (blank_iff.1 hblanks _ hmem) (by decide)
      · exact absurd hmem (by decide)
    have hall : Sturdy .verbatimElement
        ((.char '<' :: (as ++ .char '>' :: (cs ++ [.char '<']))) ++ ds) := by simpa using hsturdy
    rw [← hds]
    exact hall.eq_map_right hfree
  refine isSome_element?_iff.2 ⟨word, attrs, guarded (cs ++ .char '<' :: ds), ?_, hword, hattrs, hend,
    haccepts, _, ⟨word', blanks, rfl, hword', hblanks⟩, ?_⟩
  · rw [htag]
    simp
  · rw [hclose]
    exact ⟨guarded cs, [], by simp⟩

/-- Where a literal stands in the text, one of its kind is found in the text with markers. -/
theorem exists_at?_guarded {d : Dialect} {kind : Kind} {c : Char} {ss rest : List Sign}
    (hss : Placed AtLineEnd c (ss ++ rest)) (hsturdy : Sturdy kind (.char c :: ss))
    (hstyle : kind ≠ .styleComment) (h : at? d (c :: source ss) = some (kind, (c :: source ss).length)) :
    ∃ w, at? d (c :: guarded ss) = some (kind, w) := by
  have hbreak : Placed AtBreak c ss := hss.atBreak.left
  rcases at?_cons_eq_some_iff.1 h with
    ⟨rfl, rfl, hfind⟩ | ⟨rfl, -, -⟩ | ⟨rfl, rfl, hfind⟩ | ⟨rfl, rfl, hfind⟩ | ⟨rfl, hfind⟩
  · have hsome := isSome_enclosed?_guarded (.inl rfl) hbreak (Option.isSome_of_eq_some hfind)
    obtain ⟨w, hw⟩ := Option.isSome_iff_exists.1 hsome
    exact ⟨w, at?_cons_eq_some_iff.2 (.inl ⟨rfl, rfl, hw⟩)⟩
  · exact absurd rfl hstyle
  · have hsome := isSome_enclosed?_guarded (d := d) (.inr rfl) hbreak (Option.isSome_of_eq_some hfind)
    obtain ⟨w, hw⟩ := Option.isSome_iff_exists.1 hsome
    exact ⟨w, at?_cons_eq_some_iff.2 (.inr (.inr (.inl ⟨rfl, rfl, hw⟩)))⟩
  · obtain ⟨p, hp, hfind⟩ := verbatimElement?_eq_length_iff.1 hfind
    have hsome := isSome_verbatimElement?_iff.2 ⟨p, hp, isSome_element?_guarded hp hbreak hsturdy hfind⟩
    obtain ⟨w, hw⟩ := Option.isSome_iff_exists.1 hsome
    exact ⟨w, at?_cons_eq_some_iff.2 (.inr (.inr (.inr (.inl ⟨rfl, rfl, hw⟩))))⟩
  · obtain ⟨q, hq, hc, hclose⟩ := isSome_string?_cons.1 (Option.isSome_of_eq_some hfind)
    rw [← (isSome_closing?_guarded hq hss).1] at hclose
    obtain ⟨w, hw⟩ := Option.isSome_iff_exists.1 (isSome_string?_cons.2 ⟨q, hq, hc, hclose⟩)
    exact ⟨w, at?_cons_eq_some_iff.2 (.inr (.inr (.inr (.inr ⟨rfl, hw⟩))))⟩

theorem eq_styleComment_of_at?_slash {d : Dialect} {kind : Kind} {t : Text} {w : Nat}
    (h : at? d ('/' :: t) = some (kind, w)) : kind = .styleComment := by
  rcases at?_cons_eq_some_iff.1 h with ⟨-, hc, -⟩ | ⟨hkind, -⟩ | ⟨-, hc, -⟩ | ⟨-, hc, -⟩ | ⟨-, hstring⟩
  · exact absurd hc (by decide)
  · exact hkind
  · exact absurd hc (by decide)
  · exact absurd hc (by decide)
  · simp [string?] at hstring

/-- A literal that markers fall into stays a literal of its kind. -/
theorem at?_guarded_of_sturdy {d : Dialect} {kind : Kind} {c e : Char} {ss rest : List Sign}
    (hss : Placed AtLineEnd c (ss ++ .char e :: rest)) (hsturdy : Sturdy kind (.char c :: (ss ++ [.char e])))
    (h : at? d (c :: source (ss ++ [.char e])) = some (kind, (c :: source (ss ++ [.char e])).length)) :
    at? d (c :: guarded (ss ++ [.char e])) = some (kind, (c :: guarded (ss ++ [.char e])).length) := by
  by_cases hstyle : kind = .styleComment
  · subst hstyle
    have hmap : ss ++ [.char e] = (source (ss ++ [.char e])).map .char := by
      refine eq_map_of_no_mark fun side g hmem => ?_
      obtain ⟨as, bs, hsplit⟩ := List.append_of_mem hmem
      exact absurd (hsturdy (.char c :: as) side g bs (by rw [hsplit]; rfl)) (by simp [frail])
    rw [hmap, source_map] at h
    rw [hmap, guarded_map]
    exact h
  have hall : Placed AtLineEnd c ((ss ++ [.char e]) ++ rest) := by simpa using hss
  obtain ⟨w, hw⟩ := exists_at?_guarded hall hsturdy hstyle h
  have hle : w ≤ (c :: guarded (ss ++ [.char e])).length := (at?_local d).width_le hw
  suffices hlong : ¬ w ≤ (c :: guarded ss).length by
    have hlen : (c :: guarded (ss ++ [.char e])).length = (c :: guarded ss).length + 1 := by simp
    have hw' : w = (c :: guarded (ss ++ [.char e])).length := by omega
    rw [hw, hw']
  -- what is found in front of the last character is found in the text too
  intro hshort
  have hsplit : c :: guarded (ss ++ [.char e]) = (c :: guarded ss) ++ [e] := by simp
  rw [hsplit] at hw
  have hfront := (at?_local d).find_of_append hw hshort
  cases hsource : at? d (c :: source ss) with
  | none =>
    have hnone := at?_guarded_eq_none hss ?_ hsource
    · rw [hfront] at hnone
      simp at hnone
    · rintro rfl
      exact absurd (eq_styleComment_of_at?_slash hfront) hstyle
  | some found =>
    have hwhole := (at?_local d).find_append hsource [e]
    have hsplit : c :: source (ss ++ [.char e]) = (c :: source ss) ++ [e] := by simp
    rw [hsplit, hwhole, Option.some.injEq] at h
    have hwidth := (at?_local d).width_le hsource
    rw [h, List.length_append] at hwidth
    simp only [List.length_cons, List.length_nil] at hwidth
    omega

/-! ## Places -/

/-- The places of the markers in a list of signs, counted in characters of the text; `n` characters
stand in front. -/
def places : (n : Nat) → List Sign → List Nat
  | _, [] => []
  | n, .char _ :: ss => places (n + 1) ss
  | n, .mark _ g :: ss => n :: places (n + g.length) ss

/-- The places at which a marker changes how the units behind it are read: places inside a literal
that are barred there, and all places behind the front of a style comment that is not closed. -/
def barredPlaces (barred : Kind → Text → Text → Bool) : (n : Nat) → List Atom → List Nat
  | _, [] => []
  | n, .plain c :: us =>
    if c = '/' ∧ (Atom.written us).head? = some '*' then
      List.range' (n + 1) ((Atom.written us).length + 1)
    else barredPlaces barred (n + 1) us
  | n, .literal kind lexeme :: us =>
    (List.range' (n + 1) (lexeme.length - 1)).filter
        (fun k => barred kind (lexeme.take (k - n)) (lexeme.drop (k - n))) ++
      barredPlaces barred (n + lexeme.length) us

theorem places_append (n : Nat) (xs ys : List Sign) :
    places n (xs ++ ys) = places n xs ++ places (n + (source xs).length) ys := by
  induction xs generalizing n with
  | nil => rfl
  | cons s xs ih =>
    cases s with
    | char c =>
      rw [List.cons_append, places, places, ih, source_char, List.length_cons]
      congr 2
      omega
    | mark side g =>
      rw [List.cons_append, places, places, ih, source_mark, List.length_append, List.cons_append]
      congr 3
      omega

theorem barredPlaces_map_plain_append {barred : Kind → Text → Text → Bool} {g : Text}
    (hg : ∀ c ∈ g, c = '\t' ∨ c = ' ') (n : Nat) (us : List Atom) :
    barredPlaces barred n (g.map .plain ++ us) = barredPlaces barred (n + g.length) us := by
  induction g generalizing n with
  | nil => rfl
  | cons c g ih =>
    have hc : c ≠ '/' := by
      rintro rfl
      rcases hg '/' (by simp) with h | h <;> exact absurd h (by decide)
    rw [List.map_cons, List.cons_append, barredPlaces, if_neg (fun h => hc h.1),
      ih fun e he => hg e (List.mem_cons_of_mem c he), List.length_cons]
    congr 1
    omega

/-- No place behind the last character. -/
theorem le_of_mem_places {n k : Nat} {ss : List Sign} (h : k ∈ places n ss) :
    n ≤ k ∧ k ≤ n + (source ss).length := by
  induction ss generalizing n with
  | nil => simp [places] at h
  | cons s ss ih =>
    cases s with
    | char c =>
      have hlater := ih h
      rw [source_char, List.length_cons]
      omega
    | mark side g =>
      rw [source_mark, List.length_append]
      rcases List.mem_cons.1 h with rfl | h
      · omega
      · have hlater := ih h
        omega

theorem exists_mem_places {n : Nat} {ss : List Sign} {side : Side} {g : Text} (h : .mark side g ∈ ss) :
    ∃ k, k ∈ places n ss := by
  obtain ⟨xs, ys, rfl⟩ := List.append_of_mem h
  exact ⟨n + (source xs).length, by simp [places_append, places]⟩

theorem exists_mark_of_mem_places {n k : Nat} {ss : List Sign} (h : k ∈ places n ss) :
    ∃ side g, .mark side g ∈ ss := by
  induction ss generalizing n with
  | nil => simp [places] at h
  | cons s ss ih =>
    cases s with
    | char c =>
      obtain ⟨side, g, hmem⟩ := ih h
      exact ⟨side, g, List.mem_cons_of_mem _ hmem⟩
    | mark side g => exact ⟨side, g, List.mem_cons_self⟩

/-! ## Units with markers -/

/-- A unit of a text with the markers inside it, or a marker between units. -/
inductive MarkedAtom where
  | plain (c : Char)
  | literal (kind : Kind) (ss : List Sign)
  | mark (side : Side) (dropped : Text)
deriving Repr

namespace MarkedAtom

def signs : MarkedAtom → List Sign
  | .plain c => [.char c]
  | .literal _ ss => ss
  | .mark side g => [.mark side g]

def atoms : MarkedAtom → List Atom
  | .plain c => [.plain c]
  | .literal kind ss => [.literal kind (source ss)]
  | .mark _ g => g.map .plain

/-- The units of the text with markers. -/
def guardedAtoms : MarkedAtom → List Atom
  | .plain c => [.plain c]
  | .literal kind ss => [.literal kind (IgnoreMarker.guarded ss)]
  | .mark side _ => [.literal .styleComment side.marker]

@[simp] theorem signs_plain (c : Char) : (plain c).signs = [.char c] := rfl

@[simp] theorem signs_literal (kind : Kind) (ss : List Sign) : (literal kind ss).signs = ss := rfl

@[simp] theorem signs_mark (side : Side) (g : Text) : (mark side g).signs = [.mark side g] := rfl

@[simp] theorem atoms_plain (c : Char) : (plain c).atoms = [.plain c] := rfl

@[simp] theorem atoms_literal (kind : Kind) (ss : List Sign) :
    (literal kind ss).atoms = [.literal kind (source ss)] := rfl

@[simp] theorem atoms_mark (side : Side) (g : Text) : (mark side g).atoms = g.map .plain := rfl

@[simp] theorem guardedAtoms_plain (c : Char) : (plain c).guardedAtoms = [.plain c] := rfl

@[simp] theorem guardedAtoms_literal (kind : Kind) (ss : List Sign) :
    (literal kind ss).guardedAtoms = [.literal kind (IgnoreMarker.guarded ss)] := rfl

@[simp] theorem guardedAtoms_mark (side : Side) (g : Text) :
    (mark side g).guardedAtoms = [.literal .styleComment side.marker] := rfl

/-- Markers inside a literal stand between its characters. -/
def Bounded : MarkedAtom → Prop
  | .literal _ ss => ∃ xs e, ss = xs ++ [.char e] ∧ (xs = [] ∨ ∃ c xs', xs = .char c :: xs')
  | _ => True

end MarkedAtom

theorem written_atoms (ms : List MarkedAtom) :
    Atom.written (ms.flatMap (·.atoms)) = source (ms.flatMap (·.signs)) := by
  induction ms with
  | nil => rfl
  | cons m ms ih =>
    rw [List.flatMap_cons, List.flatMap_cons, Atom.written_append, source_append, ih]
    cases m with
    | plain c => rfl
    | literal kind ss => simp
    | mark side g => simp

theorem written_guardedAtoms (ms : List MarkedAtom) :
    Atom.written (ms.flatMap (·.guardedAtoms)) = guarded (ms.flatMap (·.signs)) := by
  induction ms with
  | nil => rfl
  | cons m ms ih =>
    rw [List.flatMap_cons, List.flatMap_cons, Atom.written_append, guarded_append, ih]
    cases m with
    | plain c => rfl
    | literal kind ss => simp
    | mark side g => simp

/-- The units of a text take up its markers. -/
theorem exists_markedAtoms {d : Dialect} {atEnd : List Sign → Prop} {p : Char} {us : List Atom}
    {ss : List Sign} (hus : Atom.Reads d us) (hss : Placed atEnd p ss)
    (h : Atom.written us = source ss) :
    ∃ ms : List MarkedAtom, ms.flatMap (·.signs) = ss ∧ ms.flatMap (·.atoms) = us ∧
      ∀ m ∈ ms, m.Bounded := by
  have hnext {m : MarkedAtom} {us : List Atom} {ss : List Sign} (hm : m.Bounded)
      (hrest : ∃ ms : List MarkedAtom, ms.flatMap (·.signs) = ss ∧ ms.flatMap (·.atoms) = us ∧
        ∀ m ∈ ms, m.Bounded) :
      ∃ ms : List MarkedAtom, ms.flatMap (·.signs) = m.signs ++ ss ∧
        ms.flatMap (·.atoms) = m.atoms ++ us ∧ ∀ m ∈ ms, m.Bounded := by
    obtain ⟨ms, rfl, rfl, hms⟩ := hrest
    exact ⟨m :: ms, rfl, rfl, List.forall_mem_cons.2 ⟨hm, hms⟩⟩
  -- on the number of signs, since a literal takes many
  induction hn : ss.length using Nat.strong_induction_on generalizing p us ss with
  | _ n ih =>
    cases ss with
    | nil =>
      cases us with
      | nil => exact ⟨[], rfl, rfl, by simp⟩
      | cons a us =>
        cases a with
        | plain c => simp at h
        | literal kind lexeme =>
          obtain ⟨e, tail, rfl, -⟩ := (Atom.sound_of_starts hus.1).first
          simp at h
    | cons s ss =>
      rw [List.length_cons] at hn
      cases s with
      | mark side g =>
        have hfirst : Placed atEnd p ([] ++ .mark side g :: ss) := hss
        obtain ⟨us, rfl, hrest⟩ :=
          Atom.exists_blank_append hus.sound (isBlank_of_indent hfirst.dropped) h
        have hus := hus.of_append
        have hlater : Placed atEnd p ss := by
          cases side with
          | start => exact hss.2.2
          | stop => exact hss.2.2
        exact hnext (m := .mark side g) trivial (ih ss.length (by omega) hus hlater hrest rfl)
      | char c =>
        cases us with
        | nil => simp at h
        | cons a us =>
          cases a with
          | plain e =>
            rw [Atom.written_cons, Atom.text_plain, List.singleton_append, source_char,
              List.cons.injEq] at h
            obtain ⟨rfl, h⟩ := h
            exact hnext (m := .plain e) trivial
              (ih ss.length (by omega) hus.2 (placed_char.1 hss) h rfl)
          | literal kind lexeme =>
            -- the literal ends with a character that no marker takes the place of
            obtain ⟨front, e, rfl, he⟩ := (Atom.sound_of_starts hus.1).last
            have hvisible : e ≠ '\t' ∧ e ≠ ' ' := by
              constructor
              · rintro rfl
                exact absurd he (by decide)
              · rintro rfl
                exact absurd he (by decide)
            have hsplit : source (.char c :: ss) = front ++ e :: Atom.written us := by
              rw [← h]
              simp
            obtain ⟨xs, ys, hxs, rfl, hys⟩ := exists_of_source_eq_append_cons hss hvisible hsplit
            have hbounded : (MarkedAtom.literal kind (xs ++ [.char e])).Bounded := by
              refine ⟨xs, e, rfl, ?_⟩
              cases xs with
              | nil => exact .inl rfl
              | cons s xs =>
                obtain rfl : s = .char c := (List.cons.inj hxs).1.symm
                exact .inr ⟨c, xs, rfl⟩
            have hlen := congrArg List.length hxs
            rw [List.length_cons, List.length_append, List.length_cons] at hlen
            have hlater : Placed atEnd e ys := by
              rw [hxs] at hss
              exact hss.of_append_char
            have hrest := hnext hbounded (ih ys.length (by omega) hus.2 hlater hys.symm rfl)
            rw [hxs]
            simpa using hrest

/-- A marker inside a literal stands at no barred place. -/
theorem eq_false_of_places {barred : Kind → Text → Text → Bool} {kind : Kind} {ss : List Sign} {n : Nat}
    {us : List Atom} (hbounded : (MarkedAtom.literal kind ss).Bounded)
    (hplaces : ∀ k ∈ places n ss, k ∉ barredPlaces barred n (.literal kind (source ss) :: us))
    {xs ys : List Sign} {side : Side} {g : Text} (hss : ss = xs ++ .mark side g :: ys) :
    barred kind (source xs) (g ++ source ys) = false := by
  obtain ⟨front, e, hlast, hfirst⟩ := hbounded
  -- characters stand in front of the marker and behind it
  have hxs : 0 < (source xs).length := by
    cases xs with
    | nil =>
      rcases hfirst with rfl | ⟨c, front', rfl⟩
      · simp [hlast] at hss
      · rw [hlast] at hss
        simp at hss
    | cons s xs =>
      have hs : ∃ c, s = .char c := by
        rcases hfirst with rfl | ⟨c, front', rfl⟩
        · rw [hlast] at hss
          exact ⟨e, (List.cons.inj hss).1.symm⟩
        · rw [hlast] at hss
          exact ⟨c, (List.cons.inj hss).1.symm⟩
      obtain ⟨c, rfl⟩ := hs
      simp
  have hys : 0 < (source ys).length := by
    rcases List.eq_nil_or_concat ys with rfl | ⟨ys', s, rfl⟩
    · rw [hlast] at hss
      have hlasts := List.append_inj_right' hss rfl
      simp at hlasts
    · have hs : s = .char e := by
        rw [hlast] at hss
        have hlasts : front ++ [.char e] = (xs ++ .mark side g :: ys') ++ [s] := by simpa using hss
        exact (List.cons.inj (List.append_inj_right' hlasts rfl)).1.symm
      simp [hs]
  have hplace : n + (source xs).length ∈ places n ss := by
    rw [hss, places_append, places]
    simp
  have hfree := hplaces _ hplace
  rw [barredPlaces, List.mem_append, not_or, List.mem_filter, not_and, Bool.not_eq_true] at hfree
  have hsource : source ss = source xs ++ (g ++ source ys) := by rw [hss]; simp
  have hin : n + (source xs).length ∈ List.range' (n + 1) ((source ss).length - 1) := by
    rw [List.mem_range'_1, hsource, List.length_append, List.length_append]
    omega
  have hbarred := hfree.1 hin
  rwa [Nat.add_sub_cancel_left, hsource, List.take_left, List.drop_left] at hbarred

/-- A marker is read as a style comment. -/
theorem at?_marker_append (d : Dialect) (side : Side) (rest : Text) :
    at? d (side.marker ++ rest) = some (.styleComment, side.marker.length) := by
  refine (at?_local d).find_append ?_ rest
  cases d <;> cases side <;> decide

theorem at?_literal_append {d : Dialect} {kind : Kind} {p : Char} {ss later : List Sign}
    (hbounded : (MarkedAtom.literal kind ss).Bounded) (hss : Placed AtLineEnd p (ss ++ later))
    (hsturdy : Sturdy kind ss) (h : at? d (source ss) = some (kind, (source ss).length)) (rest : Text) :
    at? d (guarded ss ++ rest) = some (kind, (guarded ss).length) := by
  refine (at?_local d).find_append ?_ rest
  obtain ⟨xs, e, rfl, rfl | ⟨c, xs, rfl⟩⟩ := hbounded
  · exact h
  · rw [List.append_assoc] at hss
    exact at?_guarded_of_sturdy (placed_char.1 hss) hsturdy h

/-- No marker stands at a barred place, unit by unit. -/
def Clear (barred : Kind → Text → Text → Bool) : List MarkedAtom → Prop
  | [] => True
  | .plain c :: ms =>
    (c = '/' → (source (ms.flatMap (·.signs))).head? = some '*' →
      ∀ side g, .mark side g ∉ ms.flatMap (·.signs)) ∧ Clear barred ms
  | .literal kind ss :: ms =>
    (∀ xs side g ys, ss = xs ++ .mark side g :: ys → barred kind (source xs) (g ++ source ys) = false) ∧
      Clear barred ms
  | .mark _ _ :: ms => Clear barred ms

theorem Clear.mono {barred barred' : Kind → Text → Text → Bool}
    (h : ∀ kind front back, barred kind front back = true → barred' kind front back = true)
    {ms : List MarkedAtom} (hms : Clear barred' ms) : Clear barred ms := by
  induction ms with
  | nil => trivial
  | cons m ms ih =>
    cases m with
    | plain c => exact ⟨hms.1, ih hms.2⟩
    | literal kind ss =>
      refine ⟨fun xs side g ys hsplit => ?_, ih hms.2⟩
      by_contra hbarred
      have hbarred' := h _ _ _ (by simpa using hbarred)
      rw [hms.1 xs side g ys hsplit] at hbarred'
      exact absurd hbarred' (by decide)
    | mark side g => exact ih hms

theorem Clear.of_mem {barred : Kind → Text → Text → Bool} {ms : List MarkedAtom} (h : Clear barred ms)
    {kind : Kind} {ss : List Sign} (hmem : .literal kind ss ∈ ms) {xs ys : List Sign} {side : Side}
    {g : Text} (hss : ss = xs ++ .mark side g :: ys) : barred kind (source xs) (g ++ source ys) = false := by
  induction ms with
  | nil => simp at hmem
  | cons m ms ih =>
    rcases List.mem_cons.1 hmem with rfl | hlater
    · exact h.1 xs side g ys hss
    · cases m with
      | plain c => exact ih h.2 hlater
      | literal kind' ss' => exact ih h.2 hlater
      | mark side' g' => exact ih h hlater

theorem clear_of_places {barred : Kind → Text → Text → Bool} {atEnd : List Sign → Prop} {p : Char} {n : Nat}
    {ms : List MarkedAtom} (hbounded : ∀ m ∈ ms, m.Bounded)
    (hss : Placed atEnd p (ms.flatMap (·.signs)))
    (hplaces : ∀ k ∈ places n (ms.flatMap (·.signs)), k ∉ barredPlaces barred n (ms.flatMap (·.atoms))) :
    Clear barred ms := by
  induction ms generalizing p n with
  | nil => trivial
  | cons m ms ih =>
    rw [List.forall_mem_cons] at hbounded
    simp only [List.flatMap_cons] at hss hplaces
    obtain ⟨q, hlater⟩ := hss.right
    cases m with
    | plain c =>
      simp only [MarkedAtom.signs_plain, MarkedAtom.atoms_plain, List.singleton_append, places,
        barredPlaces, written_atoms] at hplaces
      by_cases hopen : c = '/' ∧ (source (ms.flatMap (·.signs))).head? = some '*'
      · -- a style comment that is not closed: no marker stands behind it
        rw [if_pos hopen] at hplaces
        have hnone (side : Side) (g : Text) : .mark side g ∉ ms.flatMap (·.signs) := by
          intro hmem
          obtain ⟨k, hk⟩ := exists_mem_places (n := n + 1) hmem
          have hbounds := le_of_mem_places hk
          refine hplaces k hk ?_
          rw [List.mem_range'_1]
          omega
        refine ⟨fun _ _ => hnone, ih (n := n + 1) hbounded.2 hlater fun k hk => ?_⟩
        obtain ⟨side, g, hmem⟩ := exists_mark_of_mem_places hk
        exact absurd hmem (hnone side g)
      · rw [if_neg hopen] at hplaces
        exact ⟨fun hc hstar => absurd ⟨hc, hstar⟩ hopen, ih hbounded.2 hlater hplaces⟩
    | literal kind ss =>
      simp only [MarkedAtom.signs_literal, MarkedAtom.atoms_literal, List.singleton_append, places_append,
        List.mem_append] at hplaces
      refine ⟨fun xs side g ys hsplit => ?_, ih (n := n + (source ss).length) hbounded.2 hlater
        fun k hk hbar => ?_⟩
      · exact eq_false_of_places hbounded.1 (fun k hk => hplaces k (.inl hk)) hsplit
      · exact hplaces k (.inr hk) (List.mem_append_right _ hbar)
    | mark side g =>
      simp only [MarkedAtom.signs_mark, MarkedAtom.atoms_mark, List.singleton_append, places,
        List.mem_cons] at hplaces
      have hfirst : Placed atEnd p ([] ++ .mark side g :: ms.flatMap (·.signs)) := hss
      -- what a marker takes the place of is blank, so it opens no comment
      refine ih (n := n + g.length) hbounded.2 hlater fun k hk hbar => ?_
      refine hplaces k (.inr hk) ?_
      rw [barredPlaces_map_plain_append hfirst.dropped]
      exact hbar

/-- A text with markers is read as the text is, if no marker stands at a frail place. -/
theorem reads_guardedAtoms {d : Dialect} {p : Char} {ms : List MarkedAtom}
    (hbounded : ∀ m ∈ ms, m.Bounded) (hss : Placed AtLineEnd p (ms.flatMap (·.signs)))
    (hreads : Atom.Reads d (ms.flatMap (·.atoms))) (hclear : Clear frail ms) :
    Atom.Reads d (ms.flatMap (·.guardedAtoms)) := by
  induction ms generalizing p with
  | nil => trivial
  | cons m ms ih =>
    rw [List.forall_mem_cons] at hbounded
    simp only [List.flatMap_cons] at hss hreads ⊢
    obtain ⟨q, hlater⟩ := hss.right
    cases m with
    | plain c =>
      refine ⟨?_, ih hbounded.2 hlater hreads.2 hclear.2⟩
      have hstart : at? d (c :: source (ms.flatMap (·.signs))) = none := by
        rw [← written_atoms]
        exact hreads.1
      have hplaced : Placed AtLineEnd c (ms.flatMap (·.signs) ++ []) := by
        rw [List.append_nil]
        exact placed_char.1 hss
      show at? d (c :: Atom.written (ms.flatMap (·.guardedAtoms))) = none
      rw [written_guardedAtoms]
      refine at?_guarded_eq_none hplaced (fun hc more hmore => hclear.1 hc ?_) hstart
      rw [hmore]
      rfl
    | literal kind ss =>
      have hlexeme : at? d (source ss) = some (kind, (source ss).length) := by
        have hlocal := (at?_local d).find_append_iff (a := (kind, (source ss).length)) rfl
          (Atom.written (ms.flatMap (·.atoms)))
        exact hlocal.1 hreads.1
      exact ⟨at?_literal_append hbounded.1 hss hclear.1 hlexeme _,
        ih hbounded.2 hlater hreads.2 hclear.2⟩
    | mark side g =>
      exact ⟨at?_marker_append d side _, ih hbounded.2 hlater hreads.of_append hclear⟩

/-! ## The places of a text -/

/-- The places at which markers are put into a text. -/
def markerPlaces (t : Text) : List Nat :=
  places 0 (signs t)

/-- The streams of a text and of the text with markers are read off one list of marked units, if no
marker stands at a barred place and every frail place is barred. -/
theorem exists_clear {barred : Kind → Text → Text → Bool}
    (hbarred : ∀ kind front back, frail kind front back = true → barred kind front back = true)
    {d : Dialect} {t : Text} (h : ∀ n ∈ markerPlaces t, n ∉ barredPlaces barred 0 (Atom.stream d t)) :
    ∃ ms : List MarkedAtom, ms.flatMap (·.signs) = signs t ∧
      ms.flatMap (·.atoms) = Atom.stream d t ∧
      ms.flatMap (·.guardedAtoms) = Atom.stream d (protect t).text ∧ Clear barred ms := by
  have hplaced := placed_signs t '\n'
  have hreads := Atom.reads_stream d t
  have hwritten : Atom.written (Atom.stream d t) = source (signs t) := by
    rw [Atom.written_stream, source_signs]
  obtain ⟨ms, hsigns, hatoms, hbounded⟩ := exists_markedAtoms hreads hplaced hwritten
  rw [markerPlaces, ← hsigns, ← hatoms] at h
  rw [← hsigns] at hplaced
  rw [← hatoms] at hreads
  have hclear := clear_of_places hbounded hplaced h
  have hguarded := reads_guardedAtoms hbounded hplaced hreads (hclear.mono hbarred)
  refine ⟨ms, hsigns, hatoms, ?_, hclear⟩
  rw [← guarded_signs, ← hsigns, ← written_guardedAtoms, Atom.stream_written hguarded]

end IgnoreMarker

end SmartyLayout
