import SmartyLayout.Proofs.Reading
import SmartyLayout.Proofs.TagWindow

/-!
# SmartyLayout.Proofs.TagStream — the tags of a whole text

Tags are read line by line, and on each line by byte offsets. To compare the tags of two texts it is
enough to know, for every character, whether a tag may begin there: `Atom.exposed`. The roles and
names of the tags of all lines are then read off the stream of units in one go
(`Reindenter.tagNames_eq_namesFrom`), since no tag goes on behind a line break.
-/

namespace SmartyLayout

namespace TagShape

open Text

/-- No tag goes on behind a line break. -/
theorem newline_not_mem_of_bodyWidth {closer t : Text} {depth n : Nat} {q : Option OpenQuote}
    (hcloser : '\n' ∉ closer) (h : bodyWidth closer depth q t = some n) : '\n' ∉ t.take n := by
  induction t generalizing depth q n with
  | nil => simp [bodyWidth] at h
  | cons c cs ih =>
    obtain ⟨hc, ⟨hstart, rfl⟩ | ⟨depth', q', m, hm, rfl⟩⟩ := of_bodyWidth_cons h
    · obtain ⟨rest, hrest⟩ := startsWith_iff.1 hstart
      rw [← hrest, List.take_left]
      exact hcloser
    · -- the search gives up at a line break, so it has not met one
      rw [List.take_succ_cons, List.mem_cons, not_or]
      exact ⟨Ne.symm hc, ih hm⟩

theorem exists_closer_eq {opener closer : Text} (h : (opener, closer) ∈ delimiters) :
    ∃ w, closer = '}' :: w ∧ ∀ e ∈ w, e = '}' := by
  simp only [delimiters, List.mem_cons, Prod.mk.injEq, List.not_mem_nil, or_false] at h
  rcases h with ⟨-, rfl⟩ | ⟨-, rfl⟩
  · exact ⟨[], rfl, by simp⟩
  · exact ⟨['}'], rfl, by simp⟩

theorem exists_front_eq {opener closer : Text} (h : (opener, closer) ∈ delimiters) (shape : TagShape) :
    ∃ w, front opener shape = '{' :: w := by
  simp only [delimiters, List.mem_cons, Prod.mk.injEq, List.not_mem_nil, or_false] at h
  rcases h with ⟨rfl, -⟩ | ⟨rfl, -⟩
  · exact ⟨_, rfl⟩
  · exact ⟨_, rfl⟩

theorem isNameRest_of_isTagName {name : Text} (h : isTagName name = true) :
    ∀ c ∈ name, isNameRest c = true := by
  obtain ⟨c, cs, rfl, hc⟩ := exists_cons_of_isTagName h
  refine List.forall_mem_cons.2 ⟨?_, (isTagName_cons.1 h).2⟩
  rcases Bool.or_eq_true_iff.1 hc with hc | hc
  · simp [isNameRest, Char.isAlphanum, hc]
  · simp [isNameRest, hc]

/-- The characters of the front of a tag begin and end no line. -/
theorem front_facts {opener closer : Text} (hpair : (opener, closer) ∈ delimiters) {shape : TagShape}
    (hname : isTagName shape.name = true) :
    ∀ c ∈ front opener shape, c ≠ '\n' ∧ c ≠ '<' ∧ c ≠ '>' := by
  intro c hc
  have hkind : c = '{' ∨ c = '/' ∨ isNameRest c = true := by
    rw [front, List.mem_append, List.mem_append] at hc
    rcases hc with hc | hc | hc
    · left
      simp only [delimiters, List.mem_cons, Prod.mk.injEq, List.not_mem_nil, or_false] at hpair
      rcases hpair with ⟨rfl, -⟩ | ⟨rfl, -⟩
      · simpa using hc
      · simpa using hc
    · right; left
      split at hc
      · simpa using hc
      · simp at hc
    · exact .inr (.inr (isNameRest_of_isTagName hname c hc))
  rcases hkind with rfl | rfl | hrest
  · decide
  · decide
  · refine ⟨?_, ?_, ?_⟩ <;> rintro rfl <;> exact absurd hrest (by decide)

theorem newline_not_mem_of_read {t : Text} {shape : TagShape} (h : read t = some shape) :
    '\n' ∉ t.take shape.width := by
  obtain ⟨⟨opener, closer⟩, hpair, rest, body, rfl, hname, -, hbody, hwidth⟩ := read_eq_some_iff.1 h
  have hcloser : '\n' ∉ closer := by
    obtain ⟨w, rfl, hw⟩ := exists_closer_eq hpair
    intro hmem
    rcases List.mem_cons.1 hmem with hmem | hmem
    · exact absurd hmem (by decide)
    · exact absurd (hw _ hmem) (by decide)
  rw [hwidth, List.take_length_add_append, List.mem_append, not_or]
  exact ⟨fun hmem => (front_facts hpair hname _ hmem).1 rfl, newline_not_mem_of_bodyWidth hcloser hbody⟩

/-- What follows a line break changes nothing about a tag in front of it. -/
theorem read_append_newline (t rest : Text) : read (t ++ '\n' :: rest) = read t := by
  refine read_local.find_append_eq fun shape hread => ?_
  by_contra hgt
  refine newline_not_mem_of_read hread ?_
  obtain ⟨k, hk⟩ : ∃ k, shape.width = t.length + (k + 1) := ⟨shape.width - t.length - 1, by omega⟩
  rw [hk, List.take_length_add_append]
  simp

end TagShape

namespace Transition

open Text

/-- Roles and names of the tags in a run of characters. The flag of a character tells whether a tag
may begin there, and `skip` counts the characters left of a construct already dealt with. -/
def namesFrom (tax : Taxonomy) : (skip : Nat) → List (Char × Bool) → List (Role × Text)
  | _, [] => []
  | skip + 1, _ :: cs => namesFrom tax skip cs
  | 0, (c, exposed) :: cs =>
    if exposed then
      match TagShape.read (c :: cs.map Prod.fst) with
      | none => namesFrom tax 0 cs
      | some shape =>
        ((tax.classify shape.name shape.closing).map (·, shape.name)).toList ++
          namesFrom tax (shape.width - 1) cs
    else namesFrom tax 0 cs

variable {tax : Taxonomy}

/-- Roles and names do not depend on offsets. -/
theorem map_tagsFrom {hidden : Nat → Bool} {pos skip : Nat} {cs : List (Char × Bool)}
    (h : ∀ before c e after, cs = before ++ (c, e) :: after →
      e = (c == '{' && !hidden (pos + size (before.map Prod.fst)))) :
    (tagsFrom tax hidden pos skip (cs.map Prod.fst)).map (fun x => (x.role, x.name)) =
      namesFrom tax skip cs := by
  induction cs generalizing pos skip with
  | nil => simp [tagsFrom, namesFrom]
  | cons x cs ih =>
    obtain ⟨c, e⟩ := x
    -- the flags of the rest count from behind `c`
    have hlater : ∀ before c' e' after, cs = before ++ (c', e') :: after →
        e' = (c' == '{' && !hidden (pos + c.utf8Size + size (before.map Prod.fst))) := by
      intro before c' e' after hcs
      have hhere := h ((c, e) :: before) c' e' after (by rw [hcs]; rfl)
      rw [List.map_cons, size_cons] at hhere
      rw [hhere, Nat.add_assoc]
    rw [List.map_cons]
    cases skip with
    | succ skip =>
      rw [tagsFrom, namesFrom]
      exact ih hlater
    | zero =>
      have hflag : e = (c == '{' && !hidden pos) := by simpa using h [] c e cs rfl
      rw [tagsFrom, namesFrom]
      by_cases hhidden : hidden pos = true
      · rw [if_pos hhidden, hflag, hhidden]
        simpa using ih hlater
      · rw [if_neg hhidden]
        by_cases hc : c = '{'
        · have hopen : e = true := by simp [hflag, hc, hhidden]
          rw [if_pos hopen]
          cases hread : TagShape.read (c :: cs.map Prod.fst) with
          | none => exact ih hlater
          | some shape =>
            cases hclass : tax.classify shape.name shape.closing with
            | none => simpa [hclass] using ih hlater
            | some role => simpa [hclass] using ih hlater
        · -- the flag is down, and no tag can be read here either
          have hread : TagShape.read (c :: cs.map Prod.fst) = none := by
            cases hread : TagShape.read (c :: cs.map Prod.fst) with
            | none => rfl
            | some shape =>
              obtain ⟨_, hbrace⟩ := TagShape.exists_brace_of_read hread
              exact absurd (List.cons.inj hbrace).1 hc
          have hshut : e = false := by simp [hflag, hc]
          rw [hread, hshut]
          simpa using ih hlater

theorem namesFrom_append_newline {skip : Nat} {xs ys : List (Char × Bool)} (h : skip ≤ xs.length) :
    namesFrom tax skip (xs ++ ('\n', false) :: ys) = namesFrom tax skip xs ++ namesFrom tax 0 ys := by
  induction xs generalizing skip with
  | nil =>
    obtain rfl : skip = 0 := by simpa using h
    simp [namesFrom]
  | cons x xs ih =>
    obtain ⟨c, e⟩ := x
    rw [List.cons_append]
    cases skip with
    | succ skip =>
      rw [namesFrom, namesFrom]
      exact ih (by simpa using h)
    | zero =>
      rw [namesFrom, namesFrom]
      cases e with
      | false => simpa using ih (Nat.zero_le _)
      | true =>
        have hread : TagShape.read (c :: (xs ++ ('\n', false) :: ys).map Prod.fst) =
            TagShape.read (c :: xs.map Prod.fst) := by
          rw [List.map_append, List.map_cons]
          exact TagShape.read_append_newline (c :: xs.map Prod.fst) (ys.map Prod.fst)
        rw [if_pos rfl, if_pos rfl, hread]
        cases hshape : TagShape.read (c :: xs.map Prod.fst) with
        | none => exact ih (Nat.zero_le _)
        | some shape =>
          -- the tag ends on its own line, so nothing is left to be skipped behind the break
          have hwidth := TagShape.read_local.width_le hshape
          rw [List.length_cons, List.length_map] at hwidth
          simp only
          rw [ih (by omega), List.append_assoc]

/-- What is to be skipped can be left out. -/
theorem namesFrom_length_append (xs ys : List (Char × Bool)) :
    namesFrom tax xs.length (xs ++ ys) = namesFrom tax 0 ys := by
  induction xs with
  | nil => rfl
  | cons x xs ih => exact ih

/-- Where no tag may begin, none does. -/
theorem namesFrom_shut_append (t : Text) (ys : List (Char × Bool)) :
    namesFrom tax 0 (t.map (·, false) ++ ys) = namesFrom tax 0 ys := by
  induction t with
  | nil => rfl
  | cons c t ih => simpa [namesFrom] using ih

end Transition

namespace Atom

open Text

/-- The characters of a stream, each with whether a tag may begin there. -/
def exposed (us : List Atom) : List (Char × Bool) :=
  us.flatMap fun
    | .plain c => [(c, c == '{')]
    | .literal kind lexeme => lexeme.map fun c => (c, c == '{' && !kind.hidesTags)

theorem exposed_append (us vs : List Atom) : exposed (us ++ vs) = exposed us ++ exposed vs :=
  List.flatMap_append

@[simp] theorem exposed_plain (c : Char) (us : List Atom) :
    exposed (.plain c :: us) = (c, c == '{') :: exposed us := rfl

@[simp] theorem exposed_literal (kind : Literal.Kind) (lexeme : Text) (us : List Atom) :
    exposed (.literal kind lexeme :: us) =
      lexeme.map (fun c => (c, c == '{' && !kind.hidesTags)) ++ exposed us := rfl

@[simp] theorem map_fst_exposed (us : List Atom) : (exposed us).map Prod.fst = written us := by
  induction us with
  | nil => rfl
  | cons a us ih =>
    cases a with
    | plain c => simp [ih]
    | literal kind lexeme => simp [ih, Function.comp_def]

/-- Tags begin at braces that no comment and no verbatim element covers. -/
theorem exposed_eq {us : List Atom} {pos : Nat} {before after : List (Char × Bool)} {c : Char} {e : Bool}
    (h : exposed us = before ++ (c, e) :: after) :
    e = (c == '{' && !covers (·.hidesTags) pos us (pos + size (before.map Prod.fst))) := by
  induction us generalizing pos before with
  | nil => simp [exposed] at h
  | cons a us ih =>
    cases a with
    | plain x =>
      have hskip (n : Nat) : covers (·.hidesTags) pos (.plain x :: us) n =
          covers (·.hidesTags) (pos + x.utf8Size) us n := rfl
      rw [exposed_plain] at h
      rw [hskip]
      cases before with
      | nil =>
        obtain ⟨hx, -⟩ := List.cons.inj h
        obtain ⟨rfl, rfl⟩ := Prod.mk.inj hx
        have hx : 0 < x.utf8Size := Char.utf8Size_pos x
        rw [covers_eq_false (.inl (by simpa using hx))]
        simp
      | cons y before =>
        obtain ⟨rfl, hrest⟩ := List.cons.inj h
        rw [List.map_cons, size_cons, ← Nat.add_assoc]
        exact ih hrest
    | literal kind lexeme =>
      have hskip (n : Nat) : covers (·.hidesTags) pos (.literal kind lexeme :: us) n =
          ((kind.hidesTags && (⟨pos, pos + size lexeme⟩ : Span).contains n) ||
            covers (·.hidesTags) (pos + size lexeme) us n) := rfl
      rw [exposed_literal] at h
      rw [hskip]
      -- the character stands behind the literal or in it
      rcases append_eq_append_cons_iff.1 h with ⟨mid, rfl, hrest⟩ | ⟨mid, hlexeme, -⟩
      · have hmap : (lexeme.map fun c => (c, c == '{' && !kind.hidesTags)).map Prod.fst = lexeme := by
          simp [Function.comp_def]
        have houtside : (⟨pos, pos + size lexeme⟩ : Span).contains
            (pos + size lexeme + size (mid.map Prod.fst)) = false := by
          simp [Span.contains]
        rw [List.map_append, size_append, hmap, ← Nat.add_assoc, houtside, Bool.and_false,
          Bool.false_or]
        exact ih hrest
      · obtain ⟨front, back, rfl, rfl, hback⟩ := List.map_eq_append_iff.1 hlexeme
        obtain ⟨x, back, rfl, hx, -⟩ := List.map_eq_cons_iff.1 hback
        obtain ⟨rfl, rfl⟩ := Prod.mk.inj hx
        have hsize : 0 < x.utf8Size := Char.utf8Size_pos x
        have hmap : (front.map fun c => (c, c == '{' && !kind.hidesTags)).map Prod.fst = front := by
          simp [Function.comp_def]
        have hinside : (⟨pos, pos + size (front ++ x :: back)⟩ : Span).contains (pos + size front) =
            true := by
          simp only [Span.contains, size_append, size_cons, Bool.and_eq_true, decide_eq_true_eq]
          omega
        have hlater : covers (·.hidesTags) (pos + size (front ++ x :: back)) us (pos + size front) =
            false := by
          refine covers_eq_false (.inl ?_)
          rw [size_append, size_cons]
          omega
        rw [hmap, hinside, hlater, Bool.and_true, Bool.or_false]

end Atom

namespace Reindenter

open Transition Atom

variable {r : Reindenter}

theorem names_ofAtoms (as : List Atom) :
    (r.tags (.ofAtoms as)).map (fun x => (x.role, x.name)) = namesFrom r.taxonomy 0 (exposed as) := by
  rw [tags_ofAtoms, ← map_fst_exposed as]
  refine map_tagsFrom fun before c e after h => ?_
  exact exposed_eq h

theorem namesFrom_intercalate (tax : Taxonomy) (lines : List (List Atom)) :
    namesFrom tax 0 (exposed ([.plain '\n'].intercalate lines)) =
      lines.flatMap fun as => namesFrom tax 0 (exposed as) := by
  induction lines with
  | nil => rfl
  | cons as lines ih =>
    cases lines with
    | nil => simp
    | cons next lines =>
      have hbreak : exposed [.plain '\n'] = [('\n', false)] := rfl
      rw [List.intercalate_cons_cons, exposed_append, exposed_append, hbreak, List.append_assoc,
        List.singleton_append, namesFrom_append_newline (Nat.zero_le _), ih]
      rfl

/-- The tags of a text in their order, by role and name. -/
def tagNames (r : Reindenter) (d : Dialect) (t : Text) : List (Role × Text) :=
  ((LogicalLine.split d t).flatMap r.tags).map fun x => (x.role, x.name)

/-- The tags of all lines of a text are the tags of its stream of units. -/
theorem tagNames_eq_namesFrom (d : Dialect) (t : Text) :
    r.tagNames d t = namesFrom r.taxonomy 0 (exposed (stream d t)) := by
  rw [tagNames, LogicalLine.split, List.map_flatMap, List.flatMap_map]
  simp only [names_ofAtoms]
  rw [← namesFrom_intercalate, stream]

end Reindenter

end SmartyLayout
