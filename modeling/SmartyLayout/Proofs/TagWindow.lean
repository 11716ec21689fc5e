import SmartyLayout.Proofs.Division
import SmartyLayout.Proofs.TagText

/-!
# SmartyLayout.Proofs.TagWindow — the tags of a part of a line

Where a line is cut in front of a tag, its tags are those of the two parts, each read on its own
(`Reindenter.tags_append`), and blanks at the end of a part matter to none of them
(`Reindenter.tags_append_blank`). The offsets of the last part count from its own start, so tags and
literals are also compared up to a shift.
-/

namespace SmartyLayout

namespace Transition

open Text

/-! ## Tags read from a later offset -/

/-- The tag of a part of a line as a tag of the whole line; the part starts at byte `n`. -/
def shift (n : Nat) (t : Transition) : Transition :=
  { t with offset := n + t.offset }

@[simp] theorem role_shift (n : Nat) (t : Transition) : (shift n t).role = t.role := rfl

@[simp] theorem name_shift (n : Nat) (t : Transition) : (shift n t).name = t.name := rfl

@[simp] theorem offset_shift (n : Nat) (t : Transition) : (shift n t).offset = n + t.offset := rfl

@[simp] theorem map_shift_zero (ts : List Transition) : ts.map (shift 0) = ts := by
  have hid : shift 0 = id := by
    funext t
    simp [shift]
  rw [hid, List.map_id]

variable {tax : Taxonomy}

/-- The tags of a text depend on where it stands only by their offsets, if the hidden offsets move
along. -/
theorem tagsFrom_shift {hidden hidden' : Nat → Bool} {k pos skip : Nat} {t : Text}
    (h : ∀ n, pos ≤ n → n < pos + size t → hidden (k + n) = hidden' n) :
    tagsFrom tax hidden (k + pos) skip t = (tagsFrom tax hidden' pos skip t).map (shift k) := by
  -- the hypothesis covers the offsets of the text only, so it narrows with each character
  have hlater {pos : Nat} {c : Char} {cs : Text}
      (h : ∀ n, pos ≤ n → n < pos + size (c :: cs) → hidden (k + n) = hidden' n) :
      ∀ n, pos + c.utf8Size ≤ n → n < pos + c.utf8Size + size cs → hidden (k + n) = hidden' n := by
    intro n hlow hhigh
    exact h n (by omega) (by rw [size_cons]; omega)
  have hhere {pos : Nat} {c : Char} {cs : Text}
      (h : ∀ n, pos ≤ n → n < pos + size (c :: cs) → hidden (k + n) = hidden' n) :
      hidden (k + pos) = hidden' pos := by
    have hc : 0 < c.utf8Size := Char.utf8Size_pos c
    exact h pos (Nat.le_refl pos) (by rw [size_cons]; omega)
  fun_induction tagsFrom tax hidden' pos skip t with
  | case1 => simp [tagsFrom]
  | case2 pos skip c cs ih =>
    rw [tagsFrom, Nat.add_assoc]
    exact ih (hlater h)
  | case3 pos c cs hmask ih =>
    rw [tagsFrom, hhere h, if_pos hmask, Nat.add_assoc]
    exact ih (hlater h)
  | case4 pos c cs hmask hread ih =>
    rw [tagsFrom, hhere h, if_neg hmask, Nat.add_assoc]
    simp only [hread]
    exact ih (hlater h)
  | case5 pos c cs hmask shape hread hclass ih =>
    rw [tagsFrom, hhere h, if_neg hmask, Nat.add_assoc]
    simp only [hread, hclass]
    exact ih (hlater h)
  | case6 pos c cs hmask shape hread role hclass ih =>
    rw [tagsFrom, hhere h, if_neg hmask, Nat.add_assoc]
    simp only [hread, hclass, List.map_cons]
    rw [ih (hlater h)]
    rfl

variable {hidden : Nat → Bool}

/-- A construct in front of a tag ends in front of it, so it is read without looking at the tag. -/
theorem read_of_mem_tagsFrom {pos : Nat} {c : Char} {s t : Text} {x : Transition} {shape : TagShape}
    (hread : TagShape.read (c :: s ++ t) = some shape)
    (hx : x ∈ tagsFrom tax hidden pos (shape.width - 1) (s ++ t)) (hoff : x.offset = pos + size s) :
    TagShape.read (c :: s) = some shape := by
  obtain ⟨before, after, htext, hbefore, hskip⟩ := exists_brace_of_mem_tagsFrom hx
  have hlen : before.length ≤ s.length := by
    rcases List.append_eq_append_iff.1 htext with ⟨more, rfl, -⟩ | ⟨more, rfl, -⟩
    · -- `x` stands at the end of `s`, so nothing lies between
      have hnil : more = [] := by
        by_contra hne
        have := size_pos_of_ne_nil hne
        rw [size_append] at hbefore
        omega
      rw [hnil, List.append_nil]
    · rw [List.length_append]
      omega
  refine TagShape.read_local.find_of_append hread ?_
  rw [List.length_cons]
  omega

/-- Where a tag stands, the tags in front of it are read without looking at it. -/
theorem tagsFrom_append_of_mem {pos skip : Nat} {s t : Text} {x : Transition}
    (hx : x ∈ tagsFrom tax hidden pos skip (s ++ t)) (hoff : x.offset = pos + size s) :
    tagsFrom tax hidden pos skip (s ++ t) =
      tagsFrom tax hidden pos skip s ++ tagsFrom tax hidden (pos + size s) 0 t := by
  induction s generalizing pos skip with
  | nil =>
    obtain ⟨before, after, -, hbefore, hskip⟩ := exists_brace_of_mem_tagsFrom hx
    have hnil : before = [] := by
      by_contra hne
      have := size_pos_of_ne_nil hne
      rw [size_nil] at hoff
      omega
    obtain rfl : skip = 0 := by simpa [hnil] using hskip
    simp [tagsFrom]
  | cons c s ih =>
    rw [size_cons] at hoff ⊢
    have hoff' : x.offset = pos + c.utf8Size + size s := by omega
    rw [List.cons_append] at hx ⊢
    cases skip with
    | succ skip =>
      rw [tagsFrom] at hx ⊢
      rw [tagsFrom, ih hx hoff', Nat.add_assoc]
    | zero =>
      by_cases hmask : hidden pos = true
      · rw [tagsFrom, if_pos hmask] at hx ⊢
        rw [tagsFrom, if_pos hmask, ih hx hoff', Nat.add_assoc]
      rw [tagsFrom, if_neg hmask] at hx ⊢
      rw [tagsFrom, if_neg hmask]
      cases hread : TagShape.read (c :: (s ++ t)) with
      | none =>
        -- what the whole text does not complete, its front does not
        have hread' : TagShape.read (c :: s) = none :=
          TagShape.read_local.find_eq_none_of_append (u := t) hread
        simp only [hread, hread'] at hx ⊢
        rw [ih hx hoff', Nat.add_assoc]
      | some shape =>
        cases hclass : tax.classify shape.name shape.closing with
        | none =>
          simp only [hread, hclass] at hx
          simp only [read_of_mem_tagsFrom hread hx hoff', hclass]
          rw [ih hx hoff', Nat.add_assoc]
        | some role =>
          simp only [hread, hclass, List.mem_cons] at hx
          rcases hx with rfl | hx
          · -- `x` stands further on than the tag read here
            have hc : 0 < c.utf8Size := Char.utf8Size_pos c
            simp only at hoff
            omega
          · simp only [read_of_mem_tagsFrom hread hx hoff', hclass]
            rw [ih hx hoff', Nat.add_assoc, List.cons_append]

/-- Blanks behind a text hold no tag and complete none. -/
theorem tagsFrom_append_blank (pos skip : Nat) (t : Text) {g : Text} (hg : blank g = true) :
    tagsFrom tax hidden pos skip (t ++ g) = tagsFrom tax hidden pos skip t := by
  induction t generalizing pos skip with
  | nil =>
    -- a tag begins with a brace
    rw [List.nil_append, tagsFrom, List.eq_nil_iff_forall_not_mem]
    intro x hx
    obtain ⟨before, after, rfl, -⟩ := exists_brace_of_mem_tagsFrom hx
    have hbrace : isBlank '{' = true := blank_iff.1 hg '{' (by simp)
    exact absurd hbrace (by decide)
  | cons c t ih =>
    rw [List.cons_append]
    cases skip with
    | succ skip => rw [tagsFrom, tagsFrom, ih]
    | zero =>
      have hread : TagShape.read (c :: (t ++ g)) = TagShape.read (c :: t) :=
        TagShape.read_append_blank (c :: t) hg
      rw [tagsFrom, tagsFrom, hread]
      simp only [ih]

/-- Blanks in front of a text hold no tag. -/
theorem tagsFrom_blank_append (pos : Nat) {g : Text} (hg : blank g = true) (t : Text) :
    tagsFrom tax hidden pos 0 (g ++ t) = tagsFrom tax hidden (pos + size g) 0 t := by
  induction g generalizing pos with
  | nil => rfl
  | cons c g ih =>
    rw [blank_cons, Bool.and_eq_true] at hg
    have hread : TagShape.read (c :: (g ++ t)) = none := by
      by_contra hsome
      obtain ⟨shape, hshape⟩ := Option.ne_none_iff_exists'.1 hsome
      obtain ⟨rest, heq⟩ := TagShape.exists_brace_of_read hshape
      rw [(List.cons.inj heq).1] at hg
      exact absurd hg.1 (by decide)
    rw [List.cons_append, tagsFrom, hread, ite_self, ih _ hg.2, size_cons, Nat.add_assoc]

end Transition

namespace Atom

open Text

/-! ## Literals on a part of a line -/

/-- The byte `n` belongs to a literal of a wanted kind, in a run of units that starts at byte
`pos`. -/
def covers (wanted : Literal.Kind → Bool) (pos : Nat) (as : List Atom) (n : Nat) : Bool :=
  (spansFrom pos as).any fun s => wanted s.kind && s.span.contains n

variable {wanted : Literal.Kind → Bool}

theorem covers_append (pos : Nat) (as bs : List Atom) (n : Nat) :
    covers wanted pos (as ++ bs) n =
      (covers wanted pos as n || covers wanted (pos + size (written as)) bs n) := by
  rw [covers, spansFrom_append, List.any_append]
  rfl

theorem covers_eq_false {pos : Nat} {as : List Atom} {n : Nat}
    (h : n < pos ∨ pos + size (written as) ≤ n) : covers wanted pos as n = false := by
  induction as generalizing pos with
  | nil => rfl
  | cons a as ih =>
    rw [written_cons, size_append] at h
    cases a with
    | plain c =>
      rw [text_plain, size_cons, size_nil] at h
      exact ih (by omega)
    | literal kind lexeme =>
      rw [text_literal] at h
      have hlater : covers wanted (pos + size lexeme) as n = false := ih (by omega)
      have hhere : (⟨pos, pos + size lexeme⟩ : Span).contains n = false := by
        simp only [Span.contains, Bool.and_eq_false_iff, decide_eq_false_iff_not]
        omega
      rw [covers, spansFrom, List.any_cons, hhere, Bool.and_false, Bool.false_or]
      exact hlater

theorem covers_shift (k pos : Nat) (as : List Atom) (n : Nat) :
    covers wanted (k + pos) as (k + n) = covers wanted pos as n := by
  induction as generalizing pos with
  | nil => rfl
  | cons a as ih =>
    cases a with
    | plain c =>
      rw [covers, covers, spansFrom, spansFrom, Nat.add_assoc]
      exact ih _
    | literal kind lexeme =>
      have hspan : (⟨k + pos, k + (pos + size lexeme)⟩ : Span).contains (k + n) =
          (⟨pos, pos + size lexeme⟩ : Span).contains n := by
        simp [Span.contains]
      rw [covers, covers, spansFrom, spansFrom, List.any_cons, List.any_cons, Nat.add_assoc, hspan]
      exact congrArg _ (ih _)

@[simp] theorem written_map_plain (t : Text) : written (t.map plain) = t := by
  induction t with
  | nil => rfl
  | cons c t ih => rw [List.map_cons, written_cons, ih, text_plain, List.singleton_append]

/-- Blanks at the front of a run of units are plain characters. -/
theorem exists_blank_append {as : List Atom} (hsound : ∀ a ∈ as, a.Sound) {g rest : Text}
    (hg : ∀ c ∈ g, isBlank c = true) (h : written as = g ++ rest) :
    ∃ bs, as = g.map .plain ++ bs ∧ written bs = rest := by
  induction g generalizing as with
  | nil => exact ⟨as, rfl, h⟩
  | cons c g ih =>
    cases as with
    | nil => simp at h
    | cons a as =>
      have hc := hg c (by simp)
      cases a with
      | plain e =>
        rw [written_cons, text_plain, List.singleton_append, List.cons_append, List.cons.injEq] at h
        obtain ⟨rfl, h⟩ := h
        obtain ⟨bs, rfl, hbs⟩ := ih (fun a ha => hsound a (List.mem_cons_of_mem _ ha))
          (fun e he => hg e (List.mem_cons_of_mem _ he)) h
        exact ⟨bs, rfl, hbs⟩
      | literal kind lexeme =>
        -- a literal begins with no blank
        obtain ⟨e, tail, rfl, he⟩ := (hsound (.literal kind lexeme) (by simp)).first
        rw [written_cons, text_literal, List.cons_append, List.cons_append, List.cons.injEq] at h
        rw [h.1, hc] at he
        exact absurd he (by decide)

theorem eq_nil_of_written_eq_nil {as : List Atom} (hsound : ∀ a ∈ as, a.Sound)
    (h : written as = []) : as = [] := by
  cases as with
  | nil => rfl
  | cons a as =>
    cases a with
    | plain c => simp at h
    | literal kind lexeme =>
      obtain ⟨c, rest, hcons, -⟩ := (hsound (.literal kind lexeme) (by simp)).first
      simp [hcons] at h

@[simp] theorem spansFrom_map_plain (pos : Nat) (t : Text) : spansFrom pos (t.map plain) = [] := by
  induction t generalizing pos with
  | nil => rfl
  | cons c t ih => exact ih _

theorem covers_append_plain (pos : Nat) (as : List Atom) (t : Text) (n : Nat) :
    covers wanted pos (as ++ t.map plain) n = covers wanted pos as n := by
  rw [covers_append, covers, covers, spansFrom_map_plain, List.any_nil, Bool.or_false]

/-- A literal in the front part of a line is one of the line. -/
theorem covers_append_left {as : List Atom} (bs : List Atom) {n : Nat} (h : n < size (written as)) :
    covers wanted 0 (as ++ bs) n = covers wanted 0 as n := by
  have hbs : covers wanted (0 + size (written as)) bs n = false := covers_eq_false (.inl (by omega))
  rw [covers_append, hbs, Bool.or_false]

/-- A literal in the last part of a line is one of the line. -/
theorem covers_append_right (as bs : List Atom) (n : Nat) :
    covers wanted 0 (as ++ bs) (size (written as) + n) = covers wanted 0 bs n := by
  have hshift : covers wanted (0 + size (written as)) bs (size (written as) + n) =
      covers wanted 0 bs n := by
    rw [Nat.zero_add]
    exact covers_shift (size (written as)) 0 bs n
  have has : covers wanted 0 as (size (written as) + n) = false := covers_eq_false (.inr (by omega))
  rw [covers_append, has, Bool.false_or, hshift]

end Atom

open Text Atom

theorem LogicalLine.inLiteral_ofAtoms (as : List Atom) (n : Nat) :
    (LogicalLine.ofAtoms as).inLiteral n = covers (fun _ => true) 0 as n := by
  simp [LogicalLine.inLiteral, LogicalLine.ofAtoms, covers]

namespace Reindenter

variable {r : Reindenter}

theorem tags_ofAtoms (as : List Atom) :
    r.tags (.ofAtoms as) =
      Transition.tagsFrom r.taxonomy (covers (·.hidesTags) 0 as) 0 0 (written as) := by
  have hmasks : (fun n => (LogicalLine.ofAtoms as).tagMasks.any (·.contains n)) =
      covers (·.hidesTags) 0 as := by
    funext n
    simp [LogicalLine.tagMasks, LogicalLine.ofAtoms, covers, List.any_filter]
  rw [tags_eq_tagsFrom, hmasks, text_ofAtoms]

/-- Where a line is cut in front of a tag, its tags are those of the two parts. -/
theorem tags_append {as bs : List Atom} {x : Transition} (hx : x ∈ r.tags (.ofAtoms (as ++ bs)))
    (hoff : x.offset = size (written as)) :
    r.tags (.ofAtoms (as ++ bs)) =
      r.tags (.ofAtoms as) ++ (r.tags (.ofAtoms bs)).map (Transition.shift (size (written as))) := by
  have hfront : Transition.tagsFrom r.taxonomy (covers (·.hidesTags) 0 (as ++ bs)) 0 0 (written as) =
      Transition.tagsFrom r.taxonomy (covers (·.hidesTags) 0 as) 0 0 (written as) := by
    have hsame : Transition.tagsFrom r.taxonomy (covers (·.hidesTags) 0 (as ++ bs)) (0 + 0) 0
          (written as) =
        (Transition.tagsFrom r.taxonomy (covers (·.hidesTags) 0 as) 0 0 (written as)).map
          (Transition.shift 0) := by
      refine Transition.tagsFrom_shift fun n _ hn => ?_
      rw [Nat.zero_add]
      exact covers_append_left bs (by omega)
    rwa [Transition.map_shift_zero] at hsame
  have hback : Transition.tagsFrom r.taxonomy (covers (·.hidesTags) 0 (as ++ bs))
        (size (written as) + 0) 0 (written bs) =
      (Transition.tagsFrom r.taxonomy (covers (·.hidesTags) 0 bs) 0 0 (written bs)).map
        (Transition.shift (size (written as))) :=
    Transition.tagsFrom_shift fun n _ _ => covers_append_right as bs n
  rw [tags_ofAtoms, written_append] at hx
  rw [tags_ofAtoms, tags_ofAtoms, tags_ofAtoms, written_append,
    Transition.tagsFrom_append_of_mem hx (by rw [hoff, Nat.zero_add]), hfront, ← hback, Nat.add_zero,
    Nat.zero_add]

/-- Blanks at the end of a line hide and complete no tag. -/
theorem tags_append_blank (as : List Atom) {g : Text} (hg : blank g = true) :
    r.tags (.ofAtoms (as ++ g.map .plain)) = r.tags (.ofAtoms as) := by
  have hhidden : covers (·.hidesTags) 0 (as ++ g.map .plain) = covers (·.hidesTags) 0 as := by
    funext n
    exact covers_append_plain 0 as g n
  rw [tags_ofAtoms, tags_ofAtoms, hhidden, written_append, written_map_plain,
    Transition.tagsFrom_append_blank 0 0 _ hg]

/-- Blanks at the beginning of a line move its tags. -/
theorem tags_blank_append {g : Text} (hg : blank g = true) (as : List Atom) :
    r.tags (.ofAtoms (g.map .plain ++ as)) =
      (r.tags (.ofAtoms as)).map (Transition.shift (size g)) := by
  have hmoved : Transition.tagsFrom r.taxonomy (covers (·.hidesTags) 0 (g.map .plain ++ as))
        (size g + 0) 0 (written as) =
      (Transition.tagsFrom r.taxonomy (covers (·.hidesTags) 0 as) 0 0 (written as)).map
        (Transition.shift (size g)) := by
    refine Transition.tagsFrom_shift fun n _ _ => ?_
    have hcovers : covers (·.hidesTags) 0 (g.map .plain ++ as) (size (written (g.map .plain)) + n) =
        covers (·.hidesTags) 0 as n := covers_append_right (g.map .plain) as n
    rwa [written_map_plain] at hcovers
  rw [tags_ofAtoms, tags_ofAtoms, written_append, written_map_plain,
    Transition.tagsFrom_blank_append 0 hg, Nat.zero_add, ← hmoved, Nat.add_zero]

end Reindenter

end SmartyLayout
