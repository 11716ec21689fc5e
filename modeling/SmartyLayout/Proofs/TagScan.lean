import SmartyLayout.Region.Reindent

/-!
# SmartyLayout.Proofs.TagScan — where the tags of a line stand

The tokens of a line interleave tags and plain text. Nesting only looks at the tags, so this module
reads them on their own:

* `Transition.tagsFrom` scans a line for its tags and nothing else, and `ofTokens_scanFrom` says that
  the tokens hold exactly these;
* every tag stands at an opening brace (`exists_brace_of_mem_tagsFrom`), and offsets grow from tag to
  tag (`tagsFrom_sorted`);
* a blank line holds no tag (`tags_eq_nil_of_blank`).
-/

namespace SmartyLayout

namespace TagShape

/-- A tag begins with an opening brace. -/
theorem exists_brace_of_read {t : Text} {shape : TagShape} (h : read t = some shape) :
    ∃ cs, t = '{' :: cs := by
  unfold read at h
  cases ho : opener? t with
  | none => simp [ho] at h
  | some opened =>
    unfold opener? at ho
    split at ho
    · exact ⟨_, rfl⟩
    · exact ⟨_, rfl⟩
    · simp at ho

end TagShape

namespace Transition

variable (tax : Taxonomy) (hidden : Nat → Bool)

/-- The tags in the rest of a line. `pos` is the byte offset of the rest and `skip` the number of
characters left of a construct already dealt with; no tag starts at a hidden offset. -/
def tagsFrom : (pos skip : Nat) → Text → List Transition
  | _, _, [] => []
  | pos, skip + 1, c :: cs => tagsFrom (pos + c.utf8Size) skip cs
  | pos, 0, c :: cs =>
    if hidden pos then tagsFrom (pos + c.utf8Size) 0 cs
    else
      match TagShape.read (c :: cs) with
      | none => tagsFrom (pos + c.utf8Size) 0 cs
      | some shape =>
        match tax.classify shape.name shape.closing with
        | none => tagsFrom (pos + c.utf8Size) (shape.width - 1) cs
        | some role =>
          ⟨role, shape.name, pos⟩ :: tagsFrom (pos + c.utf8Size) (shape.width - 1) cs

@[simp] theorem ofTokens_plainBetween (start stop : Nat) :
    ofTokens (Token.plainBetween start stop) = [] := by
  unfold Token.plainBetween
  split <;> rfl

theorem ofTokens_append (xs ys : List Token) : ofTokens (xs ++ ys) = ofTokens xs ++ ofTokens ys :=
  List.filterMap_append

/-- The tokens of a line hold exactly its tags, wherever the plain text in front began. -/
theorem ofTokens_scanFrom (masks : List Span) (pos textStart skip : Nat) (t : Text) :
    ofTokens (Token.scanFrom tax masks pos textStart skip t) =
      tagsFrom tax (fun n => masks.any (·.contains n)) pos skip t := by
  fun_induction Token.scanFrom tax masks pos textStart skip t with
  | case1 => simp [tagsFrom]
  | case2 pos textStart skip c cs ih => simpa [tagsFrom] using ih
  | case3 pos textStart c cs hmask ih => simpa [tagsFrom, hmask] using ih
  | case4 pos textStart c cs hmask hread ih => simpa [tagsFrom, hmask, hread] using ih
  | case5 pos textStart c cs hmask shape hread hclass ih =>
    simpa [tagsFrom, hmask, hread, hclass] using ih
  | case6 pos textStart c cs hmask shape hread role hclass stop ih =>
    -- the plain text in front of the tag is a token without a tag
    rw [ofTokens_append, ofTokens_plainBetween]
    simpa [tagsFrom, hmask, hread, hclass, ofTokens, ofToken?] using ih

variable {tax hidden}

/-- A tag of the rest of a line stands at an opening brace outside what is to be skipped. -/
theorem exists_brace_of_mem_tagsFrom {pos skip : Nat} {t : Text} {x : Transition}
    (hx : x ∈ tagsFrom tax hidden pos skip t) :
    ∃ before after, t = before ++ '{' :: after ∧ x.offset = pos + Text.size before ∧
      skip ≤ before.length := by
  fun_induction tagsFrom tax hidden pos skip t with
  | case1 => simp at hx
  | case2 pos skip c cs ih =>
    obtain ⟨before, after, rfl, hoff, hskip⟩ := ih hx
    exact ⟨c :: before, after, rfl, by simp [hoff]; omega, by simp; omega⟩
  | case3 pos c cs hmask ih =>
    obtain ⟨before, after, rfl, hoff, hskip⟩ := ih hx
    exact ⟨c :: before, after, rfl, by simp [hoff]; omega, by simp⟩
  | case4 pos c cs hmask hread ih =>
    obtain ⟨before, after, rfl, hoff, hskip⟩ := ih hx
    exact ⟨c :: before, after, rfl, by simp [hoff]; omega, by simp⟩
  | case5 pos c cs hmask shape hread hclass ih =>
    obtain ⟨before, after, rfl, hoff, hskip⟩ := ih hx
    exact ⟨c :: before, after, rfl, by simp [hoff]; omega, by simp⟩
  | case6 pos c cs hmask shape hread role hclass ih =>
    rcases List.mem_cons.1 hx with rfl | hx
    · -- the tag read here
      obtain ⟨cs', hcs⟩ := TagShape.exists_brace_of_read hread
      exact ⟨[], cs', hcs, by simp, by simp⟩
    · obtain ⟨before, after, rfl, hoff, hskip⟩ := ih hx
      exact ⟨c :: before, after, rfl, by simp [hoff]; omega, by simp⟩

/-- A tag of the rest of a line starts inside that rest. -/
theorem offset_bounds_of_mem_tagsFrom {pos skip : Nat} {t : Text} {x : Transition}
    (hx : x ∈ tagsFrom tax hidden pos skip t) :
    pos ≤ x.offset ∧ x.offset < pos + Text.size t := by
  obtain ⟨before, after, rfl, hoff, -⟩ := exists_brace_of_mem_tagsFrom hx
  have hbrace : 0 < '{'.utf8Size := Char.utf8Size_pos _
  simp only [Text.size_append, Text.size_cons]
  omega

/-- Offsets grow from tag to tag. -/
theorem tagsFrom_sorted (pos skip : Nat) (t : Text) :
    (tagsFrom tax hidden pos skip t).Pairwise (fun x y => x.offset < y.offset) := by
  fun_induction tagsFrom tax hidden pos skip t with
  | case1 => exact List.Pairwise.nil
  | case2 pos skip c cs ih => exact ih
  | case3 pos c cs hmask ih => exact ih
  | case4 pos c cs hmask hread ih => exact ih
  | case5 pos c cs hmask shape hread hclass ih => exact ih
  | case6 pos c cs hmask shape hread role hclass ih =>
    refine List.Pairwise.cons ?_ ih
    intro y hy
    -- the later tags stand in the rest, behind the brace of this one
    have hlow := (offset_bounds_of_mem_tagsFrom hy).1
    have hc : 0 < c.utf8Size := Char.utf8Size_pos c
    simp only
    omega

end Transition

namespace Reindenter

variable (r : Reindenter) (l : LogicalLine)

/-- The tags of a line, read on their own. -/
theorem tags_eq_tagsFrom :
    r.tags l =
      Transition.tagsFrom r.taxonomy (fun n => l.tagMasks.any (·.contains n)) 0 0 l.text :=
  Transition.ofTokens_scanFrom r.taxonomy l.tagMasks 0 0 0 l.text

/-- Offsets grow from tag to tag of a line. -/
theorem tags_sorted : (r.tags l).Pairwise (fun x y => x.offset < y.offset) := by
  rw [tags_eq_tagsFrom]
  exact Transition.tagsFrom_sorted 0 0 l.text

variable {r l}

/-- A tag of a line starts on the line. -/
theorem offset_lt_of_mem_tags {x : Transition} (hx : x ∈ r.tags l) :
    x.offset < Text.size l.text := by
  rw [tags_eq_tagsFrom] at hx
  simpa using (Transition.offset_bounds_of_mem_tagsFrom hx).2

/-- A tag of a line stands at an opening brace. -/
theorem exists_brace_of_mem_tags {x : Transition} (hx : x ∈ r.tags l) :
    ∃ before after, l.text = before ++ '{' :: after ∧ x.offset = Text.size before := by
  rw [tags_eq_tagsFrom] at hx
  obtain ⟨before, after, htext, hoff, -⟩ := Transition.exists_brace_of_mem_tagsFrom hx
  exact ⟨before, after, htext, by simpa using hoff⟩

/-- A blank line holds no tag. -/
theorem tags_eq_nil_of_blank (h : l.blank = true) : r.tags l = [] := by
  rw [List.eq_nil_iff_forall_not_mem]
  intro x hx
  obtain ⟨before, after, htext, -⟩ := exists_brace_of_mem_tags hx
  have hblank : isBlank '{' = true := by
    have hall : l.text.all isBlank = true := h
    rw [htext] at hall
    simp only [List.all_append, List.all_cons, Bool.and_eq_true] at hall
    exact hall.2.1
  exact absurd hblank (by decide)

end Reindenter

end SmartyLayout
