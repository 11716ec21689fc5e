import SmartyLayout.Proofs.Cancellation
import SmartyLayout.Proofs.Reading

/-!
# SmartyLayout.Proofs.Division — the pieces of a line as runs of units

A line is cut at byte offsets. On its units the same cuts fall between units, always in front of a
plain brace: `Atom.exists_plain_of_not_mem_spansFrom`. So the pieces of a line are runs of its units in
order, `Reindenter.Divided`, and `divided_pieces` says that the layout cuts every line that way.
-/

namespace SmartyLayout

namespace Text

/-! ## Slices -/

@[simp] theorem takeBytes_size_append (s t : Text) : takeBytes (size s) (s ++ t) = s := by
  have hcut := takeBytes_append_dropBytes (size s) (s ++ t)
  rw [dropBytes_size_append] at hcut
  exact List.append_cancel_right hcut

/-- The bytes of a middle part. -/
theorem slice_append (before part after : Text) :
    slice (before ++ part ++ after) ⟨size before, size before + size part⟩ = part := by
  rw [slice, List.append_assoc, dropBytes_size_append, Nat.add_sub_cancel_left,
    takeBytes_size_append]

theorem size_pos_of_ne_nil {t : Text} (h : t ≠ []) : 0 < size t := by
  obtain ⟨c, cs, rfl⟩ := List.exists_cons_of_ne_nil h
  have hc : 0 < c.utf8Size := Char.utf8Size_pos c
  rw [size_cons]
  omega

end Text

namespace Atom

open Text

/-! ## Cuts fall between units -/

theorem spansFrom_append (pos : Nat) (as bs : List Atom) :
    spansFrom pos (as ++ bs) = spansFrom pos as ++ spansFrom (pos + size (written as)) bs := by
  induction as generalizing pos with
  | nil => simp [spansFrom]
  | cons a as ih =>
    cases a with
    | plain c => simp [spansFrom, ih, Nat.add_assoc]
    | literal kind lexeme => simp [spansFrom, ih, Nat.add_assoc]

/-- A brace outside the literals of a run of units is a unit of its own. -/
theorem exists_plain_of_not_mem_spansFrom {pos : Nat} {as : List Atom} {before after : Text}
    {c : Char} (htext : written as = before ++ c :: after)
    (hfree : ∀ s ∈ spansFrom pos as, s.span.contains (pos + size before) = false) :
    ∃ xs ys, as = xs ++ .plain c :: ys ∧ written xs = before := by
  induction as generalizing pos before with
  | nil => simp at htext
  | cons a as ih =>
    cases a with
    | plain b =>
      cases before with
      | nil =>
        simp only [written_cons, text_plain, List.singleton_append, List.nil_append,
          List.cons.injEq] at htext
        exact ⟨[], as, by rw [htext.1]; rfl, rfl⟩
      | cons b' before =>
        simp only [written_cons, text_plain, List.cons_append, List.cons.injEq] at htext
        obtain ⟨rfl, htext⟩ := htext
        have hfree' : ∀ s ∈ spansFrom (pos + b.utf8Size) as,
            s.span.contains (pos + b.utf8Size + size before) = false := by
          intro s hs
          rw [Nat.add_assoc, ← size_cons]
          exact hfree s hs
        obtain ⟨xs, ys, rfl, rfl⟩ := ih htext hfree'
        exact ⟨.plain b :: xs, ys, rfl, rfl⟩
    | literal kind lexeme =>
      simp only [spansFrom, List.forall_mem_cons] at hfree
      obtain ⟨hspan, hfree⟩ := hfree
      -- an offset outside the first literal lies behind it
      have hbehind : size lexeme ≤ size before := by
        simpa [Span.contains] using hspan
      rw [written_cons, text_literal, append_eq_append_cons_iff] at htext
      rcases htext with ⟨rest, rfl, htext⟩ | ⟨rest, rfl, -⟩
      · have hfree' : ∀ s ∈ spansFrom (pos + size lexeme) as,
            s.span.contains (pos + size lexeme + size rest) = false := by
          intro s hs
          rw [Nat.add_assoc, ← size_append]
          exact hfree s hs
        obtain ⟨xs, ys, rfl, rfl⟩ := ih htext hfree'
        exact ⟨.literal kind lexeme :: xs, ys, rfl, rfl⟩
      · have hpos : 0 < c.utf8Size := Char.utf8Size_pos c
        rw [size_append, size_cons] at hbehind
        omega

end Atom

theorem Options.eq_of_mem_indentUnit {o : Options} {c : Char} (h : c ∈ o.indentUnit) :
    c = ' ' ∨ c = '\t' := by
  unfold Options.indentUnit at h
  split at h
  · exact .inl (List.eq_of_mem_replicate h)
  · exact .inr (List.mem_singleton.1 h)

theorem Options.blank_indentUnit (o : Options) : Text.blank o.indentUnit = true := by
  rw [Text.blank_iff]
  intro c hc
  rcases Options.eq_of_mem_indentUnit hc with rfl | rfl
  · rfl
  · rfl

namespace Reindenter

open Atom Text

/-- An offset of a line that falls in front of a plain brace. -/
def BraceAt (as : List Atom) (offset : Nat) : Prop :=
  ∃ xs ys, as = xs ++ .plain '{' :: ys ∧ size (written xs) = offset

/-- A tag outside the literals of a line begins with a plain brace. -/
theorem braceAt_of_mem_tags {r : Reindenter} {as : List Atom} {x : Transition}
    (hx : x ∈ r.tags (.ofAtoms as)) (hlit : (LogicalLine.ofAtoms as).inLiteral x.offset = false) :
    BraceAt as x.offset := by
  obtain ⟨before, after, htext, hoff⟩ := exists_brace_of_mem_tags hx
  have hfree : ∀ s ∈ spansFrom 0 as, s.span.contains (0 + size before) = false := by
    rw [Nat.zero_add, ← hoff]
    simpa [LogicalLine.inLiteral, LogicalLine.ofAtoms] using hlit
  obtain ⟨xs, ys, has, hxs⟩ := exists_plain_of_not_mem_spansFrom htext hfree
  exact ⟨xs, ys, has, by rw [hxs, hoff]⟩

/-- The pieces of the units of a line from byte `start` on: all units left, or those in front of a
plain brace at which a transition stands, and then the pieces from there on. Between `start` and
the end of a piece only literals hold transitions behind the first one of the line. -/
inductive Divided (l : LogicalLine) (ts : List Transition) : Nat → List Atom → List Piece → Prop
  | whole {start stop : Nat} {as : List Atom} (hstop : stop = start + size (written as))
      (hleft : ∀ t ∈ ts.tail, start < t.offset → t.offset < stop → l.inLiteral t.offset = true) :
      Divided l ts start as
        [⟨leading l.text ++ trim (written as), ts.filter fun t => (⟨start, stop⟩ : Span).contains t.offset⟩]
  | cut {start stop : Nat} {as bs : List Atom} {ps : List Piece}
      (hstop : stop = start + size (written as)) (hlt : start < stop)
      (hcut : ∃ t ∈ ts.tail, t.offset = stop)
      (hleft : ∀ t ∈ ts.tail, start < t.offset → t.offset < stop → l.inLiteral t.offset = true)
      (hrest : Divided l ts stop (.plain '{' :: bs) ps) :
      Divided l ts start (as ++ .plain '{' :: bs)
        (⟨leading l.text ++ trim (written as),
          ts.filter fun t => (⟨start, stop⟩ : Span).contains t.offset⟩ :: ps)

theorem divided_piecesBetween {ts : List Transition} {front as : List Atom} {cs : List Nat}
    (hsorted : (size (written front) :: cs).Pairwise (· < ·))
    (hcuts : ∀ c ∈ cs, BraceAt (front ++ as) c ∧ ∃ t ∈ ts.tail, t.offset = c)
    (hleft : ∀ t ∈ ts.tail, size (written front) < t.offset → t.offset ∉ cs →
      (LogicalLine.ofAtoms (front ++ as)).inLiteral t.offset = true) :
    Divided (.ofAtoms (front ++ as)) ts (size (written front)) as
      (piecesBetween (.ofAtoms (front ++ as)) ts
        (size (written front) :: cs ++ [size (written (front ++ as))])) := by
  induction cs generalizing front as with
  | nil =>
    have hslice : slice (written (front ++ as)) ⟨size (written front), size (written (front ++ as))⟩ =
        written as := by
      simpa using slice_append (written front) (written as) []
    have hstop : size (written (front ++ as)) = size (written front) + size (written as) := by simp
    have hwhole : Divided (.ofAtoms (front ++ as)) ts (size (written front)) as
        [⟨leading (written (front ++ as)) ++ trim (written as), ts.filter fun t =>
          (⟨size (written front), size (written (front ++ as))⟩ : Span).contains t.offset⟩] :=
      .whole hstop fun t ht hlt _ => hleft t ht hlt (by simp)
    rw [← hslice] at hwhole
    exact hwhole
  | cons c cs ih =>
    obtain ⟨hstart, hrest⟩ := List.pairwise_cons.1 hsorted
    have hc : size (written front) < c := hstart c (by simp)
    obtain ⟨⟨xs, ys, has, hxs⟩, hcut⟩ := hcuts c (by simp)
    -- the cut lies behind `front`, so it divides `as`
    obtain ⟨mid, rfl, hmid⟩ : ∃ mid, xs = front ++ mid ∧ as = mid ++ .plain '{' :: ys := by
      rcases List.append_eq_append_iff.1 has with ⟨mid, hmid, hys⟩ | ⟨mid, hmid, hys⟩
      · exact ⟨mid, hmid, hys⟩
      · rw [hmid, written_append, size_append] at hc
        omega
    subst hmid
    rw [written_append, size_append] at hxs
    have hslice : slice (written (front ++ (mid ++ .plain '{' :: ys))) ⟨size (written front), c⟩ =
        written mid := by
      have hpart := slice_append (written front) (written mid) (written (.plain '{' :: ys))
      rw [hxs] at hpart
      simpa using hpart
    have hsize : size (written (front ++ mid)) = c := by rw [written_append, size_append, hxs]
    have hlater : Divided (.ofAtoms (front ++ (mid ++ .plain '{' :: ys))) ts c (.plain '{' :: ys)
        (piecesBetween (.ofAtoms (front ++ (mid ++ .plain '{' :: ys))) ts
          (c :: cs ++ [size (written (front ++ (mid ++ .plain '{' :: ys)))])) := by
      rw [← hsize, ← List.append_assoc]
      refine ih (hsize ▸ hrest) (fun e he => ?_) (fun t ht hlt hmem => ?_)
      · rw [List.append_assoc]
        exact hcuts e (List.mem_cons_of_mem c he)
      · rw [hsize] at hlt
        have hne : t.offset ∉ c :: cs := by
          simp only [List.mem_cons, not_or]
          exact ⟨by omega, hmem⟩
        rw [List.append_assoc]
        exact hleft t ht (by omega) hne
    have hinside : ∀ t ∈ ts.tail, size (written front) < t.offset → t.offset < c →
        (LogicalLine.ofAtoms (front ++ (mid ++ .plain '{' :: ys))).inLiteral t.offset = true := by
      intro t ht hlt hlt'
      refine hleft t ht hlt ?_
      simp only [List.mem_cons, not_or]
      refine ⟨by omega, fun hmem => ?_⟩
      have := (List.pairwise_cons.1 hrest).1 _ hmem
      omega
    have hdivided := Divided.cut hxs.symm hc hcut hinside hlater
    rw [← hslice] at hdivided
    exact hdivided

/-- The layout divides every line that is not blank. -/
theorem divided_pieces {r : Reindenter} {as : List Atom} (v : Transition.Verbatim)
    (hblank : (LogicalLine.ofAtoms as).blank = false) :
    Divided (.ofAtoms as) (Transition.resolve r.taxonomy v (r.tags (.ofAtoms as))).1 0 as
      (pieces (.ofAtoms as) (Transition.resolve r.taxonomy v (r.tags (.ofAtoms as))).1) := by
  have hsorted := r.resolve_sorted v (.ofAtoms as)
  have hlt : ∀ t ∈ (Transition.resolve r.taxonomy v (r.tags (.ofAtoms as))).1,
      t.offset < size (written as) := r.offset_lt_of_mem_resolve
  have hmem : ∀ t ∈ (Transition.resolve r.taxonomy v (r.tags (.ofAtoms as))).1,
      t ∈ r.tags (.ofAtoms as) :=
    fun t ht => (Transition.resolve_sublist v _).subset ht
  generalize (Transition.resolve r.taxonomy v (r.tags (.ofAtoms as))).1 = ts at hsorted hlt hmem
  have htail : ∀ t ∈ ts.tail, t ∈ ts := fun t ht => List.mem_of_mem_tail ht
  have hleft : ∀ t ∈ ts.tail, t.offset ∉ cuts (.ofAtoms as) ts →
      (LogicalLine.ofAtoms as).inLiteral t.offset = true := by
    intro t ht hcut
    by_contra hlit
    exact hcut (List.mem_filter.2 ⟨List.mem_map_of_mem ht, by simpa using hlit⟩)
  unfold pieces
  split
  · next hcuts =>
    have hall : ts.filter (fun t => (⟨0, size (written as)⟩ : Span).contains t.offset) = ts := by
      refine List.filter_eq_self.2 fun t ht => ?_
      simpa [Span.contains] using hlt t ht
    have hwhole : Divided (.ofAtoms as) ts 0 as [⟨leading (written as) ++ trim (written as),
        ts.filter fun t => (⟨0, size (written as)⟩ : Span).contains t.offset⟩] :=
      .whole (Nat.zero_add _).symm fun t ht _ _ => hleft t ht (by simp [hcuts])
    rw [hall] at hwhole
    rw [trimEnd_eq_leading_append hblank]
    exact hwhole
  · have hcuts : ∀ c ∈ cuts (.ofAtoms as) ts, BraceAt as c ∧ ∃ t ∈ ts.tail, t.offset = c := by
      intro c hc
      obtain ⟨hc, hlit⟩ := List.mem_filter.1 hc
      obtain ⟨t, ht, rfl⟩ := List.mem_map.1 hc
      exact ⟨braceAt_of_mem_tags (hmem t (htail t ht)) (by simpa using hlit), t, ht, rfl⟩
    have hstrict : (0 :: cuts (.ofAtoms as) ts).Pairwise (· < ·) := by
      have hoffsets : (ts.tail.map (·.offset)).Pairwise (· < ·) :=
        List.pairwise_map.2 (hsorted.sublist (List.tail_sublist ts))
      refine List.pairwise_cons.2 ⟨fun c hc => ?_, hoffsets.sublist List.filter_sublist⟩
      -- a cut stands behind the first transition
      obtain ⟨-, t, ht, rfl⟩ := hcuts c hc
      cases ts with
      | nil => simp at ht
      | cons first ts => exact Nat.lt_of_le_of_lt (Nat.zero_le _) ((List.pairwise_cons.1 hsorted).1 t ht)
    have hdivided : Divided (.ofAtoms ([] ++ as)) ts (size (written [])) as _ :=
      divided_piecesBetween hstrict hcuts fun t ht _ => hleft t ht
    exact hdivided

end Reindenter

end SmartyLayout
