import SmartyLayout.Proofs.TagScan

/-!
# SmartyLayout.Proofs.Cancellation — what a line does to the open blocks

Same-line cancellation drops tags, and cutting hands the tags that are left to separate pieces.
Neither changes the stack of open blocks:

* `foldl_move_cancel`: the tags left after cancellation move the stack as all tags do;
* `flatMap_transitions_pieces`: the pieces of a line share out its transitions, each exactly once
  and in order;
* `line_state`: a line leaves the stack as its tags outside verbatim blocks leave it, unless it is a
  middle line, which leaves the stack alone.
-/

namespace SmartyLayout

namespace Transition

/-! ## Tags outside verbatim blocks -/

variable {tax : Taxonomy}

/-- Tags in a row are passed over or kept one line after the other. -/
theorem live_append (v : Verbatim) (xs ys : List Transition) :
    live tax v (xs ++ ys) =
      ((live tax v xs).1 ++ (live tax (live tax v xs).2 ys).1, (live tax (live tax v xs).2 ys).2) := by
  induction xs generalizing v with
  | nil => rfl
  | cons x xs ih =>
    cases hseen : seen? tax v x with
    | none => simp [live, hseen, ih]
    | some next => simp [live, hseen, ih]

theorem live_sublist (v : Verbatim) (ts : List Transition) : (live tax v ts).1.Sublist ts := by
  induction ts generalizing v with
  | nil => exact List.Sublist.slnil
  | cons t ts ih =>
    cases hseen : seen? tax v t with
    | none => simpa [live, hseen] using (ih v).cons t
    | some next => simpa [live, hseen] using (ih next).cons_cons t

/-! ## Same-line cancellation -/

namespace Pending

/-- Only start tags wait. -/
def StartsWait (p : Pending) : Prop :=
  ∀ w ∈ p.waiting, w.role = .start

theorem startsWait_empty : StartsWait {} := by
  intro w hw
  simp at hw

/-- What reading a tag can do: the tag waits, or it is settled together with all that waits, or it is
absorbed, or it cancels the latest start that waits. -/
theorem step_cases (p : Pending) (t : Transition) :
    (t.role = .start ∧ p.step t = ⟨p.settled, t :: p.waiting⟩) ∨
    p.step t = ⟨p.settled ++ p.waiting.reverse ++ [t], []⟩ ∨
    (t.role = .middle ∧ p.step t = p) ∨
    ∃ w ws, t.role = .finish ∧ p.waiting = w :: ws ∧ w.name = t.name ∧ p.step t = ⟨p.settled, ws⟩ := by
  unfold step
  cases hrole : t.role with
  | start => exact .inl ⟨rfl, rfl⟩
  | middle =>
    cases hwait : p.waiting with
    | nil => exact .inr (.inl (by simp))
    | cons w ws => exact .inr (.inr (.inl ⟨rfl, by simp⟩))
  | finish =>
    cases hwait : p.waiting with
    | nil => exact .inr (.inl (by simp))
    | cons w ws =>
      by_cases hname : w.name = t.name
      · exact .inr (.inr (.inr ⟨w, ws, rfl, rfl, hname, by simp [hname]⟩))
      · exact .inr (.inl (by simp [hname]))

theorem startsWait_step {p : Pending} (hp : p.StartsWait) (t : Transition) :
    (p.step t).StartsWait := by
  rcases p.step_cases t with ⟨hrole, hstep⟩ | hstep | ⟨-, hstep⟩ | ⟨w, ws, -, hwait, -, hstep⟩
  · rw [hstep]
    exact List.forall_mem_cons.2 ⟨hrole, hp⟩
  · rw [hstep]
    exact startsWait_empty
  · rwa [hstep]
  · rw [hstep]
    exact fun v hv => hp v (by rw [hwait]; exact List.mem_cons_of_mem w hv)

/-- Reading a tag moves the stack behind the tags left so far as the tag alone does. -/
theorem foldl_move_step {p : Pending} (hp : p.StartsWait) (t : Transition) (s : RegionStack) :
    (p.step t).result.foldl (Piece.move false) s =
      Piece.move false (p.result.foldl (Piece.move false) s) t := by
  rcases p.step_cases t with ⟨-, hstep⟩ | hstep | ⟨hrole, hstep⟩ | ⟨w, ws, hrole, hwait, -, hstep⟩
  · simp [hstep, result]
  · simp [hstep, result]
  · -- an absorbed middle tag moves nothing
    simp [hstep, Piece.move, hrole]
  · -- the latest waiting start is pushed and popped again
    have hw : w.role = .start := hp w (by simp [hwait])
    simp [hstep, hwait, result, Piece.move, hrole, hw]

theorem result_step_sublist (p : Pending) (t : Transition) :
    (p.step t).result.Sublist (p.result ++ [t]) := by
  rcases p.step_cases t with ⟨-, hstep⟩ | hstep | ⟨-, hstep⟩ | ⟨w, ws, -, hwait, -, hstep⟩
  · simp [hstep, result]
  · simp [hstep, result]
  · simp [hstep]
  · simp [hstep, result, hwait]

theorem result_foldl_sublist (p : Pending) (ts : List Transition) :
    (ts.foldl step p).result.Sublist (p.result ++ ts) := by
  induction ts generalizing p with
  | nil => simp
  | cons t ts ih =>
    have hstep : ((p.step t).result ++ ts).Sublist (p.result ++ [t] ++ ts) :=
      (p.result_step_sublist t).append_right ts
    simpa using (ih (p.step t)).trans hstep

end Pending

theorem cancel_sublist (ts : List Transition) : (cancel ts).Sublist ts := by
  simpa [cancel, Pending.result] using Pending.result_foldl_sublist {} ts

/-- The tags left after cancellation move the stack as all tags do. -/
theorem foldl_move_cancel (ts : List Transition) (s : RegionStack) :
    (cancel ts).foldl (Piece.move false) s = ts.foldl (Piece.move false) s := by
  have hrun : ∀ (p : Pending), p.StartsWait →
      (ts.foldl Pending.step p).result.foldl (Piece.move false) s =
        ts.foldl (Piece.move false) (p.result.foldl (Piece.move false) s) := by
    induction ts with
    | nil => intro p _; rfl
    | cons t ts ih =>
      intro p hp
      rw [List.foldl_cons, List.foldl_cons, ih _ (Pending.startsWait_step hp t),
        Pending.foldl_move_step hp]
  exact hrun {} Pending.startsWait_empty

theorem resolve_fst (v : Verbatim) (ts : List Transition) :
    (resolve tax v ts).1 = cancel (live tax v ts).1 := rfl

theorem resolve_snd (v : Verbatim) (ts : List Transition) :
    (resolve tax v ts).2 = (live tax v ts).2 := rfl

theorem resolve_sublist (v : Verbatim) (ts : List Transition) :
    (resolve tax v ts).1.Sublist ts :=
  (cancel_sublist _).trans (live_sublist v ts)

theorem role_ne_start_of_isMiddleLine {ts : List Transition} (h : isMiddleLine ts = true) :
    ∀ t ∈ ts, t.role ≠ .start := by
  simp only [isMiddleLine, Bool.and_eq_true, Bool.not_eq_true', List.any_eq_false] at h
  intro t ht
  simpa using h.2 t ht

/-- On a middle line no transition moves the stack. -/
theorem foldl_move_middleLine {ts : List Transition} (h : isMiddleLine ts = true)
    (s : RegionStack) : ts.foldl (Piece.move true) s = s := by
  have hstart := role_ne_start_of_isMiddleLine h
  clear h
  induction ts generalizing s with
  | nil => rfl
  | cons t ts ih =>
    have ht : Piece.move true s t = s := by
      unfold Piece.move
      cases hrole : t.role with
      | start => exact absurd hrole (hstart t (by simp))
      | middle => rfl
      | finish => rfl
    rw [List.foldl_cons, ht]
    exact ih s fun t' ht' => hstart t' (List.mem_cons_of_mem t ht')

end Transition

/-! ## The pieces of a line -/

/-- In a list sorted by `key`, the elements of `[a, b)` and those of `[b, c)` make up `[a, c)`. -/
theorem filter_range_append {α : Type} {key : α → Nat} {a b c : Nat} (hab : a ≤ b) (hbc : b ≤ c)
    {xs : List α} (hxs : xs.Pairwise (fun x y => key x < key y)) :
    xs.filter (fun x => a ≤ key x && key x < b) ++ xs.filter (fun x => b ≤ key x && key x < c) =
      xs.filter (fun x => a ≤ key x && key x < c) := by
  induction hxs with
  | nil => rfl
  | @cons x xs hx _ ih =>
    by_cases hxb : key x < b
    · have hnot : ¬ b ≤ key x := by omega
      by_cases hax : a ≤ key x
      · have hxc : key x < c := by omega
        simp [hxb, hnot, hax, hxc, ih]
      · simp [hnot, hax, ih]
    · -- from here on everything lies behind `b`
      have hnone : ∀ y ∈ x :: xs, ¬ (a ≤ key y && key y < b) = true := by
        intro y hy
        rcases List.mem_cons.1 hy with rfl | hy
        · simp [hxb]
        · have := hx y hy
          simp only [Bool.and_eq_true, decide_eq_true_eq, not_and, Nat.not_lt]
          omega
      rw [List.filter_eq_nil_iff.2 hnone, List.nil_append]
      refine List.filter_congr fun y hy => ?_
      have hby : b ≤ key y := by
        rcases List.mem_cons.1 hy with rfl | hy
        · omega
        · have := hx y hy
          omega
      have hay : a ≤ key y := by omega
      simp [hby, hay]

namespace Reindenter

open Transition

/-- Consecutive windows share out the transitions between the first bound and the last. -/
theorem flatMap_transitions_piecesBetween (l : LogicalLine) {ts : List Transition}
    (hts : ts.Pairwise (fun x y => x.offset < y.offset)) (stop : Nat) :
    ∀ (start : Nat) (cuts : List Nat), (start :: cuts ++ [stop]).Pairwise (· ≤ ·) →
      (piecesBetween l ts (start :: cuts ++ [stop])).flatMap (·.transitions) =
        ts.filter (fun t => start ≤ t.offset && t.offset < stop) := by
  intro start cuts
  induction cuts generalizing start with
  | nil =>
    intro _
    simp [piecesBetween, Span.contains]
  | cons cut cuts ih =>
    intro hsorted
    obtain ⟨hstart, hrest⟩ := List.pairwise_cons.1 hsorted
    have hcut : start ≤ cut := hstart cut (by simp)
    have hstop : cut ≤ stop := (List.pairwise_cons.1 hrest).1 stop (by simp)
    have hlater := ih cut hrest
    simp only [List.cons_append, piecesBetween, List.flatMap_cons, Span.contains] at hlater ⊢
    rw [hlater]
    exact filter_range_append hcut hstop hts

/-- The pieces of a line share out its transitions. -/
theorem flatMap_transitions_pieces {l : LogicalLine} {ts : List Transition}
    (hts : ts.Pairwise (fun x y => x.offset < y.offset))
    (hlt : ∀ t ∈ ts, t.offset < Text.size l.text) :
    (pieces l ts).flatMap (·.transitions) = ts := by
  unfold pieces
  split
  · simp
  · next cut hcuts =>
    have hsub : (cuts l ts).Sublist (ts.map (·.offset)) := by
      rw [cuts]
      exact List.filter_sublist.trans ((List.tail_sublist ts).map _)
    have hcutsLt : ∀ n ∈ cuts l ts, n < Text.size l.text := by
      intro n hn
      obtain ⟨t, ht, rfl⟩ := List.mem_map.1 (hsub.subset hn)
      exact hlt t ht
    have hsorted : (0 :: cuts l ts ++ [Text.size l.text]).Pairwise (· ≤ ·) := by
      have hoffsets : (ts.map (·.offset)).Pairwise (· ≤ ·) :=
        List.pairwise_map.2 (hts.imp fun h => Nat.le_of_lt h)
      rw [List.cons_append, List.pairwise_cons, List.pairwise_append]
      refine ⟨fun n _ => Nat.zero_le n, hoffsets.sublist hsub, List.pairwise_singleton _ _, ?_⟩
      intro a ha b hb
      rw [List.mem_singleton.1 hb]
      exact Nat.le_of_lt (hcutsLt a ha)
    rw [flatMap_transitions_piecesBetween l hts _ 0 (cuts l ts) hsorted]
    refine List.filter_eq_self.2 fun t ht => ?_
    simp [hlt t ht]

/-- Writing pieces applies their transitions in order. -/
theorem emit_snd (r : Reindenter) (m : Bool) (s : RegionStack) (ps : List Piece) :
    (r.emit m s ps).2 = (ps.flatMap (·.transitions)).foldl (Piece.move m) s := by
  induction ps generalizing s with
  | nil => rfl
  | cons p ps ih => simp [emit, ih, Piece.after]

variable (r : Reindenter)

/-- The transitions of a line grow in offset. -/
theorem resolve_sorted (v : Verbatim) (l : LogicalLine) :
    (resolve r.taxonomy v (r.tags l)).1.Pairwise (fun x y => x.offset < y.offset) :=
  (r.tags_sorted l).sublist (resolve_sublist v (r.tags l))

/-- The transitions of a line start on it. -/
theorem offset_lt_of_mem_resolve {v : Verbatim} {l : LogicalLine} :
    ∀ t ∈ (resolve r.taxonomy v (r.tags l)).1, t.offset < Text.size l.text :=
  fun _ ht => offset_lt_of_mem_tags ((resolve_sublist v (r.tags l)).subset ht)

/-- What a line does to the state: outside verbatim blocks its tags move the stack one by one, but
a middle line leaves the stack alone. -/
theorem line_state (st : State) (l : LogicalLine) :
    (r.line st l).2 =
      { stack :=
          if isMiddleLine (resolve r.taxonomy st.verbatim (r.tags l)).1 then st.stack
          else (live r.taxonomy st.verbatim (r.tags l)).1.foldl (Piece.move false) st.stack
        verbatim := (live r.taxonomy st.verbatim (r.tags l)).2 } := by
  by_cases hblank : l.blank = true
  · -- no tags, so the right-hand side is the state as it was
    rw [tags_eq_nil_of_blank hblank]
    simp [line, hblank, live, isMiddleLine, resolve, cancel, Pending.result]
  · have hstack := r.emit_snd (isMiddleLine (resolve r.taxonomy st.verbatim (r.tags l)).1) st.stack
      (pieces l (resolve r.taxonomy st.verbatim (r.tags l)).1)
    rw [flatMap_transitions_pieces (r.resolve_sorted st.verbatim l)
      r.offset_lt_of_mem_resolve] at hstack
    cases hmid : isMiddleLine (resolve r.taxonomy st.verbatim (r.tags l)).1 with
    | true =>
      rw [hmid, foldl_move_middleLine hmid] at hstack
      simp [line, hblank, hmid, hstack, resolve_snd]
    | false =>
      have hall : (resolve r.taxonomy st.verbatim (r.tags l)).1.foldl (Piece.move false) st.stack =
          (live r.taxonomy st.verbatim (r.tags l)).1.foldl (Piece.move false) st.stack :=
        foldl_move_cancel _ _
      rw [hmid, hall] at hstack
      simp [line, hblank, hmid, hstack, resolve_snd]

end Reindenter

end SmartyLayout
