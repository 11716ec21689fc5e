import SmartyLayout.Proofs.Cancellation
import SmartyLayout.Proofs.TagWindow

/-!
# SmartyLayout.Proofs.Survival — a surviving tag splits cancellation

Cancellation reads the tags of a line together. But a tag that survives it is a watershed: the tags
in front of it, and those from it on, cancel as if they stood on lines of their own
(`cancel_append_of_mem`, `resolve_append_of_mem`). The proof runs the two machines side by side,
related by `Pending.Ahead`: as long as the survivor waits, whatever waits below it is out of reach,
and once it is settled, so is everything in front of it.
-/

namespace SmartyLayout

namespace Transition

variable {tax : Taxonomy}

/-! ## Offsets do not matter -/

theorem live_map_shift (v : Verbatim) (n : Nat) (ts : List Transition) :
    live tax v (ts.map (shift n)) = ((live tax v ts).1.map (shift n), (live tax v ts).2) := by
  induction ts generalizing v with
  | nil => rfl
  | cons t ts ih =>
    have hseen : seen? tax v (shift n t) = seen? tax v t := rfl
    cases h : seen? tax v t with
    | none => simp [live, hseen, h, ih]
    | some next => simp [live, hseen, h, ih]

namespace Pending

/-- The state of cancellation with all tags moved to later offsets. -/
def shift (n : Nat) (p : Pending) : Pending :=
  ⟨p.settled.map (Transition.shift n), p.waiting.map (Transition.shift n)⟩

theorem step_shift (n : Nat) (p : Pending) (t : Transition) :
    (p.shift n).step (t.shift n) = (p.step t).shift n := by
  unfold step
  cases hrole : t.role with
  | start => simp [shift, hrole]
  | middle =>
    by_cases hwait : p.waiting.isEmpty
    · simp [shift, hrole, hwait]
    · simp [shift, hrole, hwait]
  | finish =>
    cases hwait : p.waiting with
    | nil => simp [shift, hrole, hwait]
    | cons w ws =>
      by_cases hname : w.name = t.name
      · simp [shift, hrole, hwait, hname]
      · simp [shift, hrole, hwait, hname]

theorem foldl_step_shift (n : Nat) (p : Pending) (ts : List Transition) :
    (ts.map (Transition.shift n)).foldl step (p.shift n) = (ts.foldl step p).shift n := by
  induction ts generalizing p with
  | nil => rfl
  | cons t ts ih => rw [List.map_cons, List.foldl_cons, List.foldl_cons, step_shift, ih]

end Pending

theorem cancel_map_shift (n : Nat) (ts : List Transition) :
    cancel (ts.map (shift n)) = (cancel ts).map (shift n) := by
  have hrun := Pending.foldl_step_shift n {} ts
  have hempty : Pending.shift n {} = {} := rfl
  rw [hempty] at hrun
  rw [cancel, hrun, cancel]
  simp [Pending.result, Pending.shift]

theorem resolve_map_shift (v : Verbatim) (n : Nat) (ts : List Transition) :
    resolve tax v (ts.map (shift n)) = ((resolve tax v ts).1.map (shift n), (resolve tax v ts).2) := by
  simp only [resolve, live_map_shift, cancel_map_shift]

/-! ## Two machines side by side -/

/-- The first machine has read some tags more in front of `x`, and `front` is what is left of them.
Either `x` still waits in both, on top of the starts that wait in the first alone, or `front` is
settled. -/
inductive Pending.Ahead (x : Transition) (front : List Transition) : Pending → Pending → Prop
  | waits (settled below above : List Transition) (hfront : front = settled ++ below.reverse) :
      Ahead x front ⟨settled, above ++ x :: below⟩ ⟨[], above ++ [x]⟩
  | settled (later waiting : List Transition) :
      Ahead x front ⟨front ++ later, waiting⟩ ⟨later, waiting⟩

namespace Pending.Ahead

variable {x : Transition} {front : List Transition} {p q : Pending}

theorem result_eq (h : Ahead x front p q) : p.result = front ++ q.result := by
  cases h with
  | waits _ _ _ hfront => simp [result, hfront]
  | settled => simp [result]

/-- One tag keeps the machines side by side, unless it cancels `x`. -/
theorem step (h : Ahead x front p q) (hx : x ∉ front) (t : Transition) :
    Ahead x front (p.step t) (q.step t) ∨ x ∉ (p.step t).result := by
  unfold Pending.step
  cases h with
  | waits settled below above hfront =>
    cases hrole : t.role with
    | start => exact .inl (.waits settled below (t :: above) hfront)
    | middle =>
      -- something waits in both, so the middle tag is absorbed
      left
      simp only [List.isEmpty_iff, List.append_eq_nil_iff, List.cons_ne_nil, and_false, if_false]
      exact .waits settled below above hfront
    | finish =>
      cases above with
      | nil =>
        by_cases hname : x.name = t.name
        · right
          -- the end tag takes `x` with it
          simpa [hname, result, hfront] using hx
        · left
          simp only [List.nil_append, hname, if_false, hfront]
          have hsettled : Ahead x (settled ++ below.reverse)
              ⟨settled ++ below.reverse ++ [x, t], []⟩ ⟨[x, t], []⟩ := .settled [x, t] []
          simpa using hsettled
      | cons w above =>
        left
        by_cases hname : w.name = t.name
        · simp only [List.cons_append, hname, if_true]
          exact .waits settled below above hfront
        · simp only [List.cons_append, hname, if_false, hfront]
          have hsettled : Ahead x (settled ++ below.reverse)
              ⟨settled ++ below.reverse ++ x :: (above.reverse ++ [w, t]), []⟩
              ⟨x :: (above.reverse ++ [w, t]), []⟩ := .settled _ []
          simpa using hsettled
  | settled later waiting =>
    left
    cases hrole : t.role with
    | start => exact .settled _ _
    | middle =>
      by_cases hwait : waiting.isEmpty
      · simp only [hwait, if_true, List.append_assoc]
        exact .settled _ _
      · simp only [hwait]
        exact .settled _ _
    | finish =>
      cases waiting with
      | nil =>
        simp only [List.append_assoc]
        exact .settled _ _
      | cons w ws =>
        by_cases hname : w.name = t.name
        · simp only [hname, if_true]
          exact .settled _ _
        · simp only [hname, if_false, List.append_assoc]
          exact .settled _ _

/-- Whole runs keep the machines side by side, if `x` survives. -/
theorem result_foldl (h : Ahead x front p q) (hx : x ∉ front) {ts : List Transition} (hts : x ∉ ts)
    (hlast : x ∈ (ts.foldl Pending.step p).result) :
    (ts.foldl Pending.step p).result = front ++ (ts.foldl Pending.step q).result := by
  induction ts generalizing p q with
  | nil => exact h.result_eq
  | cons t ts ih =>
    rw [List.mem_cons, not_or] at hts
    rw [List.foldl_cons] at hlast ⊢
    rcases h.step hx t with h | hgone
    · exact ih h hts.2 hlast
    · -- what is gone does not come back
      have hmem := (Pending.result_foldl_sublist _ ts).subset hlast
      rcases List.mem_append.1 hmem with hmem | hmem
      · exact absurd hmem hgone
      · exact absurd hmem hts.2

end Pending.Ahead

/-! ## The watershed -/

/-- Reading a tag that survives puts the machines side by side. -/
theorem Pending.ahead_step (p : Pending) {x : Transition} (hx : x ∉ p.result) :
    Ahead x p.result (p.step x) (Pending.step {} x) ∨ x ∉ (p.step x).result := by
  unfold Pending.step
  cases hrole : x.role with
  | start => exact .inl (.waits p.settled p.waiting [] rfl)
  | middle =>
    by_cases hwait : p.waiting.isEmpty
    · left
      have hnil : p.waiting = [] := List.isEmpty_iff.1 hwait
      have hresult : p.result = p.settled := by simp [result, hnil]
      simp only [hnil, hresult]
      exact .settled [x] []
    · right
      simpa [hwait] using hx
  | finish =>
    cases hwait : p.waiting with
    | nil =>
      left
      have hresult : p.result = p.settled := by simp [result, hwait]
      simp only [hresult]
      exact .settled [x] []
    | cons w ws =>
      by_cases hname : w.name = x.name
      · right
        simp only [result, hwait, List.reverse_cons, List.mem_append, not_or] at hx
        simp [hname, result, hx.1, hx.2.1]
      · left
        have hresult : p.result = p.settled ++ (w :: ws).reverse := by rw [result, hwait]
        simp only [hname, if_false, hresult]
        exact .settled [x] []

/-- What is left of the tags of a line is what is left of those in front of a survivor and of those
from it on. -/
theorem cancel_append_of_mem {xs ys : List Transition} {x : Transition} (hxs : x ∉ xs) (hys : x ∉ ys)
    (h : x ∈ cancel (xs ++ x :: ys)) : cancel (xs ++ x :: ys) = cancel xs ++ cancel (x :: ys) := by
  have hfront : x ∉ (xs.foldl Pending.step {}).result := by
    intro hmem
    exact hxs ((cancel_sublist xs).subset hmem)
  simp only [cancel, List.foldl_append, List.foldl_cons] at h ⊢
  rcases (xs.foldl Pending.step {}).ahead_step hfront with hahead | hgone
  · exact hahead.result_foldl hfront hys h
  · have hmem := (Pending.result_foldl_sublist _ ys).subset h
    rcases List.mem_append.1 hmem with hmem | hmem
    · exact absurd hmem hgone
    · exact absurd hmem hys

/-- The same with the verbatim state carried along. -/
theorem resolve_append_of_mem {v : Verbatim} {xs ys : List Transition} {x : Transition}
    (hxs : x ∉ xs) (hys : x ∉ ys) (h : x ∈ (resolve tax v (xs ++ x :: ys)).1) :
    resolve tax v (xs ++ x :: ys) =
      ((resolve tax v xs).1 ++ (resolve tax (resolve tax v xs).2 (x :: ys)).1,
        (resolve tax (resolve tax v xs).2 (x :: ys)).2) := by
  have hlive : (live tax v xs).1.Sublist xs := live_sublist v xs
  simp only [resolve, live_append] at h ⊢
  cases hseen : seen? tax (live tax v xs).2 x with
  | none =>
    -- a tag that is passed over does not survive
    simp only [live, hseen] at h
    rcases List.mem_append.1 ((cancel_sublist _).subset h) with hmem | hmem
    · exact absurd (hlive.subset hmem) hxs
    · exact absurd ((live_sublist _ ys).subset hmem) hys
  | some next =>
    simp only [live, hseen] at h ⊢
    have hrest : x ∉ (live tax next ys).1 := fun hmem => hys ((live_sublist next ys).subset hmem)
    rw [cancel_append_of_mem (fun hmem => hxs (hlive.subset hmem)) hrest h]

end Transition

end SmartyLayout
