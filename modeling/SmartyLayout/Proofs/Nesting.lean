import Mathlib.Algebra.GroupWithZero.Nat
import SmartyLayout.Proofs.Cancellation

/-!
# SmartyLayout.Proofs.Nesting — documents whose blocks are well nested

A document is *well nested* if its tags outside verbatim blocks, read in order whatever lines they
stand on, open and close blocks like brackets, with middle tags inside blocks only.

One rule of the layout breaks the balance on purpose: a line with a middle tag and no start tag left
leaves the stack alone, end tags on it included. `depth_of_wellNested` is exact about it: behind a
well-nested document the stack holds one block for each end tag left on such a line, and none
otherwise. `wellNested_stack_not_empty` shows that the rule does bite.
-/

namespace SmartyLayout

namespace Transition

/-! ## Well-nested tags -/

/-- The open blocks behind a tag, innermost first; none if the tag is out of place. -/
def nest? (blocks : List Text) (t : Transition) : Option (List Text) :=
  match t.role, blocks with
  | .start, _ => some (t.name :: blocks)
  | .middle, [] => none
  | .middle, _ :: _ => some blocks
  | .finish, [] => none
  | .finish, n :: rest => if n = t.name then some rest else none

/-- Outside verbatim blocks, every end tag names the innermost open block, every middle tag stands
in a block, and every block is closed. -/
def WellNested (tax : Taxonomy) (ts : List Transition) : Prop :=
  (live tax none ts).1.foldlM nest? [] = some []

instance (tax : Taxonomy) (ts : List Transition) : Decidable (WellNested tax ts) :=
  inferInstanceAs (Decidable (_ = _))

/-- A tag in its place moves any stack that is deep enough by as much as it moves the open
blocks. -/
theorem depth_move_of_nest? {blocks next : List Text} {t : Transition}
    (h : nest? blocks t = some next) {s : RegionStack} (hs : blocks.length ≤ s.depth) :
    next.length ≤ (Piece.move false s t).depth ∧
      (Piece.move false s t).depth + blocks.length = s.depth + next.length := by
  unfold nest? at h
  unfold Piece.move
  split at h
  · next hrole =>
    cases h
    simp only [hrole, RegionStack.depth_push, List.length_cons]
    omega
  · simp at h
  · next hrole =>
    cases h
    rw [hrole]
    exact ⟨hs, rfl⟩
  · simp at h
  · next hrole =>
    split at h
    · cases h
      -- a block is open, so the stack has one to take off
      simp only [List.length_cons] at hs
      simp only [hrole, Bool.false_eq_true, if_false, RegionStack.depth, RegionStack.pop,
        List.length_tail, List.length_cons]
      simp only [RegionStack.depth] at hs
      omega
    · simp at h

/-- Tags in their places move any stack that is deep enough by as much as they move the open
blocks. -/
theorem depth_foldl_move_of_nest? {ts : List Transition} {blocks next : List Text}
    (h : ts.foldlM nest? blocks = some next) {s : RegionStack} (hs : blocks.length ≤ s.depth) :
    next.length ≤ (ts.foldl (Piece.move false) s).depth ∧
      (ts.foldl (Piece.move false) s).depth + blocks.length = s.depth + next.length := by
  induction ts generalizing blocks s with
  | nil =>
    cases h
    exact ⟨hs, rfl⟩
  | cons t ts ih =>
    rw [List.foldlM_cons] at h
    cases hmid : nest? blocks t with
    | none => simp [hmid] at h
    | some mid =>
      simp only [hmid, Option.bind_eq_bind, Option.bind_some] at h
      obtain ⟨hle, hdepth⟩ := depth_move_of_nest? hmid hs
      obtain ⟨hle', hdepth'⟩ := ih h hle
      rw [List.foldl_cons]
      exact ⟨hle', by omega⟩

/-! ## End tags on middle lines -/

/-- The number of end tags among the transitions of a line that close nothing, because the line is a
middle line. -/
def heldOpen (ts : List Transition) : Nat :=
  if isMiddleLine ts then ts.countP (·.role == .finish) else 0

theorem heldOpen_eq_zero_iff {ts : List Transition} :
    heldOpen ts = 0 ↔ (isMiddleLine ts = true → ∀ t ∈ ts, t.role ≠ .finish) := by
  unfold heldOpen
  split
  · next hmid => simp [hmid, List.countP_eq_zero]
  · next hmid => simp [hmid]

/-- Without start tags, a stack loses one block for each end tag. -/
theorem depth_foldl_move_of_no_start {ts : List Transition} (h : ∀ t ∈ ts, t.role ≠ .start)
    (s : RegionStack) :
    (ts.foldl (Piece.move false) s).depth = s.depth - ts.countP (·.role == .finish) := by
  induction ts generalizing s with
  | nil => simp
  | cons t ts ih =>
    rw [List.foldl_cons, ih fun t' ht' => h t' (List.mem_cons_of_mem t ht'), List.countP_cons]
    unfold Piece.move
    cases hrole : t.role with
    | start => exact absurd hrole (h t (by simp))
    | middle => simp
    | finish =>
      simp only [Bool.false_eq_true, if_false, RegionStack.depth, RegionStack.pop,
        List.length_tail, beq_self_eq_true, if_true]
      omega

/-- The blocks that the end tags of a middle line would have closed. -/
theorem length_add_heldOpen {ts : List Transition} {blocks next : List Text}
    (h : ts.foldlM nest? blocks = some next) (hmid : isMiddleLine (cancel ts) = true) :
    next.length + heldOpen (cancel ts) = blocks.length := by
  -- a stack deep enough for every end tag, so that no pop is lost at its bottom
  let s : RegionStack := ⟨List.replicate (blocks.length + heldOpen (cancel ts)) []⟩
  have hs : s.depth = blocks.length + heldOpen (cancel ts) := List.length_replicate
  have hall := (depth_foldl_move_of_nest? h (s := s) (by omega)).2
  have hleft := depth_foldl_move_of_no_start (role_ne_start_of_isMiddleLine hmid) s
  rw [foldl_move_cancel] at hleft
  have hheld : heldOpen (cancel ts) = (cancel ts).countP (·.role == .finish) := by
    simp [heldOpen, hmid]
  omega

end Transition

namespace Reindenter

open Transition

variable (r : Reindenter)

/-! ## Runs over well-nested documents -/

/-- The transitions of each line of a document, the verbatim state carried along. -/
def transitions : Verbatim → List LogicalLine → List (List Transition)
  | _, [] => []
  | v, l :: ls =>
    (resolve r.taxonomy v (r.tags l)).1 :: transitions (resolve r.taxonomy v (r.tags l)).2 ls

theorem run_append (st : State) (ls ms : List LogicalLine) :
    r.run st (ls ++ ms) =
      ((r.run st ls).1 ++ (r.run (r.run st ls).2 ms).1, (r.run (r.run st ls).2 ms).2) := by
  induction ls generalizing st with
  | nil => simp [run]
  | cons l ls ih => simp [run, ih]

/-- One line of a well-nested document: the stack stays ahead of the open blocks by what was held
open before and what the line itself holds open. -/
theorem depth_line {st : State} {l : LogicalLine} {blocks next : List Text} {held : Nat}
    (hnest : (live r.taxonomy st.verbatim (r.tags l)).1.foldlM nest? blocks = some next)
    (hdepth : st.stack.depth = blocks.length + held) :
    (r.line st l).2.stack.depth =
      next.length + (held + heldOpen (resolve r.taxonomy st.verbatim (r.tags l)).1) := by
  rw [line_state]
  cases hmid : isMiddleLine (resolve r.taxonomy st.verbatim (r.tags l)).1 with
  | true =>
    -- a middle line leaves the stack alone: what it would have closed is held open
    have hheld := length_add_heldOpen hnest hmid
    rw [← resolve_fst] at hheld
    simp only [if_true]
    omega
  | false =>
    have hmoved := (depth_foldl_move_of_nest? hnest (s := st.stack) (by omega)).2
    have hnone : heldOpen (resolve r.taxonomy st.verbatim (r.tags l)).1 = 0 := by
      simp [heldOpen, hmid]
    simp only [Bool.false_eq_true, if_false]
    omega

/-- A whole run over a well-nested document, from any state on. -/
theorem depth_run {ls : List LogicalLine} {st : State} {blocks next : List Text} {held : Nat}
    (hnest : (live r.taxonomy st.verbatim (ls.flatMap r.tags)).1.foldlM nest? blocks = some next)
    (hdepth : st.stack.depth = blocks.length + held) :
    (r.run st ls).2.stack.depth =
      next.length + (held + ((r.transitions st.verbatim ls).map heldOpen).sum) := by
  induction ls generalizing st blocks held with
  | nil =>
    simp only [List.flatMap_nil, live, List.foldlM_nil] at hnest
    cases hnest
    simpa [run, transitions] using hdepth
  | cons l ls ih =>
    rw [List.flatMap_cons, live_append, List.foldlM_append] at hnest
    cases hmid : (live r.taxonomy st.verbatim (r.tags l)).1.foldlM nest? blocks with
    | none => simp [hmid] at hnest
    | some mid =>
      simp only [hmid, Option.bind_eq_bind, Option.bind_some] at hnest
      have hverbatim : (r.line st l).2.verbatim = (live r.taxonomy st.verbatim (r.tags l)).2 := by
        rw [line_state]
      -- the rest of the document is read in the state the line has left
      rw [← hverbatim] at hnest
      have hrest := ih hnest (r.depth_line hmid hdepth)
      simp only [run, transitions, List.map_cons, List.sum_cons, resolve_snd, ← hverbatim]
      omega

/-- A line without tags is written behind one indent unit per open block, and leaves the state
alone. -/
theorem line_of_no_tags {l : LogicalLine} (htags : r.tags l = []) (hblank : l.blank = false)
    (st : State) :
    r.line st l = ([Text.times st.stack.depth r.unit ++ Text.trimEnd l.text], st) := by
  simp [line, hblank, htags, resolve, live, cancel, Pending.result, isMiddleLine, pieces, cuts,
    emit, Piece.level, Piece.outdented, Piece.after]

/-- Behind a well-nested document the stack holds one block for each end tag left on a middle line.
So it is empty exactly if no middle line has an end tag left, and a line of plain text put behind
the document is indented by that number of units. -/
theorem depth_of_wellNested {ls : List LogicalLine}
    (h : WellNested r.taxonomy (ls.flatMap r.tags)) :
    (r.run {} ls).2.stack.depth = ((r.transitions none ls).map heldOpen).sum ∧
    ((r.run {} ls).2.stack = .empty ↔
      ∀ ts ∈ r.transitions none ls, isMiddleLine ts = true → ∀ t ∈ ts, t.role ≠ .finish) ∧
    ∀ l : LogicalLine, r.tags l = [] → l.blank = false →
      (r.run {} (ls ++ [l])).1 =
        (r.run {} ls).1 ++
          [Text.times ((r.transitions none ls).map heldOpen).sum r.unit ++ Text.trimEnd l.text] := by
  have hdepth : (r.run {} ls).2.stack.depth = ((r.transitions none ls).map heldOpen).sum := by
    have hrun : (r.run {} ls).2.stack.depth =
        ([] : List Text).length + (0 + ((r.transitions none ls).map heldOpen).sum) :=
      r.depth_run h rfl
    simpa using hrun
  refine ⟨hdepth, ?_, ?_⟩
  · have hempty : (r.run {} ls).2.stack = .empty ↔ (r.run {} ls).2.stack.depth = 0 := by
      constructor
      · intro hstack
        rw [hstack, RegionStack.depth_empty]
      · intro hzero
        exact congrArg RegionStack.mk (List.length_eq_zero_iff.1 hzero)
    rw [hempty, hdepth, List.sum_eq_zero_iff_forall_eq_nat]
    simp only [List.mem_map, forall_exists_index, and_imp, forall_apply_eq_imp_iff₂,
      heldOpen_eq_zero_iff]
  · intro l htags hblank
    rw [run_append, ← hdepth]
    simp [run, r.line_of_no_tags htags hblank]

/-- Blocks that share lines: `{/foreach}{else}` holds one block open. -/
theorem depth_of_wellNested_shared_lines :
    let r : Reindenter := ⟨.default, "  ".toList⟩
    let ls := LogicalLine.split .single
      ("\x7bif $a\x7d\x7bforeach $b\x7d\n\x7b$b\x7d\n".toList ++
        "\x7b/foreach\x7d\x7belse\x7d\n\x7b/if\x7d".toList)
    WellNested r.taxonomy (ls.flatMap r.tags) ∧ (r.run {} ls).2.stack.depth = 1 :=
  ⟨by decide, (depth_of_wellNested ⟨.default, "  ".toList⟩ (by decide)).1.trans (by decide)⟩

/-- Well-nested tags alone do not empty the stack: in `{if $a}⏎{else}{/if}` the end tag stands on a
middle line. -/
theorem wellNested_stack_not_empty :
    ¬ ∀ (r : Reindenter) (ls : List LogicalLine), WellNested r.taxonomy (ls.flatMap r.tags) →
      (r.run {} ls).2.stack = .empty := by
  intro h
  have hempty := h ⟨.default, "  ".toList⟩
    (LogicalLine.split .single "\x7bif $a\x7d\n\x7belse\x7d\x7b/if\x7d".toList) (by decide)
  exact absurd hempty (by decide)

end Reindenter

end SmartyLayout
