import SmartyLayout.Proofs.Nesting

/-!
# SmartyLayout.Proofs.TagMachine — reading tags one at a time

Re-indentation cancels tags within a line, cuts the line at what is left, and hands each piece its
share. All of that is for the sake of layout. `Reindenter.readTag` is the machine without it: it reads
a tag, pushes or pops, and goes on to the next. `run_state_eq_foldl_readLine` says that a run leaves
the stack and the verbatim state as this machine does, line for line, but for the one rule that is
about whole lines: a middle line leaves the stack alone.
-/

namespace SmartyLayout

namespace Reindenter

open Transition

/-- The state behind one tag. In a verbatim block only the end tag of that block counts. Otherwise a
start tag opens a block, an end tag closes the innermost one, if any, and a middle tag does nothing. -/
def readTag (tax : Taxonomy) (st : State) (t : Transition) : State :=
  match st.verbatim with
  | some name =>
    if t.role = .finish ∧ t.name = name then { stack := st.stack.pop, verbatim := none } else st
  | none =>
    match t.role with
    | .start =>
      { stack := st.stack.push t.name
        verbatim := if tax.isVerbatim t.name then some t.name else none }
    | .middle => st
    | .finish => { stack := st.stack.pop, verbatim := none }

/-- The state behind a line whose tags are read one at a time; a middle line leaves the stack
alone. -/
def readLine (r : Reindenter) (st : State) (l : LogicalLine) : State :=
  let next := (r.tags l).foldl (readTag r.taxonomy) st
  if isMiddleLine (resolve r.taxonomy st.verbatim (r.tags l)).1 then { next with stack := st.stack }
  else next

/-- A tag is read as layout sees it: passed over, or a move of the stack. -/
theorem readTag_eq (tax : Taxonomy) (st : State) (t : Transition) :
    readTag tax st t =
      match seen? tax st.verbatim t with
      | none => st
      | some next => { stack := Piece.move false st.stack t, verbatim := next } := by
  obtain ⟨stack, verbatim⟩ := st
  cases verbatim with
  | some name =>
    by_cases hend : t.role = .finish ∧ t.name = name
    · simp [readTag, seen?, hend, Piece.move]
    · simp [readTag, seen?, hend]
  | none =>
    cases hrole : t.role with
    | start => cases hverb : tax.isVerbatim t.name <;> simp [readTag, seen?, hrole, hverb, Piece.move]
    | middle => simp [readTag, seen?, hrole, Piece.move]
    | finish => simp [readTag, seen?, hrole, Piece.move]

/-- Tags read one at a time: those outside verbatim blocks move the stack. -/
theorem foldl_readTag (tax : Taxonomy) (st : State) (ts : List Transition) :
    ts.foldl (readTag tax) st =
      { stack := (live tax st.verbatim ts).1.foldl (Piece.move false) st.stack
        verbatim := (live tax st.verbatim ts).2 } := by
  induction ts generalizing st with
  | nil => rfl
  | cons t ts ih =>
    rw [List.foldl_cons, ih, readTag_eq]
    cases hseen : seen? tax st.verbatim t with
    | none => simp [live, hseen]
    | some next => simp [live, hseen]

/-- Laying out a line changes the state as reading its tags one at a time does. -/
theorem line_state_eq_readLine (r : Reindenter) (st : State) (l : LogicalLine) :
    (r.line st l).2 = r.readLine st l := by
  rw [line_state, readLine, foldl_readTag]
  cases isMiddleLine (resolve r.taxonomy st.verbatim (r.tags l)).1 <;> rfl

/-- From any state on, a run leaves the stack and the verbatim state as the machine does that reads
the tags of the lines one at a time. Without middle lines it does not even matter how the tags are
spread over the lines. -/
theorem run_state_eq_foldl_readLine (r : Reindenter) (st : State) (ls : List LogicalLine) :
    (r.run st ls).2 = ls.foldl r.readLine st ∧
    ((∀ ts ∈ r.transitions st.verbatim ls, isMiddleLine ts = false) →
      (r.run st ls).2 = (ls.flatMap r.tags).foldl (readTag r.taxonomy) st) := by
  induction ls generalizing st with
  | nil => exact ⟨rfl, fun _ => rfl⟩
  | cons l ls ih =>
    obtain ⟨hrun, hflat⟩ := ih (r.line st l).2
    have hlast : (r.run st (l :: ls)).2 = (r.run (r.line st l).2 ls).2 := rfl
    rw [hlast, line_state_eq_readLine] at *
    refine ⟨hrun, fun hmiddle => ?_⟩
    -- the tags of the first line, read without the rule for middle lines
    simp only [transitions, List.forall_mem_cons] at hmiddle
    have hfirst : r.readLine st l = (r.tags l).foldl (readTag r.taxonomy) st := by
      simp [readLine, hmiddle.1]
    have hverbatim : (r.readLine st l).verbatim = (resolve r.taxonomy st.verbatim (r.tags l)).2 := by
      rw [hfirst, foldl_readTag, resolve_snd]
    rw [hverbatim] at hflat
    rw [hflat hmiddle.2, hfirst, List.flatMap_cons, List.foldl_append]

end Reindenter

end SmartyLayout
