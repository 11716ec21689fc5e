import SmartyLayout.Region.Stack
import SmartyLayout.Tag.Token

/-!
# SmartyLayout.Region.Transition — what a line does to the open blocks

A tag on a line moves the stack of open blocks unless its block is opened and closed on that very
line. `Transition.resolve` reads the tags of one line in order and keeps those that survive this
cancellation:

* a start tag waits for its end on the same line;
* an end tag that names the latest waiting start cancels it; any other end tag settles all waiting
  starts and itself;
* a middle tag counts only while no start is waiting.

Inside a verbatim block every tag but its own end is passed over.
-/

namespace SmartyLayout

/-- A tag that moves the stack, with the byte offset where it starts on its line. -/
structure Transition where
  role : Role
  name : Text
  offset : Nat
deriving DecidableEq, Repr

namespace Transition

def ofToken? : Token → Option Transition
  | .tag role name span => some ⟨role, name, span.start⟩
  | .plain _ => none

/-- The tags of a line in order. -/
def ofTokens (ts : List Token) : List Transition :=
  ts.filterMap ofToken?

/-- The name of the verbatim block that is open, if any. -/
abbrev Verbatim := Option Text

/-- What a tag does to the verbatim state: `none` if the tag is passed over, else the state behind
it. -/
def seen? (tax : Taxonomy) (verbatim : Verbatim) (t : Transition) : Option Verbatim :=
  match verbatim with
  | some name => if t.role = .finish ∧ t.name = name then some none else none
  | none => if t.role = .start ∧ tax.isVerbatim t.name then some (some t.name) else some none

/-- The tags of a line that are not inside a verbatim block, and the verbatim state behind it. -/
def live (tax : Taxonomy) : Verbatim → List Transition → List Transition × Verbatim
  | verbatim, [] => ([], verbatim)
  | verbatim, t :: ts =>
    match seen? tax verbatim t with
    | none => live tax verbatim ts
    | some next =>
      let (rest, last) := live tax next ts
      (t :: rest, last)

/-- The state of cancellation on one line: settled tags in order, and the starts that wait for
their end, latest first. -/
structure Pending where
  settled : List Transition := []
  waiting : List Transition := []
deriving DecidableEq, Repr

namespace Pending

def step (p : Pending) (t : Transition) : Pending :=
  match t.role with
  | .start => { p with waiting := t :: p.waiting }
  -- it splits the waiting block, which may still be cancelled
  | .middle => if p.waiting.isEmpty then { p with settled := p.settled ++ [t] } else p
  | .finish =>
    match p.waiting with
    | w :: ws =>
      if w.name = t.name then { p with waiting := ws }
      -- the end crosses the waiting starts: none of them can be cancelled any more
      else { settled := p.settled ++ p.waiting.reverse ++ [t], waiting := [] }
    | [] => { p with settled := p.settled ++ [t] }

/-- The tags left at the end of the line, in order. -/
def result (p : Pending) : List Transition :=
  p.settled ++ p.waiting.reverse

end Pending

/-- The tags left after same-line cancellation. -/
def cancel (ts : List Transition) : List Transition :=
  (ts.foldl Pending.step {}).result

/-- The transitions of a line, and the verbatim state behind it. -/
def resolve (tax : Taxonomy) (verbatim : Verbatim) (ts : List Transition) :
    List Transition × Verbatim :=
  let (tags, last) := live tax verbatim ts
  (cancel tags, last)

/-- The transitions hold a middle tag and no start tag. Such a line is shown one level out as a
whole, and its end tags close nothing. -/
def isMiddleLine (ts : List Transition) : Bool :=
  ts.any (·.role == .middle) && !ts.any (·.role == .start)

end Transition

end SmartyLayout
