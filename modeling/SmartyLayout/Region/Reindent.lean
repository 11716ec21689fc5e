import SmartyLayout.Literal.Line
import SmartyLayout.Options
import SmartyLayout.Region.Transition

/-!
# SmartyLayout.Region.Reindent — indentation by open blocks

Each logical line is written behind one indent unit per open template block. A line that moves the
stack more than once is first cut in front of every transition but the first, unless the cut would
fall inside a literal.
-/

namespace SmartyLayout

/-- What is fixed while a document is re-indented. -/
structure Reindenter where
  taxonomy : Taxonomy
  unit : Text

/-- What is carried from one line to the next. -/
structure Reindenter.State where
  stack : RegionStack := {}
  verbatim : Transition.Verbatim := none
deriving DecidableEq, Repr

/-- A piece of a line that is written on a line of its own. -/
structure Piece where
  text : Text
  transitions : List Transition
deriving DecidableEq, Repr

namespace Piece

/-- The piece is shown one level out: all of a middle line, and what begins by splitting or closing
a block. -/
def outdented (p : Piece) (middleLine : Bool) : Bool :=
  middleLine ||
    match p.transitions.head? with
    | some t => t.role != .start
    | none => false

def move (middleLine : Bool) (s : RegionStack) (t : Transition) : RegionStack :=
  match t.role with
  | .start => s.push t.name
  | .middle => s
  | .finish => if middleLine then s else s.pop

def after (p : Piece) (middleLine : Bool) (s : RegionStack) : RegionStack :=
  p.transitions.foldl (move middleLine) s

/-- The number of indent units in front of a piece. -/
def level (p : Piece) (middleLine : Bool) (s : RegionStack) : Nat :=
  if p.outdented middleLine then s.depth - 1 else s.depth

end Piece

namespace Reindenter

def cuts (l : LogicalLine) (ts : List Transition) : List Nat :=
  (ts.tail.map (·.offset)).filter (fun offset => !l.inLiteral offset)

/-- The pieces between consecutive bounds, each behind the blanks that begin the line. -/
def piecesBetween (l : LogicalLine) (ts : List Transition) : List Nat → List Piece
  | start :: stop :: bounds =>
    { text := Text.leading l.text ++ Text.trim (Text.slice l.text ⟨start, stop⟩)
      transitions := ts.filter fun t => (⟨start, stop⟩ : Span).contains t.offset } ::
      piecesBetween l ts (stop :: bounds)
  | _ => []

def pieces (l : LogicalLine) (ts : List Transition) : List Piece :=
  match cuts l ts with
  | [] => [{ text := Text.trimEnd l.text, transitions := ts }]
  | offsets => piecesBetween l ts (0 :: offsets ++ [Text.size l.text])

/-- Writes the pieces of one line, and gives the stack behind them. -/
def emit (r : Reindenter) (middleLine : Bool) : RegionStack → List Piece → List Text × RegionStack
  | s, [] => ([], s)
  | s, p :: ps =>
    let (later, last) := r.emit middleLine (p.after middleLine s) ps
    ((Text.times (p.level middleLine s) r.unit ++ p.text) :: later, last)

/-- The tags of a line outside comments and verbatim elements. -/
def tags (r : Reindenter) (l : LogicalLine) : List Transition :=
  Transition.ofTokens (Token.scan r.taxonomy l.tagMasks l.text)

/-- Writes one logical line. A blank line is written empty and moves nothing. -/
def line (r : Reindenter) (st : State) (l : LogicalLine) : List Text × State :=
  if l.blank then ([[]], st)
  else
    let (ts, verbatim) := Transition.resolve r.taxonomy st.verbatim (r.tags l)
    let (out, stack) := r.emit (Transition.isMiddleLine ts) st.stack (pieces l ts)
    (out, { stack, verbatim })

/-- Writes logical lines one after the other, and gives the state behind them. -/
def run (r : Reindenter) : State → List LogicalLine → List Text × State
  | st, [] => ([], st)
  | st, l :: ls =>
    let (out, next) := r.line st l
    let (later, last) := r.run next ls
    (out ++ later, last)

/-- The re-indented text of a list of logical lines. -/
def reindent (r : Reindenter) (ls : List LogicalLine) : Text :=
  Text.unlines (r.run {} ls).1

end Reindenter

end SmartyLayout
