import SmartyLayout.Literal.Kind

/-!
# SmartyLayout.Literal.Line — logical lines

A logical line ends at a line break outside every literal. `LogicalLine.split` reads a text once,
as plain characters, whole literals and line breaks; joining the lines with breaks gives the text
back.
-/

namespace SmartyLayout

/-- The bytes of a literal, relative to its line. -/
structure LiteralSpan where
  kind : Literal.Kind
  span : Span
deriving DecidableEq, Repr

/-- A unit of a logical line: a character that layout may touch, or a literal kept as it is. -/
inductive Atom where
  | plain (c : Char)
  | literal (kind : Literal.Kind) (lexeme : Text)
deriving DecidableEq, Repr

namespace Atom

def text : Atom → Text
  | .plain c => [c]
  | .literal _ lexeme => lexeme

/-- The literal spans of a run of units whose first byte has the given offset. -/
def spansFrom : Nat → List Atom → List LiteralSpan
  | _, [] => []
  | pos, .plain c :: as => spansFrom (pos + c.utf8Size) as
  | pos, .literal kind lexeme :: as =>
    let stop := pos + Text.size lexeme
    ⟨kind, ⟨pos, stop⟩⟩ :: spansFrom stop as

/-- Reads a text as the units of its first line and those of the later lines. `skip` counts the
characters left of a literal already read. -/
def readFrom (d : Dialect) : Nat → Text → List Atom × List (List Atom)
  | _, [] => ([], [])
  | skip + 1, _ :: cs => readFrom d skip cs
  | 0, c :: cs =>
    match Literal.at? d (c :: cs) with
    | some (kind, width) =>
      -- breaks inside the literal end no line
      let (line, later) := readFrom d (width - 1) cs
      (.literal kind ((c :: cs).take width) :: line, later)
    | none =>
      let (line, later) := readFrom d 0 cs
      if c = '\n' then ([], line :: later) else (.plain c :: line, later)

/-- The units of each logical line of a text. -/
def read (d : Dialect) (t : Text) : List (List Atom) :=
  let (line, later) := readFrom d 0 t
  line :: later

end Atom

/-- A stretch of text bounded by line breaks outside literals, with the literals on it. -/
structure LogicalLine where
  text : Text
  spans : List LiteralSpan
deriving DecidableEq, Repr

namespace LogicalLine

/-- The line made of the given units. -/
def ofAtoms (as : List Atom) : LogicalLine :=
  { text := as.flatMap Atom.text, spans := Atom.spansFrom 0 as }

/-- The logical lines of a text. -/
def split (d : Dialect) (t : Text) : List LogicalLine :=
  (Atom.read d t).map ofAtoms

/-- The byte at `offset` belongs to a literal. -/
def inLiteral (l : LogicalLine) (offset : Nat) : Bool :=
  l.spans.any (·.span.contains offset)

/-- The ranges in which no tag is recognised. -/
def tagMasks (l : LogicalLine) : List Span :=
  (l.spans.filter (·.kind.hidesTags)).map (·.span)

def literalRanges (l : LogicalLine) : List Span :=
  l.spans.map (·.span)

/-- The part of a line in a byte range, its literals cut to the range and counted from its start. -/
def slice (l : LogicalLine) (s : Span) : LogicalLine where
  text := Text.slice l.text s
  spans := (l.spans.filter (·.span.meets s)).map fun x => { x with span := x.span.within s }

/-- The line holds nothing but blank characters. -/
def blank (l : LogicalLine) : Bool :=
  Text.blank l.text

/-- The number of line breaks inside the line, all of them in literals. -/
def breaks (l : LogicalLine) : Nat :=
  l.text.count '\n'

end LogicalLine

end SmartyLayout
