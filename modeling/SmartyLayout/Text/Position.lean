import SmartyLayout.Text.Span

/-!
# SmartyLayout.Text.Position — lines, byte offsets and editor positions

A text has one line more than it has line breaks. Line numbers count from 0 and are 64-bit words;
asking where the largest word's line ends overflows, because the end of a line is found from the
number of the next one. Editors address a text by line and UTF-16 column.
-/

namespace SmartyLayout

/-- A place in a text as editors count: line and UTF-16 column, both from 0. -/
structure Position where
  line : Nat
  column : Nat
deriving DecidableEq, Repr

/-- Whole lines from `first` through `last`. -/
structure LineRange where
  first : UInt64
  last : UInt64
deriving DecidableEq, Repr

/-- The number after the largest line number was asked for. -/
inductive LineOverflow where
  | overflow
deriving DecidableEq, Repr

namespace Text

/-- The offsets just behind the line breaks of a text that begins at offset `pos`. -/
def startsFrom : Nat → Text → List Nat
  | _, [] => []
  | pos, c :: cs =>
    let next := pos + c.utf8Size
    if c = '\n' then next :: startsFrom next cs else startsFrom next cs

/-- The byte offset of each line's first byte. -/
def lineStarts (t : Text) : List Nat :=
  0 :: startsFrom 0 t

/-- The number of lines; a final break opens one more. -/
def lineCount (t : Text) : Nat :=
  (lineStarts t).length

/-- The byte offset where a line begins. -/
def lineStart? (t : Text) (line : UInt64) : Option Nat :=
  (lineStarts t)[line.toNat]?

/-- The end of the line from `start` to `stop`, in front of a carriage return that ends it. -/
def beforeReturn (t : Text) (start stop : Nat) : Nat :=
  if endsInReturn (slice t ⟨start, stop⟩) then stop - 1 else stop
where
  /-- The last character is a carriage return. -/
  endsInReturn (l : Text) : Bool := l.getLast? == some '\r'

/-- The byte offset where a line ends, in front of its line break. -/
def lineEnd? (t : Text) (line : UInt64) : Except LineOverflow (Option Nat) :=
  if line.toNat + 1 = UInt64.size then .error .overflow
  else
    let starts := lineStarts t
    .ok <|
      -- a line ends at the byte in front of the next one, or with the text
      match starts[line.toNat]?, starts[line.toNat + 1]? with
      | some start, some next => some (beforeReturn t start (next - 1))
      | some start, none => some (beforeReturn t start (size t))
      | none, _ => none

/-- The bytes of whole lines, without the break behind the last one. -/
def lineSpan? (t : Text) (r : LineRange) : Except LineOverflow (Option Span) :=
  if r.last < r.first then .ok none
  else
    match lineStart? t r.first with
    | none => .ok none
    | some start =>
      match lineEnd? t r.last with
      | .error e => .error e
      | .ok stop => .ok (stop.map (⟨start, ·⟩))

/-- The position of a byte offset; offsets behind the end count as the end. -/
def position (t : Text) (offset : Nat) : Position :=
  let offset := min offset (size t)
  let before := (lineStarts t).takeWhile (· ≤ offset)
  let start := before.getLast?.getD 0
  { line := before.length - 1, column := units16 (slice t ⟨start, offset⟩) }

end Text

end SmartyLayout
