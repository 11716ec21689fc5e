import SmartyLayout.Text.Blank

/-!
# SmartyLayout.Text.Search — looking for a fixed text

Prefix tests with and without regard to letter case, and the distance through the first occurrence
of a closing text. Widths are counted in characters.
-/

namespace SmartyLayout

namespace Text

def startsWith (p t : Text) : Bool :=
  p.isPrefixOf t

def endsWith (p t : Text) : Bool :=
  p.isSuffixOf t

/-- What follows `p` at the front of `t`. -/
def after? (p t : Text) : Option Text :=
  p.isPrefixOf? t

/-- `p` occurs somewhere in `t`. -/
def contains (p : Text) : Text → Bool
  | [] => p.isEmpty
  | c :: cs => startsWith p (c :: cs) || contains p cs

/-- The number of characters through the end of the first occurrence of `p`. -/
def through (p : Text) : Text → Option Nat
  | [] => if p.isEmpty then some 0 else none
  | c :: cs => if startsWith p (c :: cs) then some p.length else (through p cs).map (· + 1)

/-- A stretch of a text under a search: a character on its own, or a hit. -/
inductive Segment (α : Type) where
  | char (c : Char)
  | hit (a : α)
deriving DecidableEq, Repr

/-- Reads a text as hits and the characters between them. `skip` counts the characters left of the
current hit. -/
def segmentsFrom {α : Type} (at? : Text → Option (Nat × α)) : Nat → Text → List (Segment α)
  | _, [] => []
  | skip + 1, _ :: cs => segmentsFrom at? skip cs
  | 0, c :: cs =>
    match at? (c :: cs) with
    | some (width, a) => .hit a :: segmentsFrom at? (width - 1) cs
    | none => .char c :: segmentsFrom at? 0 cs

/-- The hits of a search from the left and without overlap, and the characters between them;
`at?` gives the width of a hit at the front of a text and what it stands for. -/
def segments {α : Type} (at? : Text → Option (Nat × α)) (t : Text) : List (Segment α) :=
  segmentsFrom at? 0 t

/-- The characters of a stretch when a hit is written as `write` says. -/
def Segment.text {α : Type} (write : α → Text) : Segment α → Text
  | .char c => [c]
  | .hit a => write a

/-- Every hit becomes the text it stands for. -/
def substitute (at? : Text → Option (Nat × Text)) (t : Text) : Text :=
  (segments at? t).flatMap (Segment.text id)

/-- The text `p` at the front of a text, standing for `q`. -/
def fixed (p q t : Text) : Option (Nat × Text) :=
  if startsWith p t then some (p.length, q) else none

/-- Every occurrence of `p`, from the left and without overlap, becomes `q`. -/
def replace (p q t : Text) : Text :=
  substitute (fixed p q) t

/-- The letter that stands for a character where case does not count: ASCII letters in lower case,
and the two other characters whose simple case folding is an ASCII letter. -/
def foldCase (c : Char) : Char :=
  if c.toNat = 0x17F then 's' else if c.toNat = 0x212A then 'k' else c.toLower

/-- What follows `p` at the front of `t`, letter case aside; `p` is given in lower case. -/
def afterFolded? : Text → Text → Option Text
  | [], t => some t
  | _ :: _, [] => none
  | p :: ps, c :: cs => if foldCase c = p then afterFolded? ps cs else none

end Text

end SmartyLayout
