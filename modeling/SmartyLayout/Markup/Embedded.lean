import SmartyLayout.Literal.Line

/-!
# SmartyLayout.Markup.Embedded — scripts and styles inside markup

Two things about embedded code: which script and style tags a logical line holds outside its
literals, and how a body is indented by bracket depth.
-/

namespace SmartyLayout

namespace Embedded

/-! ## Tags of embedded elements -/

/-- The tag of a script or style element; the name is in lower case. -/
structure Tag where
  closing : Bool
  name : Text
deriving DecidableEq, Repr

/-- The name `word` at the front of `t` as it is written there, if it ends at a word boundary. -/
def nameAt? (word t : Text) : Option Text := do
  let rest ← Text.afterFolded? word t
  if atWordEnd rest then some ((t.take word.length).map Char.toLower) else none

def tagAt? : Text → Option Tag
  | '<' :: '/' :: t => (named? t).map (⟨true, ·⟩)
  | '<' :: t => (named? t).map (⟨false, ·⟩)
  | _ => none
where
  /-- A script or style name. -/
  named? (t : Text) : Option Text := nameAt? "script".toList t <|> nameAt? "style".toList t

/-- The tags in the rest of a line that begins at byte `pos`, outside the line's literals. -/
def tagsFrom (l : LogicalLine) : Nat → Text → List Tag
  | _, [] => []
  | pos, c :: cs =>
    (if l.inLiteral pos then [] else (tagAt? (c :: cs)).toList) ++ tagsFrom l (pos + c.utf8Size) cs

/-- The tags of a line outside its literals. -/
def tags (l : LogicalLine) : List Tag :=
  tagsFrom l 0 l.text

/-- An open element and the physical line it was opened on. -/
structure OpenElement where
  name : Text
  line : Nat
deriving DecidableEq, Repr

/-- Follows one tag. Only the closing tag of the open element closes it, and no element opens
inside it. -/
def follow (line : Nat) (open? : Option OpenElement) (tag : Tag) : Option OpenElement :=
  match open? with
  | some e => if tag.closing ∧ tag.name = e.name then none else some e
  | none => if tag.closing then none else some ⟨tag.name, line⟩

/-- Follows the tags of a line that begins on physical line `line`. -/
def track (line : Nat) (open? : Option OpenElement) (l : LogicalLine) : Option OpenElement :=
  (tags l).foldl (follow line) open?

/-! ## Indentation by bracket depth -/

def closesBracket (c : Char) : Bool :=
  c == '}' || c == ')' || c == ']'

def opensBracket (c : Char) : Bool :=
  c == '{' || c == '(' || c == '['

/-- The number of closing brackets a text begins with, blanks aside. -/
def leadingClosers (t : Text) : Nat :=
  ((t.takeWhile fun c => closesBracket c || isBlank c).filter closesBracket).length

/-- How far the rest of a line, from byte `pos` on, moves the bracket depth. -/
def netFrom (l : LogicalLine) : Nat → Text → Int
  | _, [] => 0
  | pos, c :: cs =>
    (if l.inLiteral pos then 0
      else if opensBracket c then 1
      else if closesBracket c then -1
      else 0) + netFrom l (pos + c.utf8Size) cs

/-- The depth behind a line; it never falls below zero. -/
def depthAfter (l : LogicalLine) (depth : Nat) : Nat :=
  (depth + netFrom l 0 l.text).toNat

/-- Indents the lines of a body that begins at the given depth. -/
def indentLines (unit : Text) : Nat → List LogicalLine → List Text
  | _, [] => []
  | depth, l :: ls =>
    let text := Text.trim l.text
    if text.isEmpty then [] :: indentLines unit depth ls
    else
      -- closers in front are shown on the level of their openers
      (Text.times (depth - leadingClosers text) unit ++ text) ::
        indentLines unit (depthAfter l depth) ls

/-- The body of a script or style, indented by bracket depth. -/
def indent (d : Dialect) (unit code : Text) : Text :=
  Text.unlines (indentLines unit 0 (LogicalLine.split d (Text.trimBreaks code)))

end Embedded

end SmartyLayout
