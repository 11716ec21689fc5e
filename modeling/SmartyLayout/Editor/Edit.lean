import SmartyLayout.Document

/-!
# SmartyLayout.Editor.Edit — edits as editors take them

An editor counts lines and UTF-16 columns in 32-bit words. An edit replaces what lies between two
such positions.
-/

namespace SmartyLayout

namespace Editor

/-- A place in a document, as an editor writes it. -/
structure Place where
  line : UInt32
  character : UInt32
deriving DecidableEq, Repr

structure Selection where
  start : Place
  stop : Place
deriving DecidableEq, Repr

/-- A replacement of a selection. -/
structure Edit where
  range : Selection
  newText : Text
deriving DecidableEq, Repr

def Place.ofOffset (t : Text) (offset : Nat) : Place :=
  let p := Text.position t offset
  ⟨UInt32.ofNat p.line, UInt32.ofNat p.column⟩

/-- The whole lines a selection touches. A selection that ends in front of a line's first character
does not include that line, unless it begins there. -/
def Selection.lines (s : Selection) : LineRange :=
  let last :=
    -- a selection of whole lines ends in front of the next one
    if s.stop.character = 0 ∧ s.start.line < s.stop.line then s.stop.line - 1 else s.stop.line
  ⟨s.start.line.toUInt64, last.toUInt64⟩

/-- The edit that replaces a whole document. -/
def Edit.whole (t newText : Text) : Edit :=
  ⟨⟨⟨0, 0⟩, Place.ofOffset t (Text.size t)⟩, newText⟩

/-- The edit that replaces a byte range. -/
def Edit.ofRange (t : Text) (e : RangeEdit) : Edit :=
  ⟨⟨Place.ofOffset t e.span.start, Place.ofOffset t e.span.stop⟩, e.newText⟩

/-- What an editor says about indentation with each request. -/
structure Indentation where
  tabSize : UInt32
  insertSpaces : Bool
deriving DecidableEq, Repr

/-- The project's options under an editor's indentation; a tab size out of range is passed over. -/
def Indentation.apply (e : Indentation) (base : Options) : Options :=
  { base with
    indentSize := (IndentSize.ofNat? e.tabSize.toNat).getD base.indentSize
    insertSpaces := e.insertSpaces }

end Editor

end SmartyLayout
