import SmartyLayout.Server.Session

/-!
# SmartyLayout.Server.Wire — answers as values

What the server sends, in the field names that editors expect.
-/

namespace SmartyLayout

namespace Data

def ofFields (fields : List (String × Data)) : Data :=
  .table (fields.map fun (key, v) => (key.toList, v))

def ofString (s : String) : Data :=
  .text s.toList

def ofNat (n : Nat) : Data :=
  .int n

end Data

namespace Editor

def Place.toData (p : Place) : Data :=
  .ofFields [("line", .ofNat p.line.toNat), ("character", .ofNat p.character.toNat)]

def Selection.toData (s : Selection) : Data :=
  .ofFields [("start", s.start.toData), ("end", s.stop.toData)]

def Edit.toData (e : Edit) : Data :=
  .ofFields [("range", e.range.toData), ("newText", .text e.newText)]

end Editor

namespace Server

/-- The name and version that the server gives itself. -/
def serverInfo : Data :=
  .ofFields [("name", .ofString "smartyfmt"), ("version", .ofString "0.3.1")]

/-- What the server can do: it formats documents and selections, and wants whole texts on every
change. -/
def abilities : Data :=
  .ofFields [("textDocumentSync", .ofNat 1), ("documentFormattingProvider", .bool true),
    ("documentRangeFormattingProvider", .bool true)]

def Answer.toData : Answer → Data
  | .capabilities => .ofFields [("capabilities", abilities), ("serverInfo", serverInfo)]
  | .nothing => .null
  | .edits es => .list (es.map Editor.Edit.toData)

def Notice.method : Notice → String
  | .warning _ => "window/showMessage"
  | .log _ => "window/logMessage"

def Notice.message : Notice → String
  | .warning message | .log message => message

/-- The weight of a notice: 2 for a warning, 3 for a remark. -/
def Notice.weight : Notice → Nat
  | .warning _ => 2
  | .log _ => 3

def Notice.toData (n : Notice) : Data :=
  .ofFields [("type", .ofNat n.weight), ("message", .ofString n.message)]

end Server

end SmartyLayout
