import SmartyLayout.Text.Blank

/-!
# SmartyLayout.Markup.Printer — markup printers

A printer lays out markup. It is given the text, the widths, and a function that indents the
embedded code it comes across; it answers with a text or a fault.
-/

namespace SmartyLayout

/-- What a printer is asked to do. -/
structure PrintRequest where
  text : Text
  indentWidth : Nat
  useTabs : Bool
  printWidth : Nat
  scriptIndent : Bool := true
  styleIndent : Bool := true
  /-- Indents embedded code. -/
  embed : Text → Text

/-- Why a printer gave no text. -/
inductive PrintFault where
  /-- The markup is malformed at a byte offset of the text. -/
  | malformed (offset : Nat) (message : String)
  /-- Embedded code could not be laid out. -/
  | embedded
deriving DecidableEq, Repr

abbrev Printer := PrintRequest → Except PrintFault Text

namespace Printer

def echo : Printer := fun request => .ok request.text

/-- A part of a prepared answer: fixed text, or code to be indented by the request's function. -/
inductive Part where
  | fixed (t : Text)
  | code (source margin : Text)
deriving DecidableEq, Repr

/-- Indented code as it is put into an answer: trimmed, with the margin in front of every line but
the first and the empty ones. -/
def place (margin code : Text) : Text :=
  match Text.lines (Text.trim code) with
  | [] => []
  | l :: ls => Text.unlines (l :: ls.map fun x => if x.isEmpty then x else margin ++ x)

def Part.text (embed : Text → Text) : Part → Text
  | .fixed t => t
  | .code source margin => place margin (embed source)

/-- The embedded code a part hands back, indented. -/
def Part.indented? (embed : Text → Text) : Part → Option Text
  | .fixed _ => none
  | .code source _ => some (embed source)

/-- What a prepared printer does with every request. -/
inductive Script where
  | echo
  | parts (ps : List Part)
  | fail (fault : PrintFault)
deriving DecidableEq, Repr

def ofScript : Script → Printer
  | .echo => Printer.echo
  | .parts ps => fun request => .ok (ps.flatMap (Part.text request.embed))
  | .fail fault => fun _ => .error fault

/-- The embedded code that a prepared printer has indented for it, in order. -/
def Script.indented (s : Script) (request : PrintRequest) : List Text :=
  match s with
  | .parts ps => ps.filterMap (Part.indented? request.embed)
  | _ => []

end Printer

end SmartyLayout
