import SmartyLayout.IgnoreMarker
import SmartyLayout.Markup.Beautify
import SmartyLayout.Region.Reindent
import SmartyLayout.Text.LineEnding
import SmartyLayout.Text.Position

/-!
# SmartyLayout.Document — formatting documents and selections

A document is formatted in stages: template lines inside scripts and styles are marked, the markup
is beautified, the result is split into logical lines and re-indented by open template blocks, and
the markers are removed. Line endings are put aside before and restored afterwards.
-/

namespace SmartyLayout

/-- Why a document could not be formatted. -/
inductive FormatFault where
  | beautifier (f : Beautifier.Fault)
  /-- The selected lines are not lines of the document. -/
  | invalidRange (r : LineRange) (lineCount : Nat)
  /-- The selection ends at the largest line number there is. -/
  | lineOverflow
deriving DecidableEq, Repr

def FormatFault.message : FormatFault → String
  | .beautifier f => f.message
  | .invalidRange r lineCount =>
    s!"line range {r.first}..={r.last} is outside a document of {lineCount} line(s)"
  | .lineOverflow => "line number overflow"

/-- The text of a fault followed by the text of its cause. -/
def FormatFault.report : FormatFault → String
  | .beautifier f => f.report
  | f => f.message

/-- A replacement for a byte range of a document. -/
structure RangeEdit where
  span : Span
  newText : Text
deriving DecidableEq, Repr

/-- What a document is formatted with. -/
structure Formatter where
  options : Options
  taxonomy : Taxonomy := .default
  beautifier : Beautifier

namespace Formatter

def settings (f : Formatter) : Beautifier.Settings :=
  .ofOptions f.options

/-- The re-indentation of the formatter's blocks. -/
def reindenter (f : Formatter) : Reindenter where
  taxonomy := f.taxonomy
  unit := f.options.indentUnit

/-- The text handed to the beautifier; a blank document is not handed to it. -/
def beautifierInput? (t : Text) : Option Text :=
  if Text.blank t then none else some (IgnoreMarker.protect t).text

/-- What becomes of a beautified text: block indentation, and no markers if any were inserted. -/
def layOut (f : Formatter) (d : Dialect) (marked : Bool) (beautified : Text) : Text :=
  let lines := LogicalLine.split d (LineEnding.normalize beautified)
  let reindented := f.reindenter.reindent lines
  if marked then IgnoreMarker.unprotect reindented else reindented

/-- Formats a text whose lines end in LF. -/
def formatLf (f : Formatter) (t : Text) : Except FormatFault Text :=
  if Text.blank t then .ok []
  else
    let guarded := IgnoreMarker.protect t
    match f.beautifier.run guarded.text f.settings with
    | .error fault => .error (.beautifier fault)
    -- the dialect is that of the source, whatever the beautifier made of it
    | .ok beautified => .ok (f.layOut (Dialect.detect t) guarded.changed beautified)

/-- The text with exactly one final line break, or none; an empty text gets none. -/
def closeDocument (f : Formatter) (t : Text) : Text :=
  let body := Text.dropFinalBreaks t
  if f.options.endWithNewline && !body.isEmpty then body ++ ['\n'] else body

def formatDocument (f : Formatter) (t : Text) : Except FormatFault Text :=
  match f.formatLf (LineEnding.normalize t) with
  | .error fault => .error fault
  | .ok formatted => .ok ((LineEnding.detect t).restore (f.closeDocument formatted))

/-- Formats whole lines of a document as if they were a document of their own. The edit leaves the
line break behind the last line alone. -/
def formatRange (f : Formatter) (t : Text) (r : LineRange) : Except FormatFault RangeEdit :=
  match Text.lineSpan? t r with
  | .error .overflow => .error .lineOverflow
  | .ok none => .error (.invalidRange r (Text.lineCount t))
  | .ok (some span) =>
    -- endings are those of the selection, which may differ from the document's
    let selected := Text.slice t span
    match f.formatLf (LineEnding.normalize selected) with
    | .error fault => .error fault
    | .ok formatted =>
      .ok ⟨span, (LineEnding.detect selected).restore (Text.dropFinalBreaks formatted)⟩

end Formatter

end SmartyLayout
