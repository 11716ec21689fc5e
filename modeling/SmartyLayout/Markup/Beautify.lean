import SmartyLayout.Markup.Shield

/-!
# SmartyLayout.Markup.Beautify — the built-in beautifier

The built-in beautifier shields the template lines, has the markup printed, puts the lines back
and tidies blank lines and line ends.
-/

namespace SmartyLayout

namespace Markup

/-- The lines kept by the blank-line rule: none at the front, and of each run of blank lines those
that `keeps` accepts. `started` tells whether a line was kept before, `run` how many blank lines
precede. -/
def keptLines (keeps : Nat → Bool) : (started : Bool) → (run : Nat) → List Text → List Text
  | _, _, [] => []
  | started, run, l :: ls =>
    if Text.blank l then
      if started then
        (if keeps (run + 1) then [[]] else []) ++ keptLines keeps true (run + 1) ls
      else keptLines keeps false run ls
    else l :: keptLines keeps true 0 ls

/-- The lines without the empty ones at the end. -/
def dropFinalEmpty (ls : List Text) : List Text :=
  (ls.reverse.dropWhile List.isEmpty).reverse

/-- Tidies a text: no blanks at line ends, blank lines as the settings say, and a final line break
if they ask for one. -/
def finish (d : Dialect) (s : Beautifier.Settings) (t : Text) : Text :=
  -- by logical lines, so that literals keep the blanks in front of their breaks
  let ls := (LogicalLine.split d t).map fun l => Text.trimEnd l.text
  let out := Text.unlines (dropFinalEmpty (keptLines s.keepsBlankLine false 0 ls))
  if s.endWithNewline && !out.isEmpty then out ++ ['\n'] else out

/-- What the printer is asked while a text is beautified, if it is asked at all. -/
def request? (t : Text) (s : Beautifier.Settings) : Option PrintRequest :=
  if Text.blank t then none
  else
    let d := Dialect.detect t
    match Shield.build d t with
    | .error _ => none
    | .ok shield => some (shield.request d s)

def beautify (printer : Printer) (t : Text) (s : Beautifier.Settings) :
    Except Beautifier.Fault Text :=
  if Text.blank t then .ok []
  else
    let d := Dialect.detect t
    match Shield.build d t with
    | .error fault => .error fault
    | .ok shield =>
      match printer (shield.request d s) with
      | .error fault => .error (shield.fault fault)
      | .ok printed => .ok (finish d s (shield.restore printed))

end Markup

def Beautifier.builtin (printer : Printer) : Beautifier where
  name := "builtin"
  run := Markup.beautify printer

end SmartyLayout
