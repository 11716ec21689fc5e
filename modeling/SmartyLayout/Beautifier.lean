import SmartyLayout.Options

/-!
# SmartyLayout.Beautifier — handing markup to a beautifier

The template layer never reshapes markup itself. It hands the text to a *beautifier*, which knows
nothing of templates, together with settings in the beautifier's own vocabulary.
-/

namespace SmartyLayout

namespace Beautifier

/-- What a beautifier is told about the layout. -/
structure Settings where
  indentSize : Nat
  indentWithTabs : Bool
  indentHandlebars : Bool := false
  indentInnerHtml : Bool
  maxPreserveNewlines : Option Nat
  preserveNewlines : Bool
  wrapLineLength : Nat
  wrapAttributes : String
  /-- Inline braces stay where they are, so that tags are never reflowed. -/
  braceStyle : String := "collapse,preserve-inline"
  jslintHappy : Bool := false
  indentEmptyLines : Bool := true
  endWithNewline : Bool
  templating : List String := ["smarty"]
deriving DecidableEq, Repr

namespace Settings

def ofOptions (o : Options) : Settings where
  indentSize := o.indentSize.val
  indentWithTabs := !o.insertSpaces
  indentInnerHtml := o.indentInnerHtml
  maxPreserveNewlines := o.maxPreserveNewlines
  preserveNewlines := o.preserveNewlines
  wrapLineLength := o.wrapLineLength.toNat
  wrapAttributes := o.wrapAttributes.name
  endWithNewline := o.endWithNewline

def indentUnit (s : Settings) : Text :=
  if s.indentWithTabs then ['\t'] else List.replicate s.indentSize ' '

/-- The `run`-th blank line in a row is kept. -/
def keepsBlankLine (s : Settings) (run : Nat) : Bool :=
  s.preserveNewlines && s.maxPreserveNewlines.all (fun most => run ≤ most)

/-- The flags that tell a command-line beautifier the settings. -/
def flags (s : Settings) : List String :=
  ["--indent-size=" ++ toString s.indentSize,
    "--wrap-line-length=" ++ toString s.wrapLineLength,
    "--wrap-attributes=" ++ s.wrapAttributes,
    "--brace-style=" ++ s.braceStyle,
    "--templating=" ++ ",".intercalate s.templating] ++
  (if s.indentWithTabs then ["--indent-with-tabs"] else []) ++
  (if s.indentInnerHtml then ["--indent-inner-html"] else []) ++
  (if s.preserveNewlines then
    (s.maxPreserveNewlines.map fun n => "--max-preserve-newlines=" ++ toString n).toList
  else ["--no-preserve-newlines"]) ++
  (if s.jslintHappy then ["--jslint-happy"] else []) ++
  (if s.indentEmptyLines then ["--indent-empty-lines"] else []) ++
  (if s.endWithNewline then ["--end-with-newline"] else [])

end Settings

/-- How a process that failed has ended. -/
inductive ExitStatus where
  | code (n : Nat)
  | signal (n : Nat) (name : String)
deriving DecidableEq, Repr

def ExitStatus.describe : ExitStatus → String
  | .code n => s!"exit status: {n}"
  | .signal n name => s!"signal: {n} ({name})"

/-- Why a beautifier gave no text. -/
inductive Fault where
  /-- The markup is malformed at a line, counted from 1. -/
  | unparseable (line : Nat) (message : String)
  /-- The program could not be started. -/
  | spawn (program : String) (reason : String)
  /-- The program ended without success. -/
  | failed (program : String) (status : ExitStatus) (stderr : String)
  /-- The program wrote something that is no text. -/
  | utf8 (reason : String)
  /-- The program could not be talked to. -/
  | io (reason : String)
deriving DecidableEq, Repr

def Fault.message : Fault → String
  | .unparseable line message => s!"cannot parse markup at line {line}: {message}"
  | .spawn program reason => s!"failed to run beautifier '{program}': {reason}"
  | .failed program status stderr =>
    let how := status.describe
    s!"beautifier '{program}' exited with {how}: {stderr}"
  | .utf8 reason => s!"beautifier produced invalid UTF-8: {reason}"
  | .io reason => s!"I/O error talking to beautifier: {reason}"

/-- The text of a fault followed by the text of its cause, as reports on a terminal show it. -/
def Fault.report (f : Fault) : String :=
  match f with
  | .unparseable .. | .failed .. => f.message
  | .spawn _ reason | .utf8 reason | .io reason => f.message ++ ": " ++ reason

end Beautifier

/-- A beautifier: its name and what it makes of a text. -/
structure Beautifier where
  name : String
  run : Text → Beautifier.Settings → Except Beautifier.Fault Text

namespace Beautifier

def passThrough : Beautifier where
  name := "passthrough"
  run t _ := .ok t

/-- The lines of a text as they are read: a final line break opens no line, and a carriage return
in front of a break belongs to the break. -/
def readLines (t : Text) : List Text :=
  let ls := Text.lines t
  let whole := ls.dropLast.map fun l => if l.getLast? = some '\r' then l.dropLast else l
  whole ++ (match ls.getLast? with
    | some [] | none => []
    | some l => [l])

def trimLines : Beautifier where
  name := "trim"
  run t _ := .ok (Text.unlines ((readLines t).map Text.trim))

/-- Returns the same text whatever it is given. -/
def constant (t : Text) : Beautifier where
  name := "fixed"
  run _ _ := .ok t

def failing (f : Fault) : Beautifier where
  name := "fail"
  run _ _ := .error f

end Beautifier

end SmartyLayout
