import SmartyLayout.CommandLine.Arguments
import SmartyLayout.CommandLine.Batch
import SmartyLayout.Config.Discovery
import SmartyLayout.File.Selection

/-!
# SmartyLayout.CommandLine.Format — carrying out a request to format

A request is carried out on a workspace and an input. It gives an exit code, what is printed, and the
workspace as it is afterwards.
-/

namespace SmartyLayout

namespace CommandLine

/-- What a command has printed and how it has ended. -/
structure Report where
  code : Nat := 0
  stdout : Text := []
  stderr : Text := []
deriving DecidableEq, Repr

/-- Why a command could not be carried out. -/
inductive Fault where
  | config (f : ConfigFault)
  | selection (f : SelectionFault)
  /-- Files were named next to the standard input. -/
  | mixedInput
  | input (cause : FileFault)
  | format (f : FormatFault)
  | configMissing (path : Text)
deriving DecidableEq, Repr

/-- The text of a fault, causes included. -/
def Fault.report : Fault → String
  | .config f => f.report
  | .selection f => f.message
  | .mixedInput => "'-' cannot be combined with other paths"
  | .input cause => "failed to read from stdin: " ++ cause.message
  | .format f => f.report
  | .configMissing path => "Configuration file not found: " ++ String.ofList path

def line (s : String) : Text :=
  s.toList ++ ['\n']

def Report.ofFault (f : Fault) : Report :=
  { code := 2, stderr := line ("Error: " ++ f.report) }

/-! ## Formatting -/

/-- The options with those of the command line in place of the configured ones. -/
def FormatRequest.override (r : FormatRequest) (o : Options) : Options :=
  { o with
    indentSize := r.indentSize.getD o.indentSize
    insertSpaces := o.insertSpaces && !r.tabs }

/-- The directory whose settings are in force; none is the current directory. -/
def FormatRequest.directory? (r : FormatRequest) : Option Text :=
  (r.inputName.bind Path.parent?).filter (!·.isEmpty)

def FormatRequest.load (r : FormatRequest) (w : Workspace) : Except ConfigFault Config.Loaded :=
  match r.directory? with
  | some dir => Config.loadFrom w r.config dir
  | none => Config.load w r.config

/-- Formats the standard input to the standard output. -/
def formatInput (f : Formatter) (check : Bool) (input : Bytes) : Report :=
  match Utf8.decode input with
  | .error _ => .ofFault (.input .notText)
  | .ok t =>
    match f.formatDocument t with
    | .error fault => .ofFault (.format fault)
    | .ok formatted =>
      if !check then { stdout := formatted }
      else if formatted = t then {}
      else { code := 1, stderr := line "Would reformat <stdin>" }

def changeLine (w : Workspace) (path : Text) : FileOutcome → Text
  | .reformatted => line ("Formatted " ++ String.ofList (Selection.display w path))
  | .wouldReformat => line ("Would reformat " ++ String.ofList (Selection.display w path))
  | _ => []

def failureLine (w : Workspace) (path : Text) : FileOutcome → Text
  | .failed message =>
    line ("Error: " ++ String.ofList (Selection.display w path) ++ ": " ++ message)
  | _ => []

def batchReport (w : Workspace) (check quiet : Bool) (os : List (Text × FileOutcome)) : Report :=
  let tally := Tally.ofOutcomes (os.map (·.2))
  { code := tally.exitCode check
    stdout :=
      -- quiet runs still report failures
      if quiet then []
      else (os.flatMap fun (p, o) => changeLine w p o) ++ line (tally.summary check)
    stderr := os.flatMap fun (p, o) => failureLine w p o }

def formatSelection (r : FormatRequest) (f : Formatter) (w : Workspace) (files : List Text) :
    Report × Workspace :=
  if files.isEmpty then
    ({ stdout := if r.quiet then [] else line "No template files found" }, w)
  else
    let (outcomes, after) := formatFiles f r.check w files
    (batchReport w r.check r.quiet outcomes, after)

def runFormat [External.Launcher] (printer : Printer) (w : Workspace) (input : Bytes)
    (r : FormatRequest) : Report × Workspace :=
  match r.load w with
  | .error f => (.ofFault (.config f), w)
  | .ok loaded =>
    let formatter := loaded.config.formatterWith printer (r.override loaded.config.options)
    -- a dash stands for the standard input
    if r.paths.contains ['-'] then
      if 1 < r.paths.length then (.ofFault .mixedInput, w)
      else (formatInput formatter r.check input, w)
    else
      match Selection.files w loaded.config.files r.exclude r.paths with
      | .error f => (.ofFault (.selection f), w)
      | .ok files => formatSelection r formatter w files

end CommandLine

end SmartyLayout
