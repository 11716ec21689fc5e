import SmartyLayout.Document
import SmartyLayout.File.Store

/-!
# SmartyLayout.CommandLine.Batch — formatting files in place

Files are formatted one after another. A file that fails is reported and left as it is, and the
others are formatted all the same. A run that only checks finds the same files and writes none.
-/

namespace SmartyLayout

namespace CommandLine

/-- What became of a file. -/
inductive FileOutcome where
  | unchanged
  | reformatted
  /-- It differs from its formatted form and was left as it is. -/
  | wouldReformat
  | failed (message : String)
deriving DecidableEq, Repr

namespace FileOutcome

def differs : FileOutcome → Bool
  | .reformatted | .wouldReformat => true
  | _ => false

def isFailure : FileOutcome → Bool
  | .failed _ => true
  | _ => false

end FileOutcome

/-- The text of a failure to read or write a file. -/
def fileMessage (verb : String) (path : Text) (cause : FileFault) : String :=
  s!"failed to {verb} " ++ String.ofList path ++ ": " ++ cause.message

/-- Formats one file; `check` leaves it as it is. -/
def formatFile (f : Formatter) (check : Bool) (w : Workspace) (path : Text) :
    FileOutcome × Workspace :=
  match w.readText path with
  | .error cause => (.failed (fileMessage "read" path cause), w)
  | .ok t =>
    match f.formatDocument t with
    | .error fault => (.failed fault.report, w)
    | .ok formatted =>
      if formatted = t then (.unchanged, w)
      else if check then (.wouldReformat, w)
      else
        match w.writeText path formatted with
        | .error cause => (.failed (fileMessage "write" path cause), w)
        | .ok w => (.reformatted, w)

/-- Formats files one after another. -/
def formatFiles (f : Formatter) (check : Bool) :
    Workspace → List Text → List (Text × FileOutcome) × Workspace
  | w, [] => ([], w)
  | w, path :: paths =>
    let (outcome, w) := formatFile f check w path
    let (outcomes, w) := formatFiles f check w paths
    ((path, outcome) :: outcomes, w)

/-- How many files went which way. -/
structure Tally where
  total : Nat
  changed : Nat
  failed : Nat
deriving DecidableEq, Repr

namespace Tally

def ofOutcomes (os : List FileOutcome) : Tally where
  total := os.length
  changed := os.countP FileOutcome.differs
  failed := os.countP FileOutcome.isFailure

/-- The files that were left as they are because they are formatted. -/
def unchanged (t : Tally) : Nat :=
  t.total - t.changed - t.failed

def summary (t : Tally) (check : Bool) : String :=
  let verb := if check then "would be reformatted" else "reformatted"
  s!"{t.changed} file(s) {verb}, {t.unchanged} file(s) left unchanged" ++
    if 0 < t.failed then s!", {t.failed} file(s) failed" else ""

/-- 2 if a file failed, else 1 if a check found files to change, else 0. -/
def exitCode (t : Tally) (check : Bool) : Nat :=
  if 0 < t.failed then 2 else if check ∧ 0 < t.changed then 1 else 0

end Tally

end CommandLine

end SmartyLayout
