import SmartyLayout.Config.Basic
import SmartyLayout.File.IgnoreRules

/-!
# SmartyLayout.File.Selection — which files are formatted

A file that is named is always taken. From a directory come the files that an include pattern
matches and no exclude pattern does, unless ignore rules pass over them or over a directory on the
way.
-/

namespace SmartyLayout

/-- Why no files could be selected. -/
inductive SelectionFault where
  | badPattern (pattern : Text) (fault : Glob.Fault)
  | missing (path : Text)
deriving DecidableEq, Repr

def SelectionFault.message : SelectionFault → String
  | .badPattern pattern fault =>
    "invalid glob pattern '" ++ String.ofList pattern ++ "': " ++ fault.message pattern
  | .missing path => "path does not exist: " ++ String.ofList path

namespace Selection

/-- The patterns that an exclude pattern stands for: one without wildcards names a file, or a
directory with all that is inside. -/
def expand (pattern : Text) : List Text :=
  if pattern.any fun c => c == '*' || c == '?' || c == '[' then [pattern]
  else
    let base := (pattern.reverse.dropWhile (· == '/')).reverse
    [base, base ++ "/**".toList]

def readGlobs : List Text → Except SelectionFault (List Glob)
  | [] => .ok []
  | p :: ps =>
    match Glob.parse {} p with
    | .error fault => .error (.badPattern p fault)
    | .ok g => (readGlobs ps).map (g :: ·)

def matchesAny (gs : List Glob) (path : Text) : Bool :=
  gs.any (·.isMatch path)

/-- The names from one location down to another. -/
def namesBelow? (dir l : Location) : Option (List Text) :=
  dir.isPrefixOf? l

/-- No entry on the way from a directory down to a file is passed over; `root` is the path to the
directory. -/
def isVisible (w : Workspace) (respect : Bool) (root : Text) (dir : Location)
    (names : List Text) : Bool :=
  (List.range names.length).all fun n =>
    let isDirectory := decide (n + 1 < names.length)
    !IgnoreRules.skips w respect { root, dir, names := names.take (n + 1), isDirectory }

/-- The visible files below a directory, each as the path to the directory and the rest of the
way. -/
def filesBelow (w : Workspace) (respect : Bool) (root : Text) (dir : Location) : List Text :=
  w.store.entries.filterMap fun (l, e) =>
    match e, namesBelow? dir l with
    | .file _, some (name :: names) =>
      if isVisible w respect root dir (name :: names) then
        some (List.intercalate ['/'] (name :: names))
      else none
    | _, _ => none

/-- Patterns of files to take and to leave. -/
structure Filter where
  included : List Glob
  excluded : List Glob

/-- The patterns of some rules, with more exclude patterns. -/
def Filter.ofRules (rules : FileRules) (extra : List Text) : Except SelectionFault Filter :=
  match readGlobs rules.included with
  | .error f => .error f
  | .ok included =>
    (readGlobs ((rules.excluded ++ extra).flatMap expand)).map fun excluded =>
      { included, excluded }

/-- A file at `rest` below `root` is taken. -/
def Filter.takes (f : Filter) (root rest : Text) : Bool :=
  -- exclude patterns may be written from the directory or from where the path starts
  matchesAny f.included rest && !matchesAny f.excluded rest
    && !matchesAny f.excluded (Path.withoutDot (Path.join root rest))

def filesAt (w : Workspace) (respect : Bool) (f : Filter) (root : Text) :
    Except SelectionFault (List Text) :=
  match w.find root with
  | .error _ => .error (.missing root)
  | .ok (_, .file _) => .ok [Path.withoutDot root]
  | .ok (dir, .directory) =>
    .ok (((filesBelow w respect root dir).filter (f.takes root)).map fun rest =>
      Path.withoutDot (Path.join root rest))

/-- The files that a list of paths stands for. -/
def filesOf (w : Workspace) (respect : Bool) (f : Filter) :
    List Text → Except SelectionFault (List Text)
  | [] => .ok []
  | root :: roots =>
    match filesAt w respect f root with
    | .error e => .error e
    | .ok files => (filesOf w respect f roots).map (files ++ ·)

/-- The selected files in order and without repetition; no path stands for the current directory. -/
def files (w : Workspace) (rules : FileRules) (extra paths : List Text) :
    Except SelectionFault (List Text) :=
  match Filter.ofRules rules extra with
  | .error e => .error e
  | .ok f =>
    let roots := if paths.isEmpty then [['.']] else paths
    (filesOf w rules.respectIgnoreFiles f roots).map Path.sort

/-- A path relative to the current directory where it lies below. -/
def display (w : Workspace) (path : Text) : Text :=
  (Path.relativeTo? w.cwdPath path).getD path

end Selection

end SmartyLayout
