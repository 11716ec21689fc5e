import SmartyLayout.Config.Printer
import SmartyLayout.Config.Reader

/-!
# SmartyLayout.Config.Discovery — which settings are in force

A settings file named outright comes first. Without one, the nearest file in a directory or those
above it is taken, up to the top of the repository; then the user's own file; then the defaults.
-/

namespace SmartyLayout

namespace Config

/-- The name of a project's settings file. -/
def fileName : Text :=
  ".smartyfmt.toml".toList

def searchDepth : Nat := 100

/-- The settings file of a directory or of those above it; the directory of a repository is the last
one searched. -/
def discoverFrom (w : Workspace) : (depth : Nat) → (dir : Text) → Option Text
  | 0, _ => none
  | depth + 1, dir =>
    let candidate := Path.join dir fileName
    if w.isFile candidate then some candidate
    -- the top of a repository is itself still searched
    else if w.pathExists (Path.join dir ".git".toList) then none
    else (Path.parent? dir).bind (discoverFrom w depth)

/-- The settings file nearest to a directory. -/
def discover (w : Workspace) (dir : Text) : Option Text :=
  discoverFrom w searchDepth dir

def userFile? (w : Workspace) : Option Text :=
  let path := Path.join (Path.join w.configHome "smartyfmt".toList) "config.toml".toList
  if w.isFile path then some path else none

/-- Settings and the file they come from; none for the defaults. -/
structure Loaded where
  config : Config := {}
  source : Option Text := none
deriving DecidableEq, Repr

/-- The settings in force for a directory. -/
def loadFrom (w : Workspace) (explicit : Option Text) (dir : Text) : Except ConfigFault Loaded :=
  match explicit <|> discover w dir <|> userFile? w with
  | none => .ok {}
  | some path => (read w path).map fun config => { config, source := some path }

/-- The settings in force for the current directory. -/
def load (w : Workspace) (explicit : Option Text) : Except ConfigFault Loaded :=
  loadFrom w explicit w.cwdPath

/-- Writes the file that a new project starts from, where nothing stands yet. -/
def create (w : Workspace) (path : Text) : Except ConfigFault Workspace :=
  if w.pathExists path then .error (.taken path)
  else
    match w.writeText path template with
    | .error cause => .error (.file path cause)
    | .ok w => .ok w

end Config

end SmartyLayout
