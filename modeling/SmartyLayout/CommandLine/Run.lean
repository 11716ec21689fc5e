import SmartyLayout.CommandLine.Format
import SmartyLayout.External.Launch

/-!
# SmartyLayout.CommandLine.Run — carrying out a command

A command is carried out on a workspace and an input, with the programs that there are.
-/

namespace SmartyLayout

namespace CommandLine

/-- Creates a settings file in the current directory. -/
def runInit (w : Workspace) : Report × Workspace :=
  match Config.create w Config.fileName with
  | .error f => (.ofFault (.config f), w)
  | .ok after =>
    ({ stdout := line ("Created default configuration file: " ++
        String.ofList Config.fileName) }, after)

/-- Shows the settings in force and where they come from. -/
def runConfig (w : Workspace) (path : Option Text) : Report :=
  match Config.load w path with
  | .error f => .ofFault (.config f)
  | .ok loaded =>
    let source := match loaded.source with
      | some p => line ("# Loaded from " ++ String.ofList p)
      | none => line "# Using built-in defaults"
    { stdout := source ++ loaded.config.render }

/-- Checks that a server can start. Without a message to answer it has nothing to print. -/
def runServer (w : Workspace) (config : Option Text) : Report :=
  match config with
  | some path => if w.pathExists path then {} else .ofFault (.configMissing path)
  | none => {}

def run (printer : Printer) (w : Workspace) (input : Bytes) : Command → Report × Workspace
  | .format r => runFormat printer w input r
  | .server _ config => (runServer w config, w)
  | .init => runInit w
  | .config path => (runConfig w path, w)

end CommandLine

end SmartyLayout
