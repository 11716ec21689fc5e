import SmartyLayout.Document
import SmartyLayout.External.Command
import SmartyLayout.File.Store
import SmartyLayout.Markup.Beautify

/-!
# SmartyLayout.Config.Basic — project settings

What a settings file holds, what can be wrong with one, and the formatter that settings describe.
-/

namespace SmartyLayout

/-- Who beautifies the markup. -/
inductive Delegate where
  | builtin
  | external
deriving DecidableEq, Repr

namespace Delegate

def name : Delegate → String
  | .builtin => "builtin"
  | .external => "external"

def ofName? (s : String) : Option Delegate :=
  [builtin, external].find? (·.name == s)

/-- The text of the fault for a word that names no delegate. -/
def unknownMessage (s : String) : String :=
  s!"unknown delegate '{s}', expected 'builtin' or 'external'"

end Delegate

/-- Which files are formatted. -/
structure FileRules where
  /-- Patterns of the files taken from directories. -/
  included : List Text := ["**/*.tpl".toList, "**/*.smarty".toList]
  excluded : List Text := []
  respectIgnoreFiles : Bool := true
deriving DecidableEq, Repr

/-- The settings of a project. -/
structure Config where
  files : FileRules := {}
  options : Options := {}
  delegate : Delegate := .builtin
  /-- The command of an external beautifier; an empty one stands for the default command. -/
  delegateCommand : List Text := []
  extraStartTags : List Text := []
  extraMiddleTags : List Text := []
  verbatimTags : List Text := Taxonomy.verbatimNames
deriving DecidableEq, Repr

/-- Why settings cannot be used. -/
inductive ConfigFault where
  | file (path : Text) (cause : FileFault)
  | malformed (path : Text)
  | taken (path : Text)
  | invalidValue (key message : String)
deriving DecidableEq, Repr

namespace ConfigFault

def message : ConfigFault → String
  | .file path cause =>
    "Failed to read config file at " ++ String.ofList path ++ ": " ++ cause.message
  | .malformed path => "Failed to parse config: " ++ String.ofList path
  | .taken path => "Configuration file already exists at " ++ String.ofList path
  | .invalidValue key message => s!"Invalid value for '{key}': {message}"

/-- The text of a fault followed by its cause. -/
def report (f : ConfigFault) : String :=
  match f with
  | .file _ cause => f.message ++ ": " ++ cause.message
  | f => f.message

end ConfigFault

namespace Config

def taxonomy (c : Config) : Taxonomy :=
  ((Taxonomy.default.addBlocks c.extraStartTags).addMiddles c.extraMiddleTags).setVerbatim
    c.verbatimTags

variable [External.Launcher]

def beautifier (c : Config) (printer : Printer) : Beautifier :=
  match c.delegate with
  | .builtin => .builtin printer
  | .external => .external ((External.Command.ofWords? c.delegateCommand).getD .default)

/-- The formatter for other options under the same settings. -/
def formatterWith (c : Config) (printer : Printer) (options : Options) : Formatter where
  options := options
  taxonomy := c.taxonomy
  beautifier := c.beautifier printer

def formatter (c : Config) (printer : Printer) : Formatter :=
  c.formatterWith printer c.options

end Config

end SmartyLayout
