import SmartyLayout.Config.Basic
import SmartyLayout.File.Glob
import SmartyLayout.OptionsReader
import SmartyLayout.Toml.Reader

/-!
# SmartyLayout.Config.Reader — settings from a file's text

First the kinds of all values are checked, so that a value of the wrong kind makes the whole file
malformed. Then the values are checked one by one, and the first bad one is reported.
-/

namespace SmartyLayout

def Data.texts? : Data → Option (List Text) :=
  Data.list? Data.text?

def Delegate.ofData? : Data → Option Delegate
  | .table [(key, .list [])] => ofName? (String.ofList key)
  | d => (d.choice? .file).bind fun t => ofName? (String.ofList t)

/-- Unknown settings are passed over, but their numbers have to fit into 128 bits. -/
def Data.passable (d : Data) (keys : List String) : Bool :=
  d.othersFit (-0x80000000000000000000000000000000) 0xFFFFFFFFFFFFFFFFFFFFFFFFFFFFFFFF keys

/-- The rules of the `global` table; a list gives them in order. -/
def FileRules.ofData? (d : Data) : Option FileRules := do
  let keys := ["include", "exclude", "respect-gitignore"]
  let d ← d.record? false keys
  let base : FileRules := {}
  guard (d.passable keys)
  let included ← d.fieldOr "include" base.included Data.texts?
  let excluded ← d.fieldOr "exclude" base.excluded Data.texts?
  let respectIgnoreFiles ← d.fieldOr "respect-gitignore" base.respectIgnoreFiles Data.bool?
  some { included, excluded, respectIgnoreFiles }

namespace Config

/-- The settings of the `format` table that are no formatting options. -/
def formatKeys : List String :=
  ["delegate", "delegate-command", "extra-start-tags", "extra-middle-tags", "verbatim-tags"]

/-- The settings with those of the `format` table. Among its unknown settings numbers have to fit
into 64 bits. -/
def withFormat? (c : Config) : Data → Option Config
  | .date => some c
  | .table fields => do
    let d := Data.table fields
    guard (d.othersFit (-0x8000000000000000) 0xFFFFFFFFFFFFFFFF formatKeys)
    let options ← Options.ofData? .file d
    let delegate ← d.fieldOr "delegate" c.delegate Delegate.ofData?
    let delegateCommand ← d.fieldOr "delegate-command" c.delegateCommand Data.texts?
    let extraStartTags ← d.fieldOr "extra-start-tags" c.extraStartTags Data.texts?
    let extraMiddleTags ← d.fieldOr "extra-middle-tags" c.extraMiddleTags Data.texts?
    let verbatimTags ← d.fieldOr "verbatim-tags" c.verbatimTags Data.texts?
    some { c with options, delegate, delegateCommand, extraStartTags, extraMiddleTags,
                  verbatimTags }
  | _ => none

/-- The settings of a whole file. -/
def ofData? (d : Data) : Option Config := do
  let base : Config := {}
  guard (d.passable ["global", "format"])
  let files ← d.fieldOr "global" base.files FileRules.ofData?
  d.fieldOr "format" { base with files } (withFormat? { base with files })

def patternFault? (key : String) (patterns : List Text) : Option ConfigFault :=
  patterns.findSome? fun p =>
    match Glob.parse {} p with
    | .ok _ => none
    | .error f => some (.invalidValue key (f.message p))

def tagFault? (key : String) (names : List Text) : Option ConfigFault :=
  (names.find? (!isTagName ·)).map fun bad =>
    .invalidValue key ("'" ++ String.ofList bad ++ "' is not a valid tag name")

/-- The fault of an external command that names no program. -/
def commandFault? (c : Config) : Option ConfigFault :=
  if c.delegate = .external ∧ c.delegateCommand.head?.any Text.blank then
    some (.invalidValue "format.delegate-command" "program name is empty")
  else none

/-- The first fault of settings whose kinds are right. -/
def fault? (c : Config) : Option ConfigFault :=
  patternFault? "global.include" c.files.included
    <|> patternFault? "global.exclude" c.files.excluded
    <|> tagFault? "format.extra-start-tags" c.extraStartTags
    <|> tagFault? "format.extra-middle-tags" c.extraMiddleTags
    <|> tagFault? "format.verbatim-tags" c.verbatimTags
    <|> c.commandFault?

/-- The settings that a text holds; the path is for the fault only. -/
def parse (t path : Text) : Except ConfigFault Config :=
  match (Toml.parse? t).bind ofData? with
  | none => .error (.malformed path)
  | some c =>
    match c.fault? with
    | some f => .error f
    | none => .ok c

def read (w : Workspace) (path : Text) : Except ConfigFault Config :=
  match w.readText path with
  | .error cause => .error (.file path cause)
  | .ok t => parse t path

end Config

end SmartyLayout
