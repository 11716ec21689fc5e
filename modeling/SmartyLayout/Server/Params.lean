import SmartyLayout.Editor.Edit
import SmartyLayout.Server.Protocol

/-!
# SmartyLayout.Server.Params — what an editor's messages say

Readers for the parameters of messages. A parameter that is missing or of the wrong kind spoils the
whole message; parameters that nobody asks for are passed over.
-/

namespace SmartyLayout

namespace Data

def required {α : Type} (d : Data) (key : String) (read : Data → Option α) : Option α :=
  (d.field? key).bind read

/-- A field that may be absent or null. -/
def optional {α : Type} (d : Data) (key : String) (read : Data → Option α) :
    Option (Option α) :=
  match d.field? key with
  | none | some .null => some none
  | some v => (read v).map some

def table? : Data → Option (List (Text × Data))
  | .table fields => some fields
  | _ => none

/-- A value of some shape, which nothing hangs on. -/
def shaped? (s : Server.Schema) (d : Data) : Option Unit :=
  if s.accepts d then some () else none

/-- A table, or a list with one value for each of some keys. -/
def fields? (keys : List String) : Data → Option Data
  | .table fields => some (.table fields)
  | .list xs =>
    if xs.length = keys.length then some (.table ((keys.map String.toList).zip xs)) else none
  | _ => none

end Data

namespace Server

open Editor (Place Selection Indentation)

/-- The options that an editor starts the server with. -/
structure Settings where
  configPath : Option Text := none
deriving DecidableEq, Repr

/-- Reads the options that an editor starts the server with. -/
def Settings.ofData? (d : Data) : Option Settings := do
  let d ← d.record? true ["configPath"]
  let configPath ← d.optional "configPath" Data.text?
  some { configPath }

/-- The parameters of the first message. -/
structure InitializeParams where
  settings : Option Data := none
  rootUri : Option Uri := none
  folders : Option (List Uri) := none

def folder? (d : Data) : Option Uri := do
  let d ← d.fields? ["uri", "name"]
  let uri ← d.required "uri" Data.uri?
  let _ ← d.required "name" Data.text?
  some uri

def InitializeParams.ofData? (d : Data) : Option InitializeParams := do
  let d ← d.fields? ["processId", "rootPath", "rootUri", "initializationOptions", "capabilities",
    "trace", "workspaceFolders", "clientInfo", "locale"]
  let _ ← d.optional "processId" (Data.word? 32)
  let _ ← d.optional "rootPath" Data.text?
  let rootUri ← d.optional "rootUri" Data.uri?
  let settings ← d.optional "initializationOptions" some
  let _ ← d.required "capabilities" (Data.shaped? Schema.abilities)
  let _ ← d.optional "trace" (Data.shaped? (.choice ["off", "messages", "verbose"]))
  let folders ← d.optional "workspaceFolders" (Data.list? folder?)
  let _ ← d.optional "clientInfo"
    (Data.shaped? (.record [("name", .text), ("version", Schema.text?)]))
  let _ ← d.optional "locale" Data.text?
  some { settings, rootUri, folders }

/-- The directory that is worked in: the first folder, else the root. -/
def InitializeParams.directory? (p : InitializeParams) : Option Text :=
  ((p.folders.bind List.head?) <|> p.rootUri).bind Uri.filePath?

/-- The parameters of a message without content: an empty table or list, or a table of unknown
fields. -/
def empty? (d : Data) : Option Unit :=
  (d.fields? []).map fun _ => ()

def document? (d : Data) : Option Uri := do
  let d ← d.fields? ["uri"]
  d.required "uri" Data.uri?

def openedDocument? (d : Data) : Option (Uri × Text) := do
  let d ← d.fields? ["uri", "languageId", "version", "text"]
  let uri ← d.required "uri" Data.uri?
  let _ ← d.required "languageId" Data.text?
  let _ ← d.required "version" Data.int32?
  let text ← d.required "text" Data.text?
  some (uri, text)

/-- A document with the number of its version. -/
def versionedDocument? (d : Data) : Option Uri := do
  let d ← d.fields? ["uri", "version"]
  let uri ← d.required "uri" Data.uri?
  let _ ← d.required "version" Data.int32?
  some uri

def place? (d : Data) : Option Place := do
  let d ← d.fields? ["line", "character"]
  let line ← d.required "line" (Data.word? 32)
  let character ← d.required "character" (Data.word? 32)
  some ⟨UInt32.ofNat line, UInt32.ofNat character⟩

def selection? (d : Data) : Option Selection := do
  let d ← d.fields? ["start", "end"]
  let start ← d.required "start" place?
  let stop ← d.required "end" place?
  some ⟨start, stop⟩

def changeText? (d : Data) : Option Text := do
  let d ← d.fields? ["range", "rangeLength", "text"]
  let _ ← d.optional "range" selection?
  let _ ← d.optional "rangeLength" (Data.word? 32)
  d.required "text" Data.text?

def indentation? (d : Data) : Option Indentation := do
  let _ ← d.shaped? Schema.indentation
  let tabSize ← d.required "tabSize" (Data.word? 32)
  let insertSpaces ← d.required "insertSpaces" Data.bool?
  some ⟨UInt32.ofNat tabSize, insertSpaces⟩

/-- Which document to format, and how it is indented. -/
def formatting? (d : Data) : Option (Uri × Indentation) := do
  let _ ← d.table?
  let uri ← d.required "textDocument" document?
  let indentation ← d.required "options" indentation?
  let _ ← d.optional "workDoneToken" (Data.shaped? Schema.progress)
  some (uri, indentation)

/-- Which part of a document to format, and how it is indented. -/
def rangeFormatting? (d : Data) : Option (Uri × Selection × Indentation) := do
  let (uri, indentation) ← formatting? d
  let selection ← d.required "range" selection?
  some (uri, selection, indentation)

def didOpen? (d : Data) : Option (Uri × Text) := do
  let d ← d.fields? ["textDocument"]
  d.required "textDocument" openedDocument?

/-- A document that is changed, and the texts of the changes. -/
def didChange? (d : Data) : Option (Uri × List Text) := do
  let d ← d.fields? ["textDocument", "contentChanges"]
  let uri ← d.required "textDocument" versionedDocument?
  let changes ← d.required "contentChanges" (Data.list? changeText?)
  some (uri, changes)

def didClose? (d : Data) : Option Uri := do
  let d ← d.fields? ["textDocument"]
  d.required "textDocument" document?

end Server

end SmartyLayout
