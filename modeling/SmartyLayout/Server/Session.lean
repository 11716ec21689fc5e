import SmartyLayout.Config.Discovery
import SmartyLayout.Server.Params

/-!
# SmartyLayout.Server.Session — answering an editor

A session holds the texts of open documents and answers requests to format them. Messages are
handled one at a time.

* **Documents**: opening and changing a document keep its text, closing it drops it. A request never
  changes what is kept.
* **Phases**: requests are refused before the session has begun and after it was shut down; after
  the last message there are no more answers.
-/

namespace SmartyLayout

namespace Server

open Editor (Edit Selection Indentation)

/-! ## Documents -/

/-- The texts of open documents. -/
structure Documents where
  entries : List (Uri × Text) := []
deriving DecidableEq, Repr

namespace Documents

def get? (ds : Documents) (uri : Uri) : Option Text :=
  (ds.entries.find? (·.1 == uri)).map (·.2)

def erase (ds : Documents) (uri : Uri) : Documents :=
  { entries := ds.entries.filter (·.1 != uri) }

/-- Keeps the text of a document in place of an earlier one. -/
def put (ds : Documents) (uri : Uri) (t : Text) : Documents :=
  { entries := (uri, t) :: (ds.erase uri).entries }

/-- Keeps the text of the last change; without changes all stays as it is. -/
def change (ds : Documents) (uri : Uri) (texts : List Text) : Documents :=
  match texts.getLast? with
  | some t => ds.put uri t
  | none => ds

end Documents

/-- What the server tells an editor on its own account. -/
inductive Notice where
  /-- A warning to be shown. -/
  | warning (message : String)
  /-- A remark for the log. -/
  | log (message : String)
deriving DecidableEq, Repr

def failureNotice (f : FormatFault) : Notice :=
  .warning ("smartyfmt could not format this document: " ++ f.message)

/-- The edits that format a document, and warnings. -/
def documentEdits (f : Formatter) (t : Text) : List Edit × List Notice :=
  match f.formatDocument t with
  | .error fault => ([], [failureNotice fault])
  | .ok formatted => (if formatted = t then [] else [Edit.whole t formatted], [])

/-- The edits that format the lines of a selection, and warnings. -/
def selectionEdits (f : Formatter) (t : Text) (s : Selection) : List Edit × List Notice :=
  match f.formatRange t s.lines with
  | .error fault => ([], [failureNotice fault])
  | .ok e => (if Text.slice t e.span = e.newText then [] else [Edit.ofRange t e], [])

/-! ## Messages -/

structure Message where
  method : Text
  /-- The editor waits for an answer. -/
  isRequest : Bool
  params : Option Data

/-- Why a request is refused. -/
inductive Refusal where
  | notInitialized
  | invalidRequest
  | methodNotFound
  | invalidParams
deriving DecidableEq, Repr

def Refusal.code : Refusal → Int
  | .notInitialized => -32002
  | .invalidRequest => -32600
  | .methodNotFound => -32601
  | .invalidParams => -32602

inductive Answer where
  /-- What the server can do. -/
  | capabilities
  | nothing
  | edits (es : List Edit)
deriving DecidableEq, Repr

/-- What comes back for a message. -/
inductive Reply where
  | silence
  /-- The session is over. -/
  | exited
  | answer (a : Answer)
  | refusal (r : Refusal)
deriving DecidableEq, Repr

/-- What may be asked of a session. -/
inductive Phase where
  | fresh
  | running
  | shutDown
  | exited
deriving DecidableEq, Repr

/-- A session with an editor. -/
structure Session where
  phase : Phase := .fresh
  configPath : Option Text := none
  config : Config := {}
  documents : Documents := {}
deriving DecidableEq, Repr

/-- A message has been handled. -/
structure Step where
  session : Session
  reply : Reply := .silence
  notices : List Notice := []
deriving DecidableEq, Repr

/-! ## Handling messages -/

def Session.formatter [External.Launcher] (s : Session) (printer : Printer) (i : Indentation) :
    Formatter :=
  s.config.formatterWith printer (i.apply s.config.options)

/-- Formats a document or leaves a request for an unknown one without edits. -/
def Session.answerEdits (s : Session) (uri : Uri) (edits : Text → List Edit × List Notice) : Step :=
  match s.documents.get? uri with
  | none => { session := s, reply := .answer .nothing }
  | some t =>
    let (es, notices) := edits t
    { session := s, reply := .answer (.edits es), notices }

/-- The settings of a session that begins. -/
def Session.load (s : Session) (w : Workspace) (directory : Option Text) :
    Except ConfigFault Config.Loaded :=
  match s.configPath, directory with
  -- a file named outright is read whatever the directory
  | some path, _ => Config.loadFrom w (some path) ['.']
  | none, some dir => Config.loadFrom w none dir
  | none, none => Config.load w none

/-- Begins a session. Settings that cannot be used are reported, and the session goes on without
them. -/
def Session.begin (s : Session) (w : Workspace) (p : InitializeParams) : Step :=
  let given := (p.settings.bind Settings.ofData?).bind (·.configPath)
  let s := { s with phase := .running, configPath := given <|> s.configPath }
  match s.load w p.directory? with
  | .ok loaded =>
    { session := { s with config := loaded.config }, reply := .answer .capabilities }
  | .error f =>
    { session := s
      reply := .answer .capabilities
      notices := [.warning ("smartyfmt: " ++ f.message ++ "; using defaults")] }

/-- The methods of messages that wait for no answer. -/
def notifications : List String :=
  ["initialized", "textDocument/didOpen", "textDocument/didChange", "textDocument/willSave",
    "textDocument/didSave", "textDocument/didClose", "workspace/didChangeConfiguration",
    "workspace/didChangeWorkspaceFolders", "workspace/didCreateFiles",
    "workspace/didRenameFiles", "workspace/didDeleteFiles", "workspace/didChangeWatchedFiles"]

inductive Action where
  | announce
  | keep (uri : Uri) (t : Text)
  | change (uri : Uri) (texts : List Text)
  | drop (uri : Uri)
  | format (uri : Uri) (i : Indentation)
  | formatSelection (uri : Uri) (selection : Selection) (i : Indentation)
deriving DecidableEq, Repr

def Session.act [External.Launcher] (s : Session) (printer : Printer) : Action → Step
  | .announce => { session := s, notices := [.log "smartyfmt Language Server started"] }
  | .keep uri t => { session := { s with documents := s.documents.put uri t } }
  | .change uri texts => { session := { s with documents := s.documents.change uri texts } }
  | .drop uri => { session := { s with documents := s.documents.erase uri } }
  | .format uri i => s.answerEdits uri (documentEdits (s.formatter printer i))
  | .formatSelection uri selection i =>
    s.answerEdits uri fun t => selectionEdits (s.formatter printer i) t selection

/-- A reply to a message that waits for none is dropped. -/
def Message.reply (m : Message) (r : Reply) : Reply :=
  if m.isRequest then r else .silence

/-- The action of a message without an answer. -/
def notification? (method : String) (d : Data) : Option Action :=
  if method = "initialized" then (empty? d).map fun _ => .announce
  else if method = "textDocument/didOpen" then (didOpen? d).map fun (uri, t) => .keep uri t
  else if method = "textDocument/didChange" then
    (didChange? d).map fun (uri, texts) => .change uri texts
  else if method = "textDocument/didClose" then (didClose? d).map .drop
  else none

/-- The action of a request, or why it is refused. -/
def request (method : String) (params : Option Data) : Except Refusal Action :=
  let read (f : Data → Option Action) : Except Refusal Action :=
    match params.bind f with
    | some action => .ok action
    | none => .error .invalidParams
  if method = "textDocument/formatting" then
    read fun d => (formatting? d).map fun (uri, i) => .format uri i
  else if method = "textDocument/rangeFormatting" then
    read fun d => (rangeFormatting? d).map fun (uri, selection, i) =>
      .formatSelection uri selection i
  else
    match unserved.find? (·.1 == method) with
    | some (_, schema) =>
      -- parameters are looked at before the method is
      .error (if params.any schema.accepts then .methodNotFound else .invalidParams)
    | none => .error .methodNotFound

def isServed (method : String) : Bool :=
  notifications.contains method || unserved.any (·.1 == method)
    || method == "textDocument/formatting" || method == "textDocument/rangeFormatting"

/-- Why a message is refused in a phase; a running session refuses none. -/
def Phase.refusal? : Phase → Option Refusal
  | .fresh => some .notInitialized
  | .running => none
  | .shutDown | .exited => some .invalidRequest

/-- Handles a message that a running session understands. -/
def Session.serve [External.Launcher] (s : Session) (printer : Printer) (m : Message) : Step :=
  let method := String.ofList m.method
  if notifications.contains method then
    if m.isRequest then { session := s, reply := .refusal .invalidRequest }
    else
      match m.params.bind (notification? method) with
      | some action => s.act printer action
      | none => { session := s }
  else if !m.isRequest then { session := s }
  else
    match request method m.params with
    | .ok action => s.act printer action
    | .error r => { session := s, reply := .refusal r }

def Session.initialize (s : Session) (w : Workspace) (m : Message) : Step :=
  if s.phase ≠ .fresh then { session := s, reply := m.reply (.refusal .invalidRequest) }
  else if !m.isRequest then { session := s }
  else
    match m.params.bind InitializeParams.ofData? with
    | some p => s.begin w p
    | none => { session := s, reply := .refusal .invalidParams }

/-- Handles the message that ends a session's work. -/
def Session.shutDown (s : Session) (m : Message) : Step :=
  match s.phase.refusal? with
  | some r => { session := s, reply := m.reply (.refusal r) }
  | none =>
    { session := { s with phase := .shutDown }
      -- the session is shut down even if the request is refused
      reply := m.reply (if m.params.isSome then .refusal .invalidParams else .answer .nothing) }

/-- Handles a message with an unknown method. Methods behind a dollar sign may be passed over. -/
def Session.unknown (s : Session) (m : Message) : Step :=
  if Text.startsWith ['$', '/'] m.method then { session := s }
  else { session := s, reply := m.reply (.refusal .methodNotFound) }

def Session.step [External.Launcher] (s : Session) (printer : Printer) (w : Workspace)
    (m : Message) : Step :=
  let method := String.ofList m.method
  if s.phase = .exited then { session := s, reply := .exited }
  else if method = "initialize" then s.initialize w m
  else if method = "shutdown" then s.shutDown m
  -- the last message is obeyed in every phase
  else if method = "exit" then { session := { s with phase := .exited } }
  else if method = "$/cancelRequest" then
    { session := s, reply := m.reply (.refusal .invalidRequest) }
  else if !isServed method then s.unknown m
  else
    match s.phase.refusal? with
    | some r => { session := s, reply := m.reply (.refusal r) }
    | none => s.serve printer m

end Server

end SmartyLayout
