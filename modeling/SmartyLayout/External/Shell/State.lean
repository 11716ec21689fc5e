import SmartyLayout.External.Shell.Parser

/-!
# SmartyLayout.External.Shell.State — a running shell

What a shell knows while it runs: variables, functions, where its streams lead, and the files that
have been written. Running is a computation on this state which can be left early.
-/

namespace SmartyLayout

namespace External

namespace Shell

/-- A variable. One without a value has only been marked. -/
structure Variable where
  value : Option Text := none
  exported : Bool := false
  constant : Bool := false
deriving DecidableEq, Repr

inductive Stream where
  /-- A buffer: reading takes from its front and writing adds at its end. -/
  | buffer (n : Nat)
  /-- A buffer with what is still to be read of a file. -/
  | source (n : Nat)
  /-- A file that is written to. -/
  | file (path : Text)
  | nowhere
deriving DecidableEq, Repr

/-- How a command is left early. -/
inductive Flow where
  /-- The shell ends with its present status. -/
  | exit
  /-- The function ends. -/
  | leave
  /-- So many loops end. -/
  | stop (loops : Nat)
  /-- The next round of a loop begins, so many loops further out. -/
  | again (loops : Nat)
  /-- A signal ends the shell. -/
  | killed (signal : Nat) (name : String)

/-- Which of two shells is meant: they word their complaints differently and have their own versions
of the commands that print. -/
inductive Manner where
  | plain
  | extended
deriving DecidableEq, Repr

structure State where
  /-- The name the shell calls itself. -/
  name : Text
  manner : Manner := .plain
  arguments : List Text
  /-- The line of the command that is run. -/
  line : Nat := 1
  /-- The command that complaints come from. -/
  speaker : Option Text := none
  bindings : List (Text × Variable) := []
  functions : List (Text × Command) := []
  /-- Options that are on. -/
  options : Text := []
  status : Nat := 0
  /-- The status of the latest command whose output was taken. -/
  taken : Option Nat := none
  /-- What is run when a signal comes, or at the end. -/
  traps : List (String × Text) := []
  loops : Nat := 0
  /-- Variables to be set back when functions end, innermost function first. -/
  frames : List (List (Text × Option Variable)) := []
  streams : List (Nat × Stream)
  /-- The buffers, each in pieces with the latest first. -/
  buffers : List (List Text)
  files : List (Text × Text) := []
  directories : List Text := []
  directory : Text := ['/']

abbrev Eval := ExceptT Flow (StateM State)

/-- Runs something and says how it was left. -/
def attempt (x : Eval Unit) : Eval (Option Flow) :=
  ExceptT.lift do
    match ← x.run with
    | .ok _ => pure none
    | .error f => pure (some f)

def setStatus (n : Nat) : Eval Unit :=
  modify fun s => { s with status := n }

/-! ## Streams -/

def State.stream? (s : State) (n : Nat) : Option Stream :=
  (s.streams.find? (·.1 == n)).map (·.2)

/-- Leads a stream elsewhere. -/
def State.connect (s : State) (n : Nat) (target : Option Stream) : State :=
  { s with streams := (target.toList.map fun t => (n, t)) ++ s.streams.filter (·.1 != n) }

def newBuffer (t : Text) : Eval Nat := do
  let s ← get
  set { s with buffers := s.buffers ++ [[t]] }
  pure s.buffers.length

def State.bufferText (s : State) (n : Nat) : Text :=
  match s.buffers[n]? with
  | some [t] => t
  | some pieces => pieces.reverse.flatten
  | none => []

def State.file? (s : State) (path : Text) : Option Text :=
  (s.files.find? (·.1 == path)).map (·.2)

def State.putFile (s : State) (path content : Text) : State :=
  { s with files := (path, content) :: s.files.filter (·.1 != path) }

def write (stream : Nat) (t : Text) : Eval Unit :=
  modify fun s =>
    match s.stream? stream with
    | some (.buffer n) => { s with buffers := s.buffers.modify n (t :: ·) }
    | some (.file path) => s.putFile path ((s.file? path).getD [] ++ t)
    | _ => s

def State.pending (s : State) (stream : Nat) : Text :=
  match s.stream? stream with
  | some (.buffer n) | some (.source n) => s.bufferText n
  | _ => []

def State.readsFile (s : State) (stream : Nat) : Bool :=
  match s.stream? stream with
  | some (.source _) => true
  | _ => false

/-- Leaves something to be read from a stream. -/
def State.leave (s : State) (stream : Nat) (t : Text) : State :=
  match s.stream? stream with
  | some (.buffer n) | some (.source n) => { s with buffers := s.buffers.set n [t] }
  | _ => s

/-! ## Complaints -/

def complain (message : Text) : Eval Unit := do
  let s ← get
  write 2 (s.name ++ Raw.ofString (if s.manner = .plain then ": " else ": line ") ++
    Raw.ofNat s.line ++ Raw.ofString ": " ++
    (match s.speaker with
      | some n => n ++ Raw.ofString ": "
      | none => []) ++ message ++ ['\n'])

def fatal {α : Type} (message : Text) : Eval α := do
  complain message
  setStatus 2
  throw .exit

/-- A complaint of a command after which the shell goes on. -/
def refuse (message : Text) : Eval Unit := do
  complain message
  setStatus 2

/-- Ends the shell with a complaint about the script. -/
def malformed {α : Type} (m : Mistake) : Eval α := do
  modify fun s => { s with line := m.line }
  fatal (Raw.ofString ("Syntax error: " ++ m.message))

def State.notFound (s : State) (name : Text) : Text :=
  name ++ Raw.ofString (if s.manner = .plain then ": not found" else ": command not found")

/-! ## Variables -/

def State.lookup? (s : State) (name : Text) : Option Variable :=
  (s.bindings.find? (·.1 == name)).map (·.2)

def State.value? (s : State) (name : Text) : Option Text :=
  (s.lookup? name).bind (·.value)

/-- A variable is as given. -/
def State.putVariable (s : State) (name : Text) (v : Option Variable) : State :=
  { s with bindings := (v.toList.map fun v => (name, v)) ++ s.bindings.filter (·.1 != name) }

def assign (name value : Text) : Eval Unit := do
  let s ← get
  let v := (s.lookup? name).getD {}
  if v.constant then fatal (name ++ Raw.ofString ": is read only")
  else
    set (s.putVariable name (some { v with
      value := some value
      exported := v.exported || s.options.any (· == 'a') }))

def processNumber : Text := "4242".toList

def State.parameter? (s : State) (name : Text) : Option Text :=
  match name with
  | ['#'] => some (Raw.ofNat s.arguments.length)
  | ['?'] => some (Raw.ofNat s.status)
  | ['-'] => some s.options
  | ['$'] => some processNumber
  | ['!'] => s.value? ['!']
  | ['@'] | ['*'] => if s.arguments.isEmpty then none else some (List.intercalate [' '] s.arguments)
  | _ =>
    match Raw.nat? name with
    | some 0 => some s.name
    | some (n + 1) => s.arguments[n]?
    | none => s.value? name

/-- The characters that divide fields. -/
def State.separators (s : State) : Text :=
  (s.value? "IFS".toList).getD [' ', '\t', '\n']

def State.path (s : State) (t : Text) : Text :=
  let here := if s.directory.getLast? = some '/' then s.directory else s.directory ++ ['/']
  match t with
  | '/' :: _ => t
  | '.' :: '/' :: u => here ++ u
  | _ => here ++ t

end Shell

end External

end SmartyLayout
