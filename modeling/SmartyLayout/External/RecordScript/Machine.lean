import SmartyLayout.External.RecordScript.Parser
import SmartyLayout.External.RecordScript.Table
import SmartyLayout.External.Shell.Programs

/-!
# SmartyLayout.External.RecordScript.Machine — a running program

What a program knows while it runs: the record and its fields, variables, tables, and what it reads
from and writes to.
-/

namespace SmartyLayout

namespace External

namespace RecordScript

inductive Slot where
  | value (v : Value)
  | table (n : Nat)
  /-- Nothing yet; it becomes this table when it is used as one. -/
  | pending (n : Nat)
deriving Inhabited

inductive Origin where
  | file (name : Text)
  | command (line : Text)
deriving DecidableEq, Repr

inductive Outlet where
  | file (name : Text)
  | command (line : Text)
deriving DecidableEq, Repr

structure Machine where
  /-- The name it is called by. -/
  name : Text
  program : Program
  globals : TextMap Slot := {}
  tables : Array Table := #[]
  /-- The variables of the functions that are running, innermost first. -/
  frames : List (List (Text × Slot)) := []
  record : Text := []
  fields : Array Value := #[]
  /-- A field has changed and the record has not been put together again. -/
  stale : Bool := false
  /-- Files and settings to come. -/
  operands : List Text := []
  /-- What is left of the present file; none if no file is open. -/
  input : Option Text := none
  /-- The present file is the standard input. -/
  live : Bool := false
  /-- A file has been opened. -/
  begun : Bool := false
  /-- What is left of other files and of commands. -/
  sources : List (Origin × Text) := []
  /-- The streams that are written to, the latest first, and what waits for commands. -/
  outlets : List (Outlet × List Text) := []
  /-- What is to be written, latest first. -/
  pending : List Text := []
  /-- The rules whose first pattern has been met. -/
  within : List Nat := []
  status : Nat := 0

/-- How statements are left early. -/
inductive Jump where
  | skipRecord
  | skipFile
  | finish
  | giveBack (v : Value)
  | leaveLoop
  | nextRound

abbrev Run := ExceptT Jump (StateT Machine Shell.Eval)

/-- Runs a command line, perhaps with an input of its own; gives what it writes if that is
wanted. -/
abbrev CommandRunner := (input : Option Text) → (captured : Bool) → Text → Shell.Eval Text

/-- Does something in the shell that the program runs in. -/
def inShell {α : Type} (x : Shell.Eval α) : Run α :=
  ExceptT.lift (StateT.lift x)

/-! ## Variables -/

def initialVariables : List (String × Value) :=
  [("FS", .text [' ']), ("OFS", .text [' ']), ("ORS", .text ['\n']), ("RS", .text ['\n']),
    ("NR", .number 0), ("FNR", .number 0), ("RSTART", .number 0), ("RLENGTH", .number (-1)),
    ("SUBSEP", .text ['\x1c']), ("CONVFMT", .text "%.6g".toList), ("OFMT", .text "%.6g".toList),
    ("FILENAME", .unset)]

namespace Machine

def slot (m : Machine) (n : Text) : Slot :=
  match m.frames.head?.bind fun f => (f.find? (·.1 == n)).map (·.2) with
  | some s => s
  | none => (m.globals[n]?).getD (.value .unset)

/-- A name stands for something else. -/
def putSlot (m : Machine) (n : Text) (s : Slot) : Machine :=
  match m.frames with
  | f :: fs =>
    if f.any (·.1 == n) then
      { m with frames := (f.map fun (k, old) => if k == n then (k, s) else (k, old)) :: fs }
    else { m with globals := m.globals.insert n s }
  | [] => { m with globals := m.globals.insert n s }

/-- The value of a variable that every program has. -/
def special (m : Machine) (n : String) : Value :=
  match m.globals[n.toList]? with
  | some (.value v) => v
  | _ => .unset

def textFormat (m : Machine) : Text :=
  (m.special "CONVFMT").toText "%.6g".toList

def textOf (m : Machine) (v : Value) : Text :=
  v.toText m.textFormat

def specialText (m : Machine) (n : String) : Text :=
  m.textOf (m.special n)

/-- The table of a name, which becomes one if it is not. -/
def tableOf (m : Machine) (n : Text) : Nat × Machine :=
  match m.slot n with
  | .table k => (k, m)
  | .pending k => (k, m.putSlot n (.table k))
  | .value _ =>
    let k := m.tables.size
    (k, { m with tables := m.tables.push {} }.putSlot n (.table k))

/-! ## Fields -/

/-- The parts of a text between the matches of an expression. An empty match divides nothing; `part`
is the part so far, latest first. -/
def regexParts (r : Regex) : (fuel : Nat) → (part : Text) → Regex.Place → List Text
  | 0, part, p => [part.reverse ++ p.after]
  | fuel + 1, part, p =>
    match (r.at? p).filter (·.after.length < p.after.length), p.after with
    | some q, _ => part.reverse :: regexParts r fuel [] q
    | none, c :: _ => regexParts r fuel (c :: part) (p.advance 1)
    | none, [] => [part.reverse]

/-- The parts of a text by a separator; `lines` says that a line break divides too. -/
def splitText (separator : Text) (lines : Bool) (t : Text) : List Text :=
  if t.isEmpty then []
  else
    match separator with
    | [] => t.map fun c => [c]
    | [' '] => ((t.map fun c => if c = '\t' ∨ c = '\n' then ' ' else c).splitOn ' ').filter
        (!·.isEmpty)
    | [c] =>
      if lines then (t.map fun x => if x = '\n' then c else x).splitOn c else t.splitOn c
    | s =>
      let r := regexOf s
      let r := if lines then .choice [r, .chars (· == '\n')] else r
      regexParts r (t.length + 1) [] ⟨[], t, []⟩

def fieldsOf (m : Machine) (t : Text) : Array Value :=
  let lines := (m.specialText "RS").isEmpty
  ((splitText (m.specialText "FS") lines t).map Value.ofInput).toArray

def setRecord (m : Machine) (t : Text) : Machine :=
  { m with record := t, fields := m.fieldsOf t, stale := false }

/-- Puts the record together if a field has changed. -/
def refreshed (m : Machine) : Machine :=
  if m.stale then
    { m with
      record := List.intercalate (m.specialText "OFS") (m.fields.toList.map m.textOf)
      stale := false }
  else m

def field (m : Machine) (n : Nat) : Value :=
  if n = 0 then .ofInput m.refreshed.record else (m.fields[n - 1]?).getD .unset

def putField (m : Machine) (n : Nat) (v : Value) : Machine :=
  if n = 0 then m.setRecord (m.textOf v)
  else
    let more := Array.replicate (n - m.fields.size) (Value.text [])
    { m with fields := (m.fields ++ more).setIfInBounds (n - 1) v, stale := true }

def resized (m : Machine) (n : Nat) : Machine :=
  let more := Array.replicate (n - m.fields.size) (Value.text [])
  { m with fields := (m.fields ++ more).take n, stale := true }

def variableValue (m : Machine) (n : Text) : Value :=
  if n = ['N', 'F'] then .number (Float.ofNat m.fields.size)
  else match m.slot n with
    | .value v => v
    | _ => .unset

def putVariable (m : Machine) (n : Text) (v : Value) : Machine :=
  if n = ['N', 'F'] then m.resized (wholePart v.toNumber).toNat else m.putSlot n (.value v)

end Machine

/-! ## Records -/

/-- The first record of a text, and the text behind it. Records end with the separator, with empty
lines if it is empty, or with a match of it. -/
def firstRecord (separator t : Text) : Option (Text × Text) :=
  match separator with
  | [c] =>
    if t.isEmpty then none
    else
      let record := t.takeWhile (· != c)
      some (record, t.drop (record.length + 1))
  | [] =>
    let t := t.dropWhile (· == '\n')
    if t.isEmpty then none
    else
      match Text.through ['\n', '\n'] t with
      | some n => some (t.take (n - 2), (t.drop n).dropWhile (· == '\n'))
      | none => some (if t.getLast? = some '\n' then t.dropLast else t, [])
  | s =>
    if t.isEmpty then none
    else
      match (regexOf s).find? t with
      | some (p, q) =>
        if q.after.length < p.after.length then some (p.before.reverse, q.after)
        else some (t, [])
      | none => some (t, [])

/-- How much of the standard input is read at a time. -/
def readSize : Nat := 4096

def readMore (m : Machine) : Shell.Eval (Machine × Bool) := do
  let s ← get
  let t := s.pending 0
  if t.isEmpty then return (m, false)
  else
    set (s.leave 0 (t.drop readSize))
    return ({ m with input := some (m.input.getD [] ++ t.take readSize) }, true)

/-- Reads so much of the standard input that a record is there. -/
def fillInput (m : Machine) : Shell.Eval Machine := do
  let separator := m.specialText "RS"
  let enough (t : Text) : Bool := match separator with
    | [c] => t.any (· == c)
    | _ => false
  let mut m := m
  if m.live then
    for _ in [0:((← get).pending 0).length / readSize + 1] do
      if enough (m.input.getD []) then break
      let (next, more) ← readMore m
      m := next
      if !more then break
  return m

/-! ## Output -/

def flush : Run Unit := do
  let m ← get
  set { m with pending := [] }
  inShell (Shell.write 1 m.pending.reverse.flatten)

/-- Ends a program with a complaint. -/
def failure {α : Type} (message : Text) : Run α := do
  let m ← get
  let text := m.name ++ Raw.ofString ": run time error: " ++ message ++
    Raw.ofString "\n\tFILENAME=\"" ++ m.specialText "FILENAME" ++ Raw.ofString "\" FNR=" ++
    m.specialText "FNR" ++ Raw.ofString " NR=" ++ m.specialText "NR" ++ ['\n']
  inShell (Shell.write 2 text)
  set { m with status := 2, program := { m.program with rules := [] } }
  throw .finish

/-- Writes to a file; the first time it begins anew unless output is added to it. -/
def writeFile (append : Bool) (name t : Text) : Run Unit := do
  let m ← get
  let outlet : Outlet := .file name
  if name = "/dev/stdout".toList ∨ name = ['-'] then set { m with pending := t :: m.pending }
  else if name = "/dev/stderr".toList then inShell (Shell.write 2 t)
  else
    let known := m.outlets.any (·.1 == outlet)
    match ← inShell (Shell.openForWriting (append || known) name) with
    | .ok target => do
      inShell do
        let before ← get
        set (before.connect 9 target)
        Shell.write 9 t
        modify fun s => { s with streams := before.streams }
      if !known then set { m with outlets := (outlet, []) :: m.outlets }
    | .error why => do
      inShell (Shell.write 2 (m.name ++ Raw.ofString ": cannot open \"" ++ name ++
        Raw.ofString ("\" for output (" ++ (if why = "Is a directory" then why
          else "No such file or directory") ++ ")\n")))
      set { m with status := 2, program := { m.program with rules := [] } }
      throw .finish

/-- Writes to a command, which is run when it is closed. -/
def writeCommand (line t : Text) : Run Unit := do
  let outlet : Outlet := .command line
  if !(← get).outlets.any (·.1 == outlet) then flush
  modify fun m =>
    let waiting := ((m.outlets.find? (·.1 == outlet)).map (·.2)).getD []
    { m with outlets := (outlet, t :: waiting) :: m.outlets.filter (·.1 != outlet) }

/-- Closes a stream, and says how its command has ended; none if there is no such stream. -/
def closeOutlet (run : CommandRunner) (outlet : Outlet) : Run (Option Nat) := do
  let m ← get
  match m.outlets.find? (·.1 == outlet) with
  | none => return none
  | some (_, waiting) => do
    set { m with outlets := m.outlets.filter (·.1 != outlet) }
    match outlet with
    | .file _ => return some 0
    | .command line => do
      let _ ← inShell (run (some waiting.reverse.flatten) false line)
      return some ((← inShell get).status % 256)

end RecordScript

end External

end SmartyLayout
