import SmartyLayout.External.RecordScript.Evaluator
import SmartyLayout.External.Shell.Expansion
import SmartyLayout.External.Shell.Programs

/-!
# SmartyLayout.External.Shell.Evaluator — running commands

Commands are run one after the other, also those that are joined by a pipe: what the first one
writes is all there before the second one reads. The `fuel` bounds how deep commands can nest.
-/

namespace SmartyLayout

namespace External

namespace Shell

/-- Lets a computation change only what outlives a process: streams' contents, files and the
status. -/
def isolated (x : Eval Unit) : Eval Unit := do
  let before ← get
  let flow ← attempt x
  let after ← get
  set { before with
    buffers := after.buffers, files := after.files, directories := after.directories
    status := after.status % 256 }
  match flow with
  | some (.killed n name) => throw (.killed n name)
  | _ => pure ()

/-- Sets the streams back after a computation. -/
def restoringStreams (x : Eval Unit) : Eval Unit := do
  let before ← get
  let flow ← attempt x
  modify fun s => { s with streams := before.streams }
  match flow with
  | some f => throw f
  | none => pure ()

/-- Sets variables back after a computation. -/
def restoringVariables (names : List Text) (x : Eval Unit) : Eval Unit := do
  let before ← get
  let flow ← attempt x
  modify fun s => names.foldl (fun s n => s.putVariable n (before.lookup? n)) s
  match flow with
  | some f => throw f
  | none => pure ()

/-- Complaints come from a command while it runs. -/
def speaking (name : Text) (x : Eval Unit) : Eval Unit := do
  let before ← get
  set { before with speaker := some name }
  let flow ← attempt x
  modify fun s => { s with speaker := before.speaker }
  match flow with
  | some f => throw f
  | none => pure ()

/-- Ends the shell where a failure is to end it. -/
def checkStatus (tested : Bool) : Eval Unit := do
  let s ← get
  if !tested && s.status != 0 && s.options.any (· == 'e') then throw .exit

/-- One round of a loop; says whether to go on. -/
def goesOn (x : Eval Unit) : Eval Bool := do
  match ← attempt x with
  | none => pure true
  | some (.stop n) => if n ≤ 1 then pure false else throw (.stop (n - 1))
  | some (.again n) => if n ≤ 1 then pure true else throw (.again (n - 1))
  | some f => throw f

/-- Runs rounds inside a loop. -/
def inLoop (x : Eval Unit) : Eval Unit := do
  modify fun s => { s with loops := s.loops + 1 }
  let flow ← attempt x
  modify fun s => { s with loops := s.loops - 1 }
  match flow with
  | some f => throw f
  | none => pure ()

def roundLimit : Nat := 1000000

/-- What is said when a signal has ended a program. -/
def signalMessage? (n : Nat) : Option String :=
  match signalName n with
  | "HUP" => some "Hangup"
  | "QUIT" => some "Quit"
  | "ILL" => some "Illegal instruction"
  | "TRAP" => some "Trace/breakpoint trap"
  | "ABRT" => some "Aborted"
  | "BUS" => some "Bus error"
  | "FPE" => some "Floating point exception"
  | "KILL" => some "Killed"
  | "USR1" => some "User defined signal 1"
  | "SEGV" => some "Segmentation fault"
  | "USR2" => some "User defined signal 2"
  | "ALRM" => some "Alarm clock"
  | "TERM" => some "Terminated"
  | _ => none

/-- A program that a signal ends leaves a status behind. -/
def surviving (x : Eval Unit) : Eval Unit := do
  match ← attempt x with
  | some (.killed n _) => do
    match signalMessage? n with
    | some m => write 2 (Raw.ofString (m ++ "\n"))
    | none => pure ()
    setStatus (128 + n)
  | some f => throw f
  | none => pure ()

structure Start where
  /-- A script is given among the arguments. -/
  inline : Bool := false
  /-- The script is the input. -/
  fromInput : Bool := false
  letters : Text := []
  operands : List Text := []

/-- The letters of one argument of a shell; an unknown one is refused. -/
def startLetters (s : Start) : Text → Except Text Start
  | [] => .ok s
  | 'c' :: cs => startLetters { s with inline := true } cs
  | 's' :: cs => startLetters { s with fromInput := true } cs
  | 'l' :: cs => startLetters s cs
  | c :: cs =>
    if optionNames.any (·.1 == c) then startLetters { s with letters := c :: s.letters } cs
    else .error (Raw.ofString "Illegal option -" ++ [c])

def readStart (s : Start) : List Text → Except Text Start
  | [] => .ok s
  | ['-'] :: rest => .ok { s with operands := rest }
  | ['-', '-'] :: rest => .ok { s with operands := rest }
  | ('-' :: cs) :: rest =>
    match startLetters s cs with
    | .ok s => readStart s rest
    | .error e => .error e
  | ('+' :: _) :: rest => readStart s rest
  | rest => .ok { s with operands := rest }

/-- The options of the program that changes the environment. -/
def environmentSyntax : OptionSyntax where
  plain := "i0v"
  valued := "uCS"
  long := [("ignore-environment", 'i', false), ("null", '0', false), ("unset", 'u', true)]
  permuted := false

/-- The words of an input in which quotes and backslashes count. -/
def quotedWords : (quote : Option Char) → (word : Option Text) → Text → List Text
  | _, word, [] => word.toList.map List.reverse
  | some q, word, c :: cs =>
    if c = q then quotedWords none (some (word.getD [])) cs
    else quotedWords (some q) (some (c :: word.getD [])) cs
  | none, word, ['\\'] => word.toList.map List.reverse
  | none, word, '\\' :: c :: cs => quotedWords none (some (c :: word.getD [])) cs
  | none, word, c :: cs =>
    if c = '"' ∨ c = '\x27' then quotedWords (some c) (some (word.getD [])) cs
    else if Raw.isSpace c then word.toList.map List.reverse ++ quotedWords none none cs
    else quotedWords none (some (c :: word.getD [])) cs

def groupsOf (n : Nat) : (fuel : Nat) → List Text → List (List Text)
  | 0, _ => []
  | _, [] => []
  | fuel + 1, ts => ts.take (max 1 n) :: groupsOf n fuel (ts.drop (max 1 n))

/-- Puts a text in place of a mark. -/
def substituteMark (mark text : Text) : (skip : Nat) → Text → Text
  | _, [] => []
  | skip + 1, _ :: cs => substituteMark mark text skip cs
  | 0, c :: cs =>
    if !mark.isEmpty ∧ Text.startsWith mark (c :: cs) then
      text ++ substituteMark mark text (mark.length - 1) cs
    else c :: substituteMark mark text 0 cs

/-- How a program is run on the words of an input. -/
structure Batching where
  size : Option Nat := none
  mark : Option Text := none
  onlyIfAny : Bool := false
  command : List Text := []

/-- Reads the arguments of a program that runs another one on the words of its input. -/
def Batching.read? (args : List Text) : Except Text Batching :=
  match readArguments { plain := "rtx0", valued := "nILsPEd", permuted := false
                        long := [("max-args", 'n', true), ("no-run-if-empty", 'r', false),
                          ("null", '0', false)] } args with
  | .error message => .error message
  | .ok a =>
    let b : Batching := { mark := a.value? 'I', onlyIfAny := a.has 'r', command := a.operands }
    match a.value? 'n' with
    | none => .ok b
    | some t =>
      match Raw.nat? t with
      | some n => .ok { b with size := some n }
      | none => .error (Raw.ofString "invalid number \"" ++ t ++ Raw.ofString "\" for -n option")

/-- The command lines that a program is run with. -/
def Batching.lines (b : Batching) (input : Text) : List (List Text) :=
  let command := if b.command.isEmpty then [Raw.ofString "echo"] else b.command
  match b.mark with
  | some mark =>
    ((Raw.lines input).map fun l => l.dropWhile Raw.isSpace).filter (!·.isEmpty) |>.map fun l =>
      command.map (substituteMark mark l 0)
  | none =>
    let words := quotedWords none none input
    match words, b.size with
    | [], _ => if b.onlyIfAny then [] else [command]
    | ws, some n => (groupsOf n ws.length ws).map (command ++ ·)
    | ws, none => [command ++ ws]

mutual

/-- Runs a command. What is `tested` does not end the shell when it fails. -/
def run : (fuel : Nat) → (tested : Bool) → Command → Eval Unit
  | 0, _, _ => fatal (Raw.ofString "Maximum function recursion depth reached")
  | fuel + 1, tested, c => do
    match c with
    | .empty => pure ()
    | .simple line assigned words rs => do
      runSimple fuel tested line assigned words rs
      checkStatus tested
    | .pipeline stages => do
      runStages fuel none stages
      checkStatus tested
    | .negated c => do
      run fuel true c
      let s ← get
      setStatus (if s.status = 0 then 1 else 0)
    | .both a b => do
      run fuel true a
      if (← get).status = 0 then run fuel tested b
    | .either a b => do
      run fuel true a
      if (← get).status ≠ 0 then run fuel tested b
    | .sequence a b => do
      run fuel tested a
      run fuel tested b
    | .background c => do
      isolated do
        modify fun s => s.connect 0 (some .nowhere)
        runApart fuel false c
      modify fun s => s.putVariable ['!'] (some { value := some processNumber })
      setStatus 0
    | .subshell line body rs => do
      modify fun s => { s with line }
      isolated do
        if ← redirect fuel rs then runApart fuel tested body
      checkStatus tested
    | .redirected line body rs => do
      modify fun s => { s with line }
      restoringStreams do
        if ← redirect fuel rs then run fuel tested body
    | .conditional test yes no => do
      run fuel true test
      if (← get).status = 0 then run fuel tested yes
      else
        match no with
        | .empty => setStatus 0
        | no => run fuel tested no
    | .loop inverted test body =>
      inLoop do
        let mut status := 0
        let mut going := true
        for _ in [0:roundLimit] do
          going ← goesOn do
            run fuel true test
            if ((← get).status = 0) = inverted then
              setStatus status
              throw (.stop 1)
            run fuel tested body
          status := (← get).status
          if !going then break
    | .each line name words body => do
      modify fun s => { s with line }
      let fields ← expandFields fuel words
      setStatus 0
      inLoop do
        for f in fields do
          assign name f
          if !(← goesOn (run fuel tested body)) then break
    | .choice line subject cases => do
      modify fun s => { s with line }
      let ps ← expandWord (capture fuel) fuel subject
      runChoice fuel tested (joinPieces ps) cases
    | .definition name body => do
      modify fun s => { s with functions := (name, body) :: s.functions.filter (·.1 != name) }
      setStatus 0

/-- Runs the stages of a pipe; `input` is the buffer that the first one reads. -/
def runStages : (fuel : Nat) → (input : Option Nat) → List Command → Eval Unit
  | 0, _, _ => pure ()
  | _, _, [] => pure ()
  | fuel + 1, input, c :: cs => do
    let output ← if cs.isEmpty then pure none else some <$> newBuffer []
    isolated do
      match input with
      | some n => modify fun s => s.connect 0 (some (.buffer n))
      | none => pure ()
      match output with
      | some n => modify fun s => s.connect 1 (some (.buffer n))
      | none => pure ()
      runApart fuel false c
    runStages fuel output cs

def runChoice : (fuel : Nat) → (tested : Bool) → Text → List (List Word × Command) → Eval Unit
  | 0, _, _, _ => pure ()
  | _, _, _, [] => setStatus 0
  | fuel + 1, tested, t, (patterns, body) :: cases => do
    if ← fitsAny fuel t patterns then
      setStatus 0
      run fuel tested body
    else runChoice fuel tested t cases

def fitsAny : (fuel : Nat) → Text → List Word → Eval Bool
  | 0, _, _ => pure false
  | _, _, [] => pure false
  | fuel + 1, t, w :: ws => do
    let ps ← expandWord (capture fuel) fuel w
    if Pattern.accepts (patternOf ps) t then pure true else fitsAny fuel t ws

def runApart : (fuel : Nat) → (tested : Bool) → Command → Eval Unit
  | 0, _, _ => pure ()
  | fuel + 1, tested, c => do
    modify fun s => { s with loops := 0, traps := s.traps.filter (·.2.isEmpty) }
    finishing fuel (run fuel tested c)

/-- Runs something to its end, and then what has been set for the end. -/
def finishing : (fuel : Nat) → Eval Unit → Eval Unit
  | 0, x => x
  | fuel + 1, x => do
    match ← attempt x with
    | some (.killed n name) => throw (.killed n name)
    | _ => do
      let s ← get
      match s.traps.find? (·.1 == "EXIT") with
      | none => pure ()
      | some (_, action) => do
        set { s with traps := s.traps.filter (·.1 != "EXIT") }
        match ← attempt (runText fuel true action) with
        | some (.killed n name) => throw (.killed n name)
        | some .exit => pure ()
        | _ => setStatus s.status

def capture : (fuel : Nat) → Command → Eval Text
  | 0, _ => pure []
  | fuel + 1, c => do
    let n ← newBuffer []
    let before ← get
    setStatus 0
    isolated do
      modify fun s => { s.connect 1 (some (.buffer n)) with status := before.status }
      match c with
      | .empty => setStatus 0
      | c => runApart fuel false c
    modify fun s => { s with taken := some s.status, status := before.status }
    let s ← get
    pure (s.bufferText n)

def expandFields : (fuel : Nat) → List Word → Eval (List Text)
  | 0, _ => pure []
  | _, [] => pure []
  | fuel + 1, w :: ws => do
    let ps ← expandWord (capture fuel) fuel ((← get).withHome w)
    let s ← get
    let later ← expandFields fuel ws
    pure (divide s.separators none false ps ++ later)

/-- Expands the words of a command that marks variables: what is assigned is not divided. -/
def expandMarked : (fuel : Nat) → List Word → Eval (List Text)
  | 0, _ => pure []
  | _, [] => pure []
  | fuel + 1, w :: ws => do
    let ps ← expandWord (capture fuel) fuel w
    let s ← get
    let later ← expandMarked fuel ws
    pure ((if (assignment? w).isSome then [joinPieces ps] else divide s.separators none false ps) ++
      later)

/-- Follows redirections in order; says whether all could be followed. -/
def redirect : (fuel : Nat) → List Redirection → Eval Bool
  | 0, _ => pure false
  | _, [] => pure true
  | fuel + 1, r :: rs => do
    let fine ← match r with
      | .here stream body => do
        let ps ← expandWord (capture fuel) fuel body
        let n ← newBuffer (joinPieces ps)
        modify fun s => s.connect stream (some (.buffer n))
        pure true
      | .duplicate stream target => do
        let ps ← expandWord (capture fuel) fuel target
        let t := joinPieces ps
        let s ← get
        if t = ['-'] then do
          set (s.connect stream none)
          pure true
        else
          match (Raw.nat? t).bind s.stream? with
          | some source => do
            set (s.connect stream (some source))
            pure true
          | none => do
            refuse (t ++ Raw.ofString ": Bad file descriptor")
            pure false
      | .file stream mode target => do
        let ps ← expandWord (capture fuel) fuel target
        let t := joinPieces ps
        match mode with
        | .read => do
          match ← openForReading t with
          | some source => do
            modify fun s => s.connect stream (some source)
            pure true
          | none => do
            refuse (Raw.ofString "cannot open " ++ t ++ Raw.ofString ": No such file")
            pure false
        | _ => do
          match ← openForWriting (mode == .append) t with
          | .ok target => do
            modify fun s => s.connect stream target
            pure true
          | .error why => do
            refuse (Raw.ofString "cannot create " ++ t ++ Raw.ofString (": " ++ why))
            pure false
    if fine then redirect fuel rs else pure false

def expandAssignments : (fuel : Nat) → List (Text × Word) → Eval (List (Text × Text))
  | 0, _ => pure []
  | _, [] => pure []
  | fuel + 1, (name, w) :: rest => do
    let ps ← expandWord (capture fuel) fuel ((← get).withHome w)
    let value := joinPieces ps
    let later ← expandAssignments fuel rest
    pure ((name, value) :: later)

def runSimple : (fuel : Nat) → (tested : Bool) → (line : Nat) → List (Text × Word) → List Word →
    List Redirection → Eval Unit
  | 0, _, _, _, _, _ => pure ()
  | fuel + 1, tested, line, assigned, words, rs => do
    modify fun s => { s with line, taken := none }
    let marks : Bool := match words with
      | [.text t _] :: _ => ["export", "readonly", "local"].any (·.toList == t)
      | _ => false
    let fields ← if marks then expandMarked fuel words else expandFields fuel words
    let name := fields.headD []
    let args := fields.tail
    let special := specialBuiltins.any (·.toList == name)
    let outer ← get
    let keep := fields = ["exec".toList]
    let body : Eval Unit := do
      if ← redirect fuel rs then
        let values ← expandAssignments fuel assigned
        let s ← get
        if s.options.any (· == 'x') ∧ !(fields.isEmpty ∧ values.isEmpty) then
          let shown := values.map (fun (n, v) => n ++ '=' :: v) ++ fields
          let traced := { s with streams := outer.streams }
          set traced
          write 2 (Raw.ofString "+ " ++ List.intercalate [' '] shown ++ ['\n'])
          modify fun t => { t with streams := s.streams }
        if fields.isEmpty then
          for (n, v) in values do
            assign n v
          setStatus ((← get).taken.getD 0)
        else if special then
          for (n, v) in values do
            assign n v
          runBuiltin fuel tested name args
        else
          restoringVariables (values.map (·.1)) do
            for (n, v) in values do
              assign n v
              modify fun s =>
                s.putVariable n ((s.lookup? n).map fun v => { v with exported := true })
            runNamed fuel tested name args
      else if special then throw .exit
    if keep then body else restoringStreams body

/-- Runs a function, a command of the shell, or a program. -/
def runNamed : (fuel : Nat) → (tested : Bool) → Text → List Text → Eval Unit
  | 0, _, _, _ => pure ()
  | fuel + 1, tested, name, args => do
    let s ← get
    match s.functions.find? (·.1 == name) with
    | some (_, body) => do
      set { s with arguments := args, frames := [] :: s.frames, loops := 0 }
      let flow ← attempt (run fuel tested body)
      modify fun t =>
        let t := (t.frames.headD []).foldl (fun t (n, v) => t.putVariable n v) t
        { t with arguments := s.arguments, frames := s.frames, loops := s.loops }
      match flow with
      | some .leave => pure ()
      | some f => throw f
      | none => pure ()
    | none =>
      if regularBuiltins.any (·.toList == name) then runBuiltin fuel tested name args
      else surviving (runProgram fuel name args)

/-- Runs a command of the shell itself. -/
def runBuiltin : (fuel : Nat) → (tested : Bool) → Text → List Text → Eval Unit
  | 0, _, _, _ => pure ()
  | fuel + 1, tested, name, args => do
    match String.ofList name with
    | "eval" => speaking name do
      let text := List.intercalate [' '] args
      if text.all Raw.isSpace then setStatus 0 else runText fuel tested text
    | "." => speaking name do
      match args with
      | [] => pure ()
      | file :: _ => do
        let s ← get
        if !file.any (· == '/') then fatal (file ++ Raw.ofString ": not found")
        else
          match s.read? file with
          | none => fatal (Raw.ofString "cannot open " ++ file ++ Raw.ofString ": No such file")
          | some text => do
            match ← attempt (runText fuel tested text) with
            | some .leave => pure ()
            | some f => throw f
            | none => pure ()
    | "exec" => do
      match args with
      | [] => setStatus 0
      | program :: args => do
        speaking name (runProgram fuel program args)
        throw .exit
    | "command" => do
      match args with
      | ['-', 'v'] :: names => do setStatus 0; whichCommand names
      | ['-', 'V'] :: names => do setStatus 0; typeCommand names
      | ['-', 'p'] :: program :: args => surviving (runProgram fuel program args)
      | program :: args =>
        if (specialBuiltins ++ regularBuiltins).any (·.toList == program) then
          runBuiltin fuel tested program args
        else surviving (runProgram fuel program args)
      | [] => setStatus 0
    | "kill" => do
      setStatus 0
      let s ← get
      set { s with speaker := some name }
      let actions ← killCommand args
      modify fun t => { t with speaker := s.speaker }
      for a in actions do
        let status := (← get).status
        runText fuel true a
        setStatus status
    | text => speaking name do
      if text != "exit" ∧ text != "return" then setStatus 0
      ((builtin? name).getD fun _ => pure ()) args

def runProgram : (fuel : Nat) → Text → List Text → Eval Unit
  | 0, _, _ => pure ()
  | fuel + 1, name, args => do
    let s ← get
    let program? : Option Text :=
      if name.any (· == '/') then programAt? (normalPath (s.path name))
      else if programs.any (·.toList == name) then some name
      else none
    match program? with
    | none =>
      if name.isEmpty then do
        complain (Raw.ofString ": Permission denied")
        setStatus 127
      else if name.any (· == '/') && (s.isDirectory name || (s.file? (s.path name)).isSome) then do
        complain (name ++ Raw.ofString ": Permission denied")
        setStatus 126
      else do
        complain (s.notFound name)
        setStatus 127
    | some program =>
      match String.ofList program with
      | "sh" | "dash" | "bash" => isolated do
        let fresh : State :=
          { name, manner := if program = "bash".toList then .extended else .plain
            arguments := [], line := 0, bindings := s.environment, streams := s.streams
            buffers := s.buffers, files := s.files, directories := s.directories
            directory := s.directory }
        set fresh
        startShell fuel args
      | "env" => isolated (runWithEnvironment fuel name args)
      | "nice" | "nohup" =>
        match args with
        | ['-', 'n'] :: _ :: program :: args => runProgram fuel program args
        | program :: args => runProgram fuel program args
        | [] => setStatus 0
      | "awk" | "mawk" => do
        setStatus 0
        RecordScript.awk (runLine fuel) name args
      | "timeout" =>
        match args with
        | _ :: program :: args => runProgram fuel program args
        | _ => setStatus 125
      | "xargs" =>
        match Batching.read? args with
        | .error message => misused name message 1
        | .ok b => do
          set (s.leave 0 [])
          let mut status := 0
          for line in b.lines (s.pending 0) do
            if s.isProgram (line.headD []) then
              isolated do
                modify fun s => s.connect 0 (some .nowhere)
                runProgram fuel (line.headD []) line.tail
              if (← get).status ≠ 0 then status := 123
            else do
              write 2 (Raw.ofString "xargs: " ++ line.headD [] ++
                Raw.ofString ": No such file or directory\n")
              status := 127
              break
          setStatus status
      | _ =>
        match fileProgram? program with
        | some p => do
          setStatus 0
          p name args
        | none =>
          match utility? program with
          | some u => runUtility name args u
          | none => setStatus 0

/-- Runs a command line in a shell of its own, perhaps with an input of its own; gives what it
writes if that is wanted. -/
def runLine : (fuel : Nat) → Option Text → (captured : Bool) → Text → Eval Text
  | 0, _, _, _ => pure []
  | fuel + 1, input, captured, line => do
    let source ← match input with
      | some t => do pure (some (← newBuffer t))
      | none => pure none
    let sink ← newBuffer []
    setStatus 0
    isolated do
      match source with
      | some n => modify fun s => s.connect 0 (some (.buffer n))
      | none => pure ()
      if captured then modify fun s => s.connect 1 (some (.buffer sink))
      runProgram fuel "/bin/sh".toList [['-', 'c'], line]
    return (← get).bufferText sink

/-- Runs a program with other variables in its environment. -/
def runWithEnvironment : (fuel : Nat) → (name : Text) → List Text → Eval Unit
  | 0, _, _ => pure ()
  | fuel + 1, name, args => do
    match readArguments environmentSyntax args with
    | .error message => misused name message 125
    | .ok a => do
      if a.has 'i' then modify fun s => { s with bindings := [] }
      for (c, v) in a.options do
        if c = 'u' then modify fun s => s.putVariable v none
      let settings := a.operands.takeWhile fun t => t.any (· == '=')
      for t in settings do
        let (n, v) := splitAssignment t
        modify fun s => s.putVariable n (some { value := v, exported := true })
      match a.operands.drop settings.length with
      | [] => do
        let s ← get
        write 1 (s.environment.reverse.flatMap fun (n, v) => n ++ '=' :: v.value.getD [] ++ ['\n'])
        setStatus 0
      | program :: rest => do
        let s ← get
        let fails (why : String) (status : Nat) : Eval Unit := do
          programFails status (name ++ Raw.ofString ": " ++ quotedName program ++ Raw.ofString why)
        if program.any (· == '/') && s.isDirectory program then fails ": Permission denied" 126
        else if s.isProgram program then runProgram fuel program rest
        else fails ": No such file or directory" 127

def startShell : (fuel : Nat) → List Text → Eval Unit
  | 0, _ => pure ()
  | fuel + 1, args => do
    match readStart {} args with
    | .error message => refuse message
    | .ok start => do
      for c in start.letters do
        modify (·.setOption true c)
      if start.inline then
        match start.operands with
        | [] => refuse (Raw.ofString "-c requires an argument")
        | script :: rest => do
          modify fun s => { s with
            line := 1
            name := rest.headD s.name
            arguments := rest.tail }
          finishing fuel (runText fuel false script)
      else
        match start.fromInput, start.operands with
        | false, file :: rest => do
          let s ← get
          match s.read? file with
          | none => refuse (Raw.ofString "cannot open " ++ file ++ Raw.ofString ": No such file")
          | some script => do
            set { s with line := 1, name := file, arguments := rest }
            finishing fuel (runText fuel false script)
        | _, operands => do
          let s ← get
          let script := s.pending 0
          let started := { s.leave 0 [] with line := 1, arguments := operands }
          set started
          finishing fuel (runText fuel false script)

def runText : (fuel : Nat) → (tested : Bool) → Text → Eval Unit
  | 0, _, _ => pure ()
  | fuel + 1, tested, text => do
    let mut reader : Reader := { rest := text }
    for _ in [0:text.length + 1] do
      match nextCommand reader with
      | .error m => malformed m
      | .ok (none, _) => break
      | .ok (some c, r) => do
        reader := r
        run fuel tested c

end

end Shell

end External

end SmartyLayout
