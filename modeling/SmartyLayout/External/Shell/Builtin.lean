import SmartyLayout.External.Operands
import SmartyLayout.External.Printing
import SmartyLayout.External.Shell.Pattern
import SmartyLayout.External.Shell.State

/-!
# SmartyLayout.External.Shell.Builtin — commands of the shell itself

Each command is given its arguments; it sets the status and can leave the shell early.
-/

namespace SmartyLayout

namespace External

namespace Shell

/-- A command of the shell. -/
abbrev Builtin := List Text → Eval Unit

/-- The commands that the shell has itself, apart from the special ones. -/
def regularBuiltins : List String :=
  ["[", "alias", "bg", "cd", "command", "echo", "false", "fg", "getopts", "hash", "jobs", "kill",
    "local", "printf", "pwd", "read", "test", "true", "type", "ulimit", "umask", "unalias", "wait"]

def programs : List String :=
  ["[", "awk", "base32", "base64", "basename", "basenc", "bash", "cat", "cksum", "cmp", "comm",
    "cp", "cut", "dash", "date", "dd", "diff", "dirname", "echo", "egrep", "env", "expand", "expr",
    "false", "fgrep", "fmt", "fold", "grep", "head", "join", "ls", "mawk", "md5sum", "mkdir",
    "mktemp", "mv", "nice", "nl", "nohup", "od", "paste", "printenv", "printf", "pwd", "rev", "rm",
    "rmdir", "sed", "seq", "sh", "sha1sum", "sha224sum", "sha256sum", "sha384sum", "sha512sum",
    "sleep", "sort", "sum", "tac", "tail", "tee", "test", "timeout", "touch", "tr", "true",
    "unexpand", "uniq", "wc", "which", "xargs", "yes"]

/-- A number of an argument; one that is none ends the shell. -/
def numberArgument (t : Text) : Eval Nat :=
  match Raw.nat? t with
  | some n => pure n
  | none => fatal (Raw.ofString "Illegal number: " ++ t)

def State.isDirectory (s : State) (t : Text) : Bool :=
  let path := s.path t
  !t.isEmpty && (Test.isDirectory t || Test.isDirectory path || path == s.directory ||
    s.directories.contains path)

/-- The program that a path names. -/
def programAt? (path : Text) : Option Text :=
  ["/bin/", "/usr/bin/"].findSome? fun d =>
    (Text.after? d.toList path).filter fun n => programs.any (·.toList == n)

/-- The content of the file that a name stands for. -/
def State.read? (s : State) (t : Text) : Option Text :=
  let path := s.path t
  if path = "/dev/null".toList then some []
  else if path = "/dev/stdin".toList ∨ path = "/dev/fd/0".toList then some (s.pending 0)
  else s.file? path

def State.asFiles (s : State) : Test.Files where
  isFile t := !t.isEmpty && ((s.file? (s.path t)).isSome || (programAt? (s.path t)).isSome)
  isDirectory := s.isDirectory
  isProgram t := (programAt? (s.path t)).isSome
  isEmpty t := ((s.file? (s.path t)).map List.isEmpty).getD false

/-! ## Leaving -/

def exitCommand : Builtin
  | [] => throw .exit
  | a :: _ => do
    let n ← numberArgument a
    setStatus (n % 256)
    throw .exit

def returnCommand : Builtin
  | [] => throw .leave
  | a :: _ => do
    let n ← numberArgument a
    setStatus n
    throw .leave

/-- Ends loops or begins their next rounds. -/
def loopCommand (flow : Nat → Flow) : Builtin := fun args => do
  let n ← match args with
    | [] => pure 1
    | a :: _ => do
      let n ← numberArgument a
      if n = 0 then fatal (Raw.ofString "Illegal number: " ++ a) else pure n
  let s ← get
  setStatus 0
  if s.loops = 0 then pure () else throw (flow (min n s.loops))

/-! ## Parameters -/

def optionNames : List (Char × String) :=
  [('e', "errexit"), ('f', "noglob"), ('I', "ignoreeof"), ('i', "interactive"), ('m', "monitor"),
    ('n', "noexec"), ('s', "stdin"), ('x', "xtrace"), ('v', "verbose"), ('V', "vi"), ('E', "emacs"),
    ('C', "noclobber"), ('a', "allexport"), ('b', "notify"), ('u', "nounset")]

def State.setOption (s : State) (on : Bool) (c : Char) : State :=
  { s with options := (optionNames.map (·.1)).reverse.filter fun d =>
      if d = c then on else s.options.any (· == d) }

/-- Reads options in front of arguments; the rest of the arguments comes out, if there was something
to set them. -/
def setOptions (on : Bool) : (fuel : Nat) → Text → List Text → Eval (List Text)
  | 0, _, args => pure args
  | _, [], args => pure args
  | fuel + 1, 'o' :: cs, args => do
    match args with
    | [] => setOptions on fuel cs []
    | name :: args =>
      match optionNames.find? (·.2.toList == name) with
      | some (c, _) => do
        modify (·.setOption on c)
        setOptions on fuel cs args
      | none => fatal (Raw.ofString "Illegal option -o " ++ name)
  | fuel + 1, c :: cs, args =>
    if optionNames.any (·.1 == c) then do
      modify (·.setOption on c)
      setOptions on fuel cs args
    else fatal (Raw.ofString "Illegal option -" ++ [c])

def setCommand : (fuel : Nat) → Builtin
  | 0, _ => pure ()
  | fuel + 1, args => do
    match args with
    | [] => pure ()
    | ['-', '-'] :: rest => modify fun s => { s with arguments := rest }
    | ['-'] :: rest =>
      modify fun s => { s with arguments := if rest.isEmpty then s.arguments else rest }
    | ('-' :: cs) :: rest => do
      let rest ← setOptions true (cs.length + 1) cs rest
      setCommand fuel rest
    | ('+' :: cs) :: rest => do
      let rest ← setOptions false (cs.length + 1) cs rest
      setCommand fuel rest
    | rest => modify fun s => { s with arguments := rest }

def shiftCommand : Builtin := fun args => do
  let n ← match args with
    | [] => pure 1
    | a :: _ => numberArgument a
  let s ← get
  if s.arguments.length < n then fatal (Raw.ofString "can't shift that many")
  else set { s with arguments := s.arguments.drop n }

/-- The name and the value of an argument such as `a=b`. -/
def splitAssignment (t : Text) : Text × Option Text :=
  let name := t.takeWhile (· != '=')
  (name, if name.length < t.length then some (t.drop (name.length + 1)) else none)

/-- Marks variables, and gives them values. -/
def markVariables (mark : Variable → Variable) : Builtin := fun args => do
  for a in args do
    let (name, value?) := splitAssignment a
    if !isName name then fatal (name ++ Raw.ofString ": bad variable name")
    else
      match value? with
      | some v => assign name v
      | none => pure ()
      modify fun s => s.putVariable name (some (mark ((s.lookup? name).getD {})))

/-- Makes variables belong to a function. -/
def localCommand : Builtin := fun args => do
  let s ← get
  if s.frames.isEmpty then fatal (Raw.ofString "not in a function")
  else
    for a in args do
      let (name, value?) := splitAssignment a
      if !isName name then fatal (name ++ Raw.ofString ": bad variable name")
      else
        modify fun s =>
          match s.frames with
          | f :: fs => { s with frames := ((name, s.lookup? name) :: f) :: fs }
          | [] => s
        match value? with
        | some v => assign name v
        | none => pure ()

/-- Takes variables or functions away. -/
def unsetCommand : Builtin := fun args => do
  let (functions, names) := match args with
    | ['-', 'f'] :: names => (true, names)
    | ['-', 'v'] :: names => (false, names)
    | names => (false, names)
  for name in names do
    let s ← get
    if functions then set { s with functions := s.functions.filter (·.1 != name) }
    else if ((s.lookup? name).getD {}).constant then
      fatal (name ++ Raw.ofString ": is read only")
    else if !isName name then fatal (name ++ Raw.ofString ": bad variable name")
    else set (s.putVariable name none)

/-! ## Reading -/

/-- A line at the front of a text, each character with whether a backslash stood in front of it; the
text behind the line; and whether the line had an end. -/
def readLine (plain : Bool) : (escaped : Bool) → Text → List Quotable × Text × Bool
  | _, [] => ([], [], false)
  | true, c :: t =>
    let (l, rest, ended) := readLine plain false t
    (if c = '\n' then l else (c, true) :: l, rest, ended)
  | false, c :: t =>
    if c = '\n' then ([], t, true)
    else if c = '\\' ∧ !plain then readLine plain true t
    else
      let (l, rest, ended) := readLine plain false t
      ((c, false) :: l, rest, ended)

def isDivider (separators : Text) (c : Quotable) : Bool :=
  !c.2 && separators.any (· == c.1)

/-- A blank that divides fields. -/
def isBlankDivider (separators : Text) (c : Quotable) : Bool :=
  isDivider separators c && (c.1 == ' ' || c.1 == '\t' || c.1 == '\n')

/-- The first field of a line, and the line behind its divider. -/
def takeField (separators : Text) (l : List Quotable) : List Quotable × List Quotable :=
  let f := l.takeWhile (!isDivider separators ·)
  let rest := (l.drop f.length).dropWhile (isBlankDivider separators)
  let rest := match rest with
    | c :: cs =>
      if isDivider separators c then cs.dropWhile (isBlankDivider separators) else c :: cs
    | [] => []
  (f, rest)

/-- The fields of a line for so many names; the last name takes all that is left. -/
def fieldsOf (separators : Text) : (names : Nat) → List Quotable → List Text
  | 0, _ => []
  | 1, l =>
    let (f, rest) := takeField separators l
    let all := (l.reverse.dropWhile (isBlankDivider separators)).reverse
    [(if rest.isEmpty then f else all).map (·.1)]
  | n + 1, l =>
    let (f, rest) := takeField separators l
    f.map (·.1) :: fieldsOf separators n rest

def readCommand : Builtin := fun args => do
  let plain := args.head? = some ['-', 'r']
  let names := if plain then args.tail else args
  let names := if names.head? = some ['-', 'p'] then names.drop 2 else names
  if names.isEmpty then refuse (Raw.ofString "arg count")
  else
    match names.find? (!isName ·) with
    | some name => refuse (name ++ Raw.ofString ": bad variable name")
    | none => do
      let s ← get
      let (l, rest, ended) := readLine plain false (s.pending 0)
      set (s.leave 0 rest)
      let l := l.dropWhile (isBlankDivider s.separators)
      for (name, value) in names.zip (fieldsOf s.separators names.length l) do
        assign name value
      setStatus (if ended then 0 else 1)

/-- Where the options of an argument go on. -/
structure OptionPlace where
  /-- The number of the next argument, from 1. -/
  next : Nat
  /-- The letters of the present argument that are left. -/
  letters : Text

/-- The letter of the next option; none at the end of the options. -/
def nextOption? (p : OptionPlace) (args : List Text) : Option (Char × OptionPlace) × Nat :=
  match p.letters with
  | c :: cs => (some (c, { p with letters := cs }), p.next)
  | [] =>
    match args[p.next - 1]? with
    | some ['-', '-'] => (none, p.next + 1)
    | some ('-' :: c :: cs) => (some (c, ⟨p.next + 1, cs⟩), p.next)
    | _ => (none, p.next)

def getoptsCommand : Builtin := fun args => do
  match args with
  | known :: name :: given => do
    let s ← get
    let given := if given.isEmpty then s.arguments else given
    let next := ((s.value? "OPTIND".toList).bind Raw.nat?).getD 1
    let letters := if next ≤ 1 then [] else (s.value? optionLetters).getD []
    let silent := known.head? = some ':'
    let finish (status next : Nat) (letters : Text) (found : Char) : Eval Unit := do
      assign "OPTIND".toList (Raw.ofNat next)
      modify fun s => s.putVariable optionLetters (some { value := some letters })
      assign name [found]
      setStatus status
    let setArgument (v : Option Text) : Eval Unit :=
      modify fun s => s.putVariable "OPTARG".toList (v.map fun t => { value := some t })
    match nextOption? ⟨max 1 next, letters⟩ given with
    | (none, next) => finish 1 next [] '?'
    | (some (c, p), _) =>
      match (known.dropWhile (· != c)).tail, known.any (· == c) && c != ':' with
      | _, false => do
        if silent then setArgument (some [c])
        else do
          write 2 (Raw.ofString "Illegal option -" ++ [c, '\n'])
          setArgument none
        finish 0 p.next p.letters '?'
      | ':' :: _, true =>
        if !p.letters.isEmpty then do
          setArgument (some p.letters)
          finish 0 p.next [] c
        else
          match given[p.next - 1]? with
          | some v => do
            setArgument (some v)
            finish 0 (p.next + 1) [] c
          | none =>
            if silent then do
              setArgument (some [c])
              finish 0 p.next [] ':'
            else do
              write 2 (Raw.ofString "No arg for -" ++ [c] ++ Raw.ofString " option\n")
              setArgument none
              finish 0 p.next [] '?'
      | _, true => do
        setArgument (some [])
        finish 0 p.next p.letters c
  | _ => fatal (Raw.ofString "Usage: getopts optstring var [arg]")
where
  /-- Where the letters of the present argument are kept; no script can name it. -/
  optionLetters : Text := "OPTIND.".toList

/-! ## Places -/

/-- A path without steps that lead nowhere. -/
def normalPath (t : Text) : Text :=
  let parts := (t.splitOn '/').foldl (fun (done : List Text) p =>
    if p.isEmpty ∨ p = ['.'] then done
    else if p = ['.', '.'] then done.dropLast
    else done ++ [p]) []
  '/' :: List.intercalate ['/'] parts

def cdCommand : Builtin := fun args => do
  let s ← get
  let back := args.head? = some ['-']
  let target := match args with
    | [] => (s.value? "HOME".toList).getD ['/']
    | a :: _ => if back then (s.value? "OLDPWD".toList).getD s.directory else a
  let path := normalPath (s.path target)
  if s.isDirectory target || s.isDirectory path then do
    set ((({ s with directory := path }).putVariable "OLDPWD".toList
      (some { value := some s.directory })).putVariable "PWD".toList (some { value := some path }))
    if back then write 1 (path ++ ['\n'])
  else refuse (Raw.ofString "can't cd to " ++ target)

/-! ## Signals -/

def signalNames : List String :=
  ["HUP", "INT", "QUIT", "ILL", "TRAP", "ABRT", "BUS", "FPE", "KILL", "USR1", "SEGV", "USR2",
    "PIPE", "ALRM", "TERM", "STKFLT", "CHLD", "CONT", "STOP", "TSTP", "TTIN", "TTOU", "URG",
    "XCPU", "XFSZ", "VTALRM", "PROF", "WINCH", "IO", "PWR", "SYS"]

/-- The name of a signal; number 0 stands for the end of the shell. -/
def signalName (n : Nat) : String :=
  if n = 0 then "EXIT" else signalNames[n - 1]?.getD (toString n)

/-- The signal that a number or a name stands for. -/
def signal? (t : Text) : Option Nat :=
  match Raw.nat? t with
  | some n => if n ≤ 64 then some n else none
  | none =>
    let upper := t.map Char.toUpper
    if upper = "EXIT".toList then some 0
    else (signalNames.findIdx? (·.toList == upper)).map (· + 1)

/-- Signals that end no shell. -/
def isHarmless (n : Nat) : Bool :=
  ["CHLD", "CONT", "URG", "WINCH", "EXIT"].contains (signalName n)

/-- Sets what is run when a signal comes. -/
def trapCommand : Builtin := fun args => do
  let args := if args.head? = some ['-', '-'] then args.tail else args
  let (action, names) := match args with
    | [a] => (some ['-'], [a])
    | a :: names => (if (Raw.nat? a).isSome then some ['-'] else some a,
        if (Raw.nat? a).isSome then a :: names else names)
    | [] => (none, [])
  match action with
  | none => do
    let s ← get
    for (name, t) in s.traps do
      write 1 (Raw.ofString "trap -- '" ++ t ++ Raw.ofString ("' " ++ name ++ "\n"))
  | some action =>
    for name in names do
      match signal? name with
      | none => do
        write 2 (Raw.ofString "trap: " ++ name ++ Raw.ofString ": bad trap\n")
        setStatus 1
      | some n =>
        modify fun s =>
          let others := s.traps.filter (·.1 != signalName n)
          { s with traps := if action = ['-'] then others else others ++ [(signalName n, action)] }

/-- Sends signals; the traps to be run come out. -/
def killCommand (args : List Text) : Eval (List Text) := do
  let usage : Eval (List Text) := do
    refuse (Raw.ofString "Usage: kill [-s sigspec | -signum | -sigspec] [pid | job]... or" ++
      Raw.ofString "\nkill -l [exitstatus]")
    pure []
  let send (n : Nat) (targets : List Text) : Eval (List Text) := do
    let mut actions : List Text := []
    for t in targets do
      let s ← get
      match Raw.nat? t with
      | none => refuse (Raw.ofString "Illegal number: " ++ t)
      | some _ =>
        if t = processNumber ∨ t = ['0'] then
          match s.traps.find? (·.1 == signalName n) with
          | some (_, action) =>
            if n = 9 then throw (.killed n (signalName n)) else actions := actions ++ [action]
          | none => if n = 0 ∨ isHarmless n then pure () else throw (.killed n (signalName n))
        else do
          complain (Raw.ofString "No such process\n")
          setStatus 1
    pure actions
  match args with
  | [] => usage
  | ('-' :: name) :: rest =>
    match if name = "EXIT".toList then none else signal? name with
    | some n => if rest.isEmpty then usage else send n rest
    | none =>
      match name, rest with
      | ['s'], t :: targets =>
        match signal? t with
        | some n => if targets.isEmpty then usage else send n targets
        | none => do
          refuse (Raw.ofString "invalid signal number or name: " ++ t)
          pure []
      | ['l'], [] => do
        write 1 (Raw.unlines (signalNames.map Raw.ofString))
        pure []
      | ['l'], t :: _ => do
        let n ← numberArgument t
        write 1 (Raw.ofString (signalName (if 128 < n then n - 128 else n)) ++ ['\n'])
        pure []
      | c :: _, _ => do
        refuse (Raw.ofString "Illegal option -" ++ [c])
        pure []
      | [], _ => usage
  | targets => send 15 targets

/-! ## Names -/

inductive Meaning where
  | keyword
  | function
  | special
  | builtin
  | program (path : Text)
  | nothing

def State.meaning (s : State) (name : Text) : Meaning :=
  if keywords.any (·.toList == name) then .keyword
  else if specialBuiltins.any (·.toList == name) then .special
  else if s.functions.any (·.1 == name) then .function
  else if regularBuiltins.any (·.toList == name) then .builtin
  else if programs.any (·.toList == name) then .program (Raw.ofString "/usr/bin/" ++ name)
  else if (programAt? name).isSome then .program name
  else .nothing

/-- Says what names stand for. -/
def typeCommand : Builtin := fun names => do
  for name in names do
    let say (t : Text) : Eval Unit := write 1 (name ++ t ++ ['\n'])
    match (← get).meaning name with
    | .keyword => say (Raw.ofString " is a shell keyword")
    | .function => say (Raw.ofString " is a shell function")
    | .special => say (Raw.ofString " is a special shell builtin")
    | .builtin => say (Raw.ofString " is a shell builtin")
    | .program path => say (Raw.ofString " is " ++ path)
    | .nothing => do
      say (Raw.ofString ": not found")
      setStatus 127

/-- Says briefly what a name stands for. -/
def whichCommand : Builtin := fun names => do
  for name in names.take 1 do
    match (← get).meaning name with
    | .program path => write 1 (path ++ ['\n'])
    | .nothing => setStatus 127
    | _ => write 1 (name ++ ['\n'])

/-! ## Printing and testing -/

def printfCommand : Builtin := fun args => do
  let args := if args.head? = some ['-', '-'] then args.tail else args
  match args with
  | [] => refuse (Raw.ofString "usage: printf format [arg ...]")
  | format :: args => do
    let s ← get
    let p := printFormat (if s.manner = .plain then .shell else .standalone) format args
    for t in p.complaints do
      complain t
    write 1 p.text
    setStatus (if p.complaints.isEmpty then 0 else if p.ended then 2 else 1)

def testCommand : Builtin := fun args => do
  let s ← get
  match Test.run s.asFiles 4 args with
  | .error fault => refuse fault.message
  | .ok v => setStatus (if v then 0 else 1)

/-- The command of some name, if it needs no other commands. -/
def builtin? (name : Text) : Option Builtin :=
  match String.ofList name with
  | ":" | "true" | "alias" | "unalias" | "bg" | "fg" | "hash" | "jobs" | "times" | "ulimit"
  | "wait" =>
    some fun _ => pure ()
  | "false" => some fun _ => setStatus 1
  | "break" => some (loopCommand .stop)
  | "continue" => some (loopCommand .again)
  | "exit" => some exitCommand
  | "return" => some returnCommand
  | "set" => some fun args => setCommand (args.length + 1) args
  | "shift" => some shiftCommand
  | "export" => some fun args =>
    markVariables (fun v => { v with exported := true }) (args.filter (· != ['-', 'p']))
  | "readonly" => some fun args =>
    markVariables (fun v => { v with constant := true }) (args.filter (· != ['-', 'p']))
  | "local" => some localCommand
  | "unset" => some unsetCommand
  | "read" => some readCommand
  | "getopts" => some getoptsCommand
  | "cd" => some cdCommand
  | "pwd" => some fun _ => do
    let s ← get
    write 1 (s.directory ++ ['\n'])
  | "trap" => some trapCommand
  | "type" => some typeCommand
  | "umask" => some fun args => if args.isEmpty then write 1 (Raw.ofString "0022\n") else pure ()
  | "echo" => some fun args => do
    let s ← get
    write 1 (if s.manner = .plain then shellEcho args else standaloneEcho args)
  | "printf" => some printfCommand
  | "test" => some testCommand
  | "[" => some fun args =>
    if args.getLast? = some [']'] then testCommand args.dropLast
    else refuse (Raw.ofString "missing ]")
  | _ => none

end Shell

end External

end SmartyLayout
