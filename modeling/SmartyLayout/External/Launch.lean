import SmartyLayout.External.Command
import SmartyLayout.External.Shell.Evaluator

/-!
# SmartyLayout.External.Launch — the programs that there are

The launcher of the command line program. It knows the shell and the small programs that a shell can
start; any other name cannot be started.
-/

namespace SmartyLayout

namespace External

/-! ## Starting programs -/

/-- Why a program cannot be started. -/
inductive LaunchFault where
  | zeroByte
  | notFound
  | nameTooLong
  | notDirectory
  | denied
deriving DecidableEq, Repr

def LaunchFault.message : LaunchFault → String
  | .zeroByte => "nul byte found in provided data"
  | .notFound => "No such file or directory (os error 2)"
  | .nameTooLong => "File name too long (os error 36)"
  | .notDirectory => "Not a directory (os error 20)"
  | .denied => "Permission denied (os error 13)"

def nameLimit : Nat := 255

def pathLimit : Nat := 4095

def workingDirectory : Text := "/work/place".toList

/-- A directory on the way to an absolute path. -/
def isKnownDirectory (path : Text) : Bool :=
  Test.isDirectory path || path == workingDirectory || path == directoryName workingDirectory

/-- Files that are always there and are no programs. -/
def isPlainFile (path : Text) : Bool :=
  Test.isDevice path ||
    ["/etc/passwd", "/etc/group", "/etc/hosts", "/etc/hostname"].any (·.toList == path)

/-- Follows a path step by step from a directory; `before` is the path so far. -/
def follow (before : Text) : List Text → Except LaunchFault Unit
  | [] => .error .denied
  | step :: steps =>
    let path := if before = ['/'] then '/' :: step else before ++ '/' :: step
    if nameLimit < step.length then .error .nameTooLong
    else if step.isEmpty ∨ step = ['.'] then follow before steps
    else if step = ['.', '.'] then follow (directoryName before) steps
    else if isKnownDirectory path then follow path steps
    else if (Shell.programAt? path).isSome then
      if steps.isEmpty then .ok () else .error .notDirectory
    else if isPlainFile path then .error (if steps.isEmpty then .denied else .notDirectory)
    else .error .notFound

/-- Finds a program; only a name without a slash is looked for where programs stand. -/
def launch (program : Text) : Except LaunchFault Unit :=
  if program.isEmpty then .error .notFound
  else if program.any (· == '/') then
    if pathLimit < program.length then .error .nameTooLong
    else
      match program with
      | '/' :: rest => follow ['/'] (rest.splitOn '/')
      | rest => follow workingDirectory (rest.splitOn '/')
  else if nameLimit < program.length then .error .nameTooLong
  else if program = ['.'] ∨ program = ['.', '.'] then .error .denied
  else if Shell.programs.any (·.toList == program) then .ok ()
  else .error .notFound

/-! ## Running programs -/

def nestingLimit : Nat := 4000

def initialVariables : List (Text × Shell.Variable) :=
  [("PATH", "/usr/local/bin:/usr/bin:/bin"), ("HOME", "/root")].map fun (n, v) =>
    (n.toList, { value := some v.toList, exported := true })

/-- What can be written to a program that does not read. -/
def pipeCapacity : Nat := 65536

def execute (program : Text) (args : List Text) (input : Text) : Outcome :=
  let start : Shell.State :=
    { name := program
      arguments := []
      bindings := initialVariables
      streams := [(0, .buffer 0), (1, .buffer 1), (2, .buffer 2)]
      buffers := [[input], [], []]
      directories := [directoryName workingDirectory]
      directory := workingDirectory }
  let (result, last) := (Shell.runProgram nestingLimit program args).run start
  { status := match result with
      | .error (.killed n name) => .signal n ("SIG" ++ name)
      | _ => .code (last.status % 256)
    stdout := Raw.toBytes (last.bufferText 1)
    stderr := Raw.toBytes (last.bufferText 2)
    unwritten :=
      if pipeCapacity < (last.bufferText 0).length then some "Broken pipe (os error 32)" else none }

instance : Launcher where
  start program arguments input :=
    let program := Raw.ofText program
    let args := arguments.map Raw.ofText
    let hasZero := (program :: args).any fun a => a.any (· == '\x00')
    match if hasZero then .error .zeroByte else launch program with
    | .error fault => .refused fault.message
    | .ok () => .ended (execute program args (Raw.ofText input))

end External

end SmartyLayout
