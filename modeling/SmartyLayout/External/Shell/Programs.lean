import SmartyLayout.External.BlockCopy
import SmartyLayout.External.Columns
import SmartyLayout.External.Copying
import SmartyLayout.External.Counting
import SmartyLayout.External.Difference.Output
import SmartyLayout.External.Digest
import SmartyLayout.External.Encoding
import SmartyLayout.External.Exchange
import SmartyLayout.External.Filling
import SmartyLayout.External.Repeats
import SmartyLayout.External.Searching
import SmartyLayout.External.Sequence
import SmartyLayout.External.Shell.Builtin
import SmartyLayout.External.Sorting
import SmartyLayout.External.StreamEditor
import SmartyLayout.External.TabStops

/-!
# SmartyLayout.External.Shell.Programs — programs that a shell starts

Programs that run no other programs. Most turn their input into output; some create, move and
remove files.
-/

namespace SmartyLayout

namespace External

namespace Shell

/-! ## Streams and files -/

def parentOf (path : Text) : Text :=
  directoryName path

/-- Where writing to a file of some name goes, or why it cannot be created. -/
def openForWriting (append : Bool) (t : Text) : Eval (Except String (Option Stream)) := do
  let s ← get
  let path := s.path t
  if path = "/dev/null".toList then pure (.ok (some .nowhere))
  else if path = "/dev/stdout".toList ∨ path = "/dev/fd/1".toList then pure (.ok (s.stream? 1))
  else if path = "/dev/stderr".toList ∨ path = "/dev/fd/2".toList then pure (.ok (s.stream? 2))
  else if s.isDirectory t then pure (.error "Is a directory")
  else if !t.isEmpty && s.isDirectory (parentOf path) then do
    if !append || (s.file? path).isNone then set (s.putFile path [])
    pure (.ok (some (.file path)))
  else pure (.error "Directory nonexistent")

/-- Where reading from a file of some name comes from; none if there is no such file. -/
def openForReading (t : Text) : Eval (Option Stream) := do
  let s ← get
  let path := s.path t
  if path = "/dev/stdin".toList ∨ path = "/dev/fd/0".toList then pure (s.stream? 0)
  else if s.isDirectory t then pure (some .nowhere)
  else
    match s.read? t with
    | some content => do
      let n ← newBuffer content
      pure (some (if path = "/dev/null".toList then .buffer n else .source n))
    | none => pure none

def State.isProgram (s : State) (name : Text) : Bool :=
  if name.any (· == '/') then (programAt? (normalPath (s.path name))).isSome
  else programs.any (·.toList == name)

def State.environment (s : State) : List (Text × Variable) :=
  s.bindings.filter fun (_, v) => v.exported && v.value.isSome

/-- A complaint of a program, after which it fails in the end. -/
def programFails (status : Nat) (message : Text) : Eval Unit := do
  write 2 (message ++ ['\n'])
  setStatus status

/-- A program that ends because it is used wrongly. -/
def misused (name message : Text) (status : Nat) : Eval Unit := do
  let c : Call := { name, args := [], input := [] }
  write 2 (c.misused message status).stderr
  setStatus status

def quotedName (t : Text) : Text :=
  Raw.alwaysQuoted t

/-- A program that works on files: it is given its name and its arguments. -/
abbrev FileProgram := Text → List Text → Eval Unit

/-- Runs a program whose options are in order and that has operands if it needs some. -/
def withOperands (options : OptionSyntax) (status : Nat) (needed : Option String)
    (run : Arguments → Eval Unit) : FileProgram := fun name args =>
  match readArguments options args with
  | .error message => misused name message status
  | .ok a =>
    match needed with
    | some what => if a.operands.isEmpty then misused name (Raw.ofString what) status else run a
    | none => run a

def rm : FileProgram := fun program args =>
  match readArguments { plain := "firRvId"
                        long := [("force", 'f', false), ("recursive", 'r', false),
                          ("verbose", 'v', false)] } args with
  | .error message => misused program message 1
  | .ok a => do
    if a.operands.isEmpty && !a.has 'f' then misused program (Raw.ofString "missing operand") 1
    for name in a.operands do
      let s ← get
      let path := s.path name
      let cannot (why : String) : Eval Unit :=
        programFails 1 (program ++ Raw.ofString ": cannot remove " ++ quotedName name ++
          Raw.ofString why)
      let below := path ++ ['/']
      if (s.file? path).isSome then set { s with files := s.files.filter (·.1 != path) }
      else if s.isDirectory name then
        if a.has 'r' || a.has 'R' then
          set { s with
            files := s.files.filter fun f => !Text.startsWith below f.1
            directories := s.directories.filter fun d => d != path && !Text.startsWith below d }
        else cannot ": Is a directory"
      else if a.has 'f' then pure ()
      else cannot ": No such file or directory"

def mkdir : FileProgram := fun program args =>
  withOperands { plain := "pv", valued := "m", long := [("parents", 'p', false)] } 1
    (some "missing operand") (fun a => do
      for name in a.operands do
        let s ← get
        let path := normalPath (s.path name)
        let cannot (why : String) : Eval Unit :=
          programFails 1 (program ++ Raw.ofString ": cannot create directory " ++ quotedName name ++
            Raw.ofString why)
        if a.has 'p' then
          let steps : List Text := (List.range (path.length + 1)).filterMap fun n =>
            if n = path.length ∨ path[n]? = some '/' then some (path.take n) else none
          set { s with directories := s.directories ++ steps.filter (· != []) }
        else if s.isDirectory name || (s.file? path).isSome then cannot ": File exists"
        else if !s.isDirectory (parentOf path) then cannot ": No such file or directory"
        else set { s with directories := path :: s.directories }) program args

/-- Creates empty files. -/
def touch : FileProgram := fun program args =>
  withOperands { plain := "acmh", valued := "drt" } 1 (some "missing file operand") (fun a => do
    for name in a.operands do
      let s ← get
      let path := s.path name
      if (s.file? path).isSome || s.isDirectory name then pure ()
      else if s.isDirectory (parentOf path) then set (s.putFile path [])
      else
        programFails 1 (program ++ Raw.ofString ": cannot touch " ++ quotedName name ++
          Raw.ofString ": No such file or directory")) program args

def transfer (moving : Bool) : FileProgram := fun program args =>
  withOperands { plain := "afiprRuvn" } 1 (some "missing file operand") (fun a => do
    match a.operands with
    | [source, target] => do
      let s ← get
      match s.read? source with
      | none =>
        programFails 1 (program ++ Raw.ofString ": cannot stat " ++ quotedName source ++
          Raw.ofString ": No such file or directory")
      | some content =>
        let path := if s.isDirectory target then
            normalPath (s.path target ++ '/' :: baseName source)
          else s.path target
        let s := if moving then { s with files := s.files.filter (·.1 != s.path source) } else s
        if s.isDirectory (parentOf path) then set (s.putFile path content)
        else
          programFails 1 (program ++ Raw.ofString ": cannot create regular file " ++
            quotedName target ++ Raw.ofString ": No such file or directory")
    | [source] =>
      misused program
        (Raw.ofString "missing destination file operand after " ++ quotedName source) 1
    | _ => pure ()) program args

/-- Creates a file of a new name. -/
def mktemp : FileProgram := fun program args =>
  withOperands { plain := "dqut", valued := "p" } 1 none (fun a => do
    let s ← get
    let path := Raw.ofString "/tmp/tmp." ++ Raw.padLeft '0' 10 (Raw.ofNat s.files.length)
    if a.has 'd' then set { s with directories := path :: s.directories }
    else set (s.putFile path [])
    write 1 (path ++ ['\n'])) program args

def ls : FileProgram := fun program args =>
  withOperands { plain := "aAld1FhrtR" } 2 none (fun a => do
    for name in a.operands do
      let s ← get
      if (s.read? name).isSome || (s.isDirectory name && a.has 'd') then write 1 (name ++ ['\n'])
      else if s.isDirectory name then pure ()
      else
        programFails 2 (program ++ Raw.ofString ": cannot access " ++ quotedName name ++
          Raw.ofString ": No such file or directory")) program args

/-- Copies its input to files and to its output. -/
def tee : FileProgram := fun program args =>
  withOperands { plain := "aip", long := [("append", 'a', false)] } 1 none (fun a => do
    let s ← get
    let input := s.pending 0
    set (s.leave 0 [])
    write 1 input
    for name in a.operands do
      match ← openForWriting (a.has 'a') name with
      | .ok target => do
        let before ← get
        set (before.connect 9 target)
        write 9 input
        modify fun s => { s with streams := before.streams }
      | .error why =>
        programFails 1 (program ++ Raw.ofString ": " ++ Raw.shownName name ++ Raw.ofString
          (if why = "Is a directory" then ": Is a directory" else ": No such file or directory")))
    program args

/-- Copies a file, or its input, in blocks. -/
def dd : FileProgram := fun program args => do
  let say (message : Text) : Eval Unit :=
    write 2 (program ++ Raw.ofString ": " ++ message ++ ['\n'])
  match args.foldlM BlockCopy.readOperand ({} : BlockCopy.Job) with
  | .error fault =>
    if fault.hint then misused program fault.message 1
    else programFails 1 (program ++ Raw.ofString ": " ++ fault.message)
  | .ok job => do
    let s ← get
    let input? : Option Text := match job.source with
      | some name => s.read? name
      | none => some (s.pending 0)
    let failed (name : Text) (why : String) : Eval Unit :=
      programFails 1 (program ++ Raw.ofString ": failed to open " ++ quotedName name ++
        Raw.ofString (": " ++ why))
    match input? with
    | none => failed (job.source.getD []) "No such file or directory"
    | some input => do
      let c := job.copy input
      let source := job.source.map s.path
      let finish : Eval Unit := do
        if c.short && job.report != "none".toList then
          say (quotedName (job.source.getD "standard input".toList) ++
            Raw.ofString ": cannot skip to specified offset")
        if source.isNone || source = some "/dev/stdin".toList then modify (·.leave 0 c.left)
        write 2 (job.reportOf c)
      match job.target with
      | none => do
        write 1 c.output
        finish
      | some name => do
        let before := ((← get).read? name).getD []
        match ← openForWriting false name with
        | .ok (some (.file path)) => do
          modify (·.putFile path (job.written before c.output))
          finish
        | .ok target => do
          let streams := (← get).streams
          modify (·.connect 9 target)
          write 9 c.output
          modify fun s => { s with streams }
          finish
        | .error why =>
          failed name (if why = "Is a directory" then why else "No such file or directory")

def sleep : FileProgram := fun program args =>
  withOperands {} 1 (some "missing operand") (fun a => do
    let isInterval (t : Text) : Bool :=
      let t := if ["s", "m", "h", "d"].any fun u => Text.endsWith u.toList t then t.dropLast else t
      match Decimal.leading? t with
      | some (false, _, []) => true
      | _ => false
    match a.operands.find? (!isInterval ·) with
    | some t => misused program (Raw.ofString "invalid time interval " ++ quotedName t) 1
    | none => pure ()) program args

/-- Writes the values of variables of the environment. -/
def printenv : FileProgram := fun program args =>
  withOperands { plain := "0" } 2 none (fun a => do
    let s ← get
    if a.operands.isEmpty then
      write 1 (s.environment.reverse.flatMap fun (n, v) => n ++ '=' :: v.value.getD [] ++ ['\n'])
    else
      for name in a.operands do
        match s.environment.find? (·.1 == name) with
        | some (_, v) => write 1 (v.value.getD [] ++ ['\n'])
        | none => setStatus 1) program args

def which : FileProgram := fun _ args => do
  for name in args do
    if programs.any (·.toList == name) then write 1 (Raw.ofString "/usr/bin/" ++ name ++ ['\n'])
    else setStatus 1

def standaloneTest : FileProgram := fun program args => do
  let s ← get
  let bracket := baseName program = ['[']
  if bracket && args.getLast? != some [']'] then
    programFails 2 (program ++ Raw.ofString ": missing ']'")
  else
    let args := if bracket then args.dropLast else args
    match Test.run s.asFiles 4 args with
    | .error fault =>
      programFails 2 (program ++ Raw.ofString ": " ++ fault.standaloneMessage args.length)
    | .ok v => setStatus (if v then 0 else 1)

/-! ## Filters -/

def standalonePrintf (c : Call) : Effect :=
  let args := if c.args.head? = some ['-', '-'] then c.args.tail else c.args
  match args with
  | [] => c.misused (Raw.ofString "missing operand") 1
  | format :: args =>
    let p := printFormat .standalone format args
    { stdout := p.text
      stderr := p.complaints.flatMap c.line
      status := if p.complaints.isEmpty then 0 else 1
      left := c.input }

/-- Repeats a line. No reader takes more than this. -/
def yes : Utility :=
  withArguments {} 1 fun c a =>
    let line := if a.operands.isEmpty then ['y', '\n']
      else List.intercalate [' '] a.operands ++ ['\n']
    { stdout := (List.replicate 16384 line).flatten, left := c.input }

/-- Programs that only read and write. -/
def utility? (name : Text) : Option Utility :=
  match String.ofList name with
  | "cat" => some cat
  | "head" => some head
  | "tail" => some tail
  | "tac" => some tac
  | "rev" => some rev
  | "wc" => some wc
  | "nl" => some nl
  | "cut" => some cut
  | "paste" => some paste
  | "fold" => some fold
  | "sort" => some sort
  | "uniq" => some uniq
  | "tr" => some tr
  | "sed" => some sed
  | "grep" => some grep
  | "egrep" => some fun c => grep { c with name := "grep".toList, args := ['-', 'E'] :: c.args }
  | "fgrep" => some fun c => grep { c with name := "grep".toList, args := ['-', 'F'] :: c.args }
  | "base64" => some (encoding (.sixtyFour ['+', '/']))
  | "base32" => some (encoding .thirtyTwo)
  | "basenc" => some basenc
  | "expand" => some expand
  | "unexpand" => some unexpand
  | "md5sum" => some (Digest.digests "MD5" Digest.md5)
  | "sha1sum" => some (Digest.digests "SHA1" Digest.sha1)
  | "sha224sum" => some (Digest.digests "SHA224" Digest.sha224)
  | "sha256sum" => some (Digest.digests "SHA256" Digest.sha256)
  | "sha384sum" => some (Digest.digests "SHA384" Digest.sha384)
  | "sha512sum" => some (Digest.digests "SHA512" Digest.sha512)
  | "sum" => some Digest.sum
  | "cksum" => some Digest.cksum
  | "od" => some Dump.od
  | "cmp" => some cmp
  | "comm" => some comm
  | "join" => some join
  | "diff" => some diff
  | "fmt" => some fmt
  | "seq" => some seq
  | "basename" => some basename
  | "dirname" => some dirname
  | "expr" => some expr
  | "echo" => some fun c => { stdout := standaloneEcho c.args, left := c.input }
  | "printf" => some standalonePrintf
  | "true" => some fun c => { left := c.input }
  | "false" => some fun c => { status := 1, left := c.input }
  | "yes" => some yes
  | "date" => some (withArguments { plain := "uR", valued := "d" } 1 fun c _ => { left := c.input })
  | _ => none

/-- Programs that work on files or on the environment. -/
def fileProgram? (name : Text) : Option FileProgram :=
  match String.ofList name with
  | "rm" => some rm
  | "rmdir" => some fun program args => rm program (['-', 'r'] :: args)
  | "mkdir" => some mkdir
  | "touch" => some touch
  | "cp" => some (transfer false)
  | "mv" => some (transfer true)
  | "mktemp" => some mktemp
  | "ls" => some ls
  | "tee" => some tee
  | "dd" => some dd
  | "sleep" => some sleep
  | "printenv" => some printenv
  | "which" => some which
  | "test" | "[" => some standaloneTest
  | "pwd" => some (withOperands { plain := "LP" } 1 none fun _ => do
    let s ← get
    write 1 (s.directory ++ ['\n']))
  | _ => none

def runUtility (name : Text) (args : List Text) (u : Utility) : Eval Unit := do
  let s ← get
  let e := u { name, args, input := s.pending 0, inputIsFile := s.readsFile 0, read := s.read?
               isDirectory := s.isDirectory }
  set (e.files.foldl (fun s (name, t) => s.putFile (s.path name) t) (s.leave 0 e.left))
  for (output, message) in e.turns do
    write 1 output
    write 2 message
  write 2 e.stderr
  write 1 e.stdout
  setStatus e.status

end Shell

end External

end SmartyLayout
