import SmartyLayout.External.Raw

/-!
# SmartyLayout.External.Utility — what a small program is

A utility is given its arguments and its input, and says what it writes and how it ends. This module
holds what utilities have in common: how their arguments are read and what they say when these are
wrong.
-/

namespace SmartyLayout

namespace External

structure Effect where
  /-- What it wrote first, in turns: output, and then a message. -/
  turns : List (Text × Text) := []
  stdout : Text := []
  stderr : Text := []
  /-- 0 for success. -/
  status : Nat := 0
  /-- The input it has not read. -/
  left : Text := []
  /-- Files it has written. -/
  files : List (Text × Text) := []
deriving DecidableEq, Repr

/-- What a utility is given. -/
structure Call where
  name : Text
  args : List Text
  input : Text
  /-- The input is a file, in which a program can go back. -/
  inputIsFile : Bool := false
  /-- The content of a file. -/
  read : Text → Option Text := fun _ => none
  isDirectory : Text → Bool := fun _ => false

abbrev Utility := Call → Effect

namespace Call

def line (c : Call) (message : Text) : Text :=
  c.name ++ Raw.ofString ": " ++ message ++ ['\n']

/-- A program that ends with a complaint and a hint. -/
def misused (c : Call) (message : Text) (status : Nat) : Effect :=
  { stderr := c.line message ++ Raw.ofString "Try '" ++ c.name ++
      Raw.ofString " --help' for more information.\n"
    status, left := c.input }

def fails (c : Call) (message : Text) (status : Nat) : Effect :=
  { stderr := c.line message, status, left := c.input }

end Call

/-! ## Options -/

structure OptionSyntax where
  /-- Letters of options without a value. -/
  plain : String := ""
  /-- Letters of options with a value. -/
  valued : String := ""
  /-- Letters of options whose value may stand right behind them. -/
  optional : String := ""
  /-- Names of options, the letter each stands for, and whether it has a value. -/
  long : List (String × Char × Bool) := []
  /-- Options are looked for behind operands too. -/
  permuted : Bool := true
  /-- A number with a minus sign is an operand. -/
  endsAtNumber : Bool := false

/-- Arguments that have been read: options in order, and operands. -/
structure Arguments where
  options : List (Char × Text) := []
  operands : List Text := []

namespace Arguments

def has (a : Arguments) (c : Char) : Bool :=
  a.options.any (·.1 == c)

def value? (a : Arguments) (c : Char) : Option Text :=
  ((a.options.filter (·.1 == c)).getLast?).map (·.2)

end Arguments

/-- An option that waits for its value: its letter, and what is said if there is none. -/
structure PendingOption where
  letter : Char
  complaint : Text

/-- An option with its value, or a complaint. -/
abbrev OptionResult := Except Text (Char × Text)

/-- A cluster of option letters in one argument: the options, and the last one if it takes the next
argument as its value. -/
def optionCluster (s : OptionSyntax) : Text → List OptionResult × Option PendingOption
  | [] => ([], none)
  | c :: cs =>
    let more := optionCluster s cs
    if s.plain.toList.any (· == c) then (.ok (c, []) :: more.1, more.2)
    else if s.optional.toList.any (· == c) then ([.ok (c, cs)], none)
    else if s.valued.toList.any (· == c) then
      let complaint := Raw.ofString "option requires an argument -- '" ++ [c, '\x27']
      if cs.isEmpty then ([], some ⟨c, complaint⟩) else ([.ok (c, cs)], none)
    else (.error (Raw.ofString "invalid option -- '" ++ [c, '\x27']) :: more.1, more.2)

/-- An option by its name, or by the front of it if no other name begins so: the option, also if it
takes the next argument as its value. -/
def longOption (s : OptionSyntax) (t : Text) : List OptionResult × Option PendingOption :=
  let name := t.takeWhile (· != '=')
  let hits := s.long.filter fun (n, _, _) => n.toList = name
  let hits := if hits.isEmpty then s.long.filter fun (n, _, _) => Text.startsWith name n.toList
    else hits
  let option (n : String) : Text := Raw.ofString ("option '--" ++ n ++ "'")
  match hits with
  | (n, c, valued) :: others =>
    if others.any (fun (_, d, _) => d != c) then
      ([.error (Raw.ofString "option '--" ++ t ++ Raw.ofString "' is ambiguous; possibilities:" ++
        hits.flatMap fun (n, _, _) => Raw.ofString (" '--" ++ n ++ "'"))], none)
    else if valued then
      if name.length < t.length then ([.ok (c, t.drop (name.length + 1))], none)
      else if s.optional.toList.any (· == c) then ([.ok (c, [])], none)
      else ([], some ⟨c, option n ++ Raw.ofString " requires an argument"⟩)
    else if name.length < t.length then
      ([.error (option n ++ Raw.ofString " doesn't allow an argument")], none)
    else ([.ok (c, [])], none)
  | [] => ([.error (Raw.ofString "unrecognized option '--" ++ t ++ ['\x27'])], none)

/-- Reads all arguments, also behind complaints: options in order, and operands. `pending` is an
option that waits for its value. -/
def scanArguments (s : OptionSyntax) :
    (pending : Option PendingOption) → List Text → List OptionResult × List Text
  | none, [] => ([], [])
  | some p, [] => ([.error p.complaint], [])
  | some p, a :: as =>
    let (os, rest) := scanArguments s none as
    (.ok (p.letter, a) :: os, rest)
  | none, a :: as =>
    let more (x : List OptionResult × Option PendingOption) : List OptionResult × List Text :=
      let (os, rest) := scanArguments s x.2 as
      (x.1 ++ os, rest)
    match a with
    | ['-', '-'] => ([], as)
    | '-' :: '-' :: t => more (longOption s t)
    | '-' :: c :: cs =>
      if s.endsAtNumber ∧ (c.isDigit ∨ c = '.') then ([], a :: as)
      else more (optionCluster s (c :: cs))
    | _ =>
      if s.permuted then
        let (os, rest) := scanArguments s none as
        (os, a :: rest)
      else ([], a :: as)

/-- Reads arguments; the first complaint counts. -/
def readArguments (s : OptionSyntax) (args : List Text) : Except Text Arguments := do
  let (os, operands) := scanArguments s none args
  let options ← os.mapM id
  pure { options, operands }

/-- Runs a program whose arguments are in order; wrong options end it. -/
def withArguments (s : OptionSyntax) (status : Nat) (run : Call → Arguments → Effect) : Utility :=
  fun c =>
    match readArguments s c.args with
    | .error message => c.misused message status
    | .ok a => run c a

/-! ## Inputs -/

/-- What became of a file that was named: its name and content, or a complaint. -/
abbrev InputResult := Except Text (Text × Text)

structure Inputs where
  results : List InputResult := []
  left : Text

namespace Inputs

def named (i : Inputs) : Nat :=
  i.results.length

/-- The contents of the files that could be read, with their names. -/
def contents (i : Inputs) : List (Text × Text) :=
  i.results.filterMap Except.toOption

/-- What is said about the others. -/
def stderr (i : Inputs) : Text :=
  i.results.flatMap fun
    | .error complaint => complaint
    | .ok _ => []

/-- A file could not be read. -/
def failed (i : Inputs) : Bool :=
  i.results.any fun r => !r.isOk

end Inputs

/-- What a program says about a file that it cannot read. -/
def unreadable (name : Text) (why : String) : Text :=
  Raw.shownName name ++ Raw.ofString (": " ++ why)

/-- Reads the files that operands name. The standard input stands for a hyphen, and for no operands
at all. A file that cannot be read makes a complaint. -/
def Call.inputsOr (c : Call) (complaint : (name : Text) → (why : String) → Text) :
    List Text → Inputs
  | [] => { results := [.ok (['-'], c.input)], left := [] }
  | names =>
    let result (i : Inputs) (name : Text) : InputResult :=
      let fail (why : String) : InputResult := .error (c.line (complaint name why))
      if name = ['-'] then .ok (name, i.left)
      else if c.isDirectory name then fail "Is a directory"
      else
        match c.read name with
        | some t => .ok (name, t)
        | none => fail "No such file or directory"
    names.foldl (fun i name =>
      { results := i.results ++ [result i name], left := if name = ['-'] then [] else i.left })
      { left := c.input }

/-- Reads the files that operands name, with the usual complaint. -/
def Call.inputs (c : Call) (names : List Text) : Inputs :=
  c.inputsOr unreadable names

namespace Inputs

/-- The files that operands name, one after the other. -/
def joined (i : Inputs) : Text :=
  i.contents.flatMap (·.2)

/-- What a program that looks at all its files together has done. -/
def effect (i : Inputs) (stdout : Text) (status : Nat) : Effect :=
  { stdout, stderr := i.stderr, left := i.left
    status := if i.failed then max 1 status else status }

/-- What a program that works file by file has done: `write` keeps what it has to know about the
files that it has seen, and gives what it writes for the next one. -/
def effectInTurn {σ : Type} (i : Inputs) (start : σ) (write : σ → Text → Text → σ × Text)
    (last : σ → Text) : Effect :=
  let step (s : σ × List (Text × Text) × List Text) (r : InputResult) :
      σ × List (Text × Text) × List Text :=
    let (state, turns, out) := s
    match r with
    | .error complaint => (state, (out.reverse.flatten, complaint) :: turns, [])
    | .ok (name, t) =>
      let (state, text) := write state name t
      (state, turns, text :: out)
  let (state, turns, out) := i.results.foldl step (start, [], [])
  { turns := turns.reverse, stdout := out.reverse.flatten ++ last state, left := i.left
    status := if i.failed then 1 else 0 }

/-- What a program has done that writes something for each file. -/
def effectOfEach (i : Inputs) (write : (name content : Text) → Text) : Effect :=
  i.effectInTurn () (fun _ name t => ((), write name t)) fun _ => []

end Inputs

end External

end SmartyLayout
