import SmartyLayout.Options

/-!
# SmartyLayout.CommandLine.Arguments — what a command line asks for

Arguments are first read against a list of the options there are, which decides which argument is
the value of another. Then the options are put together into a command.

* `--name value`, `--name=value`, `-nvalue` and `-n=value` give an option its value;
* flags with one letter may stand together behind one dash;
* behind `--` everything is a plain argument, and `-` alone always is.
-/

namespace SmartyLayout

namespace CommandLine

/-- Why a command line is not understood. -/
inductive UsageFault where
  | unknownArgument (arg : Text)
  | missingValue (option : String)
  | unexpectedValue (option : String)
  | repeated (option : String)
  | invalidValue (option : String) (value : Text)
  | conflict (option other : String)
  | missingCommand
deriving DecidableEq, Repr

def UsageFault.message : UsageFault → String
  | .unknownArgument arg => "unexpected argument '" ++ String.ofList arg ++ "' found"
  | .missingValue option => s!"a value is required for '--{option}' but none was supplied"
  | .unexpectedValue option => s!"unexpected value for '--{option}' found"
  | .repeated option => s!"the argument '--{option}' cannot be used multiple times"
  | .invalidValue option value =>
    "invalid value '" ++ String.ofList value ++ s!"' for '--{option}'"
  | .conflict option other => s!"the argument '--{option}' cannot be used with '--{other}'"
  | .missingCommand => "a subcommand is required but none was provided"

/-! ## Options and plain arguments -/

structure OptionSpec where
  name : String
  letter : Option Char := none
  takesValue : Bool := false
  repeatable : Bool := false
deriving DecidableEq, Repr

/-- Arguments under reading: options with their values and plain arguments, in order. -/
structure Arguments where
  options : List (String × Text) := []
  plain : List Text := []
deriving DecidableEq, Repr

namespace Arguments

def add (a : Arguments) (spec : OptionSpec) (value : Text) : Arguments :=
  { a with options := a.options ++ [(spec.name, value)] }

def addPlain (a : Arguments) (t : Text) : Arguments :=
  { a with plain := a.plain ++ [t] }

def values (a : Arguments) (name : String) : List Text :=
  (a.options.filter (·.1 == name)).map (·.2)

def value? (a : Arguments) (name : String) : Option Text :=
  (a.values name).head?

def has (a : Arguments) (name : String) : Bool :=
  a.options.any (·.1 == name)

end Arguments

def isOption (arg : Text) : Bool :=
  arg.head? == some '-' && arg != ['-']

/-- Reads the letters behind a dash. An option that still waits for its value is given back. -/
def readLetters (specs : List OptionSpec) (arg : Text) :
    Arguments → Text → Except UsageFault (Arguments × Option OptionSpec)
  | a, [] => .ok (a, none)
  | a, c :: cs =>
    match specs.find? (·.letter == some c) with
    | none => .error (.unknownArgument arg)
    | some spec =>
      if !spec.takesValue then readLetters specs arg (a.add spec []) cs
      else
        match cs with
        | [] => .ok (a, some spec)
        | '=' :: value => .ok (a.add spec value, none)
        | value => .ok (a.add spec value, none)

/-- Reads the name behind two dashes, with a value behind an equals sign. -/
def readName (specs : List OptionSpec) (arg : Text) (a : Arguments) (body : Text) :
    Except UsageFault (Arguments × Option OptionSpec) :=
  let name := body.takeWhile (· != '=')
  match specs.find? (·.name.toList == name), body.drop name.length with
  | none, _ => .error (.unknownArgument arg)
  | some spec, [] => .ok (if spec.takesValue then (a, some spec) else (a.add spec [], none))
  | some spec, _ :: value =>
    if spec.takesValue then .ok (a.add spec value, none)
    else .error (.unexpectedValue spec.name)

/-- Reads arguments; `waiting` is an option whose value comes next. -/
def readArguments (specs : List OptionSpec) :
    (waiting : Option OptionSpec) → Arguments → List Text → Except UsageFault Arguments
  | none, a, [] => .ok a
  | some spec, _, [] => .error (.missingValue spec.name)
  | some spec, a, arg :: args =>
    if isOption arg then .error (.missingValue spec.name)
    else readArguments specs none (a.add spec arg) args
  | none, a, arg :: args =>
    match arg with
    | ['-', '-'] => .ok { a with plain := a.plain ++ args }
    | '-' :: '-' :: body =>
      match readName specs arg a body with
      | .error f => .error f
      | .ok (a, waiting) => readArguments specs waiting a args
    | '-' :: c :: cs =>
      match readLetters specs arg a (c :: cs) with
      | .error f => .error f
      | .ok (a, waiting) => readArguments specs waiting a args
    | _ => readArguments specs none (a.addPlain arg) args

/-- The first option that is given more often than it may be. -/
def repeated? (specs : List OptionSpec) (a : Arguments) : Option UsageFault :=
  (specs.find? fun s => !s.repeatable && 1 < (a.values s.name).length).map fun s => .repeated s.name

/-- Reads arguments and checks for repetition. -/
def parseArguments (specs : List OptionSpec) (args : List Text) : Except UsageFault Arguments :=
  match readArguments specs none {} args with
  | .error f => .error f
  | .ok a =>
    match repeated? specs a with
    | some f => .error f
    | none => .ok a

/-! ## Commands -/

/-- What is to be formatted, and how. -/
structure FormatRequest where
  paths : List Text := []
  check : Bool := false
  config : Option Text := none
  indentSize : Option IndentSize := none
  tabs : Bool := false
  /-- The file name that input without a name stands for. -/
  inputName : Option Text := none
  exclude : List Text := []
  quiet : Bool := false
deriving DecidableEq, Repr

inductive Command where
  | format (request : FormatRequest)
  | server (port : Option Nat) (config : Option Text)
  | init
  | config (path : Option Text)
deriving DecidableEq, Repr

def verboseSpec : OptionSpec := { name := "verbose", letter := some 'v' }

/-- The option that names a settings file. -/
def configSpec : OptionSpec := { name := "config", letter := some 'c', takesValue := true }

def formatSpecs : List OptionSpec :=
  [verboseSpec, configSpec, { name := "check" }, { name := "indent-size", takesValue := true },
    { name := "tabs" }, { name := "stdin-filename", takesValue := true },
    { name := "exclude", takesValue := true, repeatable := true },
    { name := "quiet", letter := some 'q' }]

def serverSpecs : List OptionSpec :=
  [verboseSpec, configSpec, { name := "port", takesValue := true }, { name := "stdio" }]

/-- A number in decimal digits, with a plus sign or without. -/
def number? (t : Text) : Option Nat :=
  let digits := match t with
    | '+' :: ds => ds
    | ds => ds
  if digits.isEmpty || !digits.all Char.isDigit then none
  else some (digits.foldl (fun n c => n * 10 + (c.toNat - '0'.toNat)) 0)

/-- The value of an option as a number that `read` takes. -/
def numberOption {α : Type} (a : Arguments) (name : String) (read : Nat → Option α) :
    Except UsageFault (Option α) :=
  match a.value? name with
  | none => .ok none
  | some t =>
    match (number? t).bind read with
    | some n => .ok (some n)
    | none => .error (.invalidValue name t)

def FormatRequest.ofArguments (a : Arguments) : Except UsageFault FormatRequest :=
  (numberOption a "indent-size" IndentSize.ofNat?).map fun indentSize =>
    { paths := a.plain
      check := a.has "check"
      config := a.value? "config"
      indentSize
      tabs := a.has "tabs"
      inputName := a.value? "stdin-filename"
      exclude := (a.values "exclude").flatMap fun t => t.splitOn ','
      quiet := a.has "quiet" }

/-- Reads the arguments of a command that takes no plain ones. -/
def parseOptionsOnly (specs : List OptionSpec) (args : List Text) : Except UsageFault Arguments :=
  match parseArguments specs args with
  | .error f => .error f
  | .ok a =>
    match a.plain with
    | [] => .ok a
    | arg :: _ => .error (.unknownArgument arg)

def serverCommand (a : Arguments) : Except UsageFault Command :=
  if a.has "stdio" ∧ a.has "port" then .error (.conflict "stdio" "port")
  else
    (numberOption a "port" fun n => if n < 65536 then some n else none).map fun port =>
      .server port (a.value? "config")

def commandOf (name : Text) (args : List Text) : Except UsageFault Command :=
  if name = "fmt".toList then
    match parseArguments formatSpecs args with
    | .error f => .error f
    | .ok a => (FormatRequest.ofArguments a).map .format
  else if name = "server".toList then
    match parseOptionsOnly serverSpecs args with
    | .error f => .error f
    | .ok a => serverCommand a
  else if name = "init".toList then
    (parseOptionsOnly [verboseSpec] args).map fun _ => .init
  else if name = "config".toList then
    (parseOptionsOnly [verboseSpec, configSpec] args).map fun a => .config (a.value? "config")
  else .error (.unknownArgument name)

/-- The command that a command line asks for: flags, the command's name, then its arguments. -/
def parse (args : List Text) : Except UsageFault Command :=
  match parseArguments [verboseSpec] (args.takeWhile isOption) with
  | .error f => .error f
  | .ok _ =>
    match args.dropWhile isOption with
    | [] => .error .missingCommand
    | name :: rest =>
      if (args.takeWhile isOption).contains ['-', '-'] then .error (.unknownArgument name)
      else commandOf name rest

end CommandLine

end SmartyLayout
