import SmartyLayout.External.Raw

/-!
# SmartyLayout.External.Shell.Grammar — commands of the shell language

Words are kept in parts, because quoting decides what happens to the value of a part: an unquoted
value is split into fields, a quoted one is not.
-/

namespace SmartyLayout

namespace External

namespace Shell

/-- What stands in for a parameter that is not set. -/
inductive Fallback where
  /-- Another value. -/
  | value
  /-- Another value for a parameter that is set. -/
  | alternative
  /-- A complaint. -/
  | complaint
  /-- Another value, which the parameter keeps. -/
  | assignment
deriving DecidableEq, Repr

/-- Which end of a value is cut off. -/
structure Trimming where
  front : Bool
  longest : Bool
deriving DecidableEq, Repr

inductive OpenMode where
  | read
  | write
  | append
  | readWrite
deriving DecidableEq, Repr

mutual

inductive Part where
  | text (t : Text) (quoted : Bool)
  | parameter (name : Text) (quoted : Bool)
  /-- The length of a parameter's value. -/
  | length (name : Text) (quoted : Bool)
  /-- A value with something to stand in for it; `emptyToo` says that an empty value counts as not
  set. -/
  | fallback (name : Text) (kind : Fallback) (emptyToo : Bool) (word : List Part) (quoted : Bool)
  | trimmed (name : Text) (kind : Trimming) (pattern : List Part) (quoted : Bool)
  /-- What a command writes. -/
  | output (body : Command) (quoted : Bool)
  | arithmetic (word : List Part) (quoted : Bool)
  /-- Something between braces that means nothing. -/
  | invalid

inductive Command where
  | empty
  | simple (line : Nat) (assignments : List (Text × List Part)) (words : List (List Part))
      (redirections : List Redirection)
  | pipeline (stages : List Command)
  | negated (c : Command)
  | both (a b : Command)
  | either (a b : Command)
  | sequence (a b : Command)
  | background (c : Command)
  | subshell (line : Nat) (body : Command) (redirections : List Redirection)
  | redirected (line : Nat) (body : Command) (redirections : List Redirection)
  | conditional (test yes : Command) (no : Command)
  /-- Runs the body while the test succeeds, or until it does. -/
  | loop (inverted : Bool) (test body : Command)
  | each (line : Nat) (name : Text) (words : List (List Part)) (body : Command)
  | choice (line : Nat) (subject : List Part) (cases : List (List (List Part) × Command))
  | definition (name : Text) (body : Command)

inductive Redirection where
  | file (stream : Nat) (mode : OpenMode) (target : List Part)
  | duplicate (stream : Nat) (target : List Part)
  /-- The stream reads a text. -/
  | here (stream : Nat) (body : List Part)

end

abbrev Word := List Part

instance : Inhabited Command := ⟨.empty⟩

def isNameStart (c : Char) : Bool :=
  c.isAlpha || c == '_'

def isNameChar (c : Char) : Bool :=
  c.isAlphanum || c == '_'

def isName : Text → Bool
  | [] => false
  | c :: cs => isNameStart c && cs.all isNameChar

/-- The parameters that are named by one sign. -/
def isSpecial (c : Char) : Bool :=
  "@*#?-$!".toList.any (· == c) || c.isDigit

/-- The words that build commands. -/
def keywords : List String :=
  ["!", "case", "do", "done", "elif", "else", "esac", "fi", "for", "if", "in", "then", "until",
    "while", "\x7b", "\x7d"]

/-- Commands of the shell that end it when they go wrong. -/
def specialBuiltins : List String :=
  [".", ":", "break", "continue", "eval", "exec", "exit", "export", "readonly", "return", "set",
    "shift", "times", "trap", "unset"]

inductive Token where
  | endOfFile
  | newline
  | semicolon
  | ampersand
  | andAnd
  | orOr
  | bar
  | openParen
  | closeParen
  | endCase
  | redirection
  | word
  | keyword (k : String)
deriving DecidableEq, Repr

def Token.describe : Token → String
  | .endOfFile => "end of file"
  | .newline => "newline"
  | .semicolon => "\";\""
  | .ampersand => "\"&\""
  | .andAnd => "\"&&\""
  | .orOr => "\"||\""
  | .bar => "\"|\""
  | .openParen => "\"(\""
  | .closeParen => "\")\""
  | .endCase => "\";;\""
  | .redirection => "redirection"
  | .word => "word"
  | .keyword k => "\"" ++ k ++ "\""

/-- A list of commands ends in front of a token. -/
def Token.endsList : Token → Bool
  | .endOfFile | .closeParen | .endCase => true
  | .keyword k => ["do", "done", "elif", "else", "esac", "fi", "then", "\x7d"].contains k
  | _ => false

end Shell

end External

end SmartyLayout
