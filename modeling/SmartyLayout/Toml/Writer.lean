import SmartyLayout.Toml.Scalar

/-!
# SmartyLayout.Toml.Writer — writing settings files

A string is written in the plainest of the four notations that can hold it; a list of two or more
items takes one line per item.
-/

namespace SmartyLayout

namespace Toml

/-- The longest run of `q` in a text, given the length of the current run. -/
def longestRun (q : Char) : (run : Nat) → Text → Nat
  | run, [] => run
  | run, c :: cs => if c = q then longestRun q (run + 1) cs else max run (longestRun q 0 cs)

/-- What decides the notation of a string. -/
structure Metrics where
  backslash : Bool
  newline : Bool
  /-- A control character other than a line break or a tab occurs. -/
  control : Bool
  /-- Double quotes in a row, at most. -/
  doubles : Nat
  /-- Single quotes in a row, at most. -/
  singles : Nat

def Metrics.of (t : Text) : Metrics where
  backslash := t.any (· == '\\')
  newline := t.any (· == '\n')
  control := t.any fun c => (c.toNat < 0x20 && c != '\n' && c != '\t') || c.toNat == 0x7F
  doubles := longestRun '"' 0 t
  singles := longestRun '\x27' 0 t

/-- The four notations of a string. -/
inductive StringForm where
  | basic
  | literal
  | multiBasic
  | multiLiteral
deriving DecidableEq, Repr

/-- The notation of a string: the first that needs no escape, else a basic one. -/
def Metrics.form (m : Metrics) : StringForm :=
  if !m.control && !m.backslash && m.doubles = 0 && !m.newline then .basic
  else if !m.control && m.singles = 0 && !m.newline then .literal
  else if !m.control && !m.backslash && m.doubles ≤ 2 then .multiBasic
  else if !m.control && m.singles ≤ 2 then .multiLiteral
  else if m.newline then .multiBasic
  else .basic

/-- Four hexadecimal digits of a number. -/
def hex4 (n : Nat) : Text :=
  let digits := (Nat.toDigits 16 n).map Char.toUpper
  List.replicate (4 - digits.length) '0' ++ digits

/-- The characters of a basic string. Line breaks stand for themselves in a multi-line string, and
so do up to two quotes in a row. -/
def escaped (multi : Bool) : (run : Nat) → Text → Text
  | _, [] => []
  | run, c :: cs =>
    if c = '"' then
      if multi ∧ run < 2 then '"' :: escaped multi (run + 1) cs
      else '\\' :: '"' :: escaped multi 0 cs
    else
      (if c.toNat = 8 then ['\\', 'b']
        else if c = '\t' then ['\\', 't']
        else if c = '\n' then (if multi then ['\n'] else ['\\', 'n'])
        else if c.toNat = 12 then ['\\', 'f']
        else if c = '\r' then ['\\', 'r']
        else if c = '\\' then ['\\', '\\']
        else if c.toNat < 0x20 ∨ c.toNat = 0x7F then ['\\', 'u'] ++ hex4 c.toNat
        else [c]) ++ escaped multi 0 cs

/-- A string. A multi-line notation begins with a line break if the string holds one. -/
def string (t : Text) : Text :=
  let m := Metrics.of t
  let lead : Text := if m.newline then ['\n'] else []
  match m.form with
  | .basic => '"' :: escaped false 0 t ++ ['"']
  | .literal => '\x27' :: t ++ ['\x27']
  | .multiBasic => List.replicate 3 '"' ++ lead ++ escaped true 0 t ++ List.replicate 3 '"'
  | .multiLiteral => List.replicate 3 '\x27' ++ lead ++ t ++ List.replicate 3 '\x27'

def strings : List Text → Text
  | [] => ['[', ']']
  | [t] => '[' :: string t ++ [']']
  | ts => "[\n".toList ++ (ts.flatMap fun t => "    ".toList ++ string t ++ ",\n".toList) ++ [']']

def bool (b : Bool) : Text :=
  if b then "true".toList else "false".toList

def nat (n : Nat) : Text :=
  (toString n).toList

/-- A setting on a line of its own. -/
def setting (key : String) (value : Text) : Text :=
  key.toList ++ " = ".toList ++ value ++ ['\n']

end Toml

end SmartyLayout
