import SmartyLayout.External.Regex

/-!
# SmartyLayout.External.RecordScript.Grammar — programs that work on records

A program is a list of rules. Each input record is given to every rule; where the pattern of the
rule accepts it the action is run. Actions are statements over numbers, texts and tables.
-/

namespace SmartyLayout

namespace External

namespace RecordScript

inductive Operator where
  | add
  | subtract
  | multiply
  | divide
  | remainder
  | power
deriving DecidableEq, Repr

/-- How two values are compared. -/
inductive Relation where
  | less
  | lessEqual
  | equal
  | unequal
  | greater
  | greaterEqual
deriving DecidableEq, Repr

inductive Expr where
  | number (x : Float)
  | text (t : Text)
  /-- Asks whether the record has a match, where no text is given. -/
  | regex (r : Regex)
  | name (n : Text)
  | element (table : Text) (index : List Expr)
  | field (e : Expr)
  /-- A new value for a variable, an element or a field. -/
  | assign (op : Option Operator) (target value : Expr)
  /-- One more or one less; `before` says that the new value counts. -/
  | step (before : Bool) (amount : Float) (target : Expr)
  | conditional (test yes no : Expr)
  | both (a b : Expr)
  | either (a b : Expr)
  | negation (e : Expr)
  | opposite (e : Expr)
  | numeric (e : Expr)
  | arithmetic (op : Operator) (a b : Expr)
  | joined (a b : Expr)
  | compared (r : Relation) (a b : Expr)
  | matched (wanted : Bool) (subject pattern : Expr)
  | isElement (index : List Expr) (table : Text)
  /-- An expression in parentheses. -/
  | grouped (e : Expr)
  | call (function : Text) (args : List Expr)
  /-- A function that every program has. -/
  | builtin (function : String) (args : List Expr)
  /-- The next record of the input goes to a target, or becomes the record. -/
  | nextRecord (target : Option Expr)
  | fileRecord (file : Expr) (target : Option Expr)
  | commandRecord (command : Expr) (target : Option Expr)

inductive Destination where
  | standard
  | file (name : Expr)
  | append (name : Expr)
  | command (line : Expr)

inductive Statement where
  | expression (e : Expr)
  | print (args : List Expr) (dest : Destination)
  | printf (args : List Expr) (dest : Destination)
  | block (body : List Statement)
  | branch (test : Expr) (yes : Statement) (no : Option Statement)
  | repeatWhile (test : Expr) (body : Statement)
  | doWhile (body : Statement) (test : Expr)
  | loop (first : Option Statement) (test : Option Expr) (next : Option Statement)
      (body : Statement)
  | forEach (name table : Text) (body : Statement)
  | skipRecord
  | skipFile
  | finish (status : Option Expr)
  | giveBack (value : Option Expr)
  | leaveLoop
  | nextRound
  | delete (table : Text) (index : Option (List Expr))

inductive Pattern where
  | atStart
  | atEnd
  | always
  | test (e : Expr)
  /-- From one record up to another. -/
  | between (first last : Expr)

/-- A rule. Without an action the record is printed. -/
structure Rule where
  pattern : Pattern
  action : Option (List Statement)

structure Function where
  name : Text
  parameters : List Text
  body : List Statement

structure Program where
  rules : List Rule := []
  functions : List Function := []

/-- Something that a value can be given to. -/
def Expr.isTarget : Expr → Bool
  | .name _ | .element _ _ | .field _ => true
  | _ => false

end RecordScript

end External

end SmartyLayout
