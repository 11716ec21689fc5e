import SmartyLayout.Text.Blank

/-!
# SmartyLayout.Data — values of settings files and messages

Settings come from files and from editors in different notations. Both are read into the same kind
of value, so that each setting has one reader.
-/

namespace SmartyLayout

/-- A value without a schema. Reals and dates are no setting's value, so their content is not
kept. A date counts as a table whose fields have names that no setting has. -/
inductive Data where
  | null
  | bool (b : Bool)
  | int (n : Int)
  | real
  /-- A real number that is too large for its kind. -/
  | overflow
  | date
  | text (t : Text)
  | list (xs : List Data)
  | table (fields : List (Text × Data))
deriving Inhabited, Repr

/-- Where a value comes from. -/
inductive Source where
  /-- A settings file. -/
  | file
  /-- A message. -/
  | message
deriving DecidableEq, Repr

/-- The value that says nothing: an empty table in a file, null in a message. -/
def Source.isEmpty : Source → Data → Bool
  | .file, .table [] => true
  | .message, .null => true
  | _, _ => false

namespace Data

/-- The value of a field; fields of other values than tables are absent. -/
def field? (d : Data) (key : String) : Option Data :=
  match d with
  | .table fields => (fields.find? (·.1 == key.toList)).map (·.2)
  | _ => none

def bool? : Data → Option Bool
  | .bool b => some b
  | _ => none

def text? : Data → Option Text
  | .text t => some t
  | _ => none

/-- A natural number of at most `bits` bits. -/
def word? (bits : Nat) : Data → Option Nat
  | .int n => if 0 ≤ n ∧ n < Nat.pow 2 bits then some n.toNat else none
  | _ => none

/-- A list of values that all satisfy the same reader. -/
def list? {α : Type} (read : Data → Option α) : Data → Option (List α)
  | .list xs => xs.mapM read
  | _ => none

/-- A word that names one of several choices. It may also be the one field of a table, with an empty
value. -/
def choice? (s : Source) : Data → Option Text
  | .text t => some t
  | .table [(key, v)] => if s.isEmpty v then some key else none
  | _ => none

mutual

/-- Every number in a value can be held: integers lie between `lo` and `hi`. -/
def fits (lo hi : Int) : Data → Bool
  | .int n => lo ≤ n && n ≤ hi
  | .overflow => false
  | .list xs => allFit lo hi xs
  | .table fields => fieldsFit lo hi fields
  | _ => true

/-- Every number in some values can be held. -/
def allFit (lo hi : Int) : List Data → Bool
  | [] => true
  | x :: xs => x.fits lo hi && allFit lo hi xs

/-- Every number in some fields can be held. -/
def fieldsFit (lo hi : Int) : List (Text × Data) → Bool
  | [] => true
  | (_, x) :: fields => x.fits lo hi && fieldsFit lo hi fields

end

/-- Every number in the fields with other keys than the given ones can be held. -/
def othersFit (d : Data) (lo hi : Int) (keys : List String) : Bool :=
  match d with
  | .table fields => fieldsFit lo hi (fields.filter fun f => !keys.any (·.toList == f.1))
  | _ => true

/-- A table, or a list of the values of the first of some keys. A longer list has the first values
read, unless the list has to be `exact`. -/
def record? (exact : Bool) (keys : List String) : Data → Option Data
  | .table fields => some (.table fields)
  | .date => some (.table [])
  | .list xs =>
    if exact ∧ keys.length < xs.length then none
    else some (.table ((keys.map String.toList).zip xs))
  | _ => none

/-- The value of a field as `read` takes it; an absent field has the given default. -/
def fieldOr {α : Type} (d : Data) (key : String) (default : α) (read : Data → Option α) :
    Option α :=
  match d.field? key with
  | none => some default
  | some v => read v

end Data

end SmartyLayout
