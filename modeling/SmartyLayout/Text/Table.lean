import SmartyLayout.Text.Blank

/-!
# SmartyLayout.Text.Table — tables of characters

Properties of characters outside ASCII are kept in tables. A table is written as a text: rows of
hexadecimal numbers with blanks between the numbers and commas between the rows.
-/

namespace SmartyLayout

namespace Table

/-- The value of a hexadecimal digit in upper case. -/
def digit? (c : Char) : Option Nat :=
  if '0' ≤ c ∧ c ≤ '9' then some (c.toNat - '0'.toNat)
  else if 'A' ≤ c ∧ c ≤ 'F' then some (c.toNat - 'A'.toNat + 10)
  else none

/-- A table that is being read, latest first: the rows, the open row, and the open number. -/
structure Reader where
  rows : List (List Nat) := []
  row : List Nat := []
  number : Option Nat := none

def Reader.closeNumber (r : Reader) : Reader :=
  match r.number with
  | none => r
  | some n => { r with row := n :: r.row, number := none }

def Reader.closeRow (r : Reader) : Reader :=
  let r := r.closeNumber
  { r with rows := r.row.reverse :: r.rows, row := [] }

def Reader.push (r : Reader) (c : Char) : Reader :=
  match digit? c with
  | some d => { r with number := some (r.number.getD 0 * 16 + d) }
  | none => if c = ',' then r.closeRow else r.closeNumber

def rows (t : String) : List (List Nat) :=
  (t.toList.foldl Reader.push {}).closeRow.rows.reverse

/-- Puts first numbers that count up in front of rows. An empty row is left out, and the row behind it
has its own first number. -/
def numbered : Option Nat → List (List Nat) → List (List Nat)
  | _, [] => []
  | _, [] :: rows => numbered none rows
  | none, (n :: row) :: rows => (n :: row) :: numbered (some (n + 1)) rows
  | some n, row :: rows => (n :: row) :: numbered (some (n + 1)) rows

/-- The rows of a table in which the first number of a row is left out if it is the number after that
of the row before it. Rows that do not count up have an empty one between them. -/
def countedRows (t : String) : List (List Nat) :=
  numbered none (rows t)

/-- The ranges of a table; a row with one number is a range of one character. -/
def ranges (t : String) : List (Nat × Nat) :=
  (rows t).filterMap fun
    | [n] => some (n, n)
    | [first, last] => some (first, last)
    | _ => none

/-- A number lies in one of some ranges. -/
def covers (rs : List (Nat × Nat)) (n : Nat) : Bool :=
  rs.any fun (first, last) => first ≤ n && n ≤ last

end Table

end SmartyLayout
