import SmartyLayout.External.RecordScript.Number
import Std.Data.HashMap

/-!
# SmartyLayout.External.RecordScript.Table — values and tables

A table gives values to keys. Its keys are scattered over lists by a hash, and a walk through the
table goes through these lists one after the other. New keys come first in their list, and so does a
key that has been looked up. Keys that are whole numbers have lists of their own, so that they need
no text before the table is asked for one.
-/

namespace SmartyLayout

namespace External

namespace RecordScript

inductive Value where
  | unset
  | number (x : Float)
  | text (t : Text)
  /-- A text of the input that looks like a number. -/
  | numeric (t : Text) (x : Float)
deriving Inhabited

namespace Value

def ofInput (t : Text) : Value :=
  match numeralValue? t with
  | some x => .numeric t x
  | none => .text t

def toNumber : Value → Float
  | .unset => 0
  | .number x => x
  | .text t => leadingNumber t
  | .numeric _ x => x

/-- The text of a value; numbers that are not whole are written by a format. -/
def toText (format : Text) : Value → Text
  | .unset => []
  | .number x => numberText format x
  | .text t => t
  | .numeric t _ => t

def holds : Value → Bool
  | .unset => false
  | .number x => x != 0
  | .text t => !t.isEmpty
  | .numeric _ x => x != 0

def ofBool (b : Bool) : Value :=
  .number (if b then 1 else 0)

def isNumeric : Value → Bool
  | .text _ => false
  | _ => true

end Value

/-- What two values are to one another, as numbers if both can be, and as texts otherwise. -/
def Relation.decides (r : Relation) (format : Text) (a b : Value) : Bool :=
  if a.isNumeric && b.isNumeric then
    let x := a.toNumber
    let y := b.toNumber
    match r with
    | .less => x < y
    | .lessEqual => x ≤ y
    | .equal => x == y
    | .unequal => x != y
    | .greater => x > y
    | .greaterEqual => x ≥ y
  else
    let s := a.toText format
    let t := b.toText format
    match r with
    | .less => Raw.before s t
    | .lessEqual => !Raw.before t s
    | .equal => s == t
    | .unequal => s != t
    | .greater => Raw.before t s
    | .greaterEqual => !Raw.before s t

inductive Key where
  | int (n : Int)
  | text (t : Text)
deriving DecidableEq, Repr

def Key.spelling : Key → Text
  | .int n => Raw.ofInt n
  | .text t => t

def Value.toKey (format : Text) (v : Value) : Key :=
  match v with
  | .number x => if isWhole x ∧ Float.abs x < 9.0e18 then .int (wholePart x)
    else .text (numberText format x)
  | v => .text (v.toText format)

/-- Values by text, with a fixed hash. -/
abbrev TextMap (α : Type) : Type :=
  @Std.HashMap Text α List.instBEq (@instHashableList Char instHashableChar)

structure Table where
  cells : TextMap Value := {}
  /-- The lists of whole numbers. -/
  ints : Array (List Int) := Array.replicate 64 []
  /-- The lists of texts. -/
  texts : Array (List Text) := Array.replicate 64 []
  /-- All keys stand in the lists of texts. -/
  spelled : Bool := false
  /-- The table has been filled with the parts of a text and still has only these. -/
  parts : Option Nat := none

namespace Table

def hash (t : Text) : Nat :=
  t.foldl (fun h c => (h ^^^ c.toNat) * 16777619 % Nat.pow 2 32) 2166136261

def intList (t : Table) (n : Int) : Nat :=
  (n % t.ints.size).toNat

def textList (t : Table) (s : Text) : Nat :=
  hash s % t.texts.size

def bringText (t : Table) (s : Text) : Table :=
  { t with texts := t.texts.modify (t.textList s) fun l => s :: l.erase s }

/-- Puts a whole number first in its list. -/
def bringInt (t : Table) (n : Int) : Table :=
  { t with ints := t.ints.modify (t.intList n) fun l => n :: l.erase n }

/-- A table with parts becomes one with lists. -/
def withLists (t : Table) : Table :=
  match t.parts with
  | none => t
  | some n =>
    (List.range n).foldl (fun (t : Table) (k : Nat) => t.bringInt ((k : Int) + 1))
      { t with parts := none }

/-- All keys get a text. -/
def withTexts (t : Table) : Table :=
  let t := t.withLists
  if t.spelled then t
  else
    { t.ints.foldl (fun (t : Table) ns => ns.foldl (fun t n => t.bringText (Raw.ofInt n)) t) t with
      spelled := true }

/-- Twice as many lists. -/
def doubled (t : Table) : Table :=
  let size := 2 * t.texts.size
  let half {α : Type} (list : α → Nat) (lists : Array (List α)) : Array (List α) :=
    lists.mapIdx (fun i l => l.filter fun x => list x % size == i) ++
      lists.mapIdx fun i l => l.filter fun x => list x % size != i
  { t with
    ints := half (fun n => (n % size).toNat) t.ints
    texts := half hash t.texts }

/-- Twice as many lists if there are too many keys. -/
def grown (t : Table) : Table :=
  if 12 * t.texts.size < t.cells.size + 1 then t.doubled else t

/-- Looks a text up among the keys. -/
def findText (t : Table) (s : Text) (create : Bool) : Table :=
  let t := t.withTexts
  if t.cells.contains s then t.bringText s
  else if create then
    let t := t.grown
    { t.bringText s with cells := t.cells.insert s .unset }
  else t

/-- Looks a whole number up among the keys. -/
def findInt (t : Table) (n : Int) (create : Bool) : Table :=
  if (t.ints[t.intList n]?.getD []).contains n then t.bringInt n
  else if t.spelled then
    let t := t.findText (Raw.ofInt n) create
    if t.cells.contains (Raw.ofInt n) then t.bringInt n else t
  else if create then
    let t := t.grown
    { t.bringInt n with cells := t.cells.insert (Raw.ofInt n) .unset }
  else t

/-- Looks a key up, and makes it one of the table if that is wanted. -/
def find (t : Table) (k : Key) (create : Bool) : Table :=
  if t.cells.isEmpty && !create then t
  else
    match k with
    | .text s => t.findText s create
    | .int n =>
      match t.parts with
      | some m => if 1 ≤ n ∧ n ≤ m then t else t.withLists.findInt n create
      | none => t.findInt n create

def has (t : Table) (k : Key) : Bool :=
  t.cells.contains k.spelling

def get (t : Table) (k : Key) : Value :=
  (t.cells[k.spelling]?).getD .unset

def put (t : Table) (k : Key) (v : Value) : Table :=
  { t with cells := t.cells.insert k.spelling v }

def remove (t : Table) (k : Key) : Table :=
  if !t.has k then t
  else
    let t := t.withLists.find k false
    let s := k.spelling
    let cells := t.cells.erase s
    if cells.isEmpty then {}
    else
      let ints := match Raw.int? s with
        | some n => t.ints.modify (t.intList n) (·.erase n)
        | none => t.ints
      { t with cells, ints, texts := t.texts.modify (t.textList s) (·.erase s) }

def ofParts (ps : List Text) : Table :=
  { cells := ps.zipIdx.foldl (fun m (p, i) => m.insert (Raw.ofNat (i + 1)) (.ofInput p)) {}
    parts := some ps.length }

def keys (t : Table) : List Text :=
  t.texts.toList.flatten

end Table

end RecordScript

end External

end SmartyLayout
