import SmartyLayout.External.Decimal

/-!
# SmartyLayout.External.Sorting.Order — orders of texts

Ways in which programs compare two texts: by their bytes, by the number in front of them, by the
month they name, and as versions, where digits count as numbers and endings come last.
-/

namespace SmartyLayout

namespace External

/-- A blank inside a line. -/
def isGap (c : Char) : Bool :=
  c == ' ' || c == '\t'

/-- A blank between the fields of a record. -/
def isFieldGap (c : Char) : Bool :=
  isGap c || c == '\n'

namespace Order

def bytes (a b : Text) : Ordering :=
  compare (a.map Char.toNat) (b.map Char.toNat)

/-! ## Numbers -/

/-- The number at the front of a text: a whole number of units, each a power of ten. -/
structure PlainNumber where
  units : Int
  places : Nat

/-- The number at the front of a text without exponent; no digits are zero. -/
def plainNumber (t : Text) : PlainNumber :=
  let (negative, t) := match t with
    | '-' :: cs => (true, cs)
    | cs => (false, cs)
  let whole := t.takeWhile Char.isDigit
  let rest := t.drop whole.length
  let places := if rest.head? = some '.' then rest.tail.takeWhile Char.isDigit else []
  let n : Int := Raw.digits 10 (whole ++ places)
  ⟨if negative then -n else n, places.length⟩

def PlainNumber.compare (a b : PlainNumber) : Ordering :=
  Ord.compare (a.units * Nat.pow 10 b.places) (b.units * Nat.pow 10 a.places)

def numeric (a b : Text) : Ordering :=
  (plainNumber (a.dropWhile isFieldGap)).compare (plainNumber (b.dropWhile isFieldGap))

/-- The power of a thousand that the letter behind a number stands for, with the number's sign. -/
def magnitude (t : Text) : Int :=
  let (negative, t) := match t with
    | '-' :: cs => (true, cs)
    | cs => (false, cs)
  let whole := t.takeWhile Char.isDigit
  let rest := t.drop whole.length
  let places := if rest.head? = some '.' then rest.tail.takeWhile Char.isDigit else []
  let rest := if rest.head? = some '.' then rest.drop (places.length + 1) else rest
  let letters : Text := "KMGTPEZYRQ".toList
  let order : Int := match rest with
    | 'k' :: _ => 1
    | c :: _ => if letters.any (· == c) then letters.idxOf c + 1 else 0
    | [] => 0
  if (whole ++ places).all (· == '0') then 0 else if negative then -order else order

/-- Compares texts by numbers with a letter for their magnitude. -/
def human (a b : Text) : Ordering :=
  let a := a.dropWhile isFieldGap
  let b := b.dropWhile isFieldGap
  (compare (magnitude a) (magnitude b)).then ((plainNumber a).compare (plainNumber b))

/-- The place of a number among all: texts without one come first, then what is no number. -/
def quantityRank : Option Decimal.Quantity → Nat
  | none => 0
  | some (.undefined _) => 1
  | some (.infinite true) => 2
  | some (.finite _ _) => 3
  | some (.infinite false) => 4

/-- Compares two numbers in any notation. -/
def quantities (a b : Option Decimal.Quantity) : Ordering :=
  match a, b with
  | some (.finite m x), some (.finite n y) =>
    let sign (negative : Bool) (k : Nat) : Int := if negative then -k else k
    compare (sign m (x.numerator * y.denominator)) (sign n (y.numerator * x.denominator))
  | a, b => compare (quantityRank a) (quantityRank b)

/-- Compares texts by numbers in any notation. -/
def general (a b : Text) : Ordering :=
  let number (t : Text) : Option Decimal.Quantity :=
    (Decimal.quantity? .extended t).map (·.1)
  quantities (number a) (number b)

/-! ## Months -/

def monthNames : List String :=
  ["JAN", "FEB", "MAR", "APR", "MAY", "JUN", "JUL", "AUG", "SEP", "OCT", "NOV", "DEC"]

/-- The number of the month that a text begins with; 0 for none. -/
def monthNumber (t : Text) : Nat :=
  let t := (t.dropWhile isFieldGap).map Char.toUpper
  match monthNames.findIdx? fun m => Text.startsWith m.toList t with
  | some n => n + 1
  | none => 0

def months (a b : Text) : Ordering :=
  compare (monthNumber a) (monthNumber b)

/-! ## Versions -/

/-- The place of a character in versions: a tilde comes before the end, which comes before digits,
letters and all else. -/
def versionRank : Option Char → Int
  | none => -1
  | some c =>
    if c.isDigit then 0
    else if c.isAlpha then c.toNat
    else if c = '~' then -2
    else c.toNat + 256

def beginsOther (t : Text) : Bool :=
  t.head?.any fun c => !c.isDigit

/-- Compares texts by stretches of digits, as numbers, and of other characters, in turn. -/
def versionParts : (fuel : Nat) → Text → Text → Ordering
  | 0, _, _ => .eq
  | fuel + 1, a, b =>
    if a.isEmpty ∧ b.isEmpty then .eq
    else if beginsOther a ∨ beginsOther b then
      let x := versionRank a.head?
      let y := versionRank b.head?
      if x = y then versionParts fuel a.tail b.tail else compare x y
    else
      let x := a.takeWhile Char.isDigit
      let y := b.takeWhile Char.isDigit
      (compare (Raw.digits 10 x) (Raw.digits 10 y)).then
        (versionParts fuel (a.drop x.length) (b.drop y.length))

/-- Drops endings, each a point and a letter or tilde with letters, digits and tildes behind it. -/
def dropEndings : (fuel : Nat) → Text → Text
  | 0, t => t
  | fuel + 1, '.' :: c :: t =>
    if c.isAlpha ∨ c = '~' then dropEndings fuel (t.dropWhile fun c => c.isAlphanum || c == '~')
    else '.' :: c :: t
  | _, t => t

/-- The length of a file name without the endings at its end. -/
def stemLength : (fuel place : Nat) → Text → Nat
  | 0, place, _ => place
  | _, place, [] => place
  | fuel + 1, place, _ :: t =>
    let rest := dropEndings t.length t
    if rest.isEmpty then place + 1
    else stemLength fuel (place + 1 + (t.length - rest.length)) rest

/-- How far a name is hidden: the directory, the one above, and other names behind a point come
first. -/
def hiddenRank (t : Text) : Nat :=
  if t.isEmpty then 0
  else if t = ['.'] then 1
  else if t = ['.', '.'] then 2
  else if t.head? = some '.' then 3
  else 4

/-- Compares file names as versions: first without their endings. -/
def versions (a b : Text) : Ordering :=
  let fuel := a.length + b.length + 1
  let stem (t : Text) : Text := t.take (stemLength t.length 0 t)
  match compare (hiddenRank a) (hiddenRank b) with
  | .eq => (versionParts fuel (stem a) (stem b)).then (versionParts fuel a b)
  | o => o

end Order

end External

end SmartyLayout
