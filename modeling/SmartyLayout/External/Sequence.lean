import SmartyLayout.External.Printing
import SmartyLayout.External.Sorting.Order
import SmartyLayout.External.Utility

/-!
# SmartyLayout.External.Sequence — numbers in a row

A program that counts from one number to another. Numbers have 64 significant bits, and are written
with as many places as the first number and the step.
-/

namespace SmartyLayout

namespace External

namespace Sequence

open Decimal (Fraction Quantity Precision)

/-- A sum, with limited precision. -/
def add : Quantity → Quantity → Quantity
  | .finite m x, .finite n y =>
    let sign (negative : Bool) (k : Nat) : Int := if negative then -k else k
    let sum := sign m (x.numerator * y.denominator) + sign n (y.numerator * x.denominator)
    .ofFraction .extended (sum < 0) ⟨sum.natAbs, x.denominator * y.denominator⟩
  | .finite _ _, q => q
  | q, _ => q

/-- A multiple, with limited precision. -/
def times (k : Nat) : Quantity → Quantity
  | .finite m x => .ofFraction .extended m ⟨k * x.numerator, x.denominator⟩
  | q => q

def compared (a b : Quantity) : Ordering :=
  Order.quantities (some a) (some b)

def zero : Quantity := .finite false ⟨0, 1⟩

/-- An operand: its value, how wide it is when written plainly, and its places if they are known. -/
structure Operand where
  value : Quantity
  width : Int
  places : Option Nat

/-- What is wrong with an operand. -/
def notNumber (t : Text) : Text :=
  Raw.ofString "invalid floating point argument: " ++ Raw.quoted t

def Operand.parse (t : Text) : Except Text Operand := do
  let value ← match Decimal.quantity? .extended t with
    | some (q, []) => pure q
    | _ => throw (notNumber t)
  match value with
  | .undefined _ => throw (Raw.ofString "invalid 'not-a-number' argument: " ++ Raw.quoted t)
  | .infinite _ => pure ⟨value, 0, if t.any (· == '.') then none else some 0⟩
  | .finite _ _ =>
    let u := t.dropWhile fun c => Raw.isSpace c || c == '+'
    let pointed := u.any (· == '.')
    if u.any fun c => c == 'x' || c == 'X' then
      pure ⟨value, 0, if pointed || u.any (· == 'p') then none else some 0⟩
    else
      let isMark (c : Char) : Bool := c == 'e' || c == 'E'
      let body := u.takeWhile fun c => !isMark c
      let whole := body.takeWhile (· != '.')
      let fraction := body.drop (whole.length + 1)
      let places : Nat := fraction.length
      let marked := body.length < u.length
      let width : Int := u.length
      let width := if !pointed then width
        else if places = 0 then width - 1
        else if whole.getLast?.any Char.isDigit then width else width + 1
      if !marked then pure ⟨value, width, some places⟩
      else
        let e : Int := (Raw.int? (u.drop (body.length + 1))).getD 0
        let shown : Int := if e < 0 then (places : Int) - e else (places : Int) - min (places : Int) e
        let width := width - (u.length - body.length)
        let width := if e < 0 then
            (if pointed then (if places = 0 then width + 1 else width) else width + 1) + -e
          else
            (if pointed ∧ shown = 0 ∧ places ≠ 0 then width - 1 else width) + (e - min (places : Int) e)
        pure ⟨value, width, some shown.toNat⟩

/-- How numbers are written: a directive between two texts. -/
structure Format where
  front : Text := []
  directive : Directive
  behind : Text := []

def Format.write (f : Format) (q : Quantity) : Text :=
  f.front ++ writeQuantity .extended f.directive q ++ f.behind

/-- The text up to the first directive, and the text from it on; percent signs that stand for
themselves are written once. -/
def splitFormat : (fuel : Nat) → Text → Text × Text
  | 0, t => ([], t)
  | _, [] => ([], [])
  | fuel + 1, '%' :: '%' :: t =>
    let (a, b) := splitFormat fuel t
    ('%' :: a, b)
  | _, '%' :: t => ([], '%' :: t)
  | fuel + 1, c :: t =>
    let (a, b) := splitFormat fuel t
    (c :: a, b)

def Format.parse (t : Text) : Except Text Format := do
  let wrong (what : Text) : Text := Raw.ofString "format " ++ Raw.quoted t ++ what
  let (front, rest) := splitFormat t.length t
  match rest with
  | [] => throw (wrong (Raw.ofString " has no % directive"))
  | _ :: rest =>
    let flags := rest.takeWhile fun c => "-+#0 '".toList.any (· == c)
    let rest := rest.drop flags.length
    let width := rest.takeWhile Char.isDigit
    let rest := rest.drop width.length
    let dotted := rest.head? = some '.'
    let precision := if dotted then rest.tail.takeWhile Char.isDigit else []
    let rest := if dotted then rest.drop (precision.length + 1) else rest
    let rest := if rest.head? = some 'L' then rest.tail else rest
    match rest with
    | [] => throw (wrong (Raw.ofString " ends in %"))
    | kind :: rest =>
      if !"efgaEFGA".toList.any (· == kind) then
        throw (wrong (Raw.ofString " has unknown %" ++ kind :: Raw.ofString " directive"))
      let (behind, more) := splitFormat rest.length rest
      if !more.isEmpty then throw (wrong (Raw.ofString " has too many % directives"))
      pure
        { front, behind
          directive :=
            { flags, kind, width := if width.isEmpty then none else some (Raw.digits 10 width)
              precision := if dotted then some (Raw.digits 10 precision) else none } }

/-- The format of numbers if none is given. -/
def Format.usual (equalWidth : Bool) (first step last : Operand) : Format :=
  match first.places, step.places, last.places with
  | some p, some q, some r =>
    let places := max p q
    let directive : Directive := { kind := 'f', precision := some places }
    if equalWidth then
      let firstWidth := first.width + ((places : Int) - p) + (if p = 0 ∧ places ≠ 0 then 1 else 0)
      let lastWidth := last.width + ((places : Int) - r) +
        (if r ≠ 0 ∧ places = 0 then -1 else if r = 0 ∧ places ≠ 0 then 1 else 0)
      let width := (max firstWidth lastWidth).toNat
      { directive := { directive with flags := ['0'], width := some width } }
    else { directive }
  | _, _, _ => { directive := { kind := 'g' } }

def isBeyond (down : Bool) (x last : Quantity) : Bool :=
  compared x last == if down then .lt else .gt

/-- Numbers from one on. A number just beyond the last one that is written like it still counts. -/
def numbers (f : Format) (down : Bool) (first step last : Quantity) :
    (fuel count : Nat) → (before : Quantity) → List Text
  | 0, _, _ => []
  | fuel + 1, count, before =>
    let x := add first (times count step)
    if isBeyond down x last then
      let plain : Format := { f with front := [], behind := [] }
      let shown := plain.write x
      let same := match Decimal.quantity? .extended shown with
        | some (q, _) => compared q last == .eq
        | none => false
      if same && shown ≠ plain.write before then [f.write x] else []
    else f.write x :: numbers f down first step last fuel (count + 1) x

/-- No more numbers are written than a reader takes. -/
def mostNumbers : Nat := 3000000

/-- Writes numbers in a row. -/
def written (f : Format) (mark : Text) (first step last : Quantity) : Text :=
  let down := compared step zero == .lt
  if isBeyond down first last then []
  else
    let count : Nat := match first, step, last with
      | .finite m x, .finite _ y, .finite n z =>
        let sign (negative : Bool) (k : Nat) : Int := if negative then -k else k
        let span := sign n (z.numerator * x.denominator) - sign m (x.numerator * z.denominator)
        span.natAbs * y.denominator / (y.numerator * x.denominator * z.denominator) + 3
      | _, _, _ => 100000
    let texts := f.write first :: numbers f down first step last (min count mostNumbers) 1 first
    List.intercalate mark texts ++ ['\n']

end Sequence

open Sequence in
def seq : Utility :=
  withArguments { plain := "w", valued := "sf", permuted := false, endsAtNumber := true
                  long := [("separator", 's', true), ("equal-width", 'w', false),
                    ("format", 'f', true)] } 1 fun c a =>
    let format := match a.value? 'f' with
      | some t => (Format.parse t).map some
      | none => .ok none
    match a.operands, format with
    | [], _ => c.misused (Raw.ofString "missing operand") 1
    | _ :: _ :: _ :: t :: _, _ => c.misused (Raw.ofString "extra operand " ++ Raw.quoted t) 1
    | _, .error message => c.fails message 1
    | operands, .ok format =>
      if format.isSome ∧ a.has 'w' then
        c.misused (Raw.ofString
          "format string may not be specified when printing equal width strings") 1
      else
        let one : Operand := ⟨.finite false ⟨1, 1⟩, 1, some 0⟩
        match operands.mapM Operand.parse with
        | .error message => c.misused message 1
        | .ok os =>
          let (first, step, last) := match os with
            | [last] => (one, one, last)
            | [first, last] => (first, one, last)
            | [first, step, last] => (first, step, last)
            | _ => (one, one, one)
          if compared step.value zero == .eq then
            c.misused (Raw.ofString "invalid Zero increment value: " ++
              Raw.quoted (operands[1]?.getD [])) 1
          else
            let f := format.getD (.usual (a.has 'w') first step last)
            { stdout := written f ((a.value? 's').getD ['\n']) first.value step.value last.value
              left := c.input }

end External

end SmartyLayout
