import SmartyLayout.External.Printing
import SmartyLayout.External.RecordScript.Grammar

/-!
# SmartyLayout.External.RecordScript.Number — numbers and their texts

Numbers are binary fractions of 53 bits. A text counts as the number at its front.
-/

namespace SmartyLayout

namespace External

namespace RecordScript

/-- A number as a sign and a fraction. The number must be finite. -/
def fractionOf (x : Float) : Bool × Decimal.Fraction :=
  let bits := x.toBits.toNat
  let mantissa := bits % Nat.pow 2 52
  let exponent := bits / Nat.pow 2 52 % 2048
  let (m, e) : Nat × Int := if exponent = 0 then (mantissa, -1074)
    else (mantissa + Nat.pow 2 52, (exponent : Int) - 1075)
  (bits / Nat.pow 2 63 = 1, (Decimal.Fraction.mk m 1).scaled 2 e)

def wholePart (x : Float) : Int :=
  let (negative, f) := fractionOf x
  let n : Int := (f.numerator / f.denominator : Nat)
  if negative then -n else n

/-- A whole number as a binary fraction. -/
def ofInt (n : Int) : Float :=
  if n < 0 then -Float.ofNat n.natAbs else Float.ofNat n.natAbs

/-- A finite number has no places behind the point. -/
def isWhole (x : Float) : Bool :=
  x.isFinite && (let (_, f) := fractionOf x; f.numerator % f.denominator == 0)

def ofNumeral (n : Decimal.Numeral) : Float :=
  let x := Float.ofScientific n.digits (n.exponent < 0) n.exponent.natAbs
  if n.negative then -x else x

/-- A text without the blanks in front and its sign. -/
def unsigned (t : Text) : Bool × Text :=
  match t.dropWhile Raw.isSpace with
  | '-' :: cs => (true, cs)
  | '+' :: cs => (false, cs)
  | cs => (false, cs)

/-- The number at the front of a text, 0 if there is none. Hexadecimal digits and the names of what
is not finite are understood as well. -/
def leadingNumber (t : Text) : Float :=
  let (negative, rest) := unsigned t
  let signed (x : Float) : Float := if negative then -x else x
  let begins (s : String) : Bool := Text.startsWith s.toList (rest.map Char.toLower)
  match rest with
  | '0' :: x :: c :: cs =>
    if (x = 'x' ∨ x = 'X') ∧ isHex c then
      signed (Float.ofNat (Raw.digits 16 ((c :: cs).takeWhile isHex)))
    else decimal
  | _ =>
    if begins "inf" then signed (1.0 / 0.0)
    else if begins "nan" then 0.0 / 0.0
    else decimal
where
  /-- The decimal number at the front. -/
  decimal : Float :=
    match Decimal.numeral? t with
    | some (n, _) => ofNumeral n
    | none => 0

/-- The number that a whole text is, with blanks around it. -/
def numeralValue? (t : Text) : Option Float :=
  match Decimal.numeral? t with
  | some (n, rest) => if rest.all Raw.isSpace then some (ofNumeral n) else none
  | none => none

def unusualText (x : Float) : Text :=
  if x.isNaN then "-nan".toList else if x < 0 then "-inf".toList else "inf".toList

/-- The whole number that a directive for whole numbers writes: what is too large is cut. -/
def directiveInt (x : Float) : Int :=
  if x.isNaN then -9223372036854775808
  else if x ≥ 18446744073709551616.0 then 18446744073709551615
  else if x ≤ -9223372036854775808.0 then -9223372036854775807
  else wholePart x

def writeFloat (d : Directive) (x : Float) : Text :=
  match d.kind with
  | 'f' | 'F' | 'e' | 'E' | 'g' | 'G' =>
    if x.isFinite then
      let (negative, f) := fractionOf x
      writeQuantity .double d (.finite negative f)
    else inField d (unusualText x)
  | _ => writeNumber d (directiveInt x)

/-- The pieces of a format without escapes; `skip` counts the characters already read. -/
def directivePieces : (skip : Nat) → Text → List FormatPiece
  | _, [] => []
  | skip + 1, _ :: cs => directivePieces skip cs
  | 0, c :: cs =>
    if c = '%' then
      match readDirective cs with
      | some (d, used) =>
        if d.kind = '%' then .char '%' :: directivePieces used cs
        else if "scdiuoxXfFeEgG".toList.any (· == d.kind) then
          .directive d :: directivePieces used cs
        else .unknown ('%' :: cs.take used) :: directivePieces used cs
      | none => [.unknown ('%' :: cs)]
    else .char c :: directivePieces 0 cs

/-- The text of a number: whole numbers have all their digits, others are written by a format. -/
def numberText (format : Text) (x : Float) : Text :=
  if isWhole x ∧ -9223372036854775808.0 ≤ x ∧ x ≤ 18446744073709551616.0 then
    Raw.ofInt (min (wholePart x) 18446744073709551615)
  else
    (directivePieces 0 format).flatMap fun p =>
      match p with
      | .char c => [c]
      | .directive d => writeFloat d x
      | .unknown t => t
      | .stop => []

/-- The remainder of a division towards zero. -/
def remainderOf (x y : Float) : Float :=
  if !x.isFinite || y.isNaN || y == 0 then 0.0 / 0.0
  else if !y.isFinite then x
  else
    let (negative, f) := fractionOf x
    let (_, g) := fractionOf y
    let n := f.numerator * g.denominator
    let d := g.numerator * f.denominator
    let r : Decimal.Fraction := ⟨n % d, f.denominator * g.denominator⟩
    let size := Float.ofNat r.numerator / Float.ofNat r.denominator
    if negative then -size else size

/-- What an operator makes of two numbers. -/
def Operator.apply (op : Operator) (x y : Float) : Float :=
  match op with
  | .add => x + y
  | .subtract => x - y
  | .multiply => x * y
  | .divide => x / y
  | .remainder => remainderOf x y
  | .power => Float.pow x y

end RecordScript

end External

end SmartyLayout
