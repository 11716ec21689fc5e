import SmartyLayout.External.Raw

/-!
# SmartyLayout.External.Decimal — printing fractions

A decimal fraction is first brought to the nearest binary one, with as many bits as the program's
numbers have. What is printed is that number, rounded exactly; a half goes to the even neighbour.
-/

namespace SmartyLayout

namespace External

namespace Decimal

structure Fraction where
  numerator : Nat
  denominator : Nat

/-- A quotient rounded to the nearest whole number, a half to the even one. -/
def roundedQuotient (n d : Nat) : Nat :=
  let q := n / d
  let twice := 2 * (n % d)
  if twice < d then q else if d < twice then q + 1 else if q % 2 = 0 then q else q + 1

/-- A fraction times a power of a base. -/
def Fraction.scaled (f : Fraction) (base : Nat) (e : Int) : Fraction :=
  if 0 ≤ e then ⟨f.numerator * Nat.pow base e.toNat, f.denominator⟩
  else ⟨f.numerator, f.denominator * Nat.pow base (-e).toNat⟩

/-- The nearest fraction with so many significant bits. -/
def Fraction.nearest (bits : Nat) (f : Fraction) : Fraction :=
  if f.numerator = 0 then f
  else
    let size : Int := (Nat.log2 f.numerator : Int) - (Nat.log2 f.denominator : Int)
    let g := f.scaled 2 (bits - size)
    let (h, e) := if g.numerator / g.denominator < Nat.pow 2 bits then (g, size - bits)
      else (f.scaled 2 (bits - 1 - size), size + 1 - bits)
    (Fraction.mk (roundedQuotient h.numerator h.denominator) 1).scaled 2 e

/-- The digits of a number with so many places. -/
def fixed (places : Nat) (f : Fraction) : Text :=
  let n := roundedQuotient (f.numerator * Nat.pow 10 places) f.denominator
  let ds := Raw.padLeft '0' (places + 1) (Raw.ofNat n)
  let whole := ds.take (ds.length - places)
  if places = 0 then whole else whole ++ '.' :: ds.drop (ds.length - places)

/-- The power of ten at or under a fraction that is not zero; `guess` is not far above it. -/
def exponentFrom (f : Fraction) : (fuel : Nat) → (guess : Int) → Int
  | 0, guess => guess
  | fuel + 1, guess =>
    let g := f.scaled 10 (-guess)
    if g.denominator ≤ g.numerator then guess else exponentFrom f fuel (guess - 1)

/-- The digits of a number with so many behind the first, and the power of ten of the first. -/
def significant (behind : Nat) (f : Fraction) : Text × Int :=
  if f.numerator = 0 then (List.replicate (behind + 1) '0', 0)
  else
    let guess : Int := ((Raw.ofNat f.numerator).length : Int) - (Raw.ofNat f.denominator).length + 1
    let e := exponentFrom f 4 guess
    let g := f.scaled 10 ((behind : Int) - e)
    let ds := Raw.ofNat (roundedQuotient g.numerator g.denominator)
    if behind + 1 < ds.length then (ds.take (behind + 1), e + 1) else (ds, e)

/-- A power of ten behind a number. -/
def exponentMark (mark : Char) (e : Int) : Text :=
  mark :: (if e < 0 then '-' else '+') :: Raw.padLeft '0' 2 (Raw.ofNat e.natAbs)

/-- A number with one digit in front of the point. -/
def scientific (mark : Char) (places : Nat) (f : Fraction) : Text :=
  let (ds, e) := significant places f
  ds.take 1 ++ (if places = 0 then [] else '.' :: ds.drop 1) ++ exponentMark mark e

/-- A number without zeros at its end, and without a point there. -/
def withoutZeros (t : Text) : Text :=
  if t.any (· == '.') then
    let u := (t.reverse.dropWhile (· == '0')).reverse
    if u.getLast? = some '.' then u.dropLast else u
  else t

/-- A number with so many significant digits, in the shorter of both forms; zeros at the end may be
kept. -/
def general (mark : Char) (keepsZeros : Bool) (precision : Nat) (f : Fraction) : Text :=
  let p := max 1 precision
  let (ds, e) := significant (p - 1) f
  let trimmed (t : Text) : Text := if keepsZeros then t else withoutZeros t
  if -4 ≤ e ∧ e < p then trimmed (fixed ((p : Int) - 1 - e).toNat f)
  else trimmed (ds.take 1 ++ '.' :: ds.drop 1) ++ exponentMark mark e

/-- A decimal number as it is written: digits and a power of ten. -/
structure Numeral where
  negative : Bool
  digits : Nat
  exponent : Int

/-- A decimal number at the front of a text, and the text behind it. -/
def numeral? (t : Text) : Option (Numeral × Text) :=
  let t := t.dropWhile Raw.isSpace
  let (negative, t) := match t with
    | '-' :: cs => (true, cs)
    | '+' :: cs => (false, cs)
    | cs => (false, cs)
  let whole := t.takeWhile Char.isDigit
  let rest := t.drop whole.length
  let places := if rest.head? = some '.' then rest.tail.takeWhile Char.isDigit else []
  if whole.isEmpty ∧ places.isEmpty then none
  else
    let rest := if rest.head? = some '.' then rest.drop (places.length + 1) else rest
    let (e, rest) := match rest with
      | m :: more =>
        let signed := more.head? = some '-' ∨ more.head? = some '+'
        let ds := (if signed then more.tail else more).takeWhile Char.isDigit
        if (m = 'e' ∨ m = 'E') ∧ !ds.isEmpty then
          let n : Int := Raw.digits 10 ds
          (if more.head? = some '-' then -n else n,
            more.drop (ds.length + (if signed then 1 else 0)))
        else (0, rest)
      | [] => ((0 : Int), [])
    some (⟨negative, Raw.digits 10 (whole ++ places), e - places.length⟩, rest)

/-- A signed decimal number at the front of a text: whether it is negative, its size, and the text
behind it. -/
def leading? (t : Text) : Option (Bool × Fraction × Text) :=
  (numeral? t).map fun (n, rest) =>
    (n.negative, (Fraction.mk n.digits 1).scaled 10 n.exponent, rest)

/-! ## Numbers with limited precision -/

/-- How exact a program's numbers are. -/
structure Precision where
  /-- Significant bits. -/
  bits : Nat
  /-- Numbers from this power of two on are infinite. -/
  limit : Nat
  /-- Bits in the first digit when a number is written in base sixteen. -/
  leading : Nat

def Precision.double : Precision := ⟨53, 1024, 1⟩

/-- The greater precision of some programs. -/
def Precision.extended : Precision := ⟨64, 16384, 4⟩

/-- A number as programs know it. -/
inductive Quantity where
  | finite (negative : Bool) (size : Fraction)
  | infinite (negative : Bool)
  | undefined (negative : Bool)

/-- The greatest power of two that is not above a fraction, which is not zero. -/
def Fraction.log2 (f : Fraction) : Int :=
  let e : Int := (Nat.log2 f.numerator : Int) - (Nat.log2 f.denominator : Int)
  let g := f.scaled 2 (-e)
  if g.numerator < g.denominator then e - 1 else e

def Quantity.ofFraction (p : Precision) (negative : Bool) (f : Fraction) : Quantity :=
  let g := f.nearest p.bits
  if g.numerator ≠ 0 ∧ (p.limit : Int) ≤ g.log2 then .infinite negative else .finite negative g

/-- Digits of base sixteen, perhaps with a point and a power of two behind them, and the text behind
all this. -/
def hexadecimal? (t : Text) : Option (Fraction × Text) := do
  let isHex (c : Char) : Bool := (charClass? "xdigit".toList).any (· c)
  let whole := t.takeWhile isHex
  let rest := t.drop whole.length
  let places := if rest.head? = some '.' then rest.tail.takeWhile isHex else []
  if whole.isEmpty && places.isEmpty then none
  let rest := if rest.head? = some '.' then rest.drop (places.length + 1) else rest
  let (power, rest) : Int × Text := match rest with
    | p :: more =>
      let signed := more.head? = some '-' ∨ more.head? = some '+'
      let ds := (if signed then more.tail else more).takeWhile Char.isDigit
      if p.toLower = 'p' ∧ !ds.isEmpty then
        let n : Int := min 20000 (Raw.digits 10 ds)
        (if more.head? = some '-' then -n else n, more.drop (ds.length + (if signed then 1 else 0)))
      else (0, rest)
    | [] => (0, [])
  some ((Fraction.mk (Raw.digits 16 (whole ++ places)) 1).scaled 2 (power - 4 * places.length), rest)

/-- The number at the front of a text in any notation, and the text behind it. -/
def quantity? (p : Precision) (t : Text) : Option (Quantity × Text) :=
  let t := t.dropWhile Raw.isSpace
  let (negative, u) := match t with
    | '-' :: cs => (true, cs)
    | '+' :: cs => (false, cs)
    | cs => (false, cs)
  let lower := u.map Char.toLower
  let named (s : String) : Bool := Text.startsWith s.toList lower
  if named "infinity" then some (.infinite negative, u.drop 8)
  else if named "inf" then some (.infinite negative, u.drop 3)
  else if named "nan" then
    let rest := u.drop 3
    let inner := (rest.drop 1).takeWhile fun c => c.isAlphanum || c == '_'
    let closed := rest.head? = some '(' ∧ (rest.drop (inner.length + 1)).head? = some ')'
    some (.undefined negative, if closed then rest.drop (inner.length + 2) else rest)
  else
    match (if named "0x" then hexadecimal? (u.drop 2) else none) with
    | some (f, rest) => some (.ofFraction p negative f, rest)
    | none =>
      (numeral? t).map fun (n, rest) =>
        let size : Int := (Raw.ofNat n.digits).length + n.exponent
        (if n.digits = 0 ∨ size < -5000 then .finite negative ⟨0, 1⟩
          else if 5000 < size then .infinite negative
          else .ofFraction p negative ((Fraction.mk n.digits 1).scaled 10 n.exponent), rest)

/-- A number in base sixteen with a power of two, with so many places or as many as it needs. -/
def hexadecimal (p : Precision) (places : Option Nat) (f : Fraction) : Text :=
  let e : Int := if f.numerator = 0 then 0 else f.log2 + 1 - p.leading
  let shown := places.getD ((p.bits - p.leading) / 4)
  let g := f.scaled 2 (4 * (shown : Int) - e)
  let ds := Raw.padLeft '0' (shown + 1)
    (Nat.toDigits 16 (roundedQuotient g.numerator g.denominator))
  let whole := ds.take (ds.length - shown)
  let behind := ds.drop (ds.length - shown)
  let behind := if places.isNone then (behind.reverse.dropWhile (· == '0')).reverse else behind
  "0x".toList ++ whole ++ (if behind.isEmpty then [] else '.' :: behind) ++
    'p' :: (if e < 0 then '-' else '+') :: Raw.ofNat e.natAbs

end Decimal

end External

end SmartyLayout
