import SmartyLayout.Text.Utf8

/-!
# SmartyLayout.Server.Percent — bytes behind percent signs

A byte that may not stand for itself is written as a percent sign and two hexadecimal digits.
-/

namespace SmartyLayout

namespace Percent

/-- A hexadecimal digit in upper case. -/
def hexDigit (n : Nat) : Char :=
  if n < 10 then Char.ofNat ('0'.toNat + n) else Char.ofNat ('A'.toNat + (n - 10))

def encodeByte (b : UInt8) : Text :=
  ['%', hexDigit (b.toNat / 16), hexDigit (b.toNat % 16)]

/-- Writes control characters, characters outside ASCII and the given ones with percent signs. -/
def encode (special : Text) (t : Text) : Text :=
  t.flatMap fun c =>
    if c.toNat < 0x20 ∨ 0x7E < c.toNat ∨ special.any (· == c) then
      (String.utf8EncodeChar c).flatMap encodeByte
    else [c]

def hexValue? (c : Char) : Option Nat :=
  if '0' ≤ c ∧ c ≤ '9' then some (c.toNat - '0'.toNat)
  else if 'a' ≤ c ∧ c ≤ 'f' then some (c.toNat - 'a'.toNat + 10)
  else if 'A' ≤ c ∧ c ≤ 'F' then some (c.toNat - 'A'.toNat + 10)
  else none

/-- The byte that stands at the front of a text behind a percent sign. -/
def encoded? : Text → Option UInt8
  | a :: b :: _ => do
    let high ← hexValue? a
    let low ← hexValue? b
    some (UInt8.ofNat (high * 16 + low))
  | _ => none

/-- The bytes of a text whose percent signs are read; `skip` counts the digits already read. -/
def decodeFrom : (skip : Nat) → Text → Bytes
  | _, [] => []
  | skip + 1, _ :: cs => decodeFrom skip cs
  | 0, c :: cs =>
    match if c = '%' then encoded? cs else none with
    | some b => b :: decodeFrom 2 cs
    | none => String.utf8EncodeChar c ++ decodeFrom 0 cs

/-- The bytes of a text whose percent signs are read. -/
def decode (t : Text) : Bytes :=
  decodeFrom 0 t

end Percent

end SmartyLayout
