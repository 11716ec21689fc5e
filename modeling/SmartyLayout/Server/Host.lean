import SmartyLayout.Server.Domain
import SmartyLayout.Server.Percent

/-!
# SmartyLayout.Server.Host — hosts of documents' names

A host is a domain name or an address. Addresses may be written in several ways and are kept as
numbers: an address of four bytes with decimal, octal or hexadecimal parts, and one of eight pieces
between brackets, where two colons stand for a row of zeros.
-/

namespace SmartyLayout

/-- The host of a name. -/
inductive Host where
  | domain (name : Text)
  | fourBytes (address : Nat)
  | eightPieces (pieces : List Nat)
deriving DecidableEq, Repr

namespace Host

/-! ## Four bytes -/

/-- The number that digits in a base stand for. -/
def number? (base : Nat) (t : Text) : Option Nat :=
  t.foldl (fun n c => do
    let n ← n
    let digit ← Percent.hexValue? c
    if digit < base then some (n * base + digit) else none) (some 0)

/-- A part of an address: hexadecimal behind `0x`, octal behind `0`, otherwise decimal. -/
def part? : Text → Option Nat
  | [] => none
  | '0' :: 'x' :: t | '0' :: 'X' :: t => number? 16 t
  | '0' :: c :: t => number? 8 (c :: t)
  | t => number? 10 t

/-- The parts of a name between dots; a dot at the end counts for nothing. -/
def parts (t : Text) : List Text :=
  let ts := t.splitOn '.'
  if ts.getLast? = some [] then ts.dropLast else ts

/-- A name whose last part is a number is an address. -/
def isAddress (t : Text) : Bool :=
  match (parts t).getLast? with
  | none | some [] => false
  | some last => last.all Char.isDigit || (part? last).isSome

def numbers? : List Text → Option (List Nat)
  | [] => some []
  | t :: ts => do
    let n ← part? t
    let ns ← numbers? ts
    some (n :: ns)

/-- The address that some numbers stand for: all but the last are bytes, and the last fills the
rest. -/
def joinBytes : (room : Nat) → List Nat → Option Nat
  | _, [] => none
  | 0, _ => none
  | room + 1, [n] => if n < Nat.pow 256 (room + 1) then some n else none
  | room + 1, n :: ns => do
    let rest ← joinBytes room ns
    if n < 256 then some (n * Nat.pow 256 room + rest) else none

def fourBytes? (t : Text) : Option Host := do
  let ns ← numbers? (parts t)
  (joinBytes 4 ns).map .fourBytes

/-! ## Eight pieces -/

/-- A piece: one to four hexadecimal digits. -/
def piece? (t : Text) : Option Nat :=
  if t.isEmpty ∨ 4 < t.length then none else number? 16 t

/-- A decimal byte without leading zeros. -/
def byte? (t : Text) : Option Nat := do
  let n ← if t.isEmpty then none else number? 10 t
  if n < 256 ∧ (t.length = 1 ∨ t.head? ≠ some '0') then some n else none

/-- The last two pieces of an address, written as four bytes. -/
def bytePieces? (t : Text) : Option (List Nat) :=
  match t.splitOn '.' with
  | [a, b, c, d] => do
    some [(← byte? a) * 256 + (← byte? b), (← byte? c) * 256 + (← byte? d)]
  | _ => none

/-- The pieces between colons; the last two may be written as bytes. -/
def pieces? : (final : Bool) → List Text → Option (List Nat)
  | _, [] => some []
  | final, t :: ts =>
    if final && ts.isEmpty && t.any (· == '.') then bytePieces? t
    else do
      let n ← piece? t
      let ns ← pieces? final ts
      some (n :: ns)

/-- The pieces of a part that may be empty. -/
def run? (final : Bool) (t : Text) : Option (List Nat) :=
  if t.isEmpty then some [] else pieces? final (t.splitOn ':')

/-- An address of eight pieces. Two colons stand for at least one piece of zero. -/
def eightPieces? (t : Text) : Option Host :=
  match Text.through [':', ':'] t with
  | none => do
    let ns ← run? true t
    if ns.length = 8 then some (.eightPieces ns) else none
  -- with a second pair of colons a piece would be empty, and none can be
  | some n => do
    let front ← run? false (t.take (n - 2))
    let back ← run? true (t.drop n)
    let size := front.length + back.length
    if size < 8 then some (.eightPieces (front ++ List.replicate (8 - size) 0 ++ back)) else none

/-- An address between brackets, which begins with a bracket. -/
def bracketed? (t : Text) : Option Host :=
  match t.reverse with
  | ']' :: rest => eightPieces? rest.reverse.tail
  | _ => none

/-! ## Hosts -/

/-- Reads the host of a scheme that knows about domains. -/
def read? (t : Text) : Option Host :=
  if t.head? = some '[' then bracketed? t
  else
    match Utf8.decode (Percent.decode t) with
    | .error _ => none
    | .ok t => do
      let name ← Domain.fold t
      if name.isEmpty then none
      else if isAddress name then fourBytes? name
      else some (.domain name)

/-- Reads the host of any other scheme, which stands for itself. -/
def readOpaque? (t : Text) : Option Host :=
  if t.head? = some '[' then bracketed? t
  else if t.any fun c => c.toNat == 0 || " #/:<>?@[\\]^|".toList.any (· == c) then none
  else some (.domain (Percent.encode [] t))

end Host

end SmartyLayout
