import SmartyLayout.Text.Blank

/-!
# SmartyLayout.Text.Utf8 — texts as bytes

Encoding never fails. Decoding stops at the first byte that belongs to no character and tells where
it stands and how many bytes the broken character covers. The lossy decoder puts a replacement
character there and goes on.
-/

namespace SmartyLayout

abbrev Bytes := List UInt8

namespace Utf8

def encode (t : Text) : Bytes :=
  t.flatMap String.utf8EncodeChar

/-- Where bytes stop being a text. -/
structure Fault where
  /-- The number of bytes in front of the broken character. -/
  index : Nat
  /-- The number of bytes that are broken; none if the bytes end inside a character. -/
  length : Option Nat
deriving DecidableEq, Repr

def Fault.message : Fault → String
  | ⟨index, some n⟩ => s!"invalid utf-8 sequence of {n} bytes from index {index}"
  | ⟨index, none⟩ => s!"incomplete utf-8 byte sequence from index {index}"

/-- A byte that continues a character. -/
def isContinuation (b : UInt8) : Bool :=
  0x80 ≤ b && b ≤ 0xBF

/-- The second byte fits behind a first byte that opens three bytes: neither an overlong form nor a
surrogate. -/
def fitsThree (b b' : UInt8) : Bool :=
  isContinuation b' && (b != 0xE0 || 0xA0 ≤ b') && (b != 0xED || b' ≤ 0x9F)

/-- The second byte fits behind a first byte that opens four bytes: neither an overlong form nor
past the last code point. -/
def fitsFour (b b' : UInt8) : Bool :=
  isContinuation b' && (b != 0xF0 || 0x90 ≤ b') && (b != 0xF4 || b' ≤ 0x8F)

/-- The low six bits of a continuation byte. -/
def payload (b : UInt8) : Nat :=
  b.toNat % 64

/-- What stands at the front of some bytes. -/
inductive Front where
  /-- A character and the number of its bytes. -/
  | char (c : Char) (width : Nat)
  /-- Broken bytes; none if the bytes end too early. -/
  | broken (length : Option Nat)
deriving DecidableEq, Repr

/-- The characters opened by a byte outside ASCII; the later bytes follow. -/
def frontWide (b : UInt8) (rest : Bytes) : Front :=
  if 0xC2 ≤ b ∧ b ≤ 0xDF then
    match rest with
    | [] => .broken none
    | b1 :: _ =>
      if isContinuation b1 then .char (Char.ofNat (b.toNat % 32 * 64 + payload b1)) 2
      else .broken (some 1)
  else if 0xE0 ≤ b ∧ b ≤ 0xEF then
    match rest with
    | [] => .broken none
    | b1 :: rest =>
      if !fitsThree b b1 then .broken (some 1)
      else
        match rest with
        | [] => .broken none
        | b2 :: _ =>
          if isContinuation b2 then
            .char (Char.ofNat ((b.toNat % 16 * 64 + payload b1) * 64 + payload b2)) 3
          else .broken (some 2)
  else if 0xF0 ≤ b ∧ b ≤ 0xF4 then
    match rest with
    | [] => .broken none
    | b1 :: rest =>
      if !fitsFour b b1 then .broken (some 1)
      else
        match rest with
        | [] => .broken none
        | b2 :: rest =>
          if !isContinuation b2 then .broken (some 2)
          else
            match rest with
            | [] => .broken none
            | b3 :: _ =>
              if isContinuation b3 then
                .char (Char.ofNat
                  (((b.toNat % 8 * 64 + payload b1) * 64 + payload b2) * 64 + payload b3)) 4
              else .broken (some 3)
  else .broken (some 1)

/-- What stands at the front of some bytes that begin with `b`. -/
def front (b : UInt8) (rest : Bytes) : Front :=
  if b < 0x80 then .char (Char.ofNat b.toNat) 1 else frontWide b rest

/-- Decodes bytes that begin at `index`; `skip` counts the bytes left of the last character. -/
def decodeFrom : (index skip : Nat) → Bytes → Except Fault Text
  | _, _, [] => .ok []
  | index, skip + 1, _ :: bs => decodeFrom (index + 1) skip bs
  | index, 0, b :: bs =>
    match front b bs with
    | .char c width => (decodeFrom (index + 1) (width - 1) bs).map (c :: ·)
    | .broken length => .error ⟨index, length⟩

/-- The text that bytes stand for. -/
def decode (bs : Bytes) : Except Fault Text :=
  decodeFrom 0 0 bs

def replacement : Char := Char.ofNat 0xFFFD

/-- Decodes bytes with a replacement character for each broken stretch. -/
def decodeLossyFrom : (skip : Nat) → Bytes → Text
  | _, [] => []
  | skip + 1, _ :: bs => decodeLossyFrom skip bs
  | 0, b :: bs =>
    match front b bs with
    | .char c width => c :: decodeLossyFrom (width - 1) bs
    | .broken (some n) => replacement :: decodeLossyFrom (n - 1) bs
    -- the bytes end inside a character: one replacement stands for all of them
    | .broken none => replacement :: decodeLossyFrom bs.length bs

/-- The text that bytes stand for, broken stretches replaced. -/
def decodeLossy (bs : Bytes) : Text :=
  decodeLossyFrom 0 bs

end Utf8

end SmartyLayout
