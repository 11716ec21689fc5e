import SmartyLayout.External.Utility

/-!
# SmartyLayout.External.Encoding — bytes as letters and digits

An alphabet stands for the numbers of so many bits. Bytes are taken in groups whose bits make whole
signs; a group at the end that is too short is filled with equals signs.
-/

namespace SmartyLayout

namespace External

/-- A set of signs for bytes. -/
structure Alphabet where
  signs : Text
  /-- Bits that a sign stands for. -/
  bits : Nat
  /-- Signs in a group. -/
  group : Nat
  /-- A group that is cut off at the end still counts. -/
  readsShort : Bool

namespace Alphabet

/-- The small or capital letters, or digits, from a first one on. -/
def run (first : Char) (count : Nat) : Text :=
  (List.range count).map fun n => Char.ofNat (first.toNat + n)

/-- Letters of both kinds, digits and two more signs. -/
def sixtyFour (last : Text) : Alphabet :=
  ⟨run 'A' 26 ++ run 'a' 26 ++ run '0' 10 ++ last, 6, 4, true⟩

/-- Capital letters, and digits from 2 on. -/
def thirtyTwo : Alphabet := ⟨run 'A' 26 ++ run '2' 6, 5, 8, false⟩

/-- Digits, and capital letters up to V. -/
def thirtyTwoInOrder : Alphabet := ⟨run '0' 10 ++ run 'A' 22, 5, 8, false⟩

def sixteen : Alphabet := ⟨run '0' 10 ++ run 'A' 6, 4, 2, false⟩

/-- Bits of a number, the greatest first. -/
def bitsOf (width n : Nat) : List Nat :=
  (List.range width).map fun k => n / Nat.pow 2 (width - 1 - k) % 2

def ofBits (bs : List Nat) : Nat :=
  bs.foldl (fun n b => 2 * n + b) 0

def pieces {α : Type} (size : Nat) : (fuel : Nat) → List α → List (List α)
  | 0, _ => []
  | _, [] => []
  | fuel + 1, xs => xs.take size :: pieces size fuel (xs.drop size)

def encodeGroup (a : Alphabet) (bytes : Text) : Text :=
  let bits := bytes.flatMap fun c => bitsOf 8 c.toNat
  let numbers := (pieces a.bits bits.length bits).map fun bs =>
    ofBits (bs ++ List.replicate (a.bits - bs.length) 0)
  let signs := numbers.map fun n => a.signs[n]?.getD '='
  signs ++ List.replicate (a.group - signs.length) '='

def encode (a : Alphabet) (t : Text) : Text :=
  (pieces (a.group * a.bits / 8) t.length t).flatMap a.encodeGroup

def bytesOf (a : Alphabet) (signs : Text) : Text :=
  let bits := signs.flatMap fun c => bitsOf a.bits (a.signs.idxOf c)
  (pieces 8 bits.length (bits.take (bits.length / 8 * 8))).map fun bs => Char.ofNat (ofBits bs)

/-- The bytes of a group of signs, and whether the group is in order: behind the signs stand equals
signs, and no sign is without use. -/
def decodeGroup (a : Alphabet) (g : Text) : Text × Bool :=
  let known := g.takeWhile fun c => a.signs.any (· == c)
  let fill := g.drop known.length
  let useful := (known.length - 1) * a.bits / 8 < known.length * a.bits / 8
  let whole := g.length = a.group
  (if whole ∨ a.readsShort then a.bytesOf known else [],
    whole && fill.all (· == '=') && !known.isEmpty && useful)

/-- The bytes of all signs up to the first group that is not in order, and whether there is none. -/
def decode (a : Alphabet) (t : Text) : Text × Bool :=
  let groups := (pieces a.group t.length t).map a.decodeGroup
  let good := groups.takeWhile (·.2)
  let rest := groups.drop good.length
  ((good ++ rest.take 1).flatMap (·.1), rest.isEmpty)

end Alphabet

def encodingSyntax : OptionSyntax where
  plain := "di"
  valued := "w"
  long := [("decode", 'd', false), ("wrap", 'w', true), ("ignore-garbage", 'i', false)]

def alphabetOptions : List (String × Char × Bool) :=
  [("base64", '6', false), ("base64url", 'u', false), ("base32", '3', false),
    ("base32hex", 'h', false), ("base16", 'x', false)]

def encodeFile (alphabet : Alphabet) (c : Call) (a : Arguments) : Effect :=
  let given := (a.options.filter (·.1 == 'w')).map (·.2)
  match given.find? fun v => (Raw.nat? v).isNone, a.operands with
  | some v, _ => c.fails (Raw.ofString "invalid wrap size: " ++ Raw.quoted v) 1
  | none, _ :: extra :: _ => c.misused (Raw.ofString "extra operand " ++ Raw.quoted extra) 1
  | none, operands =>
    let i := c.inputs operands
    let width := ((given.getLast?.bind Raw.nat?)).getD 76
    if i.failed then i.effect [] 1
    else if a.has 'd' then
      let kept (x : Char) : Bool :=
        x != '\n' && (!a.has 'i' || x == '=' || alphabet.signs.any (· == x))
      let (t, fine) := alphabet.decode (i.joined.filter kept)
      if fine then i.effect t 0
      else { turns := [(t, c.line (Raw.ofString "invalid input"))], status := 1, left := i.left }
    else
      let t := alphabet.encode i.joined
      i.effect (if width = 0 then t
        else (Alphabet.pieces width t.length t).flatMap (· ++ ['\n'])) 0

def encoding (alphabet : Alphabet) : Utility :=
  withArguments encodingSyntax 1 (encodeFile alphabet)

/-- The program whose alphabet is an option. -/
def basenc : Utility :=
  withArguments { encodingSyntax with long := encodingSyntax.long ++ alphabetOptions } 1 fun c a =>
    match (a.options.filter fun (o, _) => "6u3hx".toList.any (· == o)).getLast? with
    | none => c.misused (Raw.ofString "missing encoding type") 1
    | some (o, _) =>
      let alphabet : Alphabet := match o with
        | '6' => .sixtyFour ['+', '/']
        | 'u' => .sixtyFour ['-', '_']
        | '3' => .thirtyTwo
        | 'h' => .thirtyTwoInOrder
        | _ => .sixteen
      encodeFile alphabet c a

end External

end SmartyLayout
