import SmartyLayout.External.Utility

/-!
# SmartyLayout.External.Dump — bytes in readable form

A dump shows a file in blocks of some bytes, one line for a block in each of the chosen formats. The
formats of one block are spread to the same width, so that they stand under one another.
-/

namespace SmartyLayout

namespace External

namespace Dump

/-! ## Formats -/

/-- How one unit of a block is shown. -/
inductive Kind where
  | octal
  | hexadecimal
  | unsigned
  | signed
  /-- Characters with escapes. -/
  | character
  /-- Characters with names. -/
  | name
deriving DecidableEq, Repr

/-- A format: how units are shown, how many bytes each has, and whether the plain text follows. -/
structure Format where
  kind : Kind
  size : Nat := 1
  trailer : Bool := false
deriving DecidableEq, Repr

/-- The columns that a unit takes. -/
def Format.width (f : Format) : Nat :=
  match f.kind with
  | .octal => if f.size = 1 then 3 else if f.size = 2 then 6 else if f.size = 4 then 11 else 22
  | .hexadecimal => 2 * f.size
  | .unsigned => if f.size = 1 then 3 else if f.size = 2 then 5 else if f.size = 4 then 10 else 20
  | .signed => if f.size = 1 then 4 else if f.size = 2 then 6 else if f.size = 4 then 11 else 20
  | .character | .name => 3

def characterNames : List String :=
  ["nul", "soh", "stx", "etx", "eot", "enq", "ack", "bel", "bs", "ht", "nl", "vt", "ff", "cr", "so",
    "si", "dle", "dc1", "dc2", "dc3", "dc4", "nak", "syn", "etb", "can", "em", "sub", "esc", "fs",
    "gs", "rs", "us", "sp"]

def isPrintable (c : Char) : Bool :=
  0x20 ≤ c.toNat && c.toNat ≤ 0x7E

def shownCharacter (c : Char) : Text :=
  match c.toNat with
  | 0 => ['\\', '0']
  | 7 => ['\\', 'a']
  | 8 => ['\\', 'b']
  | 9 => ['\\', 't']
  | 10 => ['\\', 'n']
  | 11 => ['\\', 'v']
  | 12 => ['\\', 'f']
  | 13 => ['\\', 'r']
  | n => if isPrintable c then [c] else Raw.padLeft '0' 3 (Nat.toDigits 8 n)

/-- A byte as a character with a name; the highest bit does not count. -/
def namedCharacter (c : Char) : Text :=
  let n := c.toNat % 128
  if n = 127 then ['d', 'e', 'l']
  else match characterNames[n]? with
    | some name => name.toList
    | none => [Char.ofNat n]

def number (bs : Text) : Nat :=
  bs.foldr (fun b n => b.toNat + 256 * n) 0

/-- A unit without the blanks in front of it. -/
def Format.unit (f : Format) (bs : Text) : Text :=
  let n := number bs
  match f.kind with
  | .octal => Raw.padLeft '0' f.width (Nat.toDigits 8 n)
  | .hexadecimal => Raw.padLeft '0' f.width (Nat.toDigits 16 n)
  | .unsigned => Raw.ofNat n
  | .signed =>
    let bound := Nat.pow 256 f.size
    Raw.ofInt (if bound ≤ 2 * n then (n : Int) - bound else n)
  | .character => bs.flatMap shownCharacter
  | .name => bs.flatMap namedCharacter

/-- The size that a letter stands for, of formats with numbers. -/
def sizeOfLetter? : Char → Option Nat
  | 'C' => some 1
  | 'S' => some 2
  | 'I' => some 4
  | 'L' => some 8
  | _ => none

/-- The size of a number at the front of a text, and the text behind it. -/
def readSize (t : Text) : Nat × Text :=
  match t with
  | c :: rest =>
    match sizeOfLetter? c with
    | some n => (n, rest)
    | none =>
      let ds := t.takeWhile Char.isDigit
      if ds.isEmpty then (4, t) else (Raw.digits 10 ds, t.drop ds.length)
  | [] => (4, [])

/-- The formats of a text such as `x1z`, or what is wrong with it. -/
def formats (whole : Text) : (fuel : Nat) → Text → Except Text (List Format)
  | 0, _ => .ok []
  | _, [] => .ok []
  | fuel + 1, c :: rest =>
    let add (f : Format) (rest : Text) : Except Text (List Format) :=
      match rest with
      | 'z' :: rest => (formats whole fuel rest).map ({ f with trailer := true } :: ·)
      | rest => (formats whole fuel rest).map (f :: ·)
    let numeric (kind : Kind) : Except Text (List Format) :=
      let (size, rest) := readSize rest
      if [1, 2, 4, 8].contains size then add { kind, size } rest
      else
        .error (Raw.ofString "invalid type string '" ++ whole ++ Raw.ofString
          ("';\nthis system doesn't provide a " ++ toString size ++ "-byte integral type"))
    match c with
    | 'a' => add { kind := .name } rest
    | 'c' => add { kind := .character } rest
    | 'd' => numeric .signed
    | 'o' => numeric .octal
    | 'u' => numeric .unsigned
    | 'x' => numeric .hexadecimal
    | _ =>
      .error (Raw.ofString "invalid character '" ++ c :: Raw.ofString "' in type string '" ++
        whole ++ ['\x27'])

/-! ## Blocks -/

structure Layout where
  formats : List Format
  /-- The bytes of a block. -/
  size : Nat
  /-- The base of addresses and their digits; none if there are no addresses. -/
  address : Option (Nat × Nat)
  /-- The lowest byte of a unit comes last. -/
  highFirst : Bool := false
  /-- Blocks that repeat are shown again. -/
  repeats : Bool := false

namespace Layout

def addressText (l : Layout) (n : Nat) : Text :=
  match l.address with
  | some (base, digits) => Raw.padLeft '0' digits (Nat.toDigits base n)
  | none => []

def blockWidth (l : Layout) : Nat :=
  (l.formats.map fun f => (f.width + 1) * (l.size / f.size)).foldl max 0

/-- The units of a block, each with its share of the blanks; the last units may be missing. -/
def units (l : Layout) (f : Format) (block : Text) : Text :=
  let fields := l.size / f.size
  let blanks := l.blockWidth - f.width * fields
  let shown := fields - (l.size - block.length) / f.size
  (List.range shown).flatMap fun k =>
    let share := blanks * (fields - k) / fields - blanks * (fields - k - 1) / fields
    let bytes := (block.drop (k * f.size)).take f.size
    let bytes := bytes ++ List.replicate (f.size - bytes.length) '\x00'
    Raw.padLeft ' ' (f.width + share) (f.unit (if l.highFirst then bytes.reverse else bytes))

/-- Units with the plain text of their block behind the place where a whole block ends. -/
def withTrailer (l : Layout) (block units : Text) : Text :=
  Raw.padRight l.blockWidth units ++ Raw.ofString "  >" ++
    (block.map fun c => if isPrintable c then c else '.') ++ ['<']

def block (l : Layout) (address : Nat) (bytes : Text) : Text :=
  let front := l.addressText address
  let line (f : Format) : Text :=
    (if f.trailer then l.withTrailer bytes (l.units f bytes) else l.units f bytes) ++ ['\n']
  match l.formats with
  | [] => []
  | f :: fs => front ++ line f ++ fs.flatMap fun f => List.replicate front.length ' ' ++ line f

/-- The blocks of some bytes. A whole block that repeats the one before it is left out, and an
asterisk stands for all that are left out in a row. -/
def blocks (l : Layout) : (fuel : Nat) → (address : Nat) → (previous : Option Text) →
    (starred : Bool) → Text → Text
  | 0, _, _, _, _ => []
  | _, _, _, _, [] => []
  | fuel + 1, address, previous, starred, bytes =>
    let front := bytes.take l.size
    let next (starred : Bool) : Text :=
      l.blocks fuel (address + front.length) (some front) starred (bytes.drop l.size)
    if !l.repeats && front.length == l.size && previous == some front then
      (if starred then [] else ['*', '\n']) ++ next true
    else l.block address front ++ next false

def dump (l : Layout) (start : Nat) (bytes : Text) : Text :=
  l.blocks (bytes.length + 1) start none false bytes ++
    (if l.address.isSome then l.addressText (start + bytes.length) ++ ['\n'] else [])

end Layout

/-! ## The program -/

/-- The options that stand for formats. -/
def shortFormat? : Char → Option String
  | 'a' => some "a"
  | 'b' => some "o1"
  | 'c' => some "c"
  | 'D' => some "u4"
  | 'd' => some "u2"
  | 'H' | 'X' => some "x4"
  | 'h' | 'x' => some "x2"
  | 'I' | 'L' | 'l' => some "d8"
  | 'i' => some "d4"
  | 'O' => some "o4"
  | 'o' | 'B' => some "o2"
  | 's' => some "d2"
  | _ => none

def dumpSyntax : OptionSyntax where
  plain := "abcDdHXhxILliOoBsv"
  valued := "ANjt"
  optional := "w"
  long := [("address-radix", 'A', true), ("read-bytes", 'N', true), ("skip-bytes", 'j', true),
    ("format", 't', true), ("output-duplicates", 'v', false), ("width", 'w', true),
    ("endian", 'E', true)]

/-- A number of bytes, in decimal, octal or hexadecimal digits and with a multiplier. -/
def byteCount? (t : Text) : Option Nat :=
  let isHex (c : Char) : Bool := (charClass? "xdigit".toList).any (· c)
  let (base, isDigit, ds) : Nat × (Char → Bool) × Text := match t with
    | '0' :: 'x' :: c :: rest =>
      if isHex c then (16, isHex, c :: rest) else (8, (fun c => '0' ≤ c && c ≤ '7'), t)
    | '0' :: _ => (8, (fun c => '0' ≤ c && c ≤ '7'), t)
    | _ => (10, Char.isDigit, t)
  let number := ds.takeWhile isDigit
  if number.isEmpty then none
  else (Raw.multiplier? true (ds.drop number.length)).map (Raw.digits base number * ·)

def chosenFormats (a : Arguments) : Except Text (List Format) :=
  a.options.foldlM (fun fs (o, value) =>
    match o, shortFormat? o with
    | 't', _ => (formats value value.length value).map (fs ++ ·)
    | _, some t => (formats t.toList t.length t.toList).map (fs ++ ·)
    | _, none => .ok fs) []

/-- The base of addresses and their digits, if the letter is one for this. -/
def addressBase? : Text → Option (Option (Nat × Nat))
  | ['o'] => some (some (8, 7))
  | ['d'] => some (some (10, 7))
  | ['x'] => some (some (16, 6))
  | ['n'] => some none
  | _ => none

structure Extent where
  skipped : Nat := 0
  count : Option Nat := none

def run (c : Call) (a : Arguments) (fs : List Format) (address : Option (Nat × Nat)) (e : Extent) :
    Effect :=
  let fs := if fs.isEmpty then [{ kind := .octal, size := 2 }] else fs
  let unit := (fs.map (·.size)).foldl max 1
  let wanted := (a.value? 'w').map fun t => if t.isEmpty then 32 else (Raw.nat? t).getD 0
  let fits (w : Nat) : Bool := w != 0 && w % unit == 0
  let size := match wanted with
    | some w => if fits w then w else unit
    | none => 16
  let warning := match wanted with
    | some w =>
      if fits w then []
      else c.line (Raw.ofString
        ("warning: invalid width " ++ toString w ++ "; using " ++ toString unit ++ " instead"))
    | none => []
  let l : Layout :=
    { formats := fs, size, address, repeats := a.has 'v'
      highFirst := a.value? 'E' = some "big".toList }
  let i := c.inputs a.operands
  let bytes := i.joined
  if i.contents.isEmpty then i.effect [] 1
  else if bytes.length < e.skipped then
    { i.effect [] 1 with
      stderr := i.stderr ++ c.line (Raw.ofString "cannot skip past end of combined input") }
  else
    let bytes := bytes.drop e.skipped
    let shown := match e.count with
      | some n => bytes.take n
      | none => bytes
    let r := i.effect (l.dump e.skipped shown) 0
    { r with
      stderr := warning ++ r.stderr
      left := if a.operands.isEmpty then bytes.drop shown.length else r.left }

/-- Shows its files in blocks. -/
def od : Utility :=
  withArguments dumpSyntax 1 fun c a =>
    let wrong (o : Char) : Effect :=
      c.fails (Raw.ofString ("invalid -" ++ o.toString ++ " argument '") ++ (a.value? o).getD [] ++
        ['\x27']) 1
    match addressBase? ((a.value? 'A').getD ['o']) with
    | none =>
      c.fails (Raw.ofString "invalid output address radix '" ++ ((a.value? 'A').getD []).take 1 ++
        Raw.ofString "'; it must be one character from [doxn]") 1
    | some address =>
      match (a.value? 'j').map byteCount?, (a.value? 'N').map byteCount?, chosenFormats a with
      | some none, _, _ => wrong 'j'
      | _, some none, _ => wrong 'N'
      | _, _, .error message => c.fails message 1
      | skipped, count, .ok fs =>
        run c a fs address { skipped := (skipped.bind id).getD 0, count := count.bind id }

end Dump

end External

end SmartyLayout
