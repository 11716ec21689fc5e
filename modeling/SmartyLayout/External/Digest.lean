import SmartyLayout.External.Utility
import SmartyLayout.Text.Table

/-!
# SmartyLayout.External.Digest — checksums

Programs that reduce a file to a short number. The longer ones work on blocks: a message is padded,
cut into blocks, and each block is mixed into a state of a few words. Bytes are numbers below 256.
-/

namespace SmartyLayout

namespace External

namespace Digest

/-! ## Words and blocks -/

/-- So many bytes of a number, the lowest first. -/
def lowFirst (count n : Nat) : List Nat :=
  (List.range count).map fun k => n / Nat.pow 256 k % 256

/-- So many bytes of a number, the highest first. -/
def highFirst (count n : Nat) : List Nat :=
  (lowFirst count n).reverse

/-- The number of some bytes, the highest first. -/
def ofBytes (bs : List Nat) : Nat :=
  bs.foldl (fun n b => n * 256 + b) 0

/-- A list in pieces of one size; `fuel` bounds their number. -/
def pieces (size : Nat) : (fuel : Nat) → List Nat → List (List Nat)
  | 0, _ => []
  | _, [] => []
  | fuel + 1, xs => xs.take size :: pieces size fuel (xs.drop size)

/-- A message in blocks: behind it come a bit that is set, zeros, and its length in bits, written by
`toBytes` with so many bytes. -/
def blocks (size lengthSize : Nat) (toBytes : Nat → Nat → List Nat) (bs : List Nat) :
    List (List Nat) :=
  let zeros := (size - (bs.length + 1 + lengthSize) % size) % size
  let whole := bs ++ 128 :: List.replicate zeros 0 ++ toBytes lengthSize (8 * bs.length)
  pieces size whole.length whole

def turnLeft (bits n x : Nat) : Nat :=
  x * Nat.pow 2 n % Nat.pow 2 bits + x / Nat.pow 2 (bits - n)

def turnRight (bits n x : Nat) : Nat :=
  turnLeft bits (bits - n) x

def flip (bits x : Nat) : Nat :=
  Nat.pow 2 bits - 1 - x

/-- The words of `x` where `c` is set and of `y` elsewhere. -/
def choose (bits c x y : Nat) : Nat :=
  (c &&& x) ||| (flip bits c &&& y)

/-- The bits that most of three words have. -/
def majority (x y z : Nat) : Nat :=
  (x &&& y) ||| (x &&& z) ||| (y &&& z)

/-- A sum of two states, word by word. -/
def addWords (bits : Nat) (xs ys : List Nat) : List Nat :=
  (xs.zip ys).map fun (x, y) => (x + y) % Nat.pow 2 bits

/-! ## The digest of 128 bits -/

/-- What is added in each step: 2^32 times the sine of the number of the step. -/
def sines : Array Nat :=
  (Table.rows "
  D76AA478 E8C7B756 242070DB C1BDCEEE F57C0FAF 4787C62A A8304613 FD469501
  698098D8 8B44F7AF FFFF5BB1 895CD7BE 6B901122 FD987193 A679438E 49B40821
  F61E2562 C040B340 265E5A51 E9B6C7AA D62F105D 02441453 D8A1E681 E7D3FBC8
  21E1CDE6 C33707D6 F4D50D87 455A14ED A9E3E905 FCEFA3F8 676F02D9 8D2A4C8A
  FFFA3942 8771F681 6D9D6122 FDE5380C A4BEEA44 4BDECFA9 F6BB4B60 BEBFBC70
  289B7EC6 EAA127FA D4EF3085 04881D05 D9D4D039 E6DB99E5 1FA27CF8 C4AC5665
  F4292244 432AFF97 AB9423A7 FC93A039 655B59C3 8F0CCC92 FFEFF47D 85845DD1
  6FA87E4F FE2CE6E0 A3014314 4E0811A1 F7537E82 BD3AF235 2AD7D2BB EB86D391").flatten.toArray

def turns (step : Nat) : Nat :=
  let row := match step / 16 with
    | 0 => [7, 12, 17, 22]
    | 1 => [5, 9, 14, 20]
    | 2 => [4, 11, 16, 23]
    | _ => [6, 10, 15, 21]
  row[step % 4]?.getD 0

def step128 (ws : Array Nat) (state : List Nat) (i : Nat) : List Nat :=
  match state with
  | [a, b, c, d] =>
    let (f, g) := match i / 16 with
      | 0 => (choose 32 b c d, i)
      | 1 => (choose 32 d b c, (5 * i + 1) % 16)
      | 2 => (b ^^^ c ^^^ d, (3 * i + 5) % 16)
      | _ => (c ^^^ (b ||| flip 32 d), 7 * i % 16)
    let x := (a + f + sines[i]?.getD 0 + ws[g]?.getD 0) % Nat.pow 2 32
    [d, (b + turnLeft 32 (turns i) x) % Nat.pow 2 32, b, c]
  | _ => state

/-- The digest of 128 bits. -/
def md5 (bs : List Nat) : List Nat :=
  let final := (blocks 64 8 lowFirst bs).foldl (fun state block =>
    let ws := ((pieces 4 16 block).map fun w => ofBytes w.reverse).toArray
    addWords 32 state ((List.range 64).foldl (step128 ws) state))
    [0x67452301, 0xEFCDAB89, 0x98BADCFE, 0x10325476]
  final.flatMap (lowFirst 4)

/-! ## The digest of 160 bits -/

/-- The words of a block, and those that follow from them. -/
def schedule160 (block : List Nat) : Array Nat :=
  let first := ((pieces 4 16 block).map ofBytes).toArray
  (List.range 64).foldl (fun ws i =>
    let at' (k : Nat) : Nat := ws[i + k]?.getD 0
    ws.push (turnLeft 32 1 (at' 13 ^^^ at' 8 ^^^ at' 2 ^^^ at' 0))) first

def step160 (ws : Array Nat) (state : List Nat) (i : Nat) : List Nat :=
  match state with
  | [a, b, c, d, e] =>
    let (f, k) := match i / 20 with
      | 0 => (choose 32 b c d, 0x5A827999)
      | 1 => (b ^^^ c ^^^ d, 0x6ED9EBA1)
      | 2 => (majority b c d, 0x8F1BBCDC)
      | _ => (b ^^^ c ^^^ d, 0xCA62C1D6)
    let x := (turnLeft 32 5 a + f + e + k + ws[i]?.getD 0) % Nat.pow 2 32
    [x, a, turnLeft 32 30 b, c, d]
  | _ => state

/-- The digest of 160 bits. -/
def sha1 (bs : List Nat) : List Nat :=
  let final := (blocks 64 8 highFirst bs).foldl (fun state block =>
    addWords 32 state ((List.range 80).foldl (step160 (schedule160 block)) state))
    [0x67452301, 0xEFCDAB89, 0x98BADCFE, 0x10325476, 0xC3D2E1F0]
  final.flatMap (highFirst 4)

/-! ## The digests of 224 to 512 bits -/

def primes : List Nat :=
  ((List.range 410).drop 2).filter fun n => ((List.range n).drop 2).all fun d => n % d != 0

/-- The first bits behind the point of a root of a number. -/
def rootFraction (degree bits n : Nat) : Nat :=
  let target := n * Nat.pow 2 (degree * bits)
  let root := (List.range (bits + 6)).reverse.foldl (fun r i =>
    if Nat.pow (r + Nat.pow 2 i) degree ≤ target then r + Nat.pow 2 i else r) 0
  root % Nat.pow 2 bits

structure Family where
  /-- The bits of a word. -/
  bits : Nat
  rounds : Nat
  /-- How far words are turned in a round, once for the first word and once for the fifth. -/
  first : List Nat
  fifth : List Nat
  /-- How far words are turned, and at last moved, when the words of a block are carried on. -/
  near : List Nat
  far : List Nat

/-- Words of 32 bits. -/
def narrow : Family where
  bits := 32
  rounds := 64
  first := [2, 13, 22]
  fifth := [6, 11, 25]
  near := [7, 18, 3]
  far := [17, 19, 10]

/-- Words of 64 bits. -/
def wide : Family where
  bits := 64
  rounds := 80
  first := [28, 34, 39]
  fifth := [14, 18, 41]
  near := [1, 8, 7]
  far := [19, 61, 6]

def Family.turned (f : Family) (ways : List Nat) (x : Nat) : Nat :=
  (ways.map fun n => turnRight f.bits n x).foldl (· ^^^ ·) 0

/-- A word turned in two ways and moved in a third. -/
def Family.moved (f : Family) (ways : List Nat) (x : Nat) : Nat :=
  f.turned (ways.take 2) x ^^^ x / Nat.pow 2 (ways.getLast?.getD 0)

def Family.additions (f : Family) : Array Nat :=
  ((primes.take f.rounds).map (rootFraction 3 f.bits)).toArray

/-- The additions of the two families. -/
def narrowAdditions : Array Nat := narrow.additions

@[inherit_doc narrowAdditions]
def wideAdditions : Array Nat := wide.additions

/-- The words of a block, and those that follow from them. -/
def Family.schedule (f : Family) (block : List Nat) : Array Nat :=
  let first := ((pieces (f.bits / 8) 16 block).map ofBytes).toArray
  (List.range (f.rounds - 16)).foldl (fun ws i =>
    let at' (k : Nat) : Nat := ws[i + k]?.getD 0
    ws.push ((f.moved f.far (at' 14) + at' 9 + f.moved f.near (at' 1) + at' 0) %
      Nat.pow 2 f.bits)) first

def Family.round (f : Family) (additions ws : Array Nat) (state : List Nat) (i : Nat) : List Nat :=
  match state with
  | [a, b, c, d, e, g, h, k] =>
    let x := k + f.turned f.fifth e + choose f.bits e g h + additions[i]?.getD 0 + ws[i]?.getD 0
    let y := f.turned f.first a + majority a b c
    [(x + y) % Nat.pow 2 f.bits, a, b, c, (d + x) % Nat.pow 2 f.bits, e, g, h]
  | _ => state

/-- The words that a state ends with. -/
def Family.digest (f : Family) (additions : Array Nat) (start bs : List Nat) : List Nat :=
  let final := (blocks (2 * f.bits) (f.bits / 4) highFirst bs).foldl (fun state block =>
    addWords f.bits state
      ((List.range f.rounds).foldl (f.round additions (f.schedule block)) state)) start
  final.flatMap (highFirst (f.bits / 8))

def sha256 (bs : List Nat) : List Nat :=
  narrow.digest narrowAdditions ((primes.take 8).map (rootFraction 2 32)) bs

def sha224 (bs : List Nat) : List Nat :=
  let start := ((primes.drop 8).take 8).map fun p => rootFraction 2 64 p % Nat.pow 2 32
  (narrow.digest narrowAdditions start bs).take 28

def sha512 (bs : List Nat) : List Nat :=
  wide.digest wideAdditions ((primes.take 8).map (rootFraction 2 64)) bs

def sha384 (bs : List Nat) : List Nat :=
  (wide.digest wideAdditions (((primes.drop 8).take 8).map (rootFraction 2 64)) bs).take 48

/-! ## Short checksums -/

/-- One byte of the cyclic checksum. -/
def cycleByte (crc byte : Nat) : Nat :=
  (List.range 8).foldl (fun c _ =>
    let next := c * 2 % Nat.pow 2 32
    if Nat.pow 2 31 ≤ c then next ^^^ 0x04C11DB7 else next) (crc ^^^ byte * Nat.pow 2 24)

/-- The bytes of a number without zeros in front, the lowest first. -/
def shortBytes (n : Nat) : List Nat :=
  (lowFirst 8 n).take ((Nat.log2 n + 8) / 8 * (if n = 0 then 0 else 1))

/-- The cyclic checksum. The length of the message counts as well. -/
def cyclic (bs : List Nat) : Nat :=
  flip 32 ((bs ++ shortBytes bs.length).foldl cycleByte 0)

/-- The checksum of 16 bits that is turned at each byte. -/
def turning (bs : List Nat) : Nat :=
  bs.foldl (fun s b => (turnRight 16 1 s + b) % Nat.pow 2 16) 0

/-- The sum of all bytes, folded to 16 bits. -/
def folded (bs : List Nat) : Nat :=
  let s := bs.foldl (· + ·) 0 % Nat.pow 2 32
  let r := s % Nat.pow 2 16 + s / Nat.pow 2 16
  r % Nat.pow 2 16 + r / Nat.pow 2 16

/-! ## Programs -/

def hex (bs : List Nat) : Text :=
  bs.flatMap fun b => Raw.padLeft '0' 2 (Nat.toDigits 16 b)

/-- The digest of a raw text in hexadecimal digits. -/
def ofText (digest : List Nat → List Nat) (t : Text) : Text :=
  hex (digest (t.map Char.toNat))

/-- The options of a program that writes or checks digests. -/
def digestSyntax : OptionSyntax where
  plain := "bctwz"
  long := [("binary", 'b', false), ("check", 'c', false), ("tag", 'T', false),
    ("text", 't', false), ("zero", 'z', false), ("ignore-missing", 'I', false),
    ("quiet", 'Q', false), ("status", 'S', false), ("strict", 'R', false), ("warn", 'w', false)]

/-- The digest and the name of the file on a line of a list of digests. -/
def listed? (label : String) (size : Nat) (l : Text) : Option (Text × Text) :=
  let isDigest (t : Text) : Bool :=
    t.length == size && t.all fun c => (charClass? "xdigit".toList).any (· c)
  match Text.after? (Raw.ofString (label ++ " (")) l with
  | some rest =>
    let digest := rest.drop (rest.length - size)
    let name := rest.take (rest.length - size)
    if isDigest digest && Text.endsWith (Raw.ofString ") = ") name then
      some (digest, name.take (name.length - 4))
    else none
  | none =>
    match isDigest (l.take size), l.drop size with
    | true, ' ' :: c :: name =>
      if (c = ' ' ∨ c = '*') ∧ !name.isEmpty then some (l.take size, name) else none
    | _, _ => none

structure Checked where
  stdout : Text := []
  stderr : Text := []
  matched : Nat := 0
  malformed : Nat := 0
  unread : Nat := 0
  ignored : Nat := 0
  wrong : Nat := 0

def counted (c : Call) (n : Nat) (one many : String) : Text :=
  if n = 0 then []
  else
    c.line (Raw.ofString "WARNING: " ++ Raw.ofNat n ++ Raw.ofString (if n = 1 then one else many))

/-- Checks one line of a list of digests. A list from the standard input cannot name this input. -/
def checkLine (label : String) (digest : List Nat → List Nat) (c : Call) (a : Arguments)
    (list : Text) (r : Checked) (l : Text) : Checked :=
  let said (quiet : Bool) (name : Text) (what : String) : Text :=
    if quiet || a.has 'S' then [] else name ++ Raw.ofString (": " ++ what ++ "\n")
  match (listed? label ((digest []).length * 2) l).filter (·.2 != ['-'] || list != ['-']) with
  | none => { r with malformed := r.malformed + 1 }
  | some (want, name) =>
    match c.read name with
    | none =>
      if a.has 'I' then { r with ignored := r.ignored + 1 }
      else
        { r with
          unread := r.unread + 1
          stderr := r.stderr ++ c.line (unreadable name "No such file or directory")
          stdout := r.stdout ++ said false name "FAILED open or read" }
    | some t =>
      if ofText digest t = want.map Char.toLower then
        { r with
          matched := r.matched + 1
          stdout := r.stdout ++ said (a.has 'Q') name "OK" }
      else
        { r with
          wrong := r.wrong + 1
          stdout := r.stdout ++ said false name "FAILED" }

def check (label : String) (digest : List Nat → List Nat) (c : Call) (a : Arguments) (i : Inputs) :
    Effect :=
  i.contents.foldl (fun (e : Effect) (name, t) =>
    let r := (Raw.lines t).foldl (checkLine label digest c a name) {}
    let shown := if name = ['-'] then Raw.ofString "'standard input'" else Raw.shownName name
    let failed := r.wrong != 0 || r.unread != 0 || (a.has 'R' && r.malformed != 0)
    if r.matched + r.wrong + r.unread = 0 then
      { e with
        stderr := e.stderr ++ r.stderr ++ c.line (shown ++ Raw.ofString
          (if r.ignored = 0 then ": no properly formatted checksum lines found"
            else ": no file was verified"))
        status := 1 }
    else
      let warnings := if a.has 'S' then []
        else
          counted c r.malformed " line is improperly formatted" " lines are improperly formatted" ++
          counted c r.unread " listed file could not be read" " listed files could not be read" ++
          counted c r.wrong " computed checksum did NOT match" " computed checksums did NOT match"
      { e with
        stdout := e.stdout ++ r.stdout
        stderr := e.stderr ++ r.stderr ++ warnings
        status := if failed then 1 else e.status }) (i.effect [] 0)

def digestLine (label : String) (a : Arguments) (tagged : Bool) (name digest : Text) : Text :=
  let break_ := if a.has 'z' then '\x00' else '\n'
  if tagged then
    Raw.ofString (label ++ " (") ++ name ++ Raw.ofString ") = " ++ digest ++ [break_]
  else digest ++ ' ' :: (if a.has 'b' then '*' else ' ') :: name ++ [break_]

/-- A program that writes the digests of its files, or checks them. -/
def digests (label : String) (digest : List Nat → List Nat) : Utility :=
  withArguments digestSyntax 1 fun c a =>
    let i := c.inputs a.operands
    if a.has 'c' then check label digest c a i
    else
      i.effect (i.contents.flatMap fun (name, t) =>
        digestLine label a (a.has 'T') name (ofText digest t)) 0

/-- A line with a short checksum, a size, and the name of the file if there is one. -/
def sizeLine (a : Arguments) (name : Text) (sum size : Text) : Text :=
  sum ++ ' ' :: size ++ (if a.operands.isEmpty then [] else ' ' :: name) ++ ['\n']

/-- How many units of some size are begun. -/
def begun (unit n : Nat) : Nat :=
  (n + unit - 1) / unit

/-- A line with the checksum that is turned at each byte. -/
def turningLine (a : Arguments) (name t : Text) : Text :=
  sizeLine a name (Raw.padLeft '0' 5 (Raw.ofNat (turning (t.map Char.toNat))))
    (Raw.padLeft ' ' 5 (Raw.ofNat (begun 1024 t.length)))

/-- A line with the sum of all bytes. -/
def foldedLine (a : Arguments) (name t : Text) : Text :=
  sizeLine a name (Raw.ofNat (folded (t.map Char.toNat))) (Raw.ofNat (begun 512 t.length))

/-- Writes short checksums. -/
def sum : Utility :=
  withArguments { plain := "rs", long := [("sysv", 's', false)] } 1 fun c a =>
    let i := c.inputs a.operands
    i.effect (i.contents.flatMap fun (name, t) =>
      if a.has 's' then foldedLine a name t else turningLine a name t) 0

/-- The digests that can be asked for by name, with their labels. -/
def named : List (String × String × (List Nat → List Nat)) :=
  [("md5", "MD5", md5), ("sha1", "SHA1", sha1), ("sha224", "SHA224", sha224),
    ("sha256", "SHA256", sha256), ("sha384", "SHA384", sha384), ("sha512", "SHA512", sha512)]

/-- Writes checksums of the kind that is asked for, by default cyclic ones. -/
def cksum : Utility :=
  withArguments { plain := "cwz", valued := "a"
                  long := [("algorithm", 'a', true), ("untagged", 'U', false),
                    ("zero", 'z', false)] } 1 fun c a =>
    let i := c.inputs a.operands
    let all (line : Text → Text → Text) : Effect :=
      i.effect (i.contents.flatMap fun (name, t) => line name t) 0
    match (a.value? 'a').map String.ofList with
    | none | some "crc" =>
      all fun name t =>
        sizeLine a name (Raw.ofNat (cyclic (t.map Char.toNat))) (Raw.ofNat t.length)
    | some "bsd" => all (turningLine a)
    | some "sysv" => all (foldedLine a)
    | some kind =>
      match named.find? (·.1 == kind) with
      | some (_, label, digest) =>
        all fun name t => digestLine label a (!a.has 'U') name (ofText digest t)
      | none =>
        let kinds := ["bsd", "sysv", "crc"] ++ named.map (·.1) ++ ["blake2b", "sm3"]
        c.misused (Raw.ofString ("invalid argument '" ++ kind ++
          "' for '--algorithm'\nValid arguments are:" ++
          String.join (kinds.map fun k => "\n  - '" ++ k ++ "'"))) 1

end Digest

end External

end SmartyLayout
