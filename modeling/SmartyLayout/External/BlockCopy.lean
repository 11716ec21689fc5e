import SmartyLayout.External.Dump

/-!
# SmartyLayout.External.BlockCopy — copying in blocks

What the utility `dd` does with the bytes of its input: it reads some blocks, changes them, and
writes them in blocks of another size.
-/

namespace SmartyLayout

namespace External

namespace BlockCopy

inductive Count where
  | blocks (n : Nat)
  | bytes (n : Nat)
deriving DecidableEq, Repr

def Count.size (blockSize : Nat) : Count → Nat
  | .blocks n => n * blockSize
  | .bytes n => n

structure Job where
  source : Option Text := none
  target : Option Text := none
  inputSize : Nat := 512
  outputSize : Nat := 512
  /-- Input blocks are written as they are read. -/
  sameBlocks : Bool := false
  count : Option Count := none
  skip : Count := .blocks 0
  seek : Count := .blocks 0
  conversions : List Text := []
  /-- What is reported: everything, no times, or nothing. -/
  report : Text := []

/-- A size: factors with units, joined by `x`. -/
def size? (t : Text) : Option Nat :=
  (t.splitOn 'x').foldlM (fun n f => (Dump.byteCount? f).map (n * ·)) 1

/-- A count, of bytes if a `B` ends it. -/
def count? (t : Text) : Option Count :=
  match t.getLast? with
  | some 'B' =>
    if (t.dropLast.getLast?.any Char.isDigit) then (size? t.dropLast).map .bytes
    else (size? t).map .blocks
  | _ => (size? t).map .blocks

def knownConversions : List String :=
  ["lcase", "ucase", "swab", "sync", "notrunc", "noerror", "fsync", "fdatasync", "nocreat", "excl",
    "sparse"]

/-- Why a job cannot be understood; some complaints come with a hint. -/
structure Fault where
  message : Text
  hint : Bool

def readOperand (j : Job) (operand : Text) : Except Fault Job :=
  let name := String.ofList (operand.takeWhile (· != '='))
  let value := operand.drop (name.length + 1)
  let invalid (t : Text) : Fault := ⟨Raw.ofString "invalid number: " ++ Raw.quoted t, false⟩
  let unknown : Fault := ⟨Raw.ofString "unrecognized operand " ++ Raw.quoted operand, true⟩
  let size (use : Nat → Job) : Except Fault Job :=
    match size? value with
    | some (n + 1) => .ok (use (n + 1))
    | _ => .error (invalid value)
  let count (use : Count → Job) : Except Fault Job :=
    match count? value with
    | some n => .ok (use n)
    | none => .error (invalid value)
  if !operand.any (· == '=') then .error unknown
  else
    match name with
    | "if" => .ok { j with source := some value }
    | "of" => .ok { j with target := some value }
    | "ibs" => size fun n => { j with inputSize := n }
    | "obs" => size fun n => { j with outputSize := n }
    | "bs" => size fun n => { j with inputSize := n, outputSize := n, sameBlocks := true }
    | "cbs" => size fun _ => j
    | "count" => count fun n => { j with count := some n }
    | "skip" | "iseek" => count fun n => { j with skip := n }
    | "seek" | "oseek" => count fun n => { j with seek := n }
    | "status" => .ok { j with report := value }
    | "iflag" | "oflag" => .ok j
    | "conv" =>
      let parts := value.splitOn ','
      match parts.find? fun p => !knownConversions.any (·.toList == p) with
      | some p => .error ⟨Raw.ofString "invalid conversion: " ++ Raw.quoted p, true⟩
      | none => .ok { j with conversions := j.conversions ++ parts }
    | _ => .error unknown

/-- The bytes of each pair in the other order. -/
def swapPairs : Text → Text
  | a :: b :: t => b :: a :: swapPairs t
  | t => t

def blocks (size : Nat) : (fuel : Nat) → Text → List Text
  | 0, _ => []
  | _, [] => []
  | fuel + 1, t => t.take size :: blocks size fuel (t.drop size)

structure Copied where
  output : Text
  /-- What is left of the input. -/
  left : Text
  /-- Whole blocks and others that were read and written. -/
  readWhole : Nat
  readPart : Nat
  writtenWhole : Nat
  writtenPart : Nat
  /-- The input has less than is to be skipped. -/
  short : Bool

def Job.copy (j : Job) (input : Text) : Copied :=
  let skipped := j.skip.size j.inputSize
  let rest := input.drop skipped
  let wanted := match j.count with
    | some n => rest.take (n.size j.inputSize)
    | none => rest
  let read := blocks j.inputSize wanted.length wanted
  let has (c : String) : Bool := j.conversions.contains c.toList
  let convert (t : Text) : Text :=
    let t := if has "sync" then t ++ List.replicate (j.inputSize - t.length) '\x00' else t
    let t := if has "swab" then swapPairs t else t
    if has "ucase" then t.map Char.toUpper else if has "lcase" then t.map Char.toLower else t
  let converted := read.map convert
  let output := converted.flatten
  let written := if j.sameBlocks then converted else blocks j.outputSize output.length output
  let whole (size : Nat) (bs : List Text) : Nat := (bs.filter (·.length == size)).length
  { output, left := rest.drop wanted.length
    readWhole := whole j.inputSize read
    readPart := read.length - whole j.inputSize read
    writtenWhole := whole j.outputSize written
    writtenPart := written.length - whole j.outputSize written
    short := input.length < skipped }

def Job.reportOf (j : Job) (c : Copied) : Text :=
  let counts (whole part : Nat) (what : String) : Text :=
    Raw.ofNat whole ++ '+' :: Raw.ofNat part ++ Raw.ofString (" records " ++ what ++ "\n")
  let bytes := Raw.ofNat c.output.length ++
    Raw.ofString (if c.output.length = 1 then " byte copied" else " bytes copied")
  if j.report = "none".toList then []
  else
    counts c.readWhole c.readPart "in" ++ counts c.writtenWhole c.writtenPart "out" ++
      (if j.report = "noxfer".toList then [] else bytes ++ Raw.ofString ", 0.0001 s, 0 B/s\n")

/-- What a file holds after its bytes from some place on have been written. -/
def Job.written (j : Job) (before output : Text) : Text :=
  let start := j.seek.size j.outputSize
  let front := before.take start
  let front := front ++ List.replicate (start - front.length) '\x00'
  let behind := if j.conversions.contains "notrunc".toList then before.drop (start + output.length)
    else []
  front ++ output ++ behind

end BlockCopy

end External

end SmartyLayout
