import SmartyLayout.Text.Utf8

/-!
# SmartyLayout.File.Glob — file name patterns

A pattern is read into parts and matched against the bytes of a path as a whole:

* `?` is one byte, `*` any bytes, `[...]` a class of bytes, `{a,b}` a choice;
* `**` between slashes spans any number of directories;
* a backslash takes the next character as it is.

Under `strict` separators `?` and `*` do not match a slash.
-/

namespace SmartyLayout

namespace Glob

inductive Part where
  | literal (c : Char)
  | any
  | star
  /-- `**` in front: any directories, or none. -/
  | leadingDirs
  /-- `**` at the end: whatever is inside. -/
  | inside
  /-- `**` in the middle: a slash, or any directories between two. -/
  | innerDirs
  | range (negated : Bool) (ranges : List (Char × Char))
  | choice (branches : List (List Part))
deriving Repr

/-- Why a text is no pattern. -/
inductive Fault where
  | unclosedClass
  | invalidRange (first last : Char)
  | unopenedChoice
  | unclosedChoice
  | danglingEscape
deriving DecidableEq, Repr

def Fault.message (glob : Text) (f : Fault) : String :=
  let pattern := String.ofList glob
  "error parsing glob '" ++ pattern ++ "': " ++
    match f with
    | .unclosedClass => "unclosed character class; missing ']'"
    | .invalidRange first last => s!"invalid range; '{first}' > '{last}'"
    | .unopenedChoice =>
      "unopened alternate group; missing '\x7b' (maybe escape '\x7d' with '[\x7d]'?)"
    | .unclosedChoice =>
      "unclosed alternate group; missing '\x7d' (maybe escape '\x7b' with '[\x7b]'?)"
    | .danglingEscape => "dangling '\\'"

/-! ## Classes -/

/-- A class under reading: its ranges, latest first, and whether the last character was a dash that
may continue a range. -/
structure ClassState where
  ranges : List (Char × Char) := []
  first : Bool := true
  inRange : Bool := false

/-- Reads a class behind its opening bracket and negation. Gives its ranges in order and the number
of characters through the closing bracket; none if it is never closed. -/
def readRanges : ClassState → Text → Except Fault (Option (List (Char × Char) × Nat))
  | _, [] => .ok none
  | st, c :: cs =>
    let later (st : ClassState) := (readRanges st cs).map (·.map fun (rs, n) => (rs, n + 1))
    -- in front a bracket or a dash stands for itself, and a dash also at the end
    if c = ']' ∧ !st.first then
      .ok (some ((if st.inRange then ('-', '-') :: st.ranges else st.ranges).reverse, 1))
    else if c = '-' ∧ !st.first ∧ !st.inRange then later { st with inRange := true }
    else if st.inRange then
      match st.ranges with
      | (lo, _) :: rs =>
        if c < lo then .error (.invalidRange lo c)
        else later { ranges := (lo, c) :: rs, first := false }
      | [] => later { ranges := [(c, c)], first := false }
    else later { ranges := (c, c) :: st.ranges, first := false }

/-- Reads a class behind its opening bracket. -/
def readClass (cs : Text) : Except Fault (Option (Part × Nat)) :=
  let negated := cs.head? = some '!' ∨ cs.head? = some '^'
  let body := if negated then cs.tail else cs
  (readRanges {} body).map (·.map fun (rs, n) =>
    (.range negated rs, if negated then n + 1 else n))

/-! ## Patterns -/

/-- How patterns are read. -/
structure Rules where
  /-- `?` and `*` stop at slashes. -/
  strict : Bool := false
  /-- A bracket that opens no class is an ordinary character. -/
  lenientClass : Bool := false
deriving DecidableEq, Repr

/-- A pattern under reading. All lists are latest first. -/
structure ReadState where
  /-- Parts of the current branch. -/
  parts : List Part := []
  /-- For each open choice, the parts in front of it and its finished branches. -/
  choices : List (List Part × List (List Part)) := []
  previous : Option Char := none
  /-- A bracket was found that opens no class. -/
  strayBracket : Bool := false

namespace ReadState

def push (st : ReadState) (p : Part) : ReadState :=
  { st with parts := p :: st.parts }

/-- What the second star of `**` reads as: the state behind it, and whether it takes the slash that
follows. -/
def doubleStar (st : ReadState) (following : Option Char) : ReadState × Bool :=
  let plain := ((st.push .star).push .star, false)
  let inChoice := !st.choices.isEmpty
  if st.parts.isEmpty then
    match following with
    | none => (st.push .leadingDirs, false)
    | some '/' => (st.push .leadingDirs, true)
    | some _ => plain
  else if st.previous ≠ some '/' ∧
      !(inChoice ∧ (st.previous = some ',' ∨ st.previous = some '{')) then plain
  else
    -- the slash in front of the stars belongs to the part they make
    let swap (p : Part) (takesSlash : Bool) : ReadState × Bool :=
      match st.parts with
      | .leadingDirs :: _ | .inside :: _ => (st, takesSlash)
      | _ :: ps => ({ st with parts := p :: ps }, takesSlash)
      | [] => ({ st with parts := [p] }, takesSlash)
    match following with
    | none => swap .inside false
    | some '/' => swap .innerDirs true
    | some c => if inChoice ∧ (c = ',' ∨ c = '}') then swap .inside false else plain

end ReadState

/-- Reads the rest of a pattern; `skip` counts the characters already dealt with. -/
def readFrom (rules : Rules) : Nat → ReadState → Text → Except Fault ReadState
  | _, st, [] => .ok st
  | skip + 1, st, c :: cs => readFrom rules skip { st with previous := some c } cs
  | 0, st, c :: cs =>
    let go (skip : Nat) (next : ReadState) :=
      readFrom rules skip { next with previous := some c } cs
    if c = '?' then go 0 (st.push .any)
    else if c = '*' then
      match cs with
      | '*' :: later =>
        let (next, takesSlash) := st.doubleStar later.head?
        go (if takesSlash then 2 else 1) next
      | _ => go 0 (st.push .star)
    else if c = '[' ∧ !st.strayBracket then
      match readClass cs with
      | .error e => .error e
      | .ok (some (p, n)) => go n (st.push p)
      | .ok none =>
        -- no later bracket opens a class: the end of that one would have closed this one
        if rules.lenientClass then go 0 { st.push (.literal c) with strayBracket := true }
        else .error .unclosedClass
    else if c = '{' then go 0 { st with parts := [], choices := (st.parts, []) :: st.choices }
    else if c = '}' then
      match st.choices with
      | [] => .error .unopenedChoice
      | (before, branches) :: outer =>
        let all := (st.parts :: branches).reverse.map List.reverse
        go 0 { st with parts := .choice all :: before, choices := outer }
    else if c = ',' then
      match st.choices with
      | [] => go 0 (st.push (.literal c))
      | (before, branches) :: outer =>
        go 0 { st with parts := [], choices := (before, st.parts :: branches) :: outer }
    else if c = '\\' then
      match cs with
      | [] => .error .danglingEscape
      | e :: _ => go 1 (st.push (.literal e))
    else go 0 (st.push (.literal c))

end Glob

/-- A pattern for paths. -/
structure Glob where
  parts : List Glob.Part
  strict : Bool := false

namespace Glob

def parse (rules : Rules) (t : Text) : Except Fault Glob :=
  match readFrom rules 0 {} t with
  | .error e => .error e
  | .ok st =>
    if st.choices.isEmpty then .ok { parts := st.parts.reverse, strict := rules.strict }
    else .error .unclosedChoice

/-! ## Matching -/

def slash : UInt8 := 47

/-- A range of characters as ranges of bytes: the last byte of the first character through the
first byte of the last one, and the other bytes by themselves. -/
def byteRanges (r : Char × Char) : List (UInt8 × UInt8) :=
  let lo := String.utf8EncodeChar r.1
  let hi := String.utf8EncodeChar r.2
  if r.1 = r.2 then lo.map fun b => (b, b)
  else
    (lo.dropLast.map fun b => (b, b)) ++
      (match lo.getLast?, hi.head? with
        | some a, some b => [(a, b)]
        | _, _ => []) ++
      hi.tail.map fun b => (b, b)

def inRanges (ranges : List (Char × Char)) (b : UInt8) : Bool :=
  (ranges.flatMap byteRanges).any fun r => r.1 ≤ b && b ≤ r.2

/-- The part of the bytes behind a fixed beginning. -/
def afterBytes? : Bytes → Bytes → Option Bytes
  | [], bs => some bs
  | _ :: _, [] => none
  | p :: ps, b :: bs => if p = b then afterBytes? ps bs else none

/-- Every end of the bytes that can be reached over bytes `p` accepts. -/
def tailsOver (p : UInt8 → Bool) : Bytes → List Bytes
  | [] => [[]]
  | b :: bs => (b :: bs) :: if p b then tailsOver p bs else []

/-- Every end of the bytes that follows a slash. -/
def behindSlashes : Bytes → List Bytes
  | [] => []
  | b :: bs => if b = slash then bs :: behindSlashes bs else behindSlashes bs

mutual

/-- A part is written with nothing at all: a choice among empty branches. -/
def Part.isVoid : Part → Bool
  | .choice branches => branchesVoid branches
  | _ => false

def partsVoid : List Part → Bool
  | [] => true
  | p :: ps => p.isVoid && partsVoid ps

def branchesVoid : List (List Part) → Bool
  | [] => true
  | b :: bs => partsVoid b && branchesVoid bs

end

mutual

/-- What can be left of the bytes behind a part. -/
def Part.rests (strict : Bool) : Part → Bytes → List Bytes
  | .literal c, bs => (afterBytes? (String.utf8EncodeChar c) bs).toList
  | .any, bs =>
    match bs with
    | b :: rest => if strict && b == slash then [] else [rest]
    | [] => []
  | .star, bs => tailsOver (fun b => !(strict && b == slash)) bs
  | .leadingDirs, bs => bs :: behindSlashes bs
  | .inside, bs =>
    match bs with
    | b :: rest => if b = slash then tailsOver (fun _ => true) rest else []
    | [] => []
  | .innerDirs, bs =>
    match bs with
    | b :: rest => if b = slash then rest :: behindSlashes rest else []
    | [] => []
  | .range negated ranges, bs =>
    match bs with
    | b :: rest => if inRanges ranges b != negated then [rest] else []
    | [] => []
  | .choice branches, bs =>
    if branchesVoid branches then [bs] else branchRests strict branches bs

/-- What can be left behind a sequence of parts, of any of the given bytes. -/
def seqRests (strict : Bool) : List Part → List Bytes → List Bytes
  | [], inputs => inputs
  | p :: ps, inputs => seqRests strict ps (inputs.flatMap (p.rests strict)).eraseDups

/-- What can be left of the bytes behind one of the branches; a void branch is no choice. -/
def branchRests (strict : Bool) : List (List Part) → Bytes → List Bytes
  | [], _ => []
  | b :: bs, input =>
    (if partsVoid b then [] else seqRests strict b [input]) ++ branchRests strict bs input

end

/-- The pattern matches a path as a whole. A pattern that is `**` alone matches everything. -/
def isMatch (g : Glob) (path : Text) : Bool :=
  match g.parts with
  | [.leadingDirs] => true
  | parts => (seqRests g.strict parts [Utf8.encode path]).contains []

end Glob

end SmartyLayout
