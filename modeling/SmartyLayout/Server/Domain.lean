import SmartyLayout.Server.Domain.Folding
import SmartyLayout.Server.Domain.Letter
import SmartyLayout.Text.Normal
import SmartyLayout.Text.Search

/-!
# SmartyLayout.Server.Domain — names of hosts

Two spellings of a domain name are equal if their folded forms are: each character is replaced by
what it stands for, the whole is in normal form, and a label that begins with `xn--` is read as the
text it stands for. A name that holds a forbidden character has no folded form, nor has one whose
marks, joiners or directions are out of place.
-/

namespace SmartyLayout

namespace Domain

/-! ## Labels in ASCII -/

/-- The value of a digit in base 36: letters come before figures. -/
def digitValue? (c : Char) : Option Nat :=
  if 'a' ≤ c ∧ c ≤ 'z' then some (c.toNat - 'a'.toNat)
  else if '0' ≤ c ∧ c ≤ '9' then some (c.toNat - '0'.toNat + 26)
  else none

/-- The digit at a place that ends a number lies below this bound. -/
def threshold (place bias : Nat) : Nat :=
  min 26 (max 1 (place - bias))

/-- Divides by 35 until at most 455 is left, and counts the places this takes. -/
def scaleDown (places n : Nat) : Nat × Nat :=
  if 455 < n then scaleDown (places + 36) (n / 35) else (places, n)
termination_by n
decreasing_by exact Nat.div_lt_self (by omega) (by omega)

/-- The bias for the next number, after `n` has led to the text of length `size`. -/
def adapt (n size : Nat) (first : Bool) : Nat :=
  let n := if first then n / 700 else n / 2
  let (places, n) := scaleDown 0 (n + n / size)
  places + 36 * n / (n + 38)

/-- Where the decoder of a label stands. -/
structure Decoder where
  text : Text
  /-- The character to be put in next. -/
  code : Nat := 128
  /-- The place where the latest character was put. -/
  index : Nat := 0
  bias : Nat := 72
  /-- No character has been put in. -/
  first : Bool := true

/-- Puts a character in, as far behind the latest one as `delta` says. -/
def Decoder.insert (d : Decoder) (delta : Nat) : Option Decoder :=
  let size := d.text.length + 1
  let place := d.index + delta
  let code := d.code + place / size
  let at' := place % size
  if code < 0x110000 ∧ ¬ (0xD800 ≤ code ∧ code < 0xE000) then
    some { text := d.text.take at' ++ Char.ofNat code :: d.text.drop at'
           code, index := at' + 1, bias := adapt delta size d.first, first := false }
  else none

/-- The numbers of a label and their weights have at most 32 bits. -/
def numberLimit : Nat := 0x100000000

/-- Reads numbers and puts a character in for each; `place`, `weight` and `delta` belong to the
number that is being read. -/
def decodeDigits (d : Decoder) : (place weight delta : Nat) → Text → Option Text
  | place, _, _, [] => if place = 36 then some d.text else none
  | place, weight, delta, c :: cs =>
    match digitValue? c with
    | none => none
    | some digit =>
      let bound := threshold place d.bias
      let delta := delta + digit * weight
      if numberLimit ≤ d.index + delta then none
      else if digit < bound then
        match d.insert delta with
        | none => none
        | some d => decodeDigits d 36 1 0 cs
      else if numberLimit ≤ weight * (36 - bound) then none
      else decodeDigits d (place + 36) (weight * (36 - bound)) delta cs

/-- The text that a label stands for: its ASCII characters come first, and numbers behind the last
hyphen say which others to put in where. A hyphen in front of everything divides nothing. -/
def decodeLabel? (t : Text) : Option Text :=
  let tail := (t.reverse.takeWhile (· != '-')).reverse
  if tail.length + 1 = t.length then none
  else decodeDigits { text := t.take (t.length - tail.length - 1) } 36 1 0 tail

/-! ## Folding -/

/-- ASCII characters that stand in no domain name. -/
def isForbidden (c : Char) : Bool :=
  c.toNat ≤ 0x20 || c.toNat == 0x7F || "%#/:<>?@[\\]^|".toList.any (· == c)

/-- What the characters of a name become, one by one. -/
def foldCodes : Text → Option (List Nat)
  | [] => some []
  | c :: cs => do
    let ns ← (Normal.parts c.toNat).mapM folded?
    let later ← foldCodes cs
    some (ns.flatten ++ later)

/-- The characters of a name, folded and in normal form. -/
def foldChars (t : Text) : Option Text := do
  let t ← if t.all (·.toNat < 0x80) then some (t.map Char.toLower)
    else (foldCodes t).map fun ns => (Normal.form ns).map Char.ofNat
  if t.any isForbidden then none else some t

/-! ## Labels -/

/-- The class of the marks that join the consonants on both sides. -/
def joiningClass : Nat := 9

/-- The text has a letter of some kind in front, behind nothing but attached characters. -/
def leadsTo (kind : Nat → Bool) (t : List Nat) : Bool :=
  (t.dropWhile fun n => isAttached n && !kind n).head?.any kind

/-- An invisible joiner stands behind a mark that joins; the one that keeps letters apart may also
stand between letters that would join. Both texts lead away from the joiner. -/
def joinerFits (apart : Bool) (before after : List Nat) : Bool :=
  before.head?.any (Normal.markClass · == joiningClass) ||
    (apart && leadsTo joinsForward before && leadsTo joinsBackward after)

/-- All invisible joiners of a label stand in their places; `before` is what precedes, latest
first. -/
def joinersFit : (before : List Nat) → List Nat → Bool
  | _, [] => true
  | before, n :: later =>
    (!(n == 0x200C || n == 0x200D) || joinerFits (n == 0x200C) before later) &&
      joinersFit (n :: before) later

/-- The most characters of a label outside ASCII, and of one that stands for a text. -/
def longestLabel : Nat := 1000

@[inherit_doc longestLabel]
def longestCode : Nat := 2000

/-- A label may stand in a name: no mark is in front, joiners are in place, and it is not too
long. -/
def isLabel (t : Text) : Bool :=
  let ns := t.map Char.toNat
  !ns.head?.any isMark && joinersFit [] ns &&
    (t.all (·.toNat < 0x80) || t.length ≤ longestLabel)

/-- A folded label; one that stands for a text must stand for a folded text outside ASCII. -/
def readLabel? (label : Text) : Option Text := do
  let t ← match Text.after? "xn--".toList label with
    | none => some label
    | some rest => do
      let t ← if rest.length ≤ longestCode then decodeLabel? rest else none
      if foldChars t = some t ∧ t.any (0x80 ≤ ·.toNat) then some t else none
  if isLabel t then some t else none

/-- The labels of a name, each read on its own. -/
def readLabels : List Text → Option (List Text)
  | [] => some []
  | l :: ls => do
    let t ← readLabel? l
    let ts ← readLabels ls
    some (t :: ts)

/-! ## Directions -/

def runsLeft (t : Text) : Bool :=
  t.any fun c => direction c.toNat == .right || direction c.toNat == .arabicNumber

/-- A label keeps one direction, from its first letter to its last letter or digit. -/
def keepsDirection (label : Text) : Bool :=
  match label.map (direction ·.toNat) with
  | [] => true
  | first :: later =>
    match later.reverse.dropWhile (· == .mark) with
    | [] => first == .left || first == .right
    | last :: middle =>
      match first with
      | .left =>
        (last == .left || last == .europeanNumber) &&
          middle.all fun d => d != .right && d != .arabicNumber
      | .right =>
        (last == .right || last == .europeanNumber || last == .arabicNumber) &&
          middle.all (· != .left) &&
          !((last :: middle).contains .europeanNumber && (last :: middle).contains .arabicNumber)
      | _ => false

/-- The folded form of a name. In a name with a text that runs from right to left, all labels have
to keep their directions. -/
def fold (t : Text) : Option Text := do
  let labels ← readLabels ((← foldChars t).splitOn '.')
  if labels.any runsLeft && !labels.all keepsDirection then none
  else some (List.intercalate ['.'] labels)

end Domain

end SmartyLayout
