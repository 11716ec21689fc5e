import SmartyLayout.Text.Composite

/-!
# SmartyLayout.Text.Normal — one spelling for each text

A letter with marks can be written as one character or as several, and marks can stand in several
orders. The normal form of a text has characters joined as far as possible and marks in the order of
their classes, so that two spellings of a text have one normal form.
-/

namespace SmartyLayout

namespace Normal

/-! ## Syllables -/

/-- The first of the syllables that are made of two or three letters by counting. -/
def syllables : Nat := 0xAC00

/-- The letters that begin, fill and end a syllable, each kind from its first character on. -/
def leads : Nat := 0x1100

@[inherit_doc leads]
def vowels : Nat := 0x1161

@[inherit_doc leads]
def tails : Nat := 0x11A7

def letters? (n : Nat) : Option (List Nat) :=
  let i := n - syllables
  if syllables ≤ n ∧ i < 11172 then
    let body := [leads + i / 588, vowels + i % 588 / 28]
    some (if i % 28 = 0 then body else body ++ [tails + i % 28])
  else none

/-- The syllable that two letters begin, or that a letter ends. -/
def syllable? (a b : Nat) : Option Nat :=
  if leads ≤ a ∧ a < leads + 19 ∧ vowels ≤ b ∧ b < vowels + 21 then
    some (syllables + ((a - leads) * 21 + (b - vowels)) * 28)
  else if syllables ≤ a ∧ a < syllables + 11172 ∧ (a - syllables) % 28 = 0 ∧ tails < b ∧
      b < tails + 28 then
    some (a + (b - tails))
  else none

/-! ## Parts -/

/-- The row of a table that begins with a number, without that number. -/
def row? (rows : List (List Nat)) (n : Nat) : Option (List Nat) :=
  (rows.find? (·.head? == some n)).map List.tail

/-- The parts of a character, each of which may have parts itself. -/
def halves? (n : Nat) : Option (List Nat) :=
  letters? n <|> row? Composite.joined n <|> row? Composite.split n <|> row? Composite.twins n

/-- The characters that a character is made of; `fuel` bounds the depth of parts within parts. -/
def partsFrom : (fuel : Nat) → Nat → List Nat
  | 0, n => [n]
  | fuel + 1, n =>
    match halves? n with
    | none => [n]
    | some ps => ps.flatMap (partsFrom fuel)

/-- The characters that a character is made of. No character has parts at more than four depths. -/
def parts (n : Nat) : List Nat :=
  if n < 0xC0 then [n] else partsFrom 4 n

/-- The character that two others are joined to. -/
def joined? (a b : Nat) : Option Nat :=
  syllable? a b <|> (Composite.joined.find? (·.tail == [a, b])).bind List.head?

/-! ## Marks -/

/-- The class of a mark; everything that is no mark has class zero. -/
def markClass (n : Nat) : Nat :=
  if n < 0x300 then 0
  else
    (Composite.classRows.findSome? fun
      | [first, last, c] => if first ≤ n ∧ n ≤ last then some c else none
      | _ => none).getD 0

/-- Puts a character behind a reversed text. A mark goes in front of marks of a higher class. -/
def insertMark (n : Nat) : List Nat → List Nat
  | [] => [n]
  | m :: ms =>
    if markClass n ≠ 0 ∧ markClass n < markClass m then m :: insertMark n ms else n :: m :: ms

def ordered (t : List Nat) : List Nat :=
  (t.foldl (fun done n => insertMark n done) []).reverse

/-! ## Joining -/

/-- A text whose characters are being joined: what is done, latest first, the letter that marks are
joined to, and the marks behind it that were not, latest first. -/
structure Joiner where
  done : List Nat := []
  letter : Option Nat := none
  marks : List Nat := []

/-- The whole text, latest character first. -/
def Joiner.all (j : Joiner) : List Nat :=
  j.marks ++ j.letter.toList ++ j.done

/-- Reads a character. It is joined to the letter in front unless a mark between them keeps it
away. -/
def Joiner.push (j : Joiner) (n : Nat) : Joiner :=
  let c := markClass n
  let near := j.marks.head?.all fun m => markClass m < c
  match if near then j.letter.bind (joined? · n) else none with
  | some whole => { j with letter := some whole }
  | none =>
    if c = 0 then { done := j.all, letter := some n }
    else { j with marks := n :: j.marks }

def form (t : List Nat) : List Nat :=
  ((ordered (t.flatMap parts)).foldl Joiner.push {}).all.reverse

end Normal

end SmartyLayout
