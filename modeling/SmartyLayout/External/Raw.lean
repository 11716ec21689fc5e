import SmartyLayout.Text.Search
import SmartyLayout.Text.Utf8

/-!
# SmartyLayout.External.Raw — bytes as characters

Programs read and write bytes. Here a byte is the character of the same number, so that text
functions apply; such a text is called raw.
-/

namespace SmartyLayout

namespace External

namespace Raw

def ofBytes (bs : Bytes) : Text :=
  bs.map fun b => Char.ofNat b.toNat

def toBytes (t : Text) : Bytes :=
  t.map fun c => UInt8.ofNat c.toNat

def ofText (t : Text) : Text :=
  ofBytes (Utf8.encode t)

def ofString (s : String) : Text :=
  ofText s.toList

/-- The decimal digits of a natural number. -/
def ofNat (n : Nat) : Text :=
  (toString n).toList

/-- The decimal digits of an integer. -/
def ofInt (n : Int) : Text :=
  (toString n).toList

/-- Digits of a base at the front of a text, as a number. -/
def digits (base : Nat) (t : Text) : Nat :=
  t.foldl (fun n c =>
    n * base + (if c.isDigit then c.toNat - '0'.toNat else c.toLower.toNat - 'a'.toNat + 10)) 0

/-- A natural number in decimal digits. -/
def nat? (t : Text) : Option Nat :=
  if !t.isEmpty && t.all Char.isDigit then some (digits 10 t) else none

/-- An integer in decimal digits, with or without a sign. -/
def int? : Text → Option Int
  | '-' :: t => (nat? t).map fun n => -(n : Int)
  | '+' :: t => (nat? t).map Int.ofNat
  | t => (nat? t).map Int.ofNat

/-- What letters behind a number multiply it with; some programs know more of them. -/
def multiplier? (more : Bool) (t : Text) : Option Nat :=
  let power (c : Char) : Option Nat :=
    ["kK", "mM", "gG", "tT", "P", "E", "Z", "Y", "R", "Q"].findIdx? fun s => s.toList.any (· == c)
  match t with
  | [] => some 1
  | ['c'] => if more then some 1 else none
  | ['w'] => if more then some 2 else none
  | ['b'] => some 512
  | [c] | [c, 'i', 'B'] => (power c).map fun n => Nat.pow 1024 (n + 1)
  | [c, 'B'] => (power c).map fun n => Nat.pow 1000 (n + 1)
  | _ => none

/-- A number with a multiplier; a multiplier alone is one. -/
def scaled? (t : Text) : Option Nat :=
  let ds := t.takeWhile Char.isDigit
  if t.isEmpty then none
  else (multiplier? false (t.drop ds.length)).map ((if ds.isEmpty then 1 else digits 10 ds) * ·)

/-- The parts of a text that end in a character, without it; the last one may lack it. -/
def records (ending : Char) (t : Text) : List Text :=
  if t.isEmpty then []
  else if t.getLast? = some ending then t.dropLast.splitOn ending
  else t.splitOn ending

/-- Records, each with its ending behind it. -/
def unrecords (ending : Char) (rs : List Text) : Text :=
  rs.flatMap (· ++ [ending])

/-- The lines of a text without their breaks; a break at the end begins no line. -/
def lines (t : Text) : List Text :=
  records '\n' t

def unlines (ls : List Text) : Text :=
  unrecords '\n' ls

def brokenLines (t : Text) : List Text :=
  let ls := lines t
  if t.getLast? = some '\n' then ls.map (· ++ ['\n'])
  else ls.dropLast.map (· ++ ['\n']) ++ ls.getLast?.toList

def isSpace (c : Char) : Bool :=
  c == ' ' || (9 ≤ c.toNat && c.toNat ≤ 13)

def words (t : Text) : List Text :=
  ((t.map fun c => if isSpace c then ' ' else c).splitOn ' ').filter (!·.isEmpty)

def padLeft (fill : Char) (width : Nat) (t : Text) : Text :=
  List.replicate (width - t.length) fill ++ t

def padRight (width : Nat) (t : Text) : Text :=
  t ++ List.replicate (width - t.length) ' '

/-- What stands behind the backslash for a character that cannot be printed. -/
def escapeLetters (c : Char) : Text :=
  match c.toNat with
  | 7 => ['a']
  | 8 => ['b']
  | 9 => ['t']
  | 10 => ['n']
  | 11 => ['v']
  | 12 => ['f']
  | 13 => ['r']
  | n => padLeft '0' 3 (Nat.toDigits 8 n)

/-- A character that can be printed. -/
def isPlain (c : Char) : Bool :=
  32 ≤ c.toNat && c.toNat ≤ 126

/-- A text between quotes, with backslashes in front of quotes and of what cannot be printed. -/
def quoted (t : Text) : Text :=
  '\x27' :: t.flatMap (fun c =>
    if !isPlain c then '\\' :: escapeLetters c
    else if c = '\x27' ∨ c = '\\' then ['\\', c] else [c]) ++ ['\x27']

/-- A text between quotes as a shell would read it; `escaped` says that the last character was one
that cannot be printed. -/
def shellQuoted : (escaped : Bool) → Text → Text
  | _, [] => ['\x27']
  | escaped, c :: cs =>
    if !isPlain c then
      (if escaped then [] else "'$'".toList) ++ '\\' :: escapeLetters c ++ shellQuoted true cs
    else if c = '\x27' then "'\\''".toList ++ shellQuoted false cs
    else (if escaped then "''".toList else []) ++ c :: shellQuoted false cs

/-- A file name as programs show it: in quotes where a shell would need them. A name with a single
quote is put between double ones if it holds nothing that is special there; otherwise what cannot be
printed at its end leaves an empty pair of quotes at its front. -/
def shownName (t : Text) : Text :=
  let special (c : Char) : Bool := "!\"$&()*;<=>[^\x60|?\\".toList.any (· == c)
  let leading := match t with
    | '#' :: _ | '~' :: _ => true
    | ['\x7b'] | ['\x7d'] => true
    | t => t.isEmpty
  let risky := leading || t.any fun c =>
    special c || !isPlain c || c == ' ' || c == ':' || c == '\x27'
  let late := t.tail.any fun c => c == '#' || c == '~'
  let braces := t.length ≠ 1 && t.any fun c => c == '\x7b' || c == '\x7d'
  if !risky then t
  else if !t.any (· == '\x27') then '\x27' :: shellQuoted false t
  else if late || braces || t.any (fun c => special c || !isPlain c) then
    '\x27' :: shellQuoted (t.getLast?.any fun c => !isPlain c) t
  else '"' :: t ++ ['"']

/-- A file name in quotes, whether it needs them or not. -/
def alwaysQuoted (t : Text) : Text :=
  let shown := shownName t
  if shown = t then '\x27' :: t ++ ['\x27'] else shown

def before (a b : Text) : Bool :=
  compare (a.map Char.toNat) (b.map Char.toNat) == .lt

end Raw

def charClass? (name : Text) : Option (Char → Bool) :=
  match String.ofList name with
  | "alpha" => some Char.isAlpha
  | "digit" => some Char.isDigit
  | "alnum" => some Char.isAlphanum
  | "upper" => some Char.isUpper
  | "lower" => some Char.isLower
  | "space" => some Raw.isSpace
  | "blank" => some fun c => c == ' ' || c == '\t'
  | "punct" => some fun c => 0x21 ≤ c.toNat && c.toNat ≤ 0x7E && !c.isAlphanum
  | "print" => some fun c => 0x20 ≤ c.toNat && c.toNat ≤ 0x7E
  | "graph" => some fun c => 0x21 ≤ c.toNat && c.toNat ≤ 0x7E
  | "cntrl" => some fun c => c.toNat < 0x20 || c.toNat == 0x7F
  | "xdigit" => some fun c =>
    c.isDigit || ('a' ≤ c.toLower && c.toLower ≤ 'f')
  | _ => none

/-- A character without its meaning in expressions: a number of 256 and more stands for the byte
that is 256 less, which is then no operator. -/
def quotedChar (c : Char) : Char :=
  Char.ofNat (c.toNat % 256 + 256)

/-- The character that is meant by one that may be quoted. -/
def bareChar (c : Char) : Char :=
  Char.ofNat (c.toNat % 256)

/-- The members of a bracket expression, and the text behind it; `first` says that a closing bracket
stands for itself. -/
def bracketMembers? : (fuel : Nat) → (first : Bool) → Text → Option (List (Char → Bool) × Text)
  | 0, _, _ => none
  | fuel + 1, first, t =>
    match t with
    | [] => none
    | ']' :: cs =>
      if first then (bracketMembers? fuel false cs).map fun (ms, rest) => ((· == ']') :: ms, rest)
      else some ([], cs)
    | '[' :: ':' :: cs =>
      let name := cs.takeWhile (· != ':')
      match charClass? name, cs.drop name.length with
      | some accepts, ':' :: ']' :: rest =>
        (bracketMembers? fuel false rest).map fun (ms, rest) => (accepts :: ms, rest)
      | _, _ => none
    | a :: '-' :: b :: cs =>
      if b = ']' then
        (bracketMembers? fuel false ('-' :: b :: cs)).map fun (ms, rest) =>
          ((· == bareChar a) :: ms, rest)
      else
        (bracketMembers? fuel false cs).map fun (ms, rest) =>
          ((fun c => bareChar a ≤ c && c ≤ bareChar b) :: ms, rest)
    | a :: cs =>
      (bracketMembers? fuel false cs).map fun (ms, rest) => ((· == bareChar a) :: ms, rest)

/-- A bracket expression behind its opening bracket: which characters it stands for, and the text
behind it. The `signs` in front say that it stands for all others. -/
def bracket? (signs : Text) (t : Text) : Option ((Char → Bool) × Text) :=
  let negated := t.head?.any fun c => signs.any (· == c)
  (bracketMembers? (t.length + 1) true (if negated then t.tail else t)).map fun (ms, rest) =>
    ((fun c => (ms.any fun accepts => accepts c) != negated), rest)

end External

end SmartyLayout
