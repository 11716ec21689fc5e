import SmartyLayout.Data

/-!
# SmartyLayout.Toml.Scalar — strings, numbers and dates of settings files

Readers for the values that hold no other values. A reader is given the text in front of it and
gives the value with the text behind it, or nothing if the text is malformed.
-/

namespace SmartyLayout

namespace Toml

/-- A control character that may not stand in a settings file as such. -/
def isControl (c : Char) : Bool :=
  (c.toNat < 0x20 && c != '\t') || c.toNat == 0x7F

def isSpace (c : Char) : Bool :=
  c == ' ' || c == '\t'

/-! ## Digits -/

def digit? (base : Nat) (c : Char) : Option Nat :=
  let n := c.toNat
  let v? :=
    if '0'.toNat ≤ n ∧ n ≤ '9'.toNat then some (n - '0'.toNat)
    else if 'a'.toNat ≤ n ∧ n ≤ 'f'.toNat then some (n - 'a'.toNat + 10)
    else if 'A'.toNat ≤ n ∧ n ≤ 'F'.toNat then some (n - 'A'.toNat + 10)
    else none
  v?.filter (· < base)

/-- The number written by digits with single underscores between them. The flag tells whether a
digit precedes. -/
def numeralFrom (base : Nat) : (value : Nat) → (afterDigit : Bool) → Text → Option Nat
  | value, afterDigit, [] => if afterDigit then some value else none
  | value, afterDigit, c :: cs =>
    if c = '_' then (if afterDigit then numeralFrom base value false cs else none)
    else (digit? base c).bind fun d => numeralFrom base (value * base + d) true cs

/-- The number written by a whole text. -/
def numeral? (base : Nat) (t : Text) : Option Nat :=
  numeralFrom base 0 false t

/-- The number written by exactly `n` plain decimal digits. -/
def fixed? (n : Nat) (t : Text) : Option Nat :=
  if t.length = n ∧ t.all Char.isDigit then numeral? 10 t else none

/-! ## Strings -/

/-- The character written by hexadecimal digits. -/
def codePoint? (t : Text) : Option Char :=
  if t.any (· == '_') then none
  else
    (numeral? 16 t).bind fun n =>
      if n < 0xD800 ∨ (0xDFFF < n ∧ n < 0x110000) then some (Char.ofNat n) else none

/-- The escape behind a backslash: its character and the number of characters it takes. -/
def escape? : Text → Option (Char × Nat)
  | 'b' :: _ => some (Char.ofNat 8, 1)
  | 't' :: _ => some ('\t', 1)
  | 'n' :: _ => some ('\n', 1)
  | 'f' :: _ => some (Char.ofNat 12, 1)
  | 'r' :: _ => some ('\r', 1)
  | 'e' :: _ => some (Char.ofNat 27, 1)
  | '"' :: _ => some ('"', 1)
  | '\\' :: _ => some ('\\', 1)
  | 'x' :: cs => hex 2 cs
  | 'u' :: cs => hex 4 cs
  | 'U' :: cs => hex 8 cs
  | _ => none
where
  /-- A code point of exactly `n` digits. -/
  hex (n : Nat) (cs : Text) : Option (Char × Nat) :=
    if cs.length < n then none else (codePoint? (cs.take n)).map (·, n + 1)

/-- Reads a basic string behind its opening quote; `skip` counts the characters of an escape. -/
def basicFrom : Nat → Text → Option (Text × Text)
  | _, [] => none
  | skip + 1, _ :: cs => basicFrom skip cs
  | 0, c :: cs =>
    if c = '"' then some ([], cs)
    else if c = '\\' then do
      let (e, width) ← escape? cs
      let (t, rest) ← basicFrom width cs
      some (e :: t, rest)
    else if isControl c then none
    else (basicFrom 0 cs).map fun (t, rest) => (c :: t, rest)

/-- Reads a literal string behind its opening quote. -/
def literalFrom : Text → Option (Text × Text)
  | [] => none
  | c :: cs =>
    if c = '\x27' then some ([], cs)
    else if isControl c then none
    else (literalFrom cs).map fun (t, rest) => (c :: t, rest)

/-- The text behind a line break at the front of `t`. -/
def afterBreak? : Text → Option Text
  | '\n' :: cs => some cs
  | '\r' :: '\n' :: cs => some cs
  | _ => none

/-- The number of blanks and line breaks at the front of a text. -/
def blanksWidth : Text → Nat
  | [] => 0
  | c :: cs =>
    if isSpace c || c == '\n' || (c == '\r' && cs.head? == some '\n') then blanksWidth cs + 1 else 0

/-- The number of blanks and line breaks that a backslash at the end of a line swallows; `t` follows
the backslash. -/
def folded? (t : Text) : Option Nat :=
  let blanks := t.takeWhile isSpace
  match afterBreak? (t.drop blanks.length) with
  | none => none
  | some _ => some (blanksWidth t)

/-- The number of quotes `q` at the front of `t`, five at most. -/
def quoteRun (q : Char) (t : Text) : Nat :=
  min 5 (t.takeWhile (· == q)).length

/-- Reads a multi-line string behind its opening quotes. Up to two quotes may stand in front of the
closing ones. Escapes are read in basic strings only. -/
def multiFrom (q : Char) (escapes : Bool) : Nat → Text → Option (Text × Text)
  | _, [] => none
  | skip + 1, _ :: cs => multiFrom q escapes skip cs
  | 0, c :: cs =>
    let run := quoteRun q (c :: cs)
    if 3 ≤ run then some (List.replicate (run - 3) q, (c :: cs).drop run)
    else if c = '\\' ∧ escapes then
      match folded? cs with
      | some n => multiFrom q escapes n cs
      | none => do
        let (e, width) ← escape? cs
        let (t, rest) ← multiFrom q escapes width cs
        some (e :: t, rest)
    else if isControl c ∧ c ≠ '\n' ∧ !(c = '\r' ∧ cs.head? = some '\n') then none
    else (multiFrom q escapes 0 cs).map fun (t, rest) => (c :: t, rest)

/-- Reads a multi-line string behind its opening quotes; a line break right there does not count. -/
def multi? (q : Char) (escapes : Bool) (t : Text) : Option (Text × Text) :=
  multiFrom q escapes 0 ((afterBreak? t).getD t)

def lineString? : Text → Option (Text × Text)
  | '"' :: cs => basicFrom 0 cs
  | '\x27' :: cs => literalFrom cs
  | _ => none

/-- Reads a string of any form. -/
def string? : Text → Option (Text × Text)
  | '"' :: '"' :: '"' :: cs => multi? '"' true cs
  | '\x27' :: '\x27' :: '\x27' :: cs => multi? '\x27' false cs
  | t => lineString? t

/-! ## Numbers -/

/-- The sign in front of a number, and the number. -/
def sign : Text → Option Int × Text
  | '+' :: cs => (some 1, cs)
  | '-' :: cs => (some (-1), cs)
  | cs => (none, cs)

/-- A decimal number without leading zeros. -/
def decimal? (t : Text) : Option Nat :=
  if t.head? = some '0' ∧ t.length ≠ 1 then none else numeral? 10 t

def integer? (t : Text) : Option Int :=
  match t with
  | '0' :: 'x' :: cs => (numeral? 16 cs).map Int.ofNat
  | '0' :: 'o' :: cs => (numeral? 8 cs).map Int.ofNat
  | '0' :: 'b' :: cs => (numeral? 2 cs).map Int.ofNat
  | _ => (decimal? (sign t).2).map fun n => (sign t).1.getD 1 * Int.ofNat n

/-- The text holds an exponent: a mark, a sign and digits. -/
def isExponent : Text → Bool
  | c :: cs => (c == 'e' || c == 'E') && (numeral? 10 (sign cs).2).isSome
  | [] => false

/-- The text is written as a real number: a fraction, an exponent, or a word for infinity or for no
number. -/
def isReal (t : Text) : Bool :=
  let body := (sign t).2
  let whole := body.takeWhile fun c => c.isDigit || c == '_'
  let rest := body.drop whole.length
  body = "inf".toList || body = "nan".toList ||
    ((decimal? whole).isSome &&
      match rest with
      | '.' :: cs =>
        let fraction := cs.takeWhile fun c => c.isDigit || c == '_'
        let tail := cs.drop fraction.length
        (numeral? 10 fraction).isSome && (tail.isEmpty || isExponent tail)
      | _ => isExponent rest)

/-- The whole part, the fraction and the exponent of a real number without sign and underscores. -/
def realParts (t : Text) : Text × Text × Int :=
  let whole := t.takeWhile Char.isDigit
  let rest := t.drop whole.length
  let (fraction, rest) := match rest with
    | '.' :: cs => (cs.takeWhile Char.isDigit, cs.dropWhile Char.isDigit)
    | cs => ([], cs)
  let (s, digits) := sign rest.tail
  (whole, fraction, s.getD 1 * Int.ofNat ((numeral? 10 digits).getD 0))

/-- The least number that rounds to infinity: half a step above the greatest real of 64 bits. -/
def leastInfinite : Nat :=
  Nat.pow 2 1024 - Nat.pow 2 970

/-- A real number is too large for 64 bits. Its size in digits decides first, so that a huge
exponent costs nothing. -/
def overflows (t : Text) : Bool :=
  let (whole, fraction, exponent) := realParts ((sign t).2.filter (· != '_'))
  let mantissa := (numeral? 10 (whole ++ fraction)).getD 0
  let scale := exponent - Int.ofNat fraction.length
  let digits := scale + Int.ofNat (Nat.toDigits 10 mantissa).length
  if mantissa = 0 ∨ digits < 300 then false
  else if 310 < digits then true
  else
    leastInfinite * Nat.pow 10 (-scale).toNat ≤ mantissa * Nat.pow 10 scale.toNat

/-! ## Dates -/

def daysIn (year month : Nat) : Nat :=
  if month = 2 then
    if year % 4 = 0 ∧ (year % 100 ≠ 0 ∨ year % 400 = 0) then 29 else 28
  else if month = 4 ∨ month = 6 ∨ month = 9 ∨ month = 11 then 30
  else 31

def isDate (t : Text) : Bool :=
  ((do
    let year ← fixed? 4 (t.take 4)
    let month ← fixed? 2 ((t.drop 5).take 2)
    let day ← fixed? 2 (t.drop 8)
    some (t[4]? = some '-' && t[7]? = some '-' && 1 ≤ month && month ≤ 12 && 1 ≤ day &&
      day ≤ daysIn year month)) : Option Bool).getD false

def isHourMinute (t : Text) : Bool :=
  ((do
    let hour ← fixed? 2 (t.take 2)
    let minute ← fixed? 2 (t.drop 3)
    some (t[2]? = some ':' && hour ≤ 23 && minute ≤ 59)) : Option Bool).getD false

/-- The text is the rest of a time behind its minutes: nothing, or seconds with or without a
fraction. -/
def isSeconds : Text → Bool
  | [] => true
  | c :: cs =>
    c = ':' && (fixed? 2 (cs.take 2)).any (· ≤ 60) &&
      match cs.drop 2 with
      | [] => true
      | '.' :: fraction => !fraction.isEmpty && fraction.all Char.isDigit
      | _ => false

def isTime (t : Text) : Bool :=
  isHourMinute (t.take 5) && isSeconds (t.drop 5)

/-- The text is a time of day, with or without an offset. -/
def isOffsetTime (t : Text) : Bool :=
  isTime t ||
    match t.getLast? with
    | some 'Z' | some 'z' => isTime t.dropLast
    | _ =>
      let cut := t.length - 6
      (t[cut]? = some '+' || t[cut]? = some '-') && isHourMinute (t.drop (cut + 1)) &&
        isTime (t.take cut)

/-- The text is a date, a time, or both. -/
def isMoment (t : Text) : Bool :=
  isDate t || isTime t ||
    (isDate (t.take 10) &&
      match t.drop 10 with
      | c :: time => (c == 'T' || c == 't' || c == ' ') && isOffsetTime time
      | [] => false)

/-! ## Bare values -/

/-- A character of a value without quotes or brackets. -/
def isBare (c : Char) : Bool :=
  c.isAlphanum || c == '+' || c == '-' || c == '_' || c == '.' || c == ':'

/-- The text of the bare value at the front of `t`; a blank may divide a date from a time. -/
def bareText (t : Text) : Text :=
  let word := t.takeWhile isBare
  match t.drop word.length with
  | ' ' :: c :: cs =>
    if isDate word && c.isDigit then word ++ ' ' :: (c :: cs).takeWhile isBare else word
  | _ => word

def bareValue? (t : Text) : Option Data :=
  if t = "true".toList then some (.bool true)
  else if t = "false".toList then some (.bool false)
  else
    match integer? t with
    | some n => some (.int n)
    | none =>
      if isReal t then some (if overflows t then .overflow else .real)
      else if isMoment t then some .date
      else none

def bare? (t : Text) : Option (Data × Text) :=
  let word := bareText t
  (bareValue? word).map (·, t.drop word.length)

end Toml

end SmartyLayout
