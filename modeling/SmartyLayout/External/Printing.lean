import SmartyLayout.External.Decimal

/-!
# SmartyLayout.External.Printing — echo and printf

Two programs that write their arguments. A shell has its own versions of them, which differ from the
free-standing ones in the escapes they read and in their messages.
-/

namespace SmartyLayout

namespace External

/-- Which version of a program is meant. -/
inductive Edition where
  | shell
  | standalone
deriving DecidableEq, Repr

structure Printed where
  text : Text := []
  /-- Complaints, without the name of the program. -/
  complaints : List Text := []
  /-- Nothing more is to be printed. -/
  ended : Bool := false

/-! ## Escapes -/

/-- The value of up to `n` octal digits at the front of a text, and their number. -/
def octal : (n value : Nat) → Text → Nat × Nat
  | 0, value, _ => (value, 0)
  | _, value, [] => (value, 0)
  | n + 1, value, c :: cs =>
    if '0' ≤ c ∧ c ≤ '7' then
      let (v, used) := octal n (value * 8 + (c.toNat - '0'.toNat)) cs
      (v, used + 1)
    else (value, 0)

def byteChar (n : Nat) : Char :=
  Char.ofNat (n % 256)

def letterEscape? : Char → Option Char
  | 'n' => some '\n'
  | 't' => some '\t'
  | 'r' => some '\r'
  | 'a' => some '\x07'
  | 'b' => some '\x08'
  | 'f' => some '\x0c'
  | 'v' => some '\x0b'
  | '\\' => some '\\'
  | _ => none

def isHex (c : Char) : Bool :=
  c.isDigit || ('a' ≤ c.toLower && c.toLower ≤ 'f')

/-- The escape behind a backslash in a format: its character and how many characters it takes. -/
def formatEscape? (e : Edition) (t : Text) : Option (Char × Nat) :=
  match t with
  | [] => none
  | c :: cs =>
    match letterEscape? c with
    | some x => some (x, 1)
    | none =>
      let (v, used) := octal 3 0 t
      if 0 < used then some (byteChar v, used)
      else if e = .standalone then
        if c = 'x' then
          let hex := (cs.take 2).takeWhile isHex
          if hex.isEmpty then none else some (byteChar (Raw.digits 16 hex), hex.length + 1)
        else if c = 'e' then some ('\x1b', 1)
        else if c = '"' then some ('"', 1)
        else none
      else none

/-- The escape behind a backslash in an argument, where octal digits follow a zero. -/
def argumentEscape? (e : Edition) (t : Text) : Option (Char × Nat) :=
  match t with
  | '0' :: cs =>
    let (v, used) := octal 3 0 cs
    some (byteChar v, used + 1)
  | _ => formatEscape? e t

/-- A text with its escapes read, up to `\c`, which ends all printing. -/
def unescape (escape? : Text → Option (Char × Nat)) : (skip : Nat) → Text → Text × Bool
  | _, [] => ([], false)
  | skip + 1, _ :: cs => unescape escape? skip cs
  | 0, c :: cs =>
    if c = '\\' then
      if cs.head? = some 'c' then ([], true)
      else
        match escape? cs with
        | some (x, used) =>
          let (t, ended) := unescape escape? used cs
          (x :: t, ended)
        | none =>
          let (t, ended) := unescape escape? 0 cs
          (c :: t, ended)
    else
      let (t, ended) := unescape escape? 0 cs
      (c :: t, ended)

/-! ## Echo -/

/-- The arguments of the shell's own command on a line; escapes are always read. -/
def shellEcho (args : List Text) : Text :=
  let (bare, words) := match args with
    | ['-', 'n'] :: ws => (true, ws)
    | ws => (false, ws)
  let (t, ended) := unescape (argumentEscape? .shell) 0 (List.intercalate [' '] words)
  if bare || ended then t else t ++ ['\n']

/-- An argument is made of the option letters of the free-standing command. -/
def isEchoOption : Text → Bool
  | '-' :: c :: cs => (c :: cs).all fun x => x == 'n' || x == 'e' || x == 'E'
  | _ => false

/-- The arguments of the free-standing command on a line; escapes are read only on demand. -/
def standaloneEcho (args : List Text) : Text :=
  let options := args.takeWhile isEchoOption
  let letters := options.flatMap List.tail
  let words := args.drop options.length
  let reads := (letters.filter fun c => c == 'e' || c == 'E').getLast? == some 'e'
  let t := List.intercalate [' '] words
  let (t, ended) := if reads then unescape (argumentEscape? .standalone) 0 t else (t, false)
  if letters.any (· == 'n') || ended then t else t ++ ['\n']

/-! ## Print formats -/

structure Directive where
  flags : Text := []
  width : Option Nat := none
  precision : Option Nat := none
  /-- The width or the precision is an argument. -/
  widthGiven : Bool := false
  precisionGiven : Bool := false
  kind : Char

inductive FormatPiece where
  | char (c : Char)
  | directive (d : Directive)
  /-- A directive that is unknown, as written. -/
  | unknown (t : Text)
  /-- Printing ends here. -/
  | stop

/-- The directive behind a percent sign, and how many characters it takes. -/
def readDirective (t : Text) : Option (Directive × Nat) :=
  let flags := t.takeWhile fun c => "-+ #0".toList.any (· == c)
  let t1 := t.drop flags.length
  let widthGiven := t1.head? == some '*'
  let width := if widthGiven then ['*'] else t1.takeWhile Char.isDigit
  let t2 := t1.drop width.length
  let dotted := t2.head? == some '.'
  let t3 := if dotted then t2.tail else t2
  let precisionGiven := dotted && t3.head? == some '*'
  let precision := if precisionGiven then ['*']
    else if dotted then t3.takeWhile Char.isDigit else []
  match t3.drop precision.length with
  | [] => none
  | kind :: _ =>
    some ({ flags, kind, widthGiven, precisionGiven
            width := if widthGiven || width.isEmpty then none else some (Raw.digits 10 width)
            precision :=
              if dotted && !precisionGiven then some (Raw.digits 10 precision) else none },
      flags.length + width.length + (if dotted then 1 else 0) + precision.length + 1)

/-- The pieces of a format; `skip` counts the characters already read. -/
def formatPieces (e : Edition) : (skip : Nat) → Text → List FormatPiece
  | _, [] => []
  | skip + 1, _ :: cs => formatPieces e skip cs
  | 0, c :: cs =>
    if c = '\\' then
      if cs.head? = some 'c' then [.stop]
      else
        match (if e = .shell then argumentEscape? e cs else formatEscape? e cs) with
        | some (x, used) => .char x :: formatPieces e used cs
        | none => .char c :: formatPieces e 0 cs
    else if c = '%' then
      match readDirective cs with
      | some (d, used) =>
        if d.kind = '%' then .char '%' :: formatPieces e used cs
        else if "sbcdiuoxXfFeEgGaA".toList.any (· == d.kind) then
          .directive d :: formatPieces e used cs
        else .unknown ('%' :: cs.take used) :: formatPieces e used cs
      | none => [.unknown ('%' :: cs)]
    else .char c :: formatPieces e 0 cs

def inField (d : Directive) (t : Text) : Text :=
  match d.width with
  | none => t
  | some w => if d.flags.any (· == '-') then Raw.padRight w t else Raw.padLeft ' ' w t

/-- Digits with a sign in a field of some width; zeros may fill it. -/
def signedField (d : Directive) (sign digits : Text) : Text :=
  let digits := match d.precision with
    | some p => Raw.padLeft '0' p (if p = 0 ∧ digits = ['0'] then [] else digits)
    | none => digits
  let zeros := d.flags.any (· == '0') && !d.flags.any (· == '-') && d.precision.isNone
  match d.width with
  | some w => if zeros then sign ++ Raw.padLeft '0' (w - sign.length) digits
    else inField d (sign ++ digits)
  | none => sign ++ digits

def signOf (d : Directive) (n : Int) : Text :=
  if n < 0 then ['-'] else if d.flags.any (· == '+') then ['+']
  else if d.flags.any (· == ' ') then [' '] else []

def inBase (base : Nat) (n : Nat) : Text :=
  Nat.toDigits base n

def writeNumber (d : Directive) (n : Int) : Text :=
  let word := (n % 0x10000000000000000).toNat
  let sharp := d.flags.any (· == '#')
  match d.kind with
  | 'o' =>
    let t := inBase 8 word
    signedField d [] (if sharp && t.head? != some '0' then '0' :: t else t)
  | 'x' => signedField d (if sharp && word != 0 then ['0', 'x'] else []) (inBase 16 word)
  | 'X' =>
    signedField d (if sharp && word != 0 then ['0', 'X'] else [])
      ((inBase 16 word).map Char.toUpper)
  | 'u' => signedField d [] (Raw.ofNat word)
  | _ => signedField d (signOf d n) (Raw.ofNat n.natAbs)

/-- An integer at the front of a text in decimal, octal or hexadecimal digits, and what follows. -/
def leadingInt (t : Text) : Option (Int × Text) :=
  let t := t.dropWhile Raw.isSpace
  let (negative, t) := match t with
    | '-' :: cs => (true, cs)
    | '+' :: cs => (false, cs)
    | cs => (false, cs)
  let (base, body) := match t with
    | '0' :: x :: c :: cs =>
      if (x = 'x' ∨ x = 'X') ∧ isHex c then (16, c :: cs)
      else (8, t)
    | '0' :: _ => (8, t)
    | _ => (10, t)
  let ds := body.takeWhile fun c =>
    if base = 16 then isHex c else if base = 8 then '0' ≤ c && c ≤ '7' else c.isDigit
  if ds.isEmpty then none
  else
    let n : Int := Raw.digits base ds
    some (if negative then -n else n, body.drop ds.length)

def complaint (e : Edition) (t : Text) (said : String) : Text :=
  match e with
  | .shell => t ++ Raw.ofString (": " ++ said)
  | .standalone => '\x27' :: t ++ Raw.ofString ("': " ++ said)

/-- The number of an argument, and a complaint if it is none. -/
def numberOf (e : Edition) (arg : Option Text) : Int × List Text :=
  match arg with
  | none => (0, [])
  | some (q :: c :: _) =>
    if q = '"' ∨ q = '\x27' then (c.toNat, [])
    else
      match leadingInt (q :: c :: (arg.getD []).drop 2) with
      | none => (0, [complaint e (arg.getD []) "expected numeric value"])
      | some (n, []) => (n, [])
      | some (n, _) =>
        (n, [complaint e (arg.getD []) (if e = .shell then "not completely converted"
          else "value not completely converted")])
  | some t =>
    match leadingInt t with
    | some (n, []) => (n, [])
    | _ => (0, if t.isEmpty && e == .standalone then []
      else [complaint e t (if e = .shell then "expected numeric value"
        else "expected a numeric value")])

/-- How exact the fractions of each edition are. -/
def Edition.precision : Edition → Decimal.Precision
  | .shell => .double
  | .standalone => .extended

def writeQuantity (p : Decimal.Precision) (d : Directive) (q : Decimal.Quantity) : Text :=
  let sharp := d.flags.any (· == '#')
  let places := d.precision.getD 6
  let sign (negative : Bool) : Text := signOf d (if negative then -1 else 1)
  let cased (s : String) : Text := if d.kind.isUpper then s.toList.map Char.toUpper else s.toList
  let plain := { d with precision := none, flags := d.flags.filter (· != '0') }
  match q with
  | .infinite negative => signedField plain (sign negative) (cased "inf")
  | .undefined negative => signedField plain (sign negative) (cased "nan")
  | .finite negative f =>
    let pointed (t : Text) : Text :=
      if sharp && !t.any (· == '.') then
        let front := t.takeWhile fun c => c != 'e' && c != 'E'
        front ++ '.' :: t.drop front.length
      else t
    let digits := match d.kind with
      | 'e' => pointed (Decimal.scientific 'e' places f)
      | 'E' => pointed (Decimal.scientific 'E' places f)
      | 'g' => pointed (Decimal.general 'e' sharp places f)
      | 'G' => pointed (Decimal.general 'E' sharp places f)
      | 'a' => Decimal.hexadecimal p d.precision f
      | 'A' => (Decimal.hexadecimal p d.precision f).map Char.toUpper
      | _ => pointed (Decimal.fixed places f)
    let marked := d.kind == 'a' || d.kind == 'A'
    let before := if marked then sign negative ++ digits.take 2 else sign negative
    signedField { d with precision := none } before (if marked then digits.drop 2 else digits)

def printQuantity (e : Edition) (d : Directive) (arg : Option Text) : Printed :=
  let t := arg.getD []
  let shell := e == .shell
  let missing := if shell then "expected numeric value" else "expected a numeric value"
  let partly := if shell then "not completely converted" else "value not completely converted"
  let zero : Decimal.Quantity := .finite false ⟨0, 1⟩
  let (q, complaints) : Decimal.Quantity × List Text :=
    match t with
    | '"' :: c :: _ | '\x27' :: c :: _ => (.finite false ⟨c.toNat, 1⟩, [])
    | t =>
      match Decimal.quantity? e.precision t with
      | none => (zero, if t.isEmpty then [] else [complaint e t missing])
      | some (q, rest) => (q, if rest.isEmpty then [] else [complaint e t partly])
  { text := writeQuantity e.precision d q, complaints }

def printDirective (e : Edition) (d : Directive) (arg : Option Text) : Printed :=
  let cut (t : Text) : Text := match d.precision with
    | some p => t.take p
    | none => t
  match d.kind with
  | 's' => { text := inField d (cut (arg.getD [])) }
  | 'b' =>
    let (t, ended) := unescape (argumentEscape? e) 0 (arg.getD [])
    { text := inField d (cut t), ended }
  | 'c' => { text := inField d ((arg.getD []).head?.getD '\x00' :: []) }
  | 'f' | 'F' | 'e' | 'E' | 'g' | 'G' | 'a' | 'A' => printQuantity e d arg
  | _ =>
    let (n, complaints) := numberOf e arg
    { text := writeNumber d n, complaints }

/-- Takes a width or precision from the arguments. -/
def fillDirective (d : Directive) (args : List Text) : Directive × List Text :=
  let (d, args) := if d.widthGiven then
      let n : Int := ((args.head?.bind leadingInt).map (·.1)).getD 0
      ({ d with width := some n.natAbs, flags := if n < 0 then '-' :: d.flags else d.flags },
        args.tail)
    else (d, args)
  if d.precisionGiven then
    let n : Int := ((args.head?.bind leadingInt).map (·.1)).getD 0
    ({ d with precision := if n < 0 then none else some n.toNat }, args.tail)
  else (d, args)

/-- Prints the pieces of a format once; gives the arguments that are left. -/
def printOnce (e : Edition) : List FormatPiece → List Text → Printed × List Text
  | [], args => ({}, args)
  | .char c :: ps, args =>
    let (p, left) := printOnce e ps args
    ({ p with text := c :: p.text }, left)
  | .stop :: _, args => ({ ended := true }, args)
  | .unknown t :: _, args =>
    ({ complaints := [t ++ Raw.ofString (if e = .shell then ": invalid directive"
        else ": invalid conversion specification")], ended := true }, args)
  | .directive d :: ps, args =>
    let (d, args) := fillDirective d args
    let first := printDirective e d args.head?
    if first.ended then (first, args.tail)
    else
      let (p, left) := printOnce e ps args.tail
      let complaints := first.complaints ++ p.complaints
      ({ p with text := first.text ++ p.text, complaints }, left)

/-- Prints the pieces again and again until no argument is left. -/
def printAll (e : Edition) (ps : List FormatPiece) : (fuel : Nat) → List Text → Printed
  | 0, _ => {}
  | fuel + 1, args =>
    let (p, left) := printOnce e ps args
    if p.ended || left.isEmpty || left.length = args.length then p
    else
      let q := printAll e ps fuel left
      { q with text := p.text ++ q.text, complaints := p.complaints ++ q.complaints }

def printFormat (e : Edition) (format : Text) (args : List Text) : Printed :=
  printAll e (formatPieces e 0 format) (args.length + 1) args

end External

end SmartyLayout
