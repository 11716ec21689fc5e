import SmartyLayout.External.RecordScript.Number

/-!
# SmartyLayout.External.RecordScript.Lexer — the tokens of a program

A slash divides if an operand stands in front of it, and begins an expression otherwise.
-/

namespace SmartyLayout

namespace External

namespace RecordScript

inductive Token where
  | number (x : Float)
  | text (t : Text)
  /-- A regular expression as it is written between slashes. -/
  | regex (t : Text)
  | name (n : Text)
  /-- A name with a parenthesis right behind it. -/
  | function (n : Text)
  | keyword (w : String)
  /-- The name of a function that every program has. -/
  | builtin (w : String)
  | sign (s : String)
  | newline

/-- A token and the line it stands on. -/
structure Lexeme where
  token : Token
  line : Nat

/-- Why a text is no program: complaints without the name of the program. -/
structure Fault where
  complaints : List Text

def Fault.atLine (line : Nat) (message : Text) : Fault :=
  ⟨[Raw.ofString "line " ++ Raw.ofNat line ++ Raw.ofString ": " ++ message]⟩

def keywords : List String :=
  ["BEGIN", "END", "function", "if", "else", "while", "for", "do", "break", "continue",
    "next", "nextfile", "exit", "return", "delete", "in", "getline", "print", "printf"]

def builtins : List String :=
  ["length", "substr", "index", "split", "sub", "gsub", "match", "sprintf", "sin", "cos", "atan2",
    "exp", "log", "sqrt", "int", "rand", "srand", "tolower", "toupper", "system", "close", "fflush"]

/-- Signs, the longer ones first. -/
def signs : List String :=
  ["&&", "||", "++", "--", "+=", "-=", "*=", "/=", "%=", "^=", "==", "<=", ">=", "!=", "!~", ">>",
    "\x7b", "\x7d", "(", ")", "[", "]", ";", ",", "+", "-", "*", "/", "%", "^", "!", ">", "<", "|",
    "?", ":", "~", "$", "="]

def Token.endsOperand : Token → Bool
  | .number _ | .text _ | .regex _ | .name _ | .builtin _ => true
  | .sign s => s = ")" || s = "]" || s = "$" || s = "++" || s = "--"
  | _ => false

/-- The escape behind a backslash in a text: its characters, and how many characters it takes. -/
def textEscape (t : Text) : Text × Nat :=
  match t with
  | [] => (['\\'], 0)
  | c :: _ =>
    if c = '"' then ([c], 1)
    else if c = '\n' then ([], 1)
    else
      match letterEscape? c with
      | some x => ([x], 1)
      | none =>
        let (v, used) := octal 3 0 t
        if 0 < used then ([byteChar v], used) else (['\\', c], 1)

/-- A text up to its closing quote, with its escapes read; none if the quote is missing. -/
def quotedText? : (skip : Nat) → Text → Option (Text × Text)
  | _, [] => none
  | skip + 1, _ :: cs => quotedText? skip cs
  | 0, c :: cs =>
    if c = '"' then some ([], cs)
    else if c = '\n' then none
    else if c = '\\' then
      let (xs, used) := textEscape cs
      (quotedText? used cs).map fun (t, rest) => (xs ++ t, rest)
    else (quotedText? 0 cs).map fun (t, rest) => (c :: t, rest)

/-- An expression up to its closing slash, as written. A slash in brackets does not close it. -/
def slashedText? : (skip : Nat) → (boxed : Bool) → Text → Option (Text × Text)
  | _, _, [] => none
  | skip + 1, boxed, c :: cs => (slashedText? skip boxed cs).map fun (t, rest) => (c :: t, rest)
  | 0, boxed, c :: cs =>
    let add (x : Option (Text × Text)) : Option (Text × Text) :=
      x.map fun (t, rest) => (c :: t, rest)
    if c = '/' ∧ !boxed then some ([], cs)
    else if c = '\n' then none
    else if c = '\\' then add (slashedText? 1 boxed cs)
    else if c = '[' ∧ !boxed then
      let front := if cs.head? = some '^' then 1 else 0
      let front := if cs[front]? = some ']' then front + 1 else front
      add (slashedText? front true cs)
    else if c = ']' then add (slashedText? 0 false cs)
    else add (slashedText? 0 boxed cs)

def isNameChar (c : Char) : Bool :=
  c.isAlphanum || c == '_'

/-- The numeral at the front of a text, and how many characters it takes. -/
def numeralAt (t : Text) : Float × Nat :=
  match Decimal.numeral? t with
  | some (n, rest) => (ofNumeral n, t.length - rest.length)
  | none => (0, 1)

/-- The tokens of a program; `previous` is the one in front. -/
def tokens : (fuel : Nat) → (line : Nat) → (previous : Option Token) → Text →
    Except Fault (List Lexeme)
  | 0, _, _, _ => .ok []
  | _, _, _, [] => .ok []
  | fuel + 1, line, previous, c :: cs =>
    let t := c :: cs
    let found (token : Token) (used : Nat) (lines : Nat) : Except Fault (List Lexeme) :=
      (tokens fuel (line + lines) (some token) (t.drop used)).map (⟨token, line⟩ :: ·)
    if c = '\n' then found .newline 1 1
    else if c = '\\' ∧ cs.head? = some '\n' then tokens fuel (line + 1) previous (cs.drop 1)
    else if c = '\\' ∧ Text.startsWith ['\r', '\n'] cs then
      tokens fuel (line + 1) previous (cs.drop 2)
    else if Raw.isSpace c then tokens fuel line previous cs
    else if c = '#' then tokens fuel line previous (cs.dropWhile (· != '\n'))
    else if c = '"' then
      match quotedText? 0 cs with
      | some (text, rest) => found (.text text) (t.length - rest.length) 0
      | none =>
        .error (.atLine line (Raw.ofString "runaway string constant \"" ++
          (cs.takeWhile (· != '\n')).take 10 ++ Raw.ofString " ..."))
    else if c.isDigit ∨ (c = '.' ∧ cs.head?.any Char.isDigit) then
      let (x, used) := numeralAt t
      found (.number x) used 0
    else if c.isAlpha ∨ c = '_' then
      let word := t.takeWhile isNameChar
      let spelled := String.ofList word
      if keywords.contains spelled then
        found (.keyword spelled) word.length 0
      else if builtins.contains spelled then found (.builtin spelled) word.length 0
      else if (t.drop word.length).head? = some '(' then found (.function word) word.length 0
      else found (.name word) word.length 0
    else if c = '/' ∧ !previous.any Token.endsOperand then
      match slashedText? 0 false cs with
      | some (text, rest) => found (.regex text) (t.length - rest.length) 0
      | none =>
        .error (.atLine line (Raw.ofString "runaway regular expression /" ++
          (cs.takeWhile (· != '\n')).take 10 ++ Raw.ofString " ..."))
    else
      match signs.find? fun s => Text.startsWith s.toList t with
      | some s => found (.sign s) s.length 0
      | none =>
        .error ⟨[Raw.ofNat line ++ Raw.ofString ": unexpected character '" ++ [c, '\x27']]⟩

def Token.spelling : Token → Text
  | .number x => numberText "%.6g".toList x
  | .text t => '"' :: t ++ ['"']
  | .regex t => '/' :: t ++ ['/']
  | .name n | .function n => n
  | .keyword w | .builtin w | .sign w => w.toList
  | .newline => "end of line".toList

/-! ## Regular expressions -/

/-- A regular expression whose escapes are quoted characters. -/
def quotedEscapes : (skip : Nat) → Text → Text
  | _, [] => []
  | skip + 1, _ :: cs => quotedEscapes skip cs
  | 0, '\\' :: cs =>
    match textEscape cs with
    | (_, 0) => [quotedChar '\\']
    | (xs, used) => (xs.getLast?.toList.map quotedChar) ++ quotedEscapes used cs
  | 0, c :: cs => c :: quotedEscapes 0 cs

/-- What is wrong with a regular expression whose escapes are quoted: an operator without an
operand, or a group that is not closed. `free` says that no operand stands in front. -/
def regexFault? : (fuel depth : Nat) → (free : Bool) → Text → Option String
  | 0, _, _, _ => none
  | _, depth, _, [] => if depth = 0 then none else some "missing ')'"
  | fuel + 1, depth, free, c :: cs =>
    if c = '(' then regexFault? fuel (depth + 1) true cs
    else if c = '|' then regexFault? fuel depth true cs
    else if c = ')' ∧ 0 < depth then regexFault? fuel (depth - 1) false cs
    else if free ∧ (c = '*' ∨ c = '+' ∨ c = '?') then some "missing operand"
    else if c = '[' then
      match bracket? ['^'] cs with
      | some (_, rest) => regexFault? fuel depth false rest
      | none => regexFault? fuel depth false cs
    else regexFault? fuel depth (c = '^' && free) cs

/-- Reads a regular expression, or says what is wrong with it. -/
def readRegex (t : Text) : Except Text Regex :=
  let quoted := quotedEscapes 0 t
  let failed (why : String) : Text :=
    Raw.ofString ("regular expression compile failed (" ++ why ++ ")\n") ++ t
  match regexFault? (t.length + 1) 0 true quoted with
  | some why => .error (failed why)
  | none =>
    match Regex.parse? { extended := true } quoted with
    | some r => .ok r
    | none => .error (failed "bad class -- [], [^] or [")

/-- Reads a regular expression; one that cannot be read stands for its characters. -/
def regexOf (t : Text) : Regex :=
  match readRegex t with
  | .ok r => r
  | .error _ => .sequence (t.map fun c => .chars (· == c))

end RecordScript

end External

end SmartyLayout
