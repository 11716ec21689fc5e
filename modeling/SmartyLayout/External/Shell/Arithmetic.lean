import SmartyLayout.External.Raw

/-!
# SmartyLayout.External.Shell.Arithmetic — arithmetic expressions

Expressions over integers of 64 bits. Names stand for the numbers that variables hold, and an
expression can give variables new values.
-/

namespace SmartyLayout

namespace External

namespace Shell

namespace Arithmetic

inductive Token where
  | number (n : Int)
  | name (t : Text)
  | sign (s : String)
  | unknown
deriving DecidableEq, Repr

inductive Fault where
  | expression (message : String)
  /-- A variable holds something that is no number. -/
  | number (t : Text)

/-- An integer of 64 bits. -/
def wrap (n : Int) : Int :=
  Int.bmod n 0x10000000000000000

/-- The number at the front of a text in one of three bases, and how many characters it takes. -/
def leadingNumber (t : Text) : Int × Nat :=
  let isHex (c : Char) : Bool := c.isDigit || ('a' ≤ c.toLower && c.toLower ≤ 'f')
  let bound (n : Nat) : Int := min (n : Int) 0x7FFFFFFFFFFFFFFF
  match t with
  | '0' :: x :: cs =>
    let hex := cs.takeWhile isHex
    if (x = 'x' ∨ x = 'X') ∧ !hex.isEmpty then (bound (Raw.digits 16 hex), hex.length + 2)
    else
      let octal := (x :: cs).takeWhile fun c => '0' ≤ c && c ≤ '7'
      (bound (Raw.digits 8 octal), octal.length + 1)
  | _ =>
    let ds := t.takeWhile Char.isDigit
    (bound (Raw.digits 10 ds), ds.length)

/-- The number that a variable holds; blanks may stand around it, and nothing counts as zero. -/
def numberOf (t : Text) : Except Fault Int :=
  let u := t.dropWhile Raw.isSpace
  let (negative, u) := match u with
    | '-' :: u => (true, u)
    | '+' :: u => (false, u)
    | u => (false, u)
  let (n, used) := leadingNumber u
  if (u.drop used).all Raw.isSpace then .ok (if negative then -n else n) else .error (.number t)

/-- The signs of expressions; of two that fit, the longer one stands first. -/
def signs : List String :=
  ["<<=", ">>=", "<<", ">>", "<=", ">=", "==", "!=", "&&", "||", "*=", "/=", "%=", "+=", "-=", "&=",
    "^=", "|=", "=", "<", ">", "+", "-", "*", "/", "%", "&", "^", "|", "~", "!", "?", ":", "(", ")"]

def tokens : (skip : Nat) → Text → List Token
  | _, [] => []
  | skip + 1, _ :: cs => tokens skip cs
  | 0, c :: cs =>
    if c = ' ' ∨ c = '\t' ∨ c = '\n' then tokens 0 cs
    else if c.isDigit then
      let (n, used) := leadingNumber (c :: cs)
      .number n :: tokens (used - 1) cs
    else if c.isAlpha ∨ c = '_' then
      let more := cs.takeWhile fun c => c.isAlphanum || c == '_'
      .name (c :: more) :: tokens more.length cs
    else
      match signs.find? fun s => Text.startsWith s.toList (c :: cs) with
      | some s => .sign s :: tokens (s.length - 1) cs
      | none => .unknown :: tokens 0 cs

/-- An evaluation: the tokens to come, the variables, and the values they have been given. -/
structure Machine where
  rest : List Token
  values : Text → Option Text
  assigned : List (Text × Int) := []

abbrev Eval := StateT Machine (Except Fault)

def complain {α : Type} (message : String) : Eval α :=
  throw (.expression message)

def advance (n : Nat) : Eval Unit :=
  modify fun m => { m with rest := m.rest.drop n }

/-- The number that a variable holds now. -/
def held (name : Text) : Eval Int := do
  let m ← get
  match m.assigned.find? (·.1 == name) with
  | some (_, n) => pure n
  | none => numberOf ((m.values name).getD [])

/-- One for a true condition and zero for a false one. -/
def truth (b : Bool) : Int :=
  if b then 1 else 0

def bits (n : Int) : BitVec 64 :=
  BitVec.ofInt 64 n

/-- Applies an operator to two numbers. -/
def apply (op : String) (a b : Int) : Eval Int :=
  match op with
  | "*" => pure (wrap (a * b))
  | "/" => if b = 0 then complain "division by zero" else pure (wrap (a.tdiv b))
  | "%" => if b = 0 then complain "division by zero" else pure (a.tmod b)
  | "+" => pure (wrap (a + b))
  | "-" => pure (wrap (a - b))
  | "<<" => pure ((bits a) <<< (b % 64).toNat).toInt
  | ">>" => pure ((bits a).sshiftRight (b % 64).toNat).toInt
  | "<" => pure (truth (a < b))
  | "<=" => pure (truth (a ≤ b))
  | ">" => pure (truth (b < a))
  | ">=" => pure (truth (b ≤ a))
  | "==" => pure (truth (a == b))
  | "!=" => pure (truth (a != b))
  | "&" => pure (bits a &&& bits b).toInt
  | "^" => pure (bits a ^^^ bits b).toInt
  | _ => pure (bits a ||| bits b).toInt

/-- The operators on two numbers, those that bind most closely first. -/
def levels : List (List String) :=
  [["*", "/", "%"], ["+", "-"], ["<<", ">>"], ["<", "<=", ">", ">="], ["==", "!="], ["&"], ["^"],
    ["|"]]

/-- The operator of an assignment: none for a plain one. -/
def assigning? (s : String) : Option (Option String) :=
  if s = "=" then some none
  else
    (["*", "/", "%", "+", "-", "<<", ">>", "&", "^", "|"].find? fun op => op ++ "=" == s).map some

mutual

/-- An assignment or a condition. What is not `live` is read but has no effect. -/
def assignment : (fuel : Nat) → (live : Bool) → Eval Int
  | 0, _ => complain "expecting primary"
  | fuel + 1, live => do
    match (← get).rest with
    | .name x :: .sign s :: _ =>
      match assigning? s with
      | none => condition fuel live
      | some op => do
        advance 2
        let n ← assignment fuel live
        if live then
          let n ← match op with
            | none => pure n
            | some op => do
              let old ← held x
              apply op old n
          modify fun m => { m with assigned := (x, n) :: m.assigned }
          pure n
        else pure n
    | _ => condition fuel live

def condition : (fuel : Nat) → (live : Bool) → Eval Int
  | 0, _ => complain "expecting primary"
  | fuel + 1, live => do
    let a ← either fuel live
    match (← get).rest with
    | .sign "?" :: _ => do
      advance 1
      let b ← assignment fuel (live && a != 0)
      match (← get).rest with
      | .sign ":" :: _ => do
        advance 1
        let c ← condition fuel (live && a == 0)
        pure (if a ≠ 0 then b else c)
      | _ => complain "expecting ':'"
    | _ => pure a

/-- Conditions joined by `||`. -/
def either : (fuel : Nat) → (live : Bool) → Eval Int
  | 0, _ => complain "expecting primary"
  | fuel + 1, live => do
    let a ← both fuel live
    match (← get).rest with
    | .sign "||" :: _ => do
      advance 1
      let b ← either fuel (live && a == 0)
      pure (truth (a != 0 || b != 0))
    | _ => pure a

/-- Conditions joined by `&&`. -/
def both : (fuel : Nat) → (live : Bool) → Eval Int
  | 0, _ => complain "expecting primary"
  | fuel + 1, live => do
    let a ← operation fuel live levels.reverse
    match (← get).rest with
    | .sign "&&" :: _ => do
      advance 1
      let b ← both fuel (live && a != 0)
      pure (truth (a != 0 && b != 0))
    | _ => pure a

/-- Operators on two numbers, those that bind least closely first. -/
def operation : (fuel : Nat) → (live : Bool) → List (List String) → Eval Int
  | 0, _, _ => complain "expecting primary"
  | fuel + 1, live, [] => primary fuel live
  | fuel + 1, live, ops :: tighter => do
    let a ← operation fuel live tighter
    operations fuel live ops tighter a

/-- More operands of operators that bind equally. -/
def operations : (fuel : Nat) → (live : Bool) → List String → List (List String) → Int → Eval Int
  | 0, _, _, _, _ => complain "expecting primary"
  | fuel + 1, live, ops, tighter, a => do
    match (← get).rest with
    | .sign s :: _ =>
      if ops.contains s then do
        advance 1
        let b ← operation fuel live tighter
        let n ← if live then apply s a b else pure b
        operations fuel live ops tighter n
      else pure a
    | _ => pure a

def primary : (fuel : Nat) → (live : Bool) → Eval Int
  | 0, _ => complain "expecting primary"
  | fuel + 1, live => do
    match (← get).rest with
    | .number n :: _ => do advance 1; pure n
    | .name x :: _ => do
      advance 1
      if live then held x else pure 0
    | .sign "(" :: _ => do
      advance 1
      let n ← assignment fuel live
      match (← get).rest with
      | .sign ")" :: _ => do advance 1; pure n
      | _ => complain "expecting ')'"
    | .sign "+" :: _ => do advance 1; primary fuel live
    | .sign "-" :: _ => do
      advance 1
      let n ← primary fuel live
      pure (wrap (-n))
    | .sign "!" :: _ => do
      advance 1
      let n ← primary fuel live
      pure (truth (n == 0))
    | .sign "~" :: _ => do
      advance 1
      let n ← primary fuel live
      pure (-n - 1)
    | _ => complain "expecting primary"

end

/-- The value of an expression, and the variables it changes. -/
def evaluate (values : Text → Option Text) (t : Text) : Except Fault (Int × List (Text × Int)) :=
  let ts := tokens 0 t
  match (assignment (16 * ts.length + 32) true).run { rest := ts, values } with
  | .error e => .error e
  | .ok (n, m) =>
    if m.rest.isEmpty then .ok (n, m.assigned.reverse) else .error (.expression "expecting EOF")

end Arithmetic

end Shell

end External

end SmartyLayout
