import SmartyLayout.External.RecordScript.Lexer

/-!
# SmartyLayout.External.RecordScript.Parser — reading programs

Programs are read by descent, from the operators that bind least to those that bind most. The `fuel`
bounds how deep expressions and statements can nest.
-/

namespace SmartyLayout

namespace External

namespace RecordScript

inductive Scope where
  | rule
  /-- At the start or at the end of the program. -/
  | edge
  | function
deriving DecidableEq, Repr

structure Reading where
  /-- The tokens to come. -/
  tokens : List Lexeme
  line : Nat := 1
  /-- The parentheses that are open. -/
  depth : Nat := 0
  scope : Scope := .rule
  /-- The loops around. -/
  loops : Nat := 0

abbrev Parser := StateT Reading (Except Fault)

/-- What an expression may hold where it stands. -/
structure Place where
  /-- The word `in` is no operator. -/
  noIn : Bool := false
  /-- The sign for greater leads elsewhere. -/
  noGreater : Bool := false

namespace Parser

def peek : Parser (Option Token) := do
  return (← get).tokens.head?.map (·.token)

def peekSecond : Parser (Option Token) := do
  return ((← get).tokens[1]?).map (·.token)

def advance : Parser Unit :=
  modify fun r =>
    match r.tokens with
    | l :: ls =>
      let depth := match l.token with
        | .sign "(" => r.depth + 1
        | .sign ")" => r.depth - 1
        | _ => r.depth
      { r with tokens := ls, depth, line := (ls.head?.map (·.line)).getD l.line }
    | [] => r

/-- Ends reading with a complaint about the present line. -/
def complain {α : Type} (message : Text) : Parser α := do
  throw (.atLine (← get).line message)

/-- Ends reading at a token that cannot stand here. -/
def unexpected {α : Type} : Parser α := do
  let r ← get
  let near := match r.tokens with
    | l :: _ => l.token.spelling
    | [] => "end of line".toList
  let line := (r.tokens.head?.map (·.line)).getD r.line
  if 0 < r.depth then throw (.atLine line (Raw.ofString "missing ) near " ++ near))
  else throw (.atLine line (Raw.ofString "syntax error at or near " ++ near))

def isSign (s : String) : Parser Bool := do
  match ← peek with
  | some (.sign t) => return s == t
  | _ => return false

def isKeyword (w : String) : Parser Bool := do
  match ← peek with
  | some (.keyword v) => return v == w
  | _ => return false

/-- Goes over a sign if it comes next. -/
def accept (s : String) : Parser Bool := do
  if ← isSign s then
    advance
    return true
  else return false

/-- Goes over a sign that must come next. -/
def expect (s : String) : Parser Unit := do
  if ← isSign s then advance
  else
    let r ← get
    if r.tokens.isEmpty ∧ s = "\x7d" then
      throw (.atLine (r.line + 1) (Raw.ofString "missing \x7d near end of file"))
    else unexpected

/-- Goes over line breaks. -/
def skipLines : Parser Unit :=
  modify fun r =>
    let rest := r.tokens.dropWhile fun l => match l.token with
      | .newline => true
      | _ => false
    { r with tokens := rest, line := (rest.head?.map (·.line)).getD r.line }

/-- Goes over line breaks and semicolons. -/
def skipSeparators : Parser Unit :=
  modify fun r =>
    let rest := r.tokens.dropWhile fun l => match l.token with
      | .newline => true
      | .sign s => s == ";"
      | _ => false
    { r with tokens := rest, line := (rest.head?.map (·.line)).getD r.line }

/-- The operator of a sign that gives a new value. -/
def assignment? (s : String) : Option (Option Operator) :=
  match s with
  | "=" => some none
  | "+=" => some (some .add)
  | "-=" => some (some .subtract)
  | "*=" => some (some .multiply)
  | "/=" => some (some .divide)
  | "%=" => some (some .remainder)
  | "^=" => some (some .power)
  | _ => none

def relation? (p : Place) (s : String) : Option Relation :=
  match s with
  | "<" => some .less
  | "<=" => some .lessEqual
  | "==" => some .equal
  | "!=" => some .unequal
  | ">" => if p.noGreater then none else some .greater
  | ">=" => some .greaterEqual
  | _ => none

/-- The least and the most number of arguments of a function that every program has. -/
def arity (function : String) : Nat × Nat :=
  match function with
  | "length" | "srand" | "fflush" => (0, 1)
  | "rand" => (0, 0)
  | "substr" | "split" | "sub" | "gsub" => (2, 3)
  | "index" | "match" | "atan2" => (2, 2)
  | "sprintf" => (1, 1000)
  | _ => (1, 1)

/-- A token can begin an operand that is joined to the one in front. -/
def beginsOperand : Token → Bool
  | .number _ | .text _ | .regex _ | .name _ | .function _ | .builtin _ => true
  | .sign s => s = "$" || s = "(" || s = "!" || s = "-" || s = "+" || s = "++" || s = "--"
  | _ => false

mutual

def expression (p : Place) : (fuel : Nat) → Parser Expr
  | 0 => unexpected
  | fuel + 1 => do
    let test ← disjunction p fuel
    if ← accept "?" then
      skipLines
      let yes ← expression p fuel
      skipLines
      expect ":"
      skipLines
      let no ← expression p fuel
      return .conditional test yes no
    else return test

/-- Reads expressions of which one must hold. -/
def disjunction (p : Place) : (fuel : Nat) → Parser Expr
  | 0 => unexpected
  | fuel + 1 => do
    let mut e ← conjunction p fuel
    for _ in [0:(← get).tokens.length] do
      if ← accept "||" then
        skipLines
        e := .either e (← conjunction p fuel)
      else break
    return e

/-- Reads expressions that must all hold. -/
def conjunction (p : Place) : (fuel : Nat) → Parser Expr
  | 0 => unexpected
  | fuel + 1 => do
    let mut e ← membership p fuel
    for _ in [0:(← get).tokens.length] do
      if ← accept "&&" then
        skipLines
        e := .both e (← membership p fuel)
      else break
    return e

/-- Reads a question whether a table has an element. -/
def membership (p : Place) : (fuel : Nat) → Parser Expr
  | 0 => unexpected
  | fuel + 1 => do
    let mut e ← matching p fuel
    for _ in [0:(← get).tokens.length] do
      if p.noIn then break
      if !(← isKeyword "in") then break
      advance
      match ← peek with
      | some (.name table) =>
        advance
        e := .isElement [e] table
      | _ => unexpected
    return e

/-- Reads a question whether a text has a match. -/
def matching (p : Place) : (fuel : Nat) → Parser Expr
  | 0 => unexpected
  | fuel + 1 => do
    let mut e ← comparison p fuel
    for _ in [0:(← get).tokens.length] do
      if ← accept "~" then e := .matched true e (← comparison p fuel)
      else if ← accept "!~" then e := .matched false e (← comparison p fuel)
      else break
    return e

def comparison (p : Place) : (fuel : Nat) → Parser Expr
  | 0 => unexpected
  | fuel + 1 => do
    let e ← concatenation p fuel
    match ← peek with
    | some (.sign s) =>
      match relation? p s with
      | some r => do
        advance
        return .compared r e (← concatenation p fuel)
      | none => return e
    | _ => return e

/-- Reads texts that are joined, or something that is given a value. -/
def concatenation (p : Place) : (fuel : Nat) → Parser Expr
  | 0 => unexpected
  | fuel + 1 => do
    let start ← get
    let assigned : Option (Expr × Option Operator × Reading) :=
      match (target? fuel).run start with
      | .ok (some place, rest) =>
        match rest.tokens with
        | ⟨.sign s, _⟩ :: _ => (assignment? s).map fun op => (place, op, rest)
        | _ => none
      | _ => none
    match assigned with
    | some (place, op, rest) => do
      set rest
      advance
      skipLines
      return .assign op place (← expression p fuel)
    | none => pure ()
    let mut e ← sum p fuel
    for _ in [0:(← get).tokens.length] do
      match ← peek with
      | some t =>
        if beginsOperand t then e := .joined e (← sum p fuel) else break
      | none => break
    return e

def sum (p : Place) : (fuel : Nat) → Parser Expr
  | 0 => unexpected
  | fuel + 1 => do
    let mut e ← product p fuel
    for _ in [0:(← get).tokens.length] do
      if ← accept "+" then e := .arithmetic .add e (← product p fuel)
      else if ← accept "-" then e := .arithmetic .subtract e (← product p fuel)
      else break
    return e

def product (p : Place) : (fuel : Nat) → Parser Expr
  | 0 => unexpected
  | fuel + 1 => do
    let mut e ← unary p fuel
    for _ in [0:(← get).tokens.length] do
      if ← accept "*" then e := .arithmetic .multiply e (← unary p fuel)
      else if ← accept "/" then e := .arithmetic .divide e (← unary p fuel)
      else if ← accept "%" then e := .arithmetic .remainder e (← unary p fuel)
      else break
    return e

/-- Reads an operand with signs in front of it. -/
def unary (p : Place) : (fuel : Nat) → Parser Expr
  | 0 => unexpected
  | fuel + 1 => do
    if ← accept "!" then return .negation (← unary p fuel)
    else if ← accept "-" then return .opposite (← unary p fuel)
    else if ← accept "+" then return .numeric (← unary p fuel)
    else power p fuel

def power (p : Place) : (fuel : Nat) → Parser Expr
  | 0 => unexpected
  | fuel + 1 => do
    let base ← operand p fuel
    if ← accept "^" then
      if ← accept "-" then return .arithmetic .power base (.opposite (← power p fuel))
      else if ← accept "+" then return .arithmetic .power base (← power p fuel)
      else if ← accept "!" then return .arithmetic .power base (.negation (← power p fuel))
      else return .arithmetic .power base (← power p fuel)
    else return base

/-- Reads an operand, with a step behind it; a record of a command may follow. -/
def operand (p : Place) : (fuel : Nat) → Parser Expr
  | 0 => unexpected
  | fuel + 1 => do
    let mut e ← primary p fuel
    if e.isTarget then
      if ← accept "++" then e := .step false 1 e
      else if ← accept "--" then e := .step false (-1) e
    for _ in [0:(← get).tokens.length] do
      match ← peek, ← peekSecond with
      | some (.sign "|"), some (.keyword "getline") => do
        advance
        advance
        e := .commandRecord e (← target? fuel)
      | _, _ => break
    return e

/-- Reads something that can be given a value, if there is one. -/
def target? : (fuel : Nat) → Parser (Option Expr)
  | 0 => return none
  | fuel + 1 => do
    match ← peek with
    | some (.name _) => return some (← primary {} fuel)
    | some (.sign "$") => return some (← primary {} fuel)
    | _ => return none

def index : (fuel : Nat) → Parser (List Expr)
  | 0 => unexpected
  | fuel + 1 => do
    expect "["
    let es ← expressions {} fuel
    expect "]"
    return es

def expressions (p : Place) : (fuel : Nat) → Parser (List Expr)
  | 0 => unexpected
  | fuel + 1 => do
    let mut es := [← expression p fuel]
    for _ in [0:(← get).tokens.length] do
      if ← accept "," then
        skipLines
        es := es ++ [← expression p fuel]
      else break
    return es

/-- Reads the arguments of a function between parentheses. -/
def arguments : (fuel : Nat) → Parser (List Expr)
  | 0 => unexpected
  | fuel + 1 => do
    expect "("
    skipLines
    if ← accept ")" then return []
    else
      let es ← expressions {} fuel
      skipLines
      expect ")"
      return es

/-- Reads a value, or something that can be given one. -/
def primary (p : Place) : (fuel : Nat) → Parser Expr
  | 0 => unexpected
  | fuel + 1 => do
    match ← peek with
    | some (.number x) => do advance; return .number x
    | some (.text t) => do advance; return .text t
    | some (.regex t) => do
      match readRegex t with
      | .ok r => do advance; return .regex r
      | .error message => complain message
    | some (.name n) => do
      advance
      if ← isSign "[" then return .element n (← index fuel) else return .name n
    | some (.function n) => do
      advance
      return .call n (← arguments fuel)
    | some (.builtin w) => do
      advance
      if ← isSign "(" then
        let args ← arguments fuel
        let (least, most) := arity w
        if args.length < least ∨ most < args.length then
          complain (Raw.ofString ("wrong number of arguments in call to " ++ w))
        return .builtin w args
      else if w = "length" ∨ w = "rand" ∨ w = "srand" ∨ w = "fflush" then return .builtin w []
      else unexpected
    | some (.keyword "getline") => do
      advance
      let target ← target? fuel
      if ← accept "<" then return .fileRecord (← operand p fuel) target
      else return .nextRecord target
    | some (.sign "$") => do
      advance
      if ← accept "++" then return .field (.step true 1 (← primary p fuel))
      else if ← accept "--" then return .field (.step true (-1) (← primary p fuel))
      else if ← accept "-" then return .field (.opposite (← primary p fuel))
      else return .field (← primary p fuel)
    | some (.sign "++") => do advance; return .step true 1 (← primary p fuel)
    | some (.sign "--") => do advance; return .step true (-1) (← primary p fuel)
    | some (.sign "-") => do advance; return .opposite (← unary p fuel)
    | some (.sign "+") => do advance; return .numeric (← unary p fuel)
    | some (.sign "!") => do advance; return .negation (← unary p fuel)
    | some (.sign "(") => do
      advance
      skipLines
      let es ← expressions {} fuel
      skipLines
      expect ")"
      match es with
      | [e] => return .grouped e
      | es => do
        if ← isKeyword "in" then
          advance
          match ← peek with
          | some (.name table) => do advance; return .isElement es table
          | _ => unexpected
        else unexpected
    | _ => unexpected

end

/-! ## Statements -/

def endsStatement (t : Option Token) : Bool :=
  match t with
  | none | some .newline => true
  | some (.sign s) => s = ";" || s = "\x7d"
  | _ => false

/-- Goes over what ends a simple statement. -/
def endStatement : Parser Unit := do
  match ← peek with
  | some .newline => advance
  | some (.sign ";") => advance
  | some (.sign "\x7d") => pure ()
  | none => pure ()
  | _ => unexpected

/-- Reads where output goes. -/
def destination (fuel : Nat) : Parser Destination := do
  let p : Place := { noGreater := true }
  if ← accept ">" then return .file (← expression p fuel)
  else if ← accept ">>" then return .append (← expression p fuel)
  else if ← accept "|" then return .command (← expression p fuel)
  else return .standard

/-- A token can follow the arguments of a print statement. -/
def endsPrint (t : Option Token) : Bool :=
  endsStatement t ||
    match t with
    | some (.sign s) => s = ">" || s = ">>" || s = "|"
    | _ => false

/-- Reads the arguments of a print statement, which may stand in parentheses. -/
def printArguments (fuel : Nat) : Parser (List Expr) := do
  let start ← get
  if endsPrint (← peek) then return []
  if ← isSign "(" then
    match (arguments fuel).run start with
    | .ok (es, rest) =>
      if endsPrint (rest.tokens.head?.map (·.token)) then
        set rest
        return es
      else expressions { noGreater := true } fuel
    | .error _ => expressions { noGreater := true } fuel
  else expressions { noGreater := true } fuel

def optionalExpression (fuel : Nat) : Parser (Option Expr) := do
  if endsStatement (← peek) then return none else return some (← expression {} fuel)

def simpleStatement (fuel : Nat) : Parser Statement := do
  match ← peek with
  | some (.keyword "print") => do
    advance
    let es ← printArguments fuel
    return .print es (← destination fuel)
  | some (.keyword "printf") => do
    advance
    let es ← printArguments fuel
    if es.isEmpty then complain (Raw.ofString "no arguments in call to printf")
    return .printf es (← destination fuel)
  | some (.keyword "next") => do
    if (← get).scope ≠ .rule then complain (Raw.ofString "improper use of next")
    advance
    return .skipRecord
  | some (.keyword "nextfile") => do
    if (← get).scope ≠ .rule then complain (Raw.ofString "improper use of nextfile")
    advance
    return .skipFile
  | some (.keyword "break") => do
    if (← get).loops = 0 then complain (Raw.ofString "break statement outside of loop")
    advance
    return .leaveLoop
  | some (.keyword "continue") => do
    if (← get).loops = 0 then complain (Raw.ofString "continue statement outside of loop")
    advance
    return .nextRound
  | some (.keyword "exit") => do
    advance
    return .finish (← optionalExpression fuel)
  | some (.keyword "return") => do
    if (← get).scope ≠ .function then complain (Raw.ofString "return outside function body")
    advance
    return .giveBack (← optionalExpression fuel)
  | some (.keyword "delete") => do
    advance
    match ← peek with
    | some (.name n) => do
      advance
      if ← isSign "[" then return .delete n (some (← index fuel)) else return .delete n none
    | _ => unexpected
  | _ => return .expression (← expression {} fuel)

mutual

def statement : (fuel : Nat) → Parser Statement
  | 0 => unexpected
  | fuel + 1 => do
    match ← peek with
    | some (.sign "\x7b") => do
      advance
      let body ← statements fuel
      expect "\x7d"
      if ← isSign ";" then advance
      return .block body
    | some (.sign ";") => do advance; return .block []
    | some (.keyword "if") => do
      advance
      expect "("
      let test ← expression {} fuel
      expect ")"
      skipLines
      let yes ← statement fuel
      let before ← get
      skipSeparators
      if ← isKeyword "else" then
        advance
        skipLines
        return .branch test yes (some (← statement fuel))
      else
        set before
        return .branch test yes none
    | some (.keyword "while") => do
      advance
      expect "("
      let test ← expression {} fuel
      expect ")"
      if ← accept ";" then return .repeatWhile test (.block [])
      else
        skipLines
        return .repeatWhile test (← looped fuel)
    | some (.keyword "do") => do
      advance
      skipLines
      let body ← looped fuel
      skipSeparators
      if !(← isKeyword "while") then unexpected
      advance
      expect "("
      let test ← expression {} fuel
      expect ")"
      endStatement
      return .doWhile body test
    | some (.keyword "for") => do
      advance
      expect "("
      match (← get).tokens with
      | ⟨.name n, _⟩ :: ⟨.keyword "in", _⟩ :: ⟨.name table, _⟩ :: ⟨.sign ")", _⟩ :: rest => do
        modify fun r => { r with tokens := rest, depth := r.depth - 1 }
        skipLines
        return .forEach n table (← looped fuel)
      | _ => do
        let first ← if ← isSign ";" then pure none else pure (some (← simpleStatement fuel))
        expect ";"
        skipLines
        let test ← if ← isSign ";" then pure none else pure (some (← expression {} fuel))
        expect ";"
        skipLines
        let next ← if ← isSign ")" then pure none else pure (some (← simpleStatement fuel))
        expect ")"
        if ← accept ";" then return .loop first test next (.block [])
        else
          skipLines
          return .loop first test next (← looped fuel)
    | _ => do
      let s ← simpleStatement fuel
      endStatement
      return s

def looped : (fuel : Nat) → Parser Statement
  | 0 => unexpected
  | fuel + 1 => do
    modify fun r => { r with loops := r.loops + 1 }
    let s ← statement fuel
    modify fun r => { r with loops := r.loops - 1 }
    return s

/-- Reads statements up to a closing brace. -/
def statements : (fuel : Nat) → Parser (List Statement)
  | 0 => unexpected
  | fuel + 1 => do
    let mut body : Array Statement := #[]
    for _ in [0:(← get).tokens.length + 1] do
      skipSeparators
      if (← peek).isNone then break
      if ← isSign "\x7d" then break
      body := body.push (← statement fuel)
    return body.toList

end

/-! ## Programs -/

def action (scope : Scope) (fuel : Nat) : Parser (List Statement) := do
  modify fun r => { r with scope, loops := 0, depth := 0 }
  if !(← isSign "\x7b") then unexpected
  advance
  let body ← statements fuel
  expect "\x7d"
  return body

def parameters : Parser (List Text) := do
  expect "("
  modify fun r => { r with depth := 0 }
  let mut names : Array Text := #[]
  for _ in [0:(← get).tokens.length] do
    match ← peek with
    | some (.name n) => do
      advance
      names := names.push n
      if ← accept "," then skipLines
    | _ => break
  expect ")"
  return names.toList

def rule (fuel : Nat) : Parser Rule := do
  match ← peek with
  | some (.keyword "BEGIN") => do
    advance
    return ⟨.atStart, some (← action .edge fuel)⟩
  | some (.keyword "END") => do
    advance
    return ⟨.atEnd, some (← action .edge fuel)⟩
  | some (.sign "\x7d") => do
    let line := (← get).line
    advance
    let near := ((← peek).map Token.spelling).getD "end of line".toList
    throw ⟨[Raw.ofString "extra '\x7d'", Raw.ofString "syntax error at or near " ++ near].map
      fun m => Raw.ofString "line " ++ Raw.ofNat line ++ Raw.ofString ": " ++ m⟩
  | some (.sign "\x7b") => return ⟨.always, some (← action .rule fuel)⟩
  | _ => do
    let first ← expression {} fuel
    let pattern ← if ← accept "," then do
        skipLines
        pure (Pattern.between first (← expression {} fuel))
      else pure (Pattern.test first)
    if ← isSign "\x7b" then return ⟨pattern, some (← action .rule fuel)⟩
    else return ⟨pattern, none⟩

/-- Reads rules and functions. -/
def program (fuel : Nat) : Parser Program := do
  let mut rules : Array Rule := #[]
  let mut functions : Array Function := #[]
  for _ in [0:(← get).tokens.length + 1] do
    skipSeparators
    match ← peek with
    | none => break
    | some (.keyword "function") => do
      advance
      match ← peek with
      | some (.name n) | some (.function n) => do
        advance
        let ps ← parameters
        skipLines
        if functions.any (·.name == n) then
          complain (Raw.ofString "redefinition of " ++ n)
        functions := functions.push ⟨n, ps, ← action .function fuel⟩
      | _ => unexpected
    | _ => rules := rules.push (← rule fuel)
  return { rules := rules.toList, functions := functions.toList }

end Parser

/-- How deep programs can nest. -/
def parsingDepth : Nat := 4000

/-- The names of functions that are called but not there. -/
def undefinedCall? (p : Program) (ls : List Lexeme) : Option Text :=
  ls.findSome? fun l =>
    match l.token with
    | .function n => if p.functions.any (·.name == n) then none else some n
    | _ => none

def parse (t : Text) : Except Fault Program := do
  let ls ← tokens (t.length + 1) 1 none t
  let (p, _) ← (Parser.program parsingDepth).run { tokens := ls }
  match undefinedCall? p ls with
  | some n =>
    let line := (ls.getLast?.map (·.line)).getD 1
    throw (.atLine (line + 1) (Raw.ofString "function " ++ n ++ Raw.ofString " never defined"))
  | none => return p

end RecordScript

end External

end SmartyLayout
