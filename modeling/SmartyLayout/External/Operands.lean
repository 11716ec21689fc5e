import SmartyLayout.External.Printing
import SmartyLayout.External.Regex
import SmartyLayout.External.Utility

/-!
# SmartyLayout.External.Operands — utilities that work on their operands

Programs that do not read files: parts of paths, expressions and tests.
-/

namespace SmartyLayout

namespace External

/-! ## Paths -/

/-- A path without slashes at its end; the root stays. -/
def withoutSlashes (t : Text) : Text :=
  let u := (t.reverse.dropWhile (· == '/')).reverse
  if u.isEmpty ∧ !t.isEmpty then ['/'] else u

def baseName (t : Text) : Text :=
  let t := withoutSlashes t
  if t = ['/'] then t else (t.reverse.takeWhile (· != '/')).reverse

def directoryName (t : Text) : Text :=
  let t := withoutSlashes t
  if t = ['/'] then t
  else
    let front := t.take (t.length - (baseName t).length)
    if front.isEmpty then ['.'] else withoutSlashes front

/-- A name without an ending, unless nothing else is left. -/
def withoutEnding (ending t : Text) : Text :=
  if Text.endsWith ending t ∧ ending.length < t.length then t.take (t.length - ending.length) else t

/-- Writes the last names of paths. -/
def basename : Utility :=
  withArguments { plain := "az", valued := "s", permuted := false
                  long := [("multiple", 'a', false), ("suffix", 's', true), ("zero", 'z', false)] }
    1 fun c a =>
    let ending := (a.value? 's').getD []
    let write (names : List Text) : Effect :=
      { stdout := Raw.unrecords (if a.has 'z' then '\x00' else '\n') names, left := c.input }
    match a.operands with
    | [] => c.misused (Raw.ofString "missing operand") 1
    | names =>
      if a.has 'a' || a.has 's' then
        write (names.map fun n => withoutEnding ending (baseName n))
      else
        match names with
        | [n] => write [baseName n]
        | [n, ending] => write [withoutEnding ending (baseName n)]
        | _ => c.misused (Raw.ofString "extra operand " ++ Raw.quoted (names[2]?.getD [])) 1

/-- Writes paths without their last names. -/
def dirname : Utility :=
  withArguments { plain := "z", long := [("zero", 'z', false)], permuted := false } 1 fun c a =>
    if a.operands.isEmpty then c.misused (Raw.ofString "missing operand") 1
    else
      { stdout := Raw.unrecords (if a.has 'z' then '\x00' else '\n')
          (a.operands.map directoryName)
        left := c.input }

/-! ## Expressions -/

namespace Expression

/-- An expression ends with a complaint. -/
abbrev Eval := StateT (List Text) (Except Text)

/-- A whole number, perhaps with a minus sign. -/
def int? : Text → Option Int
  | '+' :: _ => none
  | t => Raw.int? t

def number (t : Text) : Eval Int :=
  match int? t with
  | some n => pure n
  | none => throw (Raw.ofString "non-integer argument")

/-- A text counts as false. -/
def isNull (t : Text) : Bool :=
  t.isEmpty || (let ds := if t.head? = some '-' then t.tail else t
    !ds.isEmpty && ds.all (· == '0'))

/-- Matches an expression at the beginning of a text: the first group, or the length. -/
def matching (t pattern : Text) : Eval Text :=
  match Regex.parse? { extended := false } pattern with
  | none => throw (Raw.ofString "Invalid regular expression")
  | some r =>
    let grouped := Text.contains ['\\', '('] pattern
    match r.at? ⟨[], t, []⟩ with
    | some stop =>
      pure (if grouped then stop.group 1 else Raw.ofNat (t.length - stop.after.length))
    | none => pure (if grouped then [] else ['0'])

def apply (op a b : Text) : Eval Text := do
  let truth (v : Bool) : Text := if v then ['1'] else ['0']
  let compared : Ordering := match int? a, int? b with
    | some m, some n => compare m n
    | _, _ => compare (a.map Char.toNat) (b.map Char.toNat)
  match String.ofList op with
  | "|" => pure (if isNull a then (if isNull b then ['0'] else b) else a)
  | "&" => pure (if isNull a || isNull b then ['0'] else a)
  | "=" | "==" => pure (truth (compared == .eq))
  | "!=" => pure (truth (compared != .eq))
  | "<" => pure (truth (compared == .lt))
  | "<=" => pure (truth (compared != .gt))
  | ">" => pure (truth (compared == .gt))
  | ">=" => pure (truth (compared != .lt))
  | ":" => matching a b
  | "+" => do pure (Raw.ofInt ((← number a) + (← number b)))
  | "-" => do pure (Raw.ofInt ((← number a) - (← number b)))
  | "*" => do pure (Raw.ofInt ((← number a) * (← number b)))
  | _ => do
    let m ← number a
    let n ← number b
    if n = 0 then throw (Raw.ofString "division by zero")
    else pure (Raw.ofInt (if op = ['/'] then m.tdiv n else m.tmod n))

def levels : List (List String) :=
  [["|"], ["&"], ["<", "<=", "=", "==", "!=", ">=", ">"], ["+", "-"], ["*", "/", "%"], [":"]]

/-- Takes the next text; `before` is the text in front of it. -/
def next (before : Text) : Eval Text := do
  match ← get with
  | [] => throw (Raw.ofString "syntax error: missing argument after " ++ Raw.quoted before)
  | t :: ts => do set ts; pure t

mutual

/-- Evaluates the operators of a level and of tighter ones; what is not `active` is only read. -/
def level : (fuel : Nat) → (active : Bool) → (n : Nat) → (before : Text) → Eval Text
  | 0, _, _, _ => throw (Raw.ofString "syntax error")
  | fuel + 1, active, n, before => do
    match levels[n]? with
    | none => primary fuel active before
    | some ops => do
      let first ← level fuel active (n + 1) before
      more fuel active n ops first

/-- Goes on with the operators of a level. The right side of an alternative or of a condition is only
read if the left side settles it. -/
def more : (fuel : Nat) → (active : Bool) → (n : Nat) → List String → Text → Eval Text
  | 0, _, _, _, a => pure a
  | fuel + 1, active, n, ops, a => do
    match ← get with
    | op :: ts =>
      if ops.any (·.toList == op) then do
        set ts
        let open_ := active && (op ≠ ['|'] || isNull a) && (op ≠ ['&'] || !isNull a)
        let b ← level fuel open_ (n + 1) op
        if active then more fuel active n ops (← apply op a b) else more fuel active n ops a
      else pure a
    | [] => pure a

/-- Evaluates a text, a function or an expression between parentheses. -/
def primary : (fuel : Nat) → (active : Bool) → (before : Text) → Eval Text
  | 0, _, _ => throw (Raw.ofString "syntax error")
  | fuel + 1, active, before => do
    let t ← next before
    match String.ofList t with
    | "(" => do
      let v ← level fuel active 0 t
      match ← get with
      | [')'] :: ts => do set ts; pure v
      | [] => throw (Raw.ofString "syntax error: expecting ')' after " ++ Raw.quoted v)
      | u :: _ => throw (Raw.ofString "syntax error: expecting ')' instead of " ++ Raw.quoted u)
    | "+" => next t
    | "length" => do
      let v ← primary fuel active t
      pure (Raw.ofNat v.length)
    | "match" => do
      let a ← primary fuel active t
      let b ← primary fuel active a
      if active then matching a b else pure a
    | "index" => do
      let a ← primary fuel active t
      let b ← primary fuel active a
      pure (Raw.ofNat ((a.findIdx? fun c => b.any (· == c)).elim 0 (· + 1)))
    | "substr" => do
      let a ← primary fuel active t
      let i ← primary fuel active a
      let n ← primary fuel active i
      match int? i, int? n with
      | some i, some n =>
        pure (if i ≤ 0 ∨ n ≤ 0 then [] else (a.drop (i.toNat - 1)).take n.toNat)
      | _, _ => pure []
    | ")" => throw (Raw.ofString "syntax error: unexpected ')'")
    | _ => pure t

end

end Expression

open Expression in
/-- Writes the value of an expression. -/
def expr : Utility := fun c =>
  let args := if c.args.head? = some ['-', '-'] then c.args.tail else c.args
  if args.isEmpty then c.misused (Raw.ofString "missing operand") 2
  else
    match (level (8 * args.length + 16) true 0 []).run args with
    | .error message => c.fails message 2
    | .ok (v, []) => { stdout := v ++ ['\n'], status := if isNull v then 1 else 0, left := c.input }
    | .ok (_, t :: _) =>
      c.fails (Raw.ofString "syntax error: unexpected argument " ++ Raw.quoted t) 2

/-! ## Tests -/

namespace Test

structure Files where
  isFile : Text → Bool
  isDirectory : Text → Bool
  isProgram : Text → Bool
  isEmpty : Text → Bool

def isDirectory (t : Text) : Bool :=
  ["/", "/tmp", "/dev", "/bin", "/usr", "/usr/bin", "/etc", ".", "..", "/root", "/home", "/var",
    "/opt", "/proc", "/sys", "/run", "/mnt", "/srv", "/boot", "/sbin", "/lib", "/media", "/usr/lib",
    "/usr/local", "/usr/local/bin", "/usr/sbin", "/usr/share", "/var/tmp", "/var/log",
    "/dev/shm"].any fun d => d.toList == withoutSlashes t

def isDevice (t : Text) : Bool :=
  ["/dev/null", "/dev/stdin", "/dev/stdout", "/dev/stderr", "/dev/tty", "/dev/zero"].any
    (·.toList == t)

inductive Fault where
  /-- Something is left behind the test: the last thing that was read, and the next. -/
  | surplus (last next : Text)
  | noNumber (t : Text)
  | noArgument (operator : Text)
  | noParenthesis

/-- The shell's complaint about a test. -/
def Fault.message : Fault → Text
  | .surplus last _ =>
    if last.isEmpty then Raw.ofString "unexpected operator"
    else last ++ Raw.ofString ": unexpected operator"
  | .noNumber t => Raw.ofString "Illegal number: " ++ t
  | .noArgument op => op ++ Raw.ofString ": argument expected"
  | .noParenthesis => Raw.ofString "closing paren expected"

/-- The free-standing program's complaint about a test with so many arguments. -/
def Fault.standaloneMessage (f : Fault) (args : Nat) : Text :=
  let quoted (t : Text) : Text := '\x27' :: t ++ ['\x27']
  match f with
  | .surplus _ next =>
    if args = 2 then Raw.ofString "missing argument after " ++ quoted next
    else if args = 3 then quoted next ++ Raw.ofString ": binary operator expected"
    else Raw.ofString "extra argument " ++ quoted next
  | .noNumber t => Raw.ofString "invalid integer " ++ quoted t
  | .noArgument op => Raw.ofString "missing argument after " ++ quoted op
  | .noParenthesis => Raw.ofString "')' expected"

/-- A test ends with a complaint. -/
abbrev Check := StateT (List Text) (Except Fault)

def isUnary (t : Text) : Bool :=
  ["-z", "-n", "-e", "-f", "-d", "-r", "-w", "-x", "-s", "-h", "-L", "-p", "-S", "-b", "-c", "-u",
    "-g", "-k", "-O", "-G", "-t"].any (·.toList == t)

def isBinary (t : Text) : Bool :=
  ["=", "==", "!=", "<", ">", "-eq", "-ne", "-lt", "-le", "-gt", "-ge", "-nt", "-ot", "-ef"].any
    (·.toList == t)

/-- The number of an operand, with blanks around it. -/
def number (t : Text) : Check Int :=
  let trimmed := ((t.dropWhile Raw.isSpace).reverse.dropWhile Raw.isSpace).reverse
  match Raw.int? trimmed with
  | some n => pure n
  | none => throw (.noNumber t)

def unary (f : Files) (op t : Text) : Bool :=
  match String.ofList op with
  | "-z" => t.isEmpty
  | "-n" => !t.isEmpty
  | "-f" => f.isFile t
  | "-d" => f.isDirectory t
  | "-e" | "-r" | "-w" => f.isFile t || f.isDirectory t || isDevice t
  | "-c" => isDevice t
  | "-x" => f.isDirectory t || f.isProgram t
  | "-s" => (f.isFile t && !f.isEmpty t) || f.isDirectory t
  | _ => false

def binary (op a b : Text) : Check Bool := do
  match String.ofList op with
  | "=" | "==" => pure (a == b)
  | "!=" => pure (a != b)
  | "<" => pure (Raw.before a b)
  | ">" => pure (Raw.before b a)
  | "-nt" | "-ot" | "-ef" => pure false
  | name => do
    let m ← number a
    let n ← number b
    pure (match name with
      | "-eq" => m == n
      | "-ne" => m != n
      | "-lt" => decide (m < n)
      | "-le" => decide (m ≤ n)
      | "-gt" => decide (n < m)
      | _ => decide (n ≤ m))

/-- An operator stands where an operand is wanted. -/
def isOperand (ts : List Text) : Bool :=
  match ts with
  | [] => true
  | [_] => false
  | op :: _ => isBinary op

mutual

/-- Tests joined by `-o`. -/
def either (f : Files) : (fuel : Nat) → Check Bool
  | 0 => pure false
  | fuel + 1 => do
    let a ← both f fuel
    match ← get with
    | ['-', 'o'] :: ts => do
      set ts
      let b ← either f fuel
      pure (a || b)
    | _ => pure a

/-- Tests joined by `-a`. -/
def both (f : Files) : (fuel : Nat) → Check Bool
  | 0 => pure false
  | fuel + 1 => do
    let a ← negation f fuel
    match ← get with
    | ['-', 'a'] :: ts => do
      set ts
      let b ← both f fuel
      pure (a && b)
    | _ => pure a

/-- A test behind exclamation marks. -/
def negation (f : Files) : (fuel : Nat) → Check Bool
  | 0 => pure false
  | fuel + 1 => do
    match ← get with
    | ['!'] :: ts =>
      if isOperand ts ∧ !ts.isEmpty then primary f fuel
      else do
        set ts
        let a ← negation f fuel
        pure (!a)
    | _ => primary f fuel

def primary (f : Files) : (fuel : Nat) → Check Bool
  | 0 => pure false
  | fuel + 1 => do
    match ← get with
    | [] => pure false
    | ['('] :: [')'] :: ts => do set ts; pure false
    | ['('] :: t :: ts =>
      if isBinary t ∧ !ts.isEmpty then operand ['('] (t :: ts)
      else do
        set (t :: ts)
        let a ← either f fuel
        match ← get with
        | [')'] :: ts => do set ts; pure a
        | _ => throw .noParenthesis
    | t :: ts =>
      if isUnary t ∧ !isOperand ts then
        match ts with
        | v :: ts => do set ts; pure (unary f t v)
        | [] => throw (.noArgument t)
      else operand t ts
where
  /-- An operand, and the operator behind it if there is one. -/
  operand (t : Text) (ts : List Text) : Check Bool := do
    match ts with
    | op :: rest =>
      if isBinary op then
        match rest with
        | v :: rest => do set rest; binary op t v
        | [] => throw (.noArgument op)
      else do set ts; pure (!t.isEmpty)
    | [] => do set ts; pure (!t.isEmpty)

end

def run (f : Files) : (fuel : Nat) → List Text → Except Fault Bool
  | 0, _ => .ok false
  | fuel + 1, args =>
    let general (ts : List Text) : Except Fault Bool :=
      match (either f (8 * ts.length + 8)).run ts with
      | .error e => .error e
      | .ok (v, []) => .ok v
      | .ok (_, next :: rest) =>
        .error (.surplus ((ts[ts.length - rest.length - 2]?).getD []) next)
    match args with
    | [] => .ok false
    | [a, op, b] =>
      if isBinary op then
        match (binary op a b).run [] with
        | .error e => .error e
        | .ok (v, _) => .ok v
      else if a = ['('] ∧ b = [')'] then general [op]
      else if a = ['!'] then (run f fuel [op, b]).map (!·)
      else general args
    | [a, b, c, d] =>
      if a = ['('] ∧ d = [')'] then general [b, c]
      else if a = ['!'] then (run f fuel [b, c, d]).map (!·)
      else general args
    | ts => general ts

end Test

end External

end SmartyLayout
