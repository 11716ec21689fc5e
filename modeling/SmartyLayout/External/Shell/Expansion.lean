import SmartyLayout.External.Shell.Arithmetic
import SmartyLayout.External.Shell.Pattern
import SmartyLayout.External.Shell.State

/-!
# SmartyLayout.External.Shell.Expansion — from words to fields

A word is expanded to pieces, which remember what was quoted and what came out of a parameter. The
pieces are then divided into fields, joined to one text, or taken for a pattern.
-/

namespace SmartyLayout

namespace External

namespace Shell

inductive Piece where
  /-- A character; one that `divides` can separate fields. -/
  | char (c : Char) (quoted divides : Bool)
  /-- An empty quoted text, which makes a field. -/
  | mark
  /-- The end of a field. -/
  | boundary
deriving DecidableEq, Repr

def valuePieces (quoted : Bool) (t : Text) : List Piece :=
  if quoted ∧ t.isEmpty then [.mark] else t.map fun c => .char c quoted (!quoted)

/-- Unquoted pieces of a word that stands in for a value can be divided. -/
def Piece.ofFallback : Piece → Piece
  | .char c false _ => .char c false true
  | p => p

def joinPieces (ps : List Piece) : Text :=
  ps.flatMap fun p =>
    match p with
    | .char c _ _ => [c]
    | .mark => []
    | .boundary => [' ']

def patternOf (ps : List Piece) : List Quotable :=
  ps.flatMap fun p =>
    match p with
    | .char c quoted _ => [(c, quoted)]
    | .mark => []
    | .boundary => [(' ', true)]

/-- Divides pieces into fields. `field` is the one that is being read, and `ended` says that blanks
have just ended one. -/
def divide (separators : Text) : (field : Option Text) → (ended : Bool) → List Piece → List Text
  | field, _, [] => field.toList.map List.reverse
  | field, _, .mark :: ps => divide separators (some (field.getD [])) false ps
  | field, _, .boundary :: ps => field.toList.map List.reverse ++ divide separators none false ps
  | field, ended, .char c _ divides :: ps =>
    if divides ∧ separators.any (· == c) then
      let blank := c = ' ' ∨ c = '\t' ∨ c = '\n'
      match field with
      | some f => f.reverse :: divide separators none blank ps
      | none =>
        if blank then divide separators none ended ps
        else if ended then divide separators none false ps
        else [] :: divide separators none false ps
    else divide separators (some (c :: field.getD [])) false ps

/-- The text between the arguments where all of them make one. -/
def State.argumentGlue (s : State) : Text :=
  match s.value? "IFS".toList with
  | none => [' ']
  | some t => t.take 1

def State.argumentPieces (s : State) (name : Text) (quoted : Bool) : List Piece :=
  if quoted then
    if name = ['@'] then
      List.intercalate [.boundary]
        (s.arguments.map fun a => .mark :: a.map fun c => Piece.char c true false)
    else valuePieces true (List.intercalate s.argumentGlue s.arguments)
  else
    List.intercalate [.boundary] (s.arguments.map fun a => a.map fun c => Piece.char c false true)

/-- The value of a parameter as pieces; none if it is not set. -/
def State.parameterPieces? (s : State) (name : Text) (quoted : Bool) : Option (List Piece) :=
  if name = ['@'] ∨ name = ['*'] then some (s.argumentPieces name quoted)
  else (s.parameter? name).map (valuePieces quoted)

/-- A parameter that has to be set. -/
def requireSet (name : Text) : Eval Unit := do
  let s ← get
  if s.options.any (· == 'u') ∧ (s.parameter? name).isNone ∧ name ≠ ['@'] ∧ name ≠ ['*'] then
    fatal (name ++ Raw.ofString ": parameter not set")

def arithmeticValue (t : Text) : Eval Text := do
  let s ← get
  match Arithmetic.evaluate s.value? t with
  | .error (.number u) => fatal (Raw.ofString "Illegal number: " ++ u)
  | .error (.expression message) =>
    fatal (Raw.ofString ("arithmetic expression: " ++ message ++ ": \"") ++ t ++ ['"'])
  | .ok (n, assigned) => do
    for (name, v) in assigned do
      assign name (Raw.ofInt v)
    pure (Raw.ofInt n)

/-- A text without the line breaks at its end. -/
def withoutLastBreaks (t : Text) : Text :=
  (t.reverse.dropWhile (· == '\n')).reverse

/-- A word with the home directory in place of a tilde at its front. -/
def State.withHome (s : State) (w : Word) : Word :=
  match w with
  | .text ('~' :: t) false :: ps =>
    if (t.isEmpty ∧ ps.isEmpty) ∨ t.head? = some '/' then
      match s.value? "HOME".toList with
      | some home => .text home true :: .text t false :: ps
      | none => w
    else w
  | _ => w

mutual

/-- Expands a word. What a command writes is given by `capture`. -/
def expandWord (capture : Command → Eval Text) : (fuel : Nat) → Word → Eval (List Piece)
  | 0, _ => pure []
  | _, [] => pure []
  | fuel + 1, p :: ps => do
    let a ← expandPart capture fuel p
    let b ← expandWord capture fuel ps
    pure (a ++ b)

def expandPart (capture : Command → Eval Text) : (fuel : Nat) → Part → Eval (List Piece)
  | 0, _ => pure []
  | fuel + 1, p => do
    match p with
    | .text t quoted =>
      pure (if quoted ∧ t.isEmpty then [.mark] else t.map fun c => .char c quoted false)
    | .parameter name quoted => do
      requireSet name
      let s ← get
      pure ((s.parameterPieces? name quoted).getD (valuePieces quoted []))
    | .length name quoted => do
      requireSet name
      let s ← get
      pure (valuePieces quoted (Raw.ofNat ((s.parameter? name).getD []).length))
    | .fallback name kind emptyToo word quoted => do
      let s ← get
      let value? := (s.parameter? name).filter fun v => !(emptyToo && v.isEmpty)
      let own := (s.parameterPieces? name quoted).getD []
      let standIn : Eval (List Piece) := do
        let ps ← expandWord capture fuel word
        let ps := if quoted then ps else ps.map Piece.ofFallback
        pure (if quoted ∧ ps.isEmpty then [.mark] else ps)
      match kind, value? with
      | .alternative, some _ => standIn
      | .alternative, none => pure (valuePieces quoted [])
      | _, some _ => pure own
      | .value, none => standIn
      | .assignment, none => do
        let ps ← expandWord capture fuel word
        let v := joinPieces ps
        if isName name then assign name v
        else fatal (name ++ Raw.ofString ": bad variable name")
        pure (valuePieces quoted v)
      | .complaint, none => do
        let ps ← expandWord capture fuel word
        fatal (name ++ Raw.ofString ": " ++
          (if word.isEmpty then
            Raw.ofString (if emptyToo then "parameter not set or null" else "parameter not set")
          else joinPieces ps))
    | .trimmed name kind pattern quoted => do
      requireSet name
      let s ← get
      let ps ← expandWord capture fuel pattern
      let trim := if kind.front then Pattern.trimFront else Pattern.trimBack
      pure (valuePieces quoted
        (trim kind.longest (patternOf ps) ((s.parameter? name).getD [])))
    | .output body quoted => do
      let t ← capture body
      pure (valuePieces quoted (withoutLastBreaks (t.filter (· != '\x00'))))
    | .arithmetic word quoted => do
      let ps ← expandWord capture fuel word
      let t ← arithmeticValue (joinPieces ps)
      pure (valuePieces quoted t)
    | .invalid => fatal (Raw.ofString "Bad substitution")

end

end Shell

end External

end SmartyLayout
