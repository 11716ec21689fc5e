import SmartyLayout.External.Raw

/-!
# SmartyLayout.External.Regex — regular expressions of text utilities

Basic and extended expressions with groups, counted repetition and back references. A search gives
the leftmost match; repetition takes as much as it can.
-/

namespace SmartyLayout

namespace External

inductive Regex where
  | chars (accepts : Char → Bool)
  | sequence (rs : List Regex)
  | choice (rs : List Regex)
  /-- At least `least` times, and at most `most` times if there is a bound. -/
  | repeated (r : Regex) (least : Nat) (most : Option Nat)
  | group (n : Nat) (r : Regex)
  | reference (n : Nat)
  | lineStart
  | lineEnd
  /-- The edge of a word: its beginning, its end, or either. -/
  | wordEdge (start stop : Bool)
  /-- No edge of a word. -/
  | insideWord

namespace Regex

/-! ## Reading -/

/-- The two notations. -/
structure Dialect where
  /-- Parentheses, braces and the like are operators by themselves, not behind a backslash. -/
  extended : Bool
  foldCase : Bool := false

/-- A single character, which may be quoted. -/
def char (n : Dialect) (c : Char) : Regex :=
  let c := bareChar c
  if n.foldCase then .chars fun x => x.toLower == c.toLower else .chars (· == c)

def isWord (c : Char) : Bool :=
  c.isAlphanum || c == '_'

/-- The bounds between braces: `m`, `m,`, `,n` or `m,n`. -/
def bounds? (t : Text) : Option (Nat × Option Nat) :=
  match t.splitOn ',' with
  | [m] => (Raw.nat? m).map fun m => (m, some m)
  | [m, n] => do
    let m ← if m.isEmpty then some 0 else Raw.nat? m
    if n.isEmpty then some (m, none) else (Raw.nat? n).map fun n => (m, some n)
  | _ => none

/-- The bounds behind an opening brace, and the text behind the closing one. -/
def counted? (n : Dialect) (t : Text) : Option ((Nat × Option Nat) × Text) := do
  let inner := t.takeWhile fun c => c.isDigit || c == ','
  let rest ← Text.after? (if n.extended then ['\x7d'] else ['\\', '\x7d']) (t.drop inner.length)
  let bounds ← bounds? inner
  some (bounds, rest)

/-- A repetition sign at the front of a text. -/
def repetition? (n : Dialect) (t : Text) : Option ((Nat × Option Nat) × Text) :=
  match n.extended, t with
  | _, '*' :: rest => some ((0, none), rest)
  | true, '+' :: rest => some ((1, none), rest)
  | true, '?' :: rest => some ((0, some 1), rest)
  | true, '\x7b' :: rest => counted? n rest
  | false, '\\' :: '+' :: rest => some ((1, none), rest)
  | false, '\\' :: '?' :: rest => some ((0, some 1), rest)
  | false, '\\' :: '\x7b' :: rest => counted? n rest
  | _, _ => none

/-- A group opens at the front of a text. -/
def opens? (n : Dialect) (t : Text) : Option Text :=
  if n.extended then Text.after? ['('] t else Text.after? ['\\', '('] t

/-- A group closes at the front of a text. -/
def closes? (n : Dialect) (t : Text) : Option Text :=
  if n.extended then Text.after? [')'] t else Text.after? ['\\', ')'] t

/-- Another choice begins at the front of a text. -/
def bar? (n : Dialect) (t : Text) : Option Text :=
  if n.extended then Text.after? ['|'] t else Text.after? ['\\', '|'] t

/-- What a letter behind a backslash stands for. -/
def escaped (n : Dialect) (c : Char) : Regex :=
  match c with
  | 'n' => .chars (· == '\n')
  | 't' => .chars (· == '\t')
  | 'w' => .chars isWord
  | 'W' => .chars fun x => !isWord x
  | 's' => .chars Raw.isSpace
  | 'S' => .chars fun x => !Raw.isSpace x
  | 'b' => .wordEdge true true
  | '<' => .wordEdge true false
  | '>' => .wordEdge false true
  | 'B' => .insideWord
  | '\x60' => .lineStart
  | '\x27' => .lineEnd
  | c =>
    if c.isDigit ∧ c ≠ '0' then .reference (c.toNat - '0'.toNat) else char n c

/-- An expression is being read: the number of groups so far, and the text to be read. -/
abbrev Reader := StateT (Nat × Text) Option

mutual

/-- Reads choices up to the end of a group or of the text. -/
def readChoice (n : Dialect) : (fuel : Nat) → (depth : Nat) → Reader Regex
  | 0, _ => failure
  | fuel + 1, depth => do
    let first ← readSequence n fuel depth []
    let (groups, t) ← get
    match bar? n t with
    | none => pure first
    | some rest => do
      set (groups, rest)
      match ← readChoice n fuel depth with
      | .choice rs => pure (.choice (first :: rs))
      | r => pure (.choice [first, r])

/-- Reads elements one after the other; those so far are given latest first. -/
def readSequence (n : Dialect) : (fuel : Nat) → (depth : Nat) → List Regex → Reader Regex
  | 0, _, _ => failure
  | fuel + 1, depth, rs => do
    let (_, t) ← get
    if t.isEmpty || (bar? n t).isSome || (depth > 0 && (closes? n t).isSome) then
      pure (.sequence rs.reverse)
    else
      let r ← readElement n fuel depth rs.isEmpty
      let r ← readRepetitions n fuel r
      readSequence n fuel depth (r :: rs)

/-- Reads the repetition signs behind an element. -/
def readRepetitions (n : Dialect) : (fuel : Nat) → Regex → Reader Regex
  | 0, _ => failure
  | fuel + 1, r => do
    let (groups, t) ← get
    match r, repetition? n t with
    | .lineStart, _ => pure r
    | _, some ((least, most), rest) => do
      set (groups, rest)
      readRepetitions n fuel (.repeated r least most)
    | _, none => pure r

/-- Reads one element. A star in front stands for itself in basic notation. -/
def readElement (n : Dialect) : (fuel : Nat) → (depth : Nat) → (first : Bool) → Reader Regex
  | 0, _, _ => failure
  | fuel + 1, depth, first => do
    let (groups, t) ← get
    match opens? n t with
    | some rest => do
      set (groups + 1, rest)
      let r ← readChoice n fuel (depth + 1)
      let (later, t) ← get
      match closes? n t with
      | some rest => do
        set (later, rest)
        pure (.group (groups + 1) r)
      | none => failure
    | none =>
      match t with
      | [] => failure
      | '.' :: rest => do set (groups, rest); pure (.chars fun _ => true)
      | '[' :: rest =>
        match bracket? ['^'] rest with
        | none => failure
        | some (accepts, rest) => do
          set (groups, rest)
          pure (.chars fun c =>
            accepts c || (n.foldCase && (accepts c.toLower || accepts c.toUpper)))
      | '^' :: rest => do
        set (groups, rest)
        pure (if n.extended || first then .lineStart else char n '^')
      | '$' :: rest => do
        set (groups, rest)
        let atEnd := n.extended || rest.isEmpty || (closes? n rest).isSome || (bar? n rest).isSome
        pure (if atEnd then .lineEnd else char n '$')
      | '\\' :: c :: rest => do set (groups, rest); pure (escaped n c)
      | '\\' :: [] => failure
      | c :: rest => do set (groups, rest); pure (char n c)

end

def parse? (n : Dialect) (t : Text) : Option Regex :=
  match (readChoice n (8 * t.length + 16) 0).run (0, t) with
  | some (r, (_, [])) => some r
  | _ => none

/-! ## Matching -/

/-- A place in a text: the characters in front of it, latest first, and those behind it. -/
structure Place where
  before : Text
  after : Text
  /-- The texts of the groups matched so far. -/
  groups : List (Nat × Text) := []

namespace Place

def group (p : Place) (n : Nat) : Text :=
  ((p.groups.find? (·.1 == n)).map (·.2)).getD []

def advance (p : Place) (n : Nat) : Place :=
  { p with before := (p.after.take n).reverse ++ p.before, after := p.after.drop n }

def since (p : Place) (earlier : Place) : Text :=
  earlier.after.take (earlier.after.length - p.after.length)

/-- A word stands in front, and a word stands behind. -/
def words (p : Place) : Bool × Bool :=
  (p.before.head?.any isWord, p.after.head?.any isWord)

end Place

/-- Matches an expression at a place, and then what `next` asks for. The first way that works is
taken. -/
def matchAt : (fuel : Nat) → Regex → Place → (Place → Option Place) → Option Place
  | 0, _, _, _ => none
  | fuel + 1, r, p, next =>
    match r with
    | .chars accepts =>
      match p.after with
      | c :: _ => if accepts c then next (p.advance 1) else none
      | [] => none
    | .sequence [] => next p
    | .sequence (r :: rs) => matchAt fuel r p fun p => matchAt fuel (.sequence rs) p next
    | .choice rs => rs.findSome? fun r => matchAt fuel r p next
    | .repeated (.chars accepts) least most =>
      let run := (p.after.takeWhile accepts).length
      let run := match most with
        | some m => min run m
        | none => run
      if run < least then none
      else (List.range (run - least + 1)).findSome? fun k => next (p.advance (run - k))
    | .repeated r least most =>
      let once := if most = some 0 then none else
        matchAt fuel r p fun q =>
          if q.after.length < p.after.length then
            matchAt fuel (.repeated r (least - 1) (most.map (· - 1))) q next
          else none
      once <|> (if least = 0 then next p else matchAt fuel r p fun q =>
        if q.after.length = p.after.length then next q else none)
    | .group n r =>
      matchAt fuel r p fun q => next { q with groups := (n, q.since p) :: q.groups }
    | .reference n =>
      match Text.after? (p.group n) p.after with
      | some _ => next (p.advance (p.group n).length)
      | none => none
    | .lineStart => if p.before.isEmpty then next p else none
    | .lineEnd => if p.after.isEmpty then next p else none
    | .wordEdge start stop =>
      let (before, after) := p.words
      if (start && !before && after) || (stop && before && !after) then next p else none
    | .insideWord =>
      let (before, after) := p.words
      if before == after then next p else none

/-- Steps that suffice to match an expression on a text. -/
def steps (t : Text) : Nat :=
  4 * t.length + 400

def longer (a b : Option Place) : Option Place :=
  match a, b with
  | some p, some q => if q.after.length < p.after.length then some q else some p
  | some p, none => some p
  | none, b => b

/-- An expression can match in several ways of which the first need not be the longest: it has a
choice, or repeats more than a character. -/
def isAmbiguous : Regex → Bool
  | .choice _ => true
  | .sequence rs => rs.attach.any fun ⟨r, _⟩ => isAmbiguous r
  | .repeated (.chars _) _ _ => false
  | .repeated _ _ _ => true
  | .group _ r => isAmbiguous r
  | _ => false

def hasReference : Regex → Bool
  | .choice rs => rs.attach.any fun ⟨r, _⟩ => hasReference r
  | .sequence rs => rs.attach.any fun ⟨r, _⟩ => hasReference r
  | .repeated r _ _ => hasReference r
  | .group _ r => hasReference r
  | .reference _ => true
  | _ => false

/-- Adds places to others, at most one for each rest of the text. -/
def merge (ps qs : List Place) : List Place :=
  qs.foldl (fun ps q => if ps.any (·.after.length == q.after.length) then ps else q :: ps) ps

/-- All places where a match of an expression can end that starts at one of some places. -/
def ends : (fuel : Nat) → Regex → List Place → List Place
  | 0, _, _ => []
  | fuel + 1, r, ps =>
    match r with
    | .sequence [] => ps
    | .sequence (r :: rs) => ends fuel (.sequence rs) (ends fuel r ps)
    | .choice rs => rs.foldl (fun qs r => merge qs (ends fuel r ps)) []
    | .group _ r => ends fuel r ps
    | .repeated (.chars accepts) least most =>
      ps.foldl (fun qs p =>
        let run := (p.after.takeWhile accepts).length
        let run := match most with
          | some m => min run m
          | none => run
        merge qs (if run < least then []
          else (List.range (run - least + 1)).map fun k => p.advance (least + k))) []
    | .repeated r least most =>
      if least ≠ 0 then ends fuel (.repeated r (least - 1) (most.map (· - 1))) (ends fuel r ps)
      else if most = some 0 then ps
      else
        let further := (ends fuel r ps).filter fun q =>
          !ps.any (·.after.length == q.after.length)
        if further.isEmpty then ps
        else merge ps (ends fuel (.repeated r 0 (most.map (· - 1))) (merge ps further))
    | r => ps.filterMap fun p => matchAt (fuel + 1) r p some

/-- The match at a place, which is the longest that there is. -/
def at? (r : Regex) (p : Place) : Option Place :=
  let first := matchAt (steps p.after) r p some
  if !isAmbiguous r || first.isNone then first
  else if hasReference r then
    match r with
    | .choice rs => (rs.map fun r => matchAt (steps p.after) r p some).foldl longer none
    | _ => first
  else
    let shortest := (ends (steps p.after) r [p]).foldl (fun n q => min n q.after.length)
      p.after.length
    matchAt (steps p.after) r p fun q => if q.after.length = shortest then some q else none

/-- The first match at a place or behind it: where it starts and where it stops. -/
def search? (r : Regex) : (fuel : Nat) → Place → Option (Place × Place)
  | 0, _ => none
  | fuel + 1, p =>
    match r.at? p with
    | some q => some (p, q)
    | none => if p.after.isEmpty then none else r.search? fuel (p.advance 1)

def find? (r : Regex) (t : Text) : Option (Place × Place) :=
  r.search? (t.length + 1) ⟨[], t, []⟩

def faultMessage (n : Dialect) (t : Text) : String :=
  let count (sign? : Text → Option Text) : Nat :=
    ((List.range t.length).filter fun k => (sign? (t.drop k)).isSome).length
  if count (closes? n) < count (opens? n) then "Unmatched ( or \\("
  else if count (opens? n) < count (closes? n) then "Unmatched ) or \\)"
  else "Invalid regular expression"

end Regex

end External

end SmartyLayout
