import SmartyLayout.External.Regex
import SmartyLayout.External.Utility

/-!
# SmartyLayout.External.StreamEditor — editing lines with a script

The utility `sed`. A script is a list of instructions, each with the lines it is for. A cycle reads
a line into the pattern space, runs the instructions and writes the pattern space.
-/

namespace SmartyLayout

namespace External

namespace StreamEditor

/-! ## Scripts -/

inductive Address where
  | line (n : Nat)
  | last
  | pattern (r : Option Regex)
  /-- Every so many lines. -/
  | step (first every : Nat)
  /-- So many lines more; only at the end of a range. -/
  | further (n : Nat)

structure Selector where
  start : Option Address := none
  stop : Option Address := none
  negated : Bool := false

inductive Filling where
  | text (t : Text)
  | group (n : Nat)
  /-- The case of what follows: upper, lower, as it is, and for one character only. -/
  | case (upper : Option Bool) (once : Bool)

structure Substitution where
  /-- None stands for the latest expression. -/
  pattern : Option Regex
  filling : List Filling
  everywhere : Bool := false
  nth : Nat := 1
  prints : Bool := false
  /-- A file to which the result is written. -/
  file : Option Text := none

inductive Action where
  | substitute (s : Substitution)
  | exchange (source target : Text)
  | print
  | printFirst
  | delete
  | deleteFirst
  | quit (silent : Bool) (status : Nat)
  | next
  | appendNext
  | hold
  | holdMore
  | fetch
  | fetchMore
  | swap
  | number
  /-- Shows the pattern space with nothing invisible in it. -/
  | display
  | readFile (name : Text)
  | writeFile (name : Text)
  | append (t : Text)
  | insert (t : Text)
  | change (t : Text)
  | label (name : Text)
  | branch (name : Text)
  | branchIf (name : Text)
  | branchUnless (name : Text)
  | openBlock
  | closeBlock
  | nothing

structure Instruction where
  selector : Selector
  action : Action

/-! ## Reading scripts -/

/-- A script is being read: the text to be read, and how many characters have been. -/
structure Reader where
  rest : Text
  read : Nat := 0

/-- Reading fails with a message. -/
abbrev Read := StateT Reader (Except Text)

/-- Fails with a message at the present place. -/
def complain {α : Type} (message : String) : Read α := do
  let r ← get
  throw (Raw.ofString "-e expression #1, char " ++ Raw.ofNat r.read ++
    Raw.ofString (": " ++ message))

/-- Takes so many characters. -/
def skip (n : Nat) : Read Unit :=
  modify fun r => { rest := r.rest.drop n, read := r.read + min n r.rest.length }

/-- Takes characters while they satisfy a test. -/
def takeWhile (p : Char → Bool) : Read Text := do
  let r ← get
  let t := r.rest.takeWhile p
  skip t.length
  pure t

def takeChar? : Read (Option Char) := do
  let r ← get
  skip 1
  pure r.rest.head?

/-- The number of characters of a bracket expression at the front of a text; 0 if there is none. -/
def bracketWidth (t : Text) : Nat :=
  match t with
  | '[' :: cs =>
    match bracket? ['^'] cs with
    | some (_, rest) => t.length - rest.length
    | none => 0
  | _ => 0

/-- The text up to an unescaped delimiter, and how many characters that takes with the delimiter. An
escaped delimiter stands for itself; in an expression one between brackets does too. `inside` counts
the characters left of a bracket expression. -/
def delimited? (delimiter : Char) (expression : Bool) : (inside : Nat) → Text → Option (Text × Nat)
  | _, [] => none
  | inside + 1, c :: cs =>
    (delimited? delimiter expression inside cs).map fun (t, n) => (c :: t, n + 1)
  | 0, '\\' :: c :: cs =>
    (delimited? delimiter expression 0 cs).map fun (t, n) =>
      (if c = delimiter then c :: t else '\\' :: c :: t, n + 2)
  | 0, c :: cs =>
    if c = delimiter then some ([], 1)
    else
      let inside := if expression then bracketWidth (c :: cs) - 1 else 0
      (delimited? delimiter expression inside cs).map fun (t, n) => (c :: t, n + 1)

def takeDelimited (delimiter : Char) (expression : Bool) (command : String) : Read Text := do
  let r ← get
  match delimited? delimiter expression 0 r.rest with
  | some (t, n) => do skip n; pure t
  | none => do
    skip r.rest.length
    complain ("unterminated " ++ command)

/-- The pieces of a replacement; text is collected in `text`, latest first. -/
def fillings (text : Text) : Text → List Filling
  | [] => if text.isEmpty then [] else [.text text.reverse]
  | [c] => if c = '&' then done (.group 0) [] else [.text (c :: text).reverse]
  | '\\' :: c :: cs =>
    if c.isDigit then done (.group (c.toNat - '0'.toNat)) (fillings [] cs)
    else if c = 'n' then fillings ('\n' :: text) cs
    else if c = 't' then fillings ('\t' :: text) cs
    else if c = 'U' then done (.case (some true) false) (fillings [] cs)
    else if c = 'L' then done (.case (some false) false) (fillings [] cs)
    else if c = 'u' then done (.case (some true) true) (fillings [] cs)
    else if c = 'l' then done (.case (some false) true) (fillings [] cs)
    else if c = 'E' then done (.case none false) (fillings [] cs)
    else fillings (c :: text) cs
  | c :: d :: cs =>
    if c = '&' then done (.group 0) (fillings [] (d :: cs)) else fillings (c :: text) (d :: cs)
where
  /-- The text so far, a piece, and the rest. -/
  done (f : Filling) (later : List Filling) : List Filling :=
    if text.isEmpty then f :: later else .text text.reverse :: f :: later

/-- Reads an expression; an empty one stands for the latest. -/
def readRegex (extended foldCase : Bool) (t : Text) : Read (Option Regex) :=
  if t.isEmpty then pure none
  else
    match Regex.parse? { extended, foldCase } t with
    | some r => pure (some r)
    | none => complain (Regex.faultMessage { extended, foldCase } t)

def readAddress (extended : Bool) : Read (Option Address) := do
  let r ← get
  match r.rest with
  | '$' :: _ => do skip 1; pure (some .last)
  | '/' :: _ => do
    skip 1
    let t ← takeDelimited '/' true "address regex"
    finish t
  | '\\' :: d :: _ => do
    skip 2
    let t ← takeDelimited d true "address regex"
    finish t
  | c :: _ =>
    if c.isDigit then do
      let n ← takeWhile Char.isDigit
      match (← get).rest with
      | '~' :: _ => do
        skip 1
        let k ← takeWhile Char.isDigit
        pure (some (.step (Raw.digits 10 n) (Raw.digits 10 k)))
      | _ => pure (some (.line (Raw.digits 10 n)))
    else pure none
  | [] => pure none
where
  /-- The address of an expression, with its flags. -/
  finish (t : Text) : Read (Option Address) := do
    let flags ← takeWhile fun c => c == 'I' || c == 'M'
    pure (some (.pattern (← readRegex extended (flags.any (· == 'I')) t)))

/-- A blank inside a script. -/
def isGapChar (c : Char) : Bool :=
  c == ' ' || c == '\t'

def readSelector (extended : Bool) : Read Selector := do
  let start ← readAddress extended
  let _ ← takeWhile isGapChar
  let stop ← match start, (← get).rest with
    | some _, ',' :: _ => do
      skip 1
      let _ ← takeWhile isGapChar
      match (← get).rest with
      | '+' :: _ => do
        skip 1
        let n ← takeWhile Char.isDigit
        pure (some (Address.further (Raw.digits 10 n)))
      | _ =>
        match ← readAddress extended with
        | some a => pure (some a)
        | none => do skip 1; complain "unexpected `,'"
    | _, _ => pure none
  let _ ← takeWhile isGapChar
  let signs ← takeWhile fun c => c == '!' || isGapChar c
  pure { start, stop, negated := signs.any (· == '!') }

structure Flags where
  everywhere : Bool := false
  prints : Bool := false
  foldCase : Bool := false
  nth : Nat := 1
  file : Option Text := none

/-- Reads the name of a file, which goes to the end of the line. -/
def readFileName : Read Text := do
  let _ ← takeWhile isGapChar
  let name ← takeWhile (· != '\n')
  if name.isEmpty then complain "missing filename in r/R/w/W commands" else pure name

def readFlags : (fuel : Nat) → Flags → Read Flags
  | 0, f => pure f
  | fuel + 1, f => do
    match (← get).rest with
    | 'g' :: _ => do skip 1; readFlags fuel { f with everywhere := true }
    | 'p' :: _ => do skip 1; readFlags fuel { f with prints := true }
    | 'i' :: _ | 'I' :: _ => do skip 1; readFlags fuel { f with foldCase := true }
    | 'm' :: _ | 'M' :: _ => do skip 1; readFlags fuel f
    | 'w' :: _ => do
      skip 1
      let name ← readFileName
      pure { f with file := some name }
    | c :: _ =>
      if c.isDigit then do
        let n ← takeWhile Char.isDigit
        readFlags fuel { f with nth := Raw.digits 10 n }
      else if c = ';' ∨ c = '\n' ∨ c = '\x7d' ∨ c = '#' ∨ isGapChar c then pure f
      else do skip 1; complain "unknown option to `s'"
    | [] => pure f

/-- Reads the text that is put in; a backslash keeps the line break behind it. -/
def textLines : Text → Text × Nat
  | [] => ([], 0)
  | '\\' :: c :: cs =>
    let (t, n) := textLines cs
    (c :: t, n + 2)
  | c :: cs =>
    if c = '\n' then ([], 1)
    else
      let (t, n) := textLines cs
      (c :: t, n + 1)

def readText : Read Text := do
  let _ ← takeWhile isGapChar
  match (← get).rest with
  | '\\' :: '\n' :: _ => skip 2
  | '\\' :: t => do
    skip 1
    let gap := t.takeWhile isGapChar
    if (t.drop gap.length).head? = some '\n' then skip (gap.length + 1)
  | _ => pure ()
  let r ← get
  if r.rest.isEmpty then do complain "expected \\ after `a', `c' or `i'"
  else
    let (t, n) := textLines r.rest
    skip n
    pure (t ++ ['\n'])

def readLabel : Read Text := do
  let _ ← takeWhile isGapChar
  takeWhile fun c => c != ';' && c != '\n' && c != '\x7d' && !isGapChar c

/-- Checks that an instruction ends here. -/
def readEnd : Read Unit := do
  let _ ← takeWhile isGapChar
  match (← get).rest with
  | [] => pure ()
  | c :: _ =>
    if c = ';' ∨ c = '\n' then skip 1
    else if c = '\x7d' ∨ c = '#' then pure ()
    else do skip 1; complain "extra characters after command"

/-- A text of a character exchange with its escapes read. -/
def exchangeText : Text → Text
  | '\\' :: 'n' :: cs => '\n' :: exchangeText cs
  | '\\' :: '\\' :: cs => '\\' :: exchangeText cs
  | c :: cs => c :: exchangeText cs
  | [] => []

def readAction (extended : Bool) (letter : Char) : Read Action := do
  let simple (a : Action) : Read Action := do readEnd; pure a
  match letter with
  | 's' => do
    match ← takeChar? with
    | none => complain "unterminated `s' command"
    | some d => do
      let pattern ← takeDelimited d true "`s' command"
      let filling ← takeDelimited d false "`s' command"
      let flags ← readFlags 16 {}
      let pattern ← readRegex extended flags.foldCase pattern
      readEnd
      pure (.substitute { pattern, filling := fillings [] filling, everywhere := flags.everywhere
                          nth := flags.nth, prints := flags.prints, file := flags.file })
  | 'y' => do
    match ← takeChar? with
    | none => complain "unterminated `y' command"
    | some d => do
      let source ← takeDelimited d false "`y' command"
      let target ← takeDelimited d false "`y' command"
      let source := exchangeText source
      let target := exchangeText target
      if source.length ≠ target.length then
        complain "strings for `y' command are different lengths"
      else simple (.exchange source target)
  | 'p' => simple .print
  | 'P' => simple .printFirst
  | 'd' => simple .delete
  | 'D' => simple .deleteFirst
  | 'n' => simple .next
  | 'N' => simple .appendNext
  | 'h' => simple .hold
  | 'H' => simple .holdMore
  | 'g' => simple .fetch
  | 'G' => simple .fetchMore
  | 'x' => simple .swap
  | '=' => simple .number
  | 'l' => simple .display
  | 'r' => do pure (.readFile (← readFileName))
  | 'w' => do pure (.writeFile (← readFileName))
  | 'q' | 'Q' => do
    let _ ← takeWhile isGapChar
    let n ← takeWhile Char.isDigit
    simple (.quit (letter == 'Q') (Raw.digits 10 n))
  | 'a' => do pure (.append (← readText))
  | 'i' => do pure (.insert (← readText))
  | 'c' => do pure (.change (← readText))
  | ':' => do
    let name ← readLabel
    if name.isEmpty then complain "\":\" lacks a label"
    else simple (.label name)
  | 'b' => do
    let name ← readLabel
    simple (.branch name)
  | 't' => do
    let name ← readLabel
    simple (.branchIf name)
  | 'T' => do
    let name ← readLabel
    simple (.branchUnless name)
  | '\x7b' => pure .openBlock
  | '\x7d' => simple .closeBlock
  | '#' => do
    let _ ← takeWhile (· != '\n')
    pure .nothing
  | c => complain ("unknown command: `" ++ String.ofList [c] ++ "'")

/-- Reads instructions; `depth` counts open blocks. -/
def readScript (extended : Bool) : (fuel : Nat) → (depth : Nat) → Read (List Instruction)
  | 0, _ => pure []
  | fuel + 1, depth => do
    let _ ← takeWhile fun c => isGapChar c || c == ';' || c == '\n'
    if (← get).rest.isEmpty then
      if depth = 0 then pure []
      else throw (Raw.ofString "-e expression #1, char 0: unmatched `\x7b'")
    else do
      let selector ← readSelector extended
      match ← takeChar? with
      | none => complain "missing command"
      | some letter => do
        if letter = '\x7d' ∧ depth = 0 then complain "unexpected `\x7d'"
        let action ← readAction extended letter
        let depth := if letter = '\x7b' then depth + 1
          else if letter = '\x7d' then depth - 1 else depth
        let later ← readScript extended fuel depth
        pure ({ selector, action } :: later)

def parseScript (extended : Bool) (t : Text) : Except Text (List Instruction) :=
  match (readScript extended (t.length + 2) 0).run { rest := t } with
  | .ok (is, _) => .ok is
  | .error e => .error e

/-! ## Running scripts -/

structure Run where
  /-- The lines to be read, and whether the last one has a break. -/
  rest : List Text
  broken : Bool
  /-- What ends a line. -/
  mark : Char := '\n'
  /-- The content of a file. -/
  content : Text → Option Text := fun _ => none
  /-- What has been written to files. -/
  files : List (Text × Text) := []
  number : Nat := 0
  pattern : Text := []
  held : Text := []
  /-- Texts to be written at the end of the cycle. -/
  appended : Text := []
  /-- What has been written, in pieces with the latest first. -/
  pieces : List Text := []
  /-- The text so far lacks the break of its last line. -/
  unbroken : Bool := false
  /-- A substitution has been made since the cycle began. -/
  substituted : Bool := false
  latest : Option Regex := none
  /-- The instructions whose range is open, each with the line where it ends if that is known. -/
  ranges : List (Nat × Option Nat) := []
  /-- The next cycle keeps the pattern space. -/
  keeps : Bool := false
  ended : Option Nat := none

namespace Run

def atLast (r : Run) : Bool :=
  r.rest.isEmpty

def out (r : Run) : Text :=
  r.pieces.reverse.flatten

/-- Writes a text that ends its line. -/
def write (r : Run) (t : Text) : Run :=
  { r with
    pieces := t :: (if r.unbroken then [r.mark] :: r.pieces else r.pieces)
    unbroken := false }

/-- Writes a line; the last one has a break only if it had one. -/
def writeLine (r : Run) (t : Text) : Run :=
  if r.atLast && !r.broken then { r.write t with unbroken := true } else r.write (t ++ [r.mark])

/-- Writes what was put off to the end of a cycle. -/
def flush (r : Run) : Run :=
  if r.appended.isEmpty then r else { r.write r.appended with appended := [] }

/-- Writes a line to a file. -/
def writeTo (r : Run) (name t : Text) : Run :=
  if name = "/dev/stdout".toList then r.writeLine t
  else
    let before := ((r.files.find? (·.1 == name)).map (·.2)).getD []
    { r with files := (name, before ++ t ++ ['\n']) :: r.files.filter (·.1 != name) }

/-- Takes the next line into the pattern space. -/
def take (r : Run) : Option Run :=
  match r.rest with
  | [] => none
  | l :: ls => some { r with rest := ls, pattern := l, number := r.number + 1 }

end Run

/-- An address chooses the present line. -/
def Address.holds (a : Address) (r : Run) : Bool :=
  match a with
  | .line n => r.number == n
  | .last => r.atLast
  | .pattern re => ((re <|> r.latest).bind fun re => re.find? r.pattern).isSome
  | .step first every =>
    if every = 0 then r.number == first else first ≤ r.number && (r.number - first) % every == 0
  | .further _ => false

/-- The latest expression after an address was asked. -/
def Address.noted (a : Address) (r : Run) : Run :=
  match a with
  | .pattern (some re) => { r with latest := some re }
  | _ => r

/-- An instruction is for the present line; ranges are opened and closed. -/
def selects (index : Nat) (s : Selector) (r : Run) : Bool × Run :=
  let (chosen, r) := match s.start, s.stop with
    | none, _ => (true, r)
    | some a, none => (a.holds r, a.noted r)
    | some a, some b =>
      let close (r : Run) : Run := { r with ranges := r.ranges.filter (·.1 != index) }
      match r.ranges.find? (·.1 == index) with
      | some (_, stop) =>
        let ends : Bool := match b, stop with
          | .line n, _ => decide (n ≤ r.number)
          | _, some n => decide (n ≤ r.number)
          | _, none => b.holds r
        let past : Bool := match b with
          | .line n => decide (n < r.number)
          | _ => false
        (!past, if ends then b.noted (close r) else b.noted r)
      | none =>
        if a.holds r then
          let r := a.noted r
          let single : Bool := match b with
            | .line n => decide (n ≤ r.number)
            | .further n => n == 0
            | _ => false
          let stop := match b with
            | .further n => some (r.number + n)
            | _ => none
          (true, if single then r else { r with ranges := (index, stop) :: r.ranges })
        else (false, a.noted r)
  (chosen != s.negated, r)

/-- Changes the case of a text as the state of a replacement says. -/
def recase (mode : Option Bool) (once : Option Bool) (t : Text) : Text :=
  let change (b : Option Bool) (c : Char) : Char :=
    match b with
    | some true => c.toUpper
    | some false => c.toLower
    | none => c
  match once, t with
  | some b, c :: cs => change (some b) c :: cs.map (change mode)
  | _, t => t.map (change mode)

def fill (start stop : Regex.Place) : (mode once : Option Bool) → List Filling → Text
  | _, _, [] => []
  | mode, once, f :: fs =>
    match f with
    | .case upper true => fill start stop mode upper fs
    | .case upper false => fill start stop upper none fs
    | .text t => recase mode once t ++ fill start stop mode (if t.isEmpty then once else none) fs
    | .group n =>
      let t := if n = 0 then stop.since start else stop.group n
      recase mode once t ++ fill start stop mode (if t.isEmpty then once else none) fs

/-- Replaces matches from a place on; `count` is the number of the next match. -/
def replaceFrom (s : Substitution) (re : Regex) : (fuel count : Nat) → (last : Option Nat) →
    Regex.Place → Text × Bool
  | 0, _, _, p => (p.after, false)
  | fuel + 1, count, last, p =>
    match re.search? (p.after.length + 1) p with
    | none => (p.after, false)
    | some (start, stop) =>
      let front := start.since p
      let hit := stop.since start
      let step (done : Text) : Text × Bool :=
        match start.after with
        | [] => (front ++ done, false)
        | c :: _ =>
          let (t, found) := replaceFrom s re fuel count none { start.advance 1 with groups := [] }
          (front ++ done ++ c :: t, found)
      if hit.isEmpty ∧ last = some start.after.length then step []
      else
        let wanted := s.nth ≤ count
        let done := if wanted then fill start stop none none s.filling else hit
        if wanted && !s.everywhere then (front ++ done ++ stop.after, true)
        else if hit.isEmpty then
          match start.after with
          | [] => (front ++ done, wanted)
          | c :: _ =>
            let (t, found) :=
              replaceFrom s re fuel (count + 1) none { start.advance 1 with groups := [] }
            (front ++ done ++ c :: t, found || wanted)
        else
          let (t, found) := replaceFrom s re fuel (count + 1) (some stop.after.length)
            { stop with groups := [] }
          (front ++ done ++ t, found || wanted)

/-- Makes a substitution in the pattern space. -/
def substitute (s : Substitution) (r : Run) : Run :=
  match s.pattern <|> r.latest with
  | none => r
  | some re =>
    let (t, found) := replaceFrom s re (2 * r.pattern.length + 2) 1 none ⟨[], r.pattern, []⟩
    let r := { r with latest := some re }
    if found then
      let r := { r with pattern := t, substituted := true }
      let r := if s.prints then r.writeLine r.pattern else r
      match s.file with
      | some name => r.writeTo name r.pattern
      | none => r
    else r

/-- The pattern space up to its first line break, and the rest behind it. -/
def firstLine (mark : Char) (t : Text) : Text × Option Text :=
  let front := t.takeWhile (· != mark)
  (front, if front.length < t.length then some (t.drop (front.length + 1)) else none)

/-- A character with nothing invisible in it. -/
def shownChar (c : Char) : Text :=
  match c with
  | '\\' => ['\\', '\\']
  | '\x07' => ['\\', 'a']
  | '\x08' => ['\\', 'b']
  | '\x0c' => ['\\', 'f']
  | '\n' => ['\\', 'n']
  | '\r' => ['\\', 'r']
  | '\t' => ['\\', 't']
  | '\x0b' => ['\\', 'v']
  | c =>
    if 0x20 ≤ c.toNat ∧ c.toNat < 0x7F then [c]
    else '\\' :: Raw.padLeft '0' 3 (Nat.toDigits 8 c.toNat)

/-- Shown characters in lines of at most 69 columns. -/
def shownLines : (column : Nat) → Text → Text
  | _, [] => ['$', '\n']
  | column, c :: cs =>
    let t := shownChar c
    if 69 < column + t.length then ['\\', '\n'] ++ t ++ shownLines t.length cs
    else t ++ shownLines (column + t.length) cs

inductive Going where
  | on (index : Nat)
  /-- The cycle is over; the pattern space is written unless the script says otherwise. -/
  | endCycle
  /-- The cycle is over and nothing is written. -/
  | drop

def labelPlace (is : List Instruction) (name : Text) : Nat :=
  if name.isEmpty then is.length
  else
    (is.findIdx? fun i => match i.action with
      | .label n => n == name
      | _ => false).getD is.length

/-- The place behind the block that begins in front of some instructions; `depth` counts the blocks
inside. -/
def blockEnd : (depth : Nat) → (index : Nat) → List Instruction → Nat
  | _, index, [] => index
  | depth, index, i :: is =>
    match i.action, depth with
    | .openBlock, _ => blockEnd (depth + 1) (index + 1) is
    | .closeBlock, 0 => index + 1
    | .closeBlock, d + 1 => blockEnd d (index + 1) is
    | _, _ => blockEnd depth (index + 1) is

def perform (quiet : Bool) (is : List Instruction) (index : Nat) (i : Instruction) (r : Run) :
    Going × Run :=
  let on := Going.on (index + 1)
  match i.action with
  | .substitute s => (on, substitute s r)
  | .exchange source target =>
    (on, { r with pattern := r.pattern.map fun c =>
      (((source.zip target).find? (·.1 == c)).map (·.2)).getD c })
  | .print => (on, r.writeLine r.pattern)
  | .printFirst => (on, r.write ((firstLine r.mark r.pattern).1 ++ [r.mark]))
  | .delete => (.drop, r)
  | .deleteFirst =>
    match firstLine r.mark r.pattern with
    | (_, some rest) => (.drop, { r with pattern := rest, keeps := true })
    | _ => (.drop, r)
  | .quit silent status =>
    (if silent then .drop else .endCycle, { r with ended := some status })
  | .next =>
    if r.atLast then ((if quiet then .drop else .endCycle), { r with ended := some 0 })
    else
      let r := if quiet then r else r.writeLine r.pattern
      (on, (r.flush.take).getD r)
  | .appendNext =>
    if r.atLast then (.endCycle, { r with ended := some 0 })
    else
      let before := r.pattern
      match r.flush.take with
      | some r => (on, { r with pattern := before ++ r.mark :: r.pattern })
      | none => (.endCycle, r)
  | .hold => (on, { r with held := r.pattern })
  | .holdMore => (on, { r with held := r.held ++ r.mark :: r.pattern })
  | .fetch => (on, { r with pattern := r.held })
  | .fetchMore => (on, { r with pattern := r.pattern ++ r.mark :: r.held })
  | .swap => (on, { r with pattern := r.held, held := r.pattern })
  | .number => (on, r.write (Raw.ofNat r.number ++ ['\n']))
  | .display => (on, r.write (shownLines 0 r.pattern))
  | .readFile name => (on, { r with appended := r.appended ++ (r.content name).getD [] })
  | .writeFile name => (on, r.writeTo name r.pattern)
  | .append t => (on, { r with appended := r.appended ++ t })
  | .insert t => (on, r.write t)
  | .change t =>
    let inside := i.selector.stop.isSome && !i.selector.negated
      && r.ranges.any (·.1 == index)
    (.drop, if inside then r else r.write t)
  | .branch name => (.on (labelPlace is name), r)
  | .branchIf name =>
    if r.substituted then (.on (labelPlace is name), { r with substituted := false }) else (on, r)
  | .branchUnless name =>
    if r.substituted then (on, { r with substituted := false }) else (.on (labelPlace is name), r)
  | .label _ | .openBlock | .closeBlock | .nothing => (on, r)

/-- Runs the instructions of a cycle from one on; tells whether the pattern space is written. -/
def cycle (quiet : Bool) (is : List Instruction) : (fuel index : Nat) → Run → Bool × Run
  | 0, _, r => (false, { r with ended := some 1 })
  | fuel + 1, index, r =>
    match is[index]? with
    | none => (!quiet, r)
    | some i =>
      let (chosen, r) := selects index i.selector r
      if chosen then
        match perform quiet is index i r with
        | (.on next, r) => cycle quiet is fuel next r
        | (.endCycle, r) => (!quiet, r)
        | (.drop, r) => (false, r)
      else
        match i.action with
        | .openBlock => cycle quiet is fuel (blockEnd 0 (index + 1) (is.drop (index + 1))) r
        | _ => cycle quiet is fuel (index + 1) r

/-- Runs cycles until no line is left. -/
def cycles (quiet : Bool) (is : List Instruction) : (fuel : Nat) → Run → Run
  | 0, r => r
  | fuel + 1, r =>
    let start := if r.keeps then some { r with keeps := false } else r.take
    match start with
    | none => r
    | some r =>
      let (writes, r) := cycle quiet is 100000 0 { r with substituted := false }
      let r := if writes then r.writeLine r.pattern else r
      let r := r.flush
      if r.ended.isSome then r else cycles quiet is fuel r

/-- Labels that a script jumps to and does not have. -/
def missingLabel? (is : List Instruction) : Option Text :=
  is.findSome? fun i =>
    match i.action with
    | .branch name | .branchIf name | .branchUnless name =>
      if name.isEmpty || labelPlace is name < is.length then none else some name
    | _ => none

def runScript (quiet : Bool) (is : List Instruction) (mark : Char) (content : Text → Option Text)
    (files : List (Text × Text)) (t : Text) : Run :=
  let ended := t.getLast? == some mark
  let body := if ended then t.dropLast else t
  cycles quiet is (2 * t.length + 2)
    { rest := if t.isEmpty then [] else body.splitOn mark, broken := ended, mark, content, files }

end StreamEditor

open StreamEditor in
/-- Edits lines with a script. -/
def sed : Utility :=
  withArguments { plain := "nErsuz", valued := "efl", optional := "i"
                  long := [("quiet", 'n', false), ("silent", 'n', false),
                    ("regexp-extended", 'E', false), ("expression", 'e', true),
                    ("separate", 's', false), ("unbuffered", 'u', false),
                    ("null-data", 'z', false), ("in-place", 'i', false)] } 1 fun c a =>
    let given := (a.options.filter (·.1 == 'e')).map (·.2)
    let script? := if given.isEmpty then a.operands.head? else some (List.intercalate ['\n'] given)
    match script? with
    | none => c.misused (Raw.ofString "no script specified") 1
    | some script =>
      let quiet := a.has 'n' || Text.startsWith ['#', 'n', '\n'] script
      match parseScript (a.has 'E' || a.has 'r') script with
      | .error message => c.fails message 1
      | .ok is =>
        match missingLabel? is with
        | some name =>
          c.fails (Raw.ofString "can't find label for jump to `" ++ name ++ ['\x27']) 1
        | none =>
          let names := if given.isEmpty then a.operands.tail else a.operands
          let i := c.inputsOr (fun name why =>
            if why = "Is a directory" then Raw.ofString "read error on " ++ name ++
              Raw.ofString (": " ++ why)
            else Raw.ofString "can't read " ++ name ++ Raw.ofString (": " ++ why)) names
          let run := runScript quiet is (if a.has 'z' then '\x00' else '\n') c.read
          let status (r : Run) : Nat := if i.failed then 2 else r.ended.getD 0
          if a.has 'i' then
            let edited := i.contents.map fun (name, t) => (name, run [] t)
            { stderr := i.stderr, left := i.left
              files := edited.flatMap fun (name, r) => (name, r.out) :: r.files
              status := match edited.getLast? with
                | some (_, r) => status r
                | none => if i.failed then 2 else 0 }
          else
            let texts := if a.has 's' then i.contents.map (·.2) else [i.joined]
            let (out, r) := texts.foldl (fun (state : Text × Run) t =>
              let r := run state.2.files t
              (state.1 ++ r.out, r)) ([], run [] [])
            { stdout := out, stderr := i.stderr, status := status r, left := i.left
              files := r.files }

end External

end SmartyLayout
