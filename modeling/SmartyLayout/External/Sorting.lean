import SmartyLayout.External.Sorting.Order
import SmartyLayout.External.Utility

/-!
# SmartyLayout.External.Sorting — putting lines in order

Lines are compared by keys in turn. A key is a stretch of fields and characters, with letters that
say how it is compared; lines with equal keys are compared by their bytes.
-/

namespace SmartyLayout

namespace External

/-- How the texts of a key are compared. -/
structure SortRule where
  skipsStart : Bool := false
  skipsStop : Bool := false
  dictionary : Bool := false
  foldCase : Bool := false
  general : Bool := false
  human : Bool := false
  printable : Bool := false
  month : Bool := false
  numeric : Bool := false
  random : Bool := false
  reverse : Bool := false
  version : Bool := false
deriving DecidableEq, Repr

/-- Which end of a key a letter stands at. -/
inductive KeyEnd where
  | start
  | stop
  | both
deriving DecidableEq, Repr

namespace SortRule

/-- A rule with one more letter; none if the letter is unknown. -/
def addLetter? (r : SortRule) (place : KeyEnd) : Char → Option SortRule
  | 'b' => some { r with skipsStart := r.skipsStart || place ≠ .stop
                         skipsStop := r.skipsStop || place ≠ .start }
  | 'd' => some { r with dictionary := true }
  | 'f' => some { r with foldCase := true }
  | 'g' => some { r with general := true }
  | 'h' => some { r with human := true }
  | 'i' => some { r with printable := true }
  | 'M' => some { r with month := true }
  | 'n' => some { r with numeric := true }
  | 'R' => some { r with random := true }
  | 'r' => some { r with reverse := true }
  | 'V' => some { r with version := true }
  | _ => none

/-- A rule with the letters at the front of a text, and the rest of the text. -/
def addLetters (r : SortRule) (place : KeyEnd) : Text → SortRule × Text
  | [] => (r, [])
  | c :: cs =>
    match r.addLetter? place c with
    | some r => r.addLetters place cs
    | none => (r, c :: cs)

/-- The letters of a rule about the kind of comparison. -/
def letters (r : SortRule) : Text :=
  [(r.dictionary, 'd'), (r.foldCase, 'f'), (r.general, 'g'), (r.human, 'h'),
    (r.printable && !r.dictionary, 'i'), (r.month, 'M'), (r.numeric, 'n'), (r.random, 'R'),
    (r.version, 'V')].filterMap fun (given, c) => if given then some c else none

/-- A rule asks for more than one kind of comparison. -/
def isContradictory (r : SortRule) : Bool :=
  let other := r.version || r.random || r.dictionary || r.printable
  1 < ([r.numeric, r.general, r.human, r.month, other].filter id).length

/-- A rule says nothing, the direction apart. -/
def isPlain (r : SortRule) : Bool :=
  { r with reverse := false } = ({} : SortRule)

/-- A character counts in comparisons. -/
def counts (r : SortRule) (c : Char) : Bool :=
  if r.dictionary then isFieldGap c || c.isAlphanum
  else if r.printable then Raw.isPlain c
  else true

def compare (r : SortRule) (a b : Text) : Ordering :=
  let seen (t : Text) : Text :=
    let t := t.filter r.counts
    if r.foldCase then t.map Char.toUpper else t
  let order : Text → Text → Ordering :=
    if r.numeric then Order.numeric
    else if r.general then Order.general
    else if r.human then Order.human
    else if r.month then Order.months
    else if r.version then Order.versions
    else Order.bytes
  let result := order (seen a) (seen b)
  if r.reverse then result.swap else result

end SortRule

/-- A part of a line by which lines are sorted. -/
structure SortKey where
  /-- Fields and characters in front of it. -/
  start : Nat × Nat := (0, 0)
  /-- The last field, from 1 on, and its last character; 0 is the end of the field. -/
  stop : Option (Nat × Nat) := none
  rule : SortRule

/-- How many characters so many fields take at the front of a line, separators included. -/
def fieldsLength (separator : Option Char) : Nat → Text → Nat
  | 0, _ => 0
  | _, [] => 0
  | n + 1, c :: cs =>
    let t := c :: cs
    let size := match separator with
      | some d => (t.takeWhile (· != d)).length + 1
      | none =>
        let gap := (t.takeWhile isFieldGap).length
        gap + ((t.drop gap).takeWhile fun c => !isFieldGap c).length
    min t.length size + fieldsLength separator n (t.drop size)

namespace SortKey

/-- The part of a line that a key names. -/
def part (k : SortKey) (separator : Option Char) (line : Text) : Text :=
  let gaps (skips : Bool) (n : Nat) : Nat :=
    if skips then n + ((line.drop n).takeWhile isFieldGap).length else n
  let start := gaps k.rule.skipsStart (fieldsLength separator k.start.1 line) + k.start.2
  let stop := match k.stop with
    | none => line.length
    | some (field, 0) =>
      match separator with
      | some d =>
        let n := fieldsLength separator (field - 1) line
        n + ((line.drop n).takeWhile (· != d)).length
      | none => fieldsLength separator field line
    | some (field, chars) =>
      gaps k.rule.skipsStop (fieldsLength separator (field - 1) line) + chars
  (line.drop start).take (stop - start)

/-- A number in a key, and the text behind it. -/
def number (fault : String) (t : Text) : Except Text (Nat × Text) :=
  let u := t.dropWhile Raw.isSpace
  let u := if u.head? = some '+' then u.tail else u
  let ds := u.takeWhile Char.isDigit
  if ds.isEmpty then
    .error (Raw.ofString (fault ++ ": invalid count at start of ") ++ Raw.quoted t)
  else .ok (Raw.digits 10 ds, u.drop ds.length)

/-- Reads a key such as `2.3b,4n`. -/
def parse (t : Text) : Except Text SortKey := do
  let wrong (fault : String) : Text :=
    Raw.ofString (fault ++ ": invalid field specification ") ++ Raw.quoted t
  let chars (least : Nat) (u : Text) : Except Text (Nat × Text) := do
    match u with
    | '.' :: u =>
      let (n, u) ← number "invalid number after '.'" u
      if n < least then throw (wrong "character offset is zero")
      pure (n, u)
    | u => pure (least, u)
  let (field, u) ← number "invalid number at field start" t
  if field = 0 then throw (wrong "field number is zero")
  let (char, u) ← chars 1 u
  let (rule, u) := ({} : SortRule).addLetters .start u
  let start := (field - 1, char - 1)
  match u with
  | [] => pure { start, rule }
  | ',' :: u =>
    let (last, u) ← number "invalid number after ','" u
    if last = 0 then throw (wrong "field number is zero")
    let (end_, u) ← chars 0 u
    let (rule, u) := rule.addLetters .stop u
    if !u.isEmpty then throw (wrong "stray character in field spec")
    pure { start, stop := some (last, end_), rule }
  | _ => throw (wrong "stray character in field spec")

end SortKey

/-- Compares two lines by keys in turn. -/
def compareByKeys (separator : Option Char) (ks : List SortKey) (a b : Text) : Ordering :=
  ks.foldl (fun result k =>
    if result == .eq then k.rule.compare (k.part separator a) (k.part separator b) else result) .eq

/-- Leaves the first of several equal lines in a row. -/
def firstOfEqual (same : Text → Text → Bool) : List Text → List Text
  | [] => []
  | l :: ls =>
    match firstOfEqual same ls with
    | [] => [l]
    | m :: ms => if same l m then l :: ms else l :: m :: ms

/-- Which of some lists has the least head; of equal ones the first. -/
def leastHead (le : Text → Text → Bool) (lists : List (List Text)) : Option (Nat × Text) :=
  (lists.zipIdx).foldl (fun best (ls, n) =>
    match best, ls with
    | none, l :: _ => some (n, l)
    | some (m, b), l :: _ => if le b l then some (m, b) else some (n, l)
    | best, [] => best) none

/-- Always takes the least of the next lines of some lists. -/
def mergeLists (le : Text → Text → Bool) : (fuel : Nat) → List (List Text) → List Text
  | 0, _ => []
  | fuel + 1, lists =>
    match leastHead le lists with
    | none => []
    | some (n, l) => l :: mergeLists le fuel (lists.modify n List.tail)

structure SortJob where
  separator : Option Char := none
  keys : List SortKey := []
  general : SortRule := {}
  stable : Bool := false
  unique : Bool := false

namespace SortJob

/-- Compares two lines; `last` says that equal keys leave it to the bytes. -/
def compare (j : SortJob) (a b : Text) : Ordering :=
  match compareByKeys j.separator j.keys a b with
  | .eq =>
    if !j.keys.isEmpty ∧ (j.stable ∨ j.unique) then .eq
    else if j.general.reverse then (Order.bytes a b).swap
    else Order.bytes a b
  | o => o

/-- Does not put the second line in front. -/
def le (j : SortJob) (a b : Text) : Bool :=
  j.compare a b != .gt

/-- Leaves one of equal lines if that is wanted. -/
def thin (j : SortJob) (ls : List Text) : List Text :=
  if j.unique then firstOfEqual (fun a b => j.compare a b == .eq) ls else ls

/-- The first line that is out of order, and its number. -/
def disorder? (j : SortJob) (ls : List Text) : Option (Text × Nat) :=
  (((ls.zip ls.tail).zipIdx 2).find? fun ((a, b), _) =>
    let o := j.compare a b
    o == .gt || (j.unique && o == .eq)).map fun ((_, b), n) => (b, n)

end SortJob

def sortSyntax : OptionSyntax where
  plain := "bcCdfghiMmnrRsuVz"
  valued := "koStTy"
  optional := "K"
  long := [("ignore-leading-blanks", 'b', false), ("check", 'K', true),
    ("compress-program", 'y', true), ("debug", 'D', false), ("dictionary-order", 'd', false),
    ("ignore-case", 'f', false), ("files0-from", 'F', true), ("general-numeric-sort", 'g', false),
    ("ignore-nonprinting", 'i', false), ("key", 'k', true), ("merge", 'm', false),
    ("month-sort", 'M', false), ("numeric-sort", 'n', false), ("human-numeric-sort", 'h', false),
    ("version-sort", 'V', false), ("random-sort", 'R', false), ("random-source", 'y', true),
    ("sort", 'W', true), ("output", 'o', true), ("reverse", 'r', false), ("stable", 's', false),
    ("batch-size", 'y', true), ("buffer-size", 'S', true), ("field-separator", 't', true),
    ("temporary-directory", 'T', true), ("unique", 'u', false), ("zero-terminated", 'z', false),
    ("parallel", 'y', true)]

/-- The letters of the kinds of order that have names. -/
def sortKinds : List (String × Char) :=
  [("general-numeric", 'g'), ("human-numeric", 'h'), ("month", 'M'), ("numeric", 'n'),
    ("random", 'R'), ("version", 'V')]

/-- The separator of fields; only one is allowed. -/
def sortSeparator (a : Arguments) : Except Text (Option Char) :=
  (a.options.filter (·.1 == 't')).foldlM (fun (before : Option Char) (_, v) => do
    let c ← match v with
      | [] => throw (Raw.ofString "empty tab")
      | [c] => pure c
      | ['\\', '0'] => pure '\x00'
      | _ => throw (Raw.ofString "multi-character tab " ++ Raw.quoted v)
    if before.any (· != c) then throw (Raw.ofString "incompatible tabs")
    pure (some c)) none

def SortJob.ofArguments (a : Arguments) : Except Text SortJob := do
  let kinds := (a.options.filter (·.1 == 'W')).filterMap fun (_, v) =>
    (sortKinds.find? (·.1.toList == v)).map (·.2)
  let (general, _) := ({} : SortRule).addLetters .both
    ((a.options.map (·.1)).filter (fun c => "bdfghiMnRrV".toList.any (· == c)) ++ kinds)
  let separator ← sortSeparator a
  let keys ← ((a.options.filter (·.1 == 'k')).map (·.2)).mapM SortKey.parse
  let keys := keys.map fun k =>
    if k.rule = ({} : SortRule) then { k with rule := general } else k
  let keys := if keys.isEmpty ∧ !general.isPlain then [{ rule := general }] else keys
  match keys.find? fun k => k.rule.isContradictory with
  | some k =>
    throw (Raw.ofString "options '-" ++ k.rule.letters ++ Raw.ofString "' are incompatible")
  | none => pure { separator, keys, general, stable := a.has 's', unique := a.has 'u' }

/-- Sorts lines, merges sorted files, or checks that a file is sorted. -/
def sort : Utility :=
  withArguments sortSyntax 2 fun c a =>
    match SortJob.ofArguments a with
    | .error message => c.fails message 2
    | .ok j =>
      let quiet := a.has 'C' || (a.value? 'K').any fun v =>
        v = "silent".toList || v = "quiet".toList
      let checks := a.has 'c' || a.has 'C' || a.has 'K'
      let missing := (c.inputsOr (fun name why => Raw.ofString "cannot read: " ++
        unreadable name why) (a.operands.filter fun n => !c.isDirectory n)).stderr
      let i := c.inputsOr (fun name why => Raw.ofString "read failed: " ++ unreadable name why)
        a.operands
      let stderr := (Raw.brokenLines (missing ++ i.stderr)).headD []
      let ending := if a.has 'z' then '\x00' else '\n'
      let lists := i.contents.map fun (_, t) => Raw.records ending t
      match a.operands with
      | _ :: extra :: _ =>
        if a.has 'c' ∧ quiet then
          c.fails (Raw.ofString "options '-cC' are incompatible") 2
        else if checks then
          c.fails (Raw.ofString "extra operand " ++ Raw.quoted extra ++
            Raw.ofString " not allowed with -" ++ [if quiet then 'C' else 'c']) 2
        else finish c a j i lists stderr ending
      | _ =>
        if a.has 'c' ∧ quiet then
          c.fails (Raw.ofString "options '-cC' are incompatible") 2
        else if checks ∧ a.has 'o' then
          c.fails (Raw.ofString (if quiet then "options '-Co' are incompatible"
            else "options '-co' are incompatible")) 2
        else if checks ∧ !i.failed then
          match j.disorder? lists.flatten with
          | none => i.effect [] 0
          | some (l, n) =>
            { i.effect [] 1 with
              stderr := if quiet then []
                else c.line (a.operands.headD ['-'] ++ ':' :: Raw.ofNat n ++
                  Raw.ofString ": disorder: " ++ l) }
        else finish c a j i lists stderr ending
where
  /-- Writes the lines in order. -/
  finish (c : Call) (a : Arguments) (j : SortJob) (i : Inputs) (lists : List (List Text))
      (stderr : Text) (ending : Char) : Effect :=
    let all := lists.flatten
    let sorted := j.thin (if a.has 'm' then mergeLists j.le all.length lists
      else all.mergeSort j.le)
    if i.failed then { stderr, status := 2, left := c.input }
    else
      match a.value? 'o' with
      | some target => { i.effect [] 0 with files := [(target, Raw.unrecords ending sorted)] }
      | none => i.effect (Raw.unrecords ending sorted) 0

end External

end SmartyLayout
