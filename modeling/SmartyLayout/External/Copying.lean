import SmartyLayout.External.Regex
import SmartyLayout.External.Utility

/-!
# SmartyLayout.External.Copying — utilities that copy files

Programs that copy their files whole, from one end, or in reverse order.
-/

namespace SmartyLayout

namespace External

/-! ## Whole files -/

/-- A control character or a byte outside ASCII in visible form. -/
def visible (c : Char) : Text :=
  let plain (n : Nat) : Text :=
    if n < 32 then ['^', Char.ofNat (n + 64)] else if n = 127 then ['^', '?'] else [Char.ofNat n]
  if c = '\n' ∨ c = '\t' then [c]
  else if 128 ≤ c.toNat then ['M', '-'] ++ plain (c.toNat - 128)
  else plain c.toNat

/-- Leaves one of several empty lines in a row. -/
def squeezeBlank : (wasBlank : Bool) → List Text → List Text
  | _, [] => []
  | wasBlank, l :: ls =>
    let blank := l == ['\n']
    if wasBlank && blank then squeezeBlank true ls else l :: squeezeBlank blank ls

/-- Numbers lines but those that are passed over. -/
def numberLines (passed : Text → Bool) : (n : Nat) → List Text → List Text
  | _, [] => []
  | n, l :: ls =>
    if passed l then l :: numberLines passed n ls
    else (Raw.padLeft ' ' 6 (Raw.ofNat n) ++ '\t' :: l) :: numberLines passed (n + 1) ls

/-- A line with signs for what cannot be seen. -/
def marked (ends tabs shows : Bool) : Text → Text
  | [] => []
  | '\r' :: '\n' :: t =>
    if ends then '^' :: 'M' :: '$' :: '\n' :: marked ends tabs shows t
    else (if shows then ['^', 'M'] else ['\r']) ++ '\n' :: marked ends tabs shows t
  | c :: t =>
    (if c = '\n' then (if ends then ['$', '\n'] else ['\n'])
      else if c = '\t' then (if tabs then ['^', 'I'] else [c])
      else if shows then visible c else [c]) ++ marked ends tabs shows t

/-- The options of the program that copies files. -/
def copySyntax : OptionSyntax where
  plain := "AbeEnstTuv"
  long := [("number-nonblank", 'b', false), ("number", 'n', false), ("squeeze-blank", 's', false),
    ("show-nonprinting", 'v', false), ("show-ends", 'E', false), ("show-tabs", 'T', false),
    ("show-all", 'A', false)]

/-- Copies its files, perhaps with numbers and signs. -/
def cat : Utility :=
  withArguments copySyntax 1 fun c a =>
    let i := c.inputs a.operands
    let ends := a.has 'E' || a.has 'e' || a.has 'A'
    let tabs := a.has 'T' || a.has 't' || a.has 'A'
    let shows := a.has 'v' || a.has 'e' || a.has 't' || a.has 'A'
    let isEmpty (l : Text) : Bool := l == ['\n'] || l == ['$', '\n']
    let shown (t : Text) : Text :=
      let ls := Raw.brokenLines t
      let ls := if a.has 's' then squeezeBlank false ls else ls
      let ls := ls.map (marked ends tabs shows)
      (if a.has 'b' then numberLines isEmpty 1 ls
        else if a.has 'n' then numberLines (fun _ => false) 1 ls else ls).flatten
    if a.options.all (·.1 == 'u') then i.effectOfEach fun _ t => t
    else
      -- Numbers go on from file to file: what a file adds is what is shown beyond the earlier ones.
      i.effectInTurn [] (fun before _ t =>
        (before ++ t, (shown (before ++ t)).drop (shown before).length)) fun _ => []

/-! ## One end of a file -/

/-- Which part of a file is copied: lines or bytes, how many, and with which sign. -/
structure FilePart where
  bytes : Bool := false
  sign : Option Char := none
  count : Nat := 10
deriving DecidableEq, Repr

/-- What is said about a file that cannot be opened. -/
def unopened (failure : String) (name : Text) (why : String) : Text :=
  if why = "Is a directory" then
    Raw.ofString "error reading " ++ Raw.alwaysQuoted name ++ Raw.ofString (": " ++ why)
  else
    Raw.ofString (failure ++ " ") ++ Raw.alwaysQuoted name ++ Raw.ofString (" for reading: " ++ why)

/-- The options of the programs that copy one end of a file. -/
def endSyntax : OptionSyntax where
  plain := "qvzfF"
  valued := "ncs"
  long := [("lines", 'n', true), ("bytes", 'c', true), ("quiet", 'q', false),
    ("silent", 'q', false), ("verbose", 'v', false), ("zero-terminated", 'z', false)]

/-- The parts of a text that end in a character, with it. -/
def endedRecords (ending : Char) (t : Text) : List Text :=
  let rs := Raw.records ending t
  if t.getLast? = some ending then rs.map (· ++ [ending])
  else rs.dropLast.map (· ++ [ending]) ++ rs.getLast?.toList

/-- What an option says about the part to be copied: a number, perhaps with a sign and a letter that
multiplies it. -/
def FilePart.parse (bytes : Bool) (t : Text) : Except Text FilePart :=
  let (sign, ds) := match t with
    | '-' :: ds => (some '-', ds)
    | '+' :: ds => (some '+', ds)
    | ds => (none, ds)
  match Raw.scaled? ds with
  | some count => .ok { bytes, sign, count }
  | none =>
    .error (Raw.ofString (if bytes then "invalid number of bytes: "
      else "invalid number of lines: ") ++ Raw.quoted (if sign = some '-' then ds else t))

def FilePart.ofArguments (a : Arguments) : Except Text FilePart :=
  a.options.foldlM (fun p (o, v) =>
    if o = 'n' then FilePart.parse false v
    else if o = 'c' then FilePart.parse true v
    else .ok p) {}

/-- Copies a part of each file, under its name if there are several. -/
def copyParts (part : Text → Text) (i : Inputs) (a : Arguments) : Effect :=
  let verbosity := (a.options.filter fun (o, _) => o == 'q' || o == 'v').getLast?.map (·.1)
  let named := verbosity = some 'v' || (verbosity.isNone && 1 < i.named)
  let title (first : Bool) (name : Text) : Text :=
    let name := if name = ['-'] then Raw.ofString "standard input" else name
    (if first then [] else ['\n']) ++ Raw.ofString "==> " ++ name ++ Raw.ofString " <==\n"
  i.effectInTurn true (fun first name t =>
    (false, (if named then title first name else []) ++ part t)) fun _ => []

/-- Runs a program that copies one end of its files. What it leaves of its input is given by the
part it copies. -/
def endOfFile (part : Char → FilePart → Text → Text)
    (unread : (inFile : Bool) → Char → FilePart → Text → Text) : Utility :=
  withArguments endSyntax 1 fun c a =>
    match FilePart.ofArguments a with
    | .error message => c.fails message 1
    | .ok p =>
      let ending := if a.has 'z' then '\x00' else '\n'
      let e := copyParts (part ending p) (c.inputsOr (unopened "cannot open") a.operands) a
      if a.operands.isEmpty then { e with left := unread c.inputIsFile ending p c.input } else e

/-- How many bytes are read at a time. -/
def blockSize : Nat := 8192

def headPart (ending : Char) (p : FilePart) (t : Text) : Text :=
  let all (k : Nat) : Nat := if p.sign = some '-' then k - p.count else p.count
  if p.bytes then t.take (all t.length)
  else
    let ls := endedRecords ending t
    (ls.take (all ls.length)).flatten

/-- A first argument such as `-5` or `-5kq`, written with options. -/
def headArguments (args : List Text) : List Text :=
  match args with
  | ('-' :: c :: cs) :: rest =>
    if c.isDigit then
      let ds := (c :: cs).takeWhile Char.isDigit
      let letters := (c :: cs).drop ds.length
      let unit : Text := letters.filter fun l => "bkm".toList.any (· == l)
      let bytes := !unit.isEmpty || letters.any (· == 'c')
      let others := letters.filter fun l => !"bkmcl".toList.any (· == l)
      (if others.isEmpty then [] else [('-' :: others)]) ++
        ['-', if bytes then 'c' else 'n'] :: (ds ++ (unit.getLast?).toList) :: rest
    else args
  | _ => args

/-- Copies the first lines or bytes of its files. Bytes are read one by one and lines in blocks, but
the program goes back in a file to where they end. -/
def head : Utility := fun c =>
  endOfFile headPart (fun inFile ending p t =>
    if inFile then t.drop (headPart ending p t).length
    else if p.sign = some '-' then []
    else if p.bytes then t.drop p.count
    else
      let used := (headPart ending p t).length
      t.drop (if p.count = 0 then 0 else (used + blockSize - 1) / blockSize * blockSize))
    { c with args := headArguments c.args }

/-- An only option such as `-5`, `+5` or `-5c`, written with options. -/
def tailArguments (args : List Text) : List Text :=
  let isOld : Bool := match args with
    | [_] => true
    | [_, f] => !(f.head? == some '-' && 1 < f.length)
    | [_, ['-', '-'], _] => true
    | _ => false
  match args with
  | (sign :: cs) :: rest =>
    let ds := cs.takeWhile Char.isDigit
    let after := cs.drop ds.length
    let (unit, after) : Text × Text := match after with
      | 'b' :: t => (['b'], t)
      | 'c' :: t => (['c'], t)
      | 'l' :: t => ([], t)
      | t => ([], t)
    let after := if after = ['f'] then [] else after
    let enough := sign = '+' ∨ (sign = '-' ∧ !cs.isEmpty ∧ cs ≠ ['c'] ∧ cs ≠ ['b'] ∧ cs ≠ ['f'])
    if isOld ∧ enough ∧ after.isEmpty ∧ (!ds.isEmpty ∨ sign = '+') then
      let count := (if ds.isEmpty then ['1', '0'] else ds) ++ (if unit = ['b'] then unit else [])
      ['-', if unit.isEmpty then 'n' else 'c'] :: ((if sign = '+' then ['+'] else []) ++ count) ::
        rest
    else args
  | _ => args

/-- A first argument of digits behind a hyphen, where it is not allowed. -/
def misplacedCount? (args : List Text) : Option Char :=
  match args with
  | ('-' :: c :: _) :: _ => if c.isDigit then some c else none
  | _ => none

/-- Copies the last lines or bytes of its files. -/
def tail : Utility := fun c =>
  match misplacedCount? (tailArguments c.args) with
  | some digit => c.fails (Raw.ofString "option used in invalid context -- " ++ [digit]) 1
  | none =>
    let args := tailArguments c.args
    let copied := endOfFile (fun ending p t =>
      let skipped (k : Nat) : Nat := if p.sign = some '+' then p.count - 1 else k - p.count
      if p.bytes then t.drop (skipped t.length)
      else
        let ls := endedRecords ending t
        (ls.drop (skipped ls.length)).flatten) (fun _ _ _ _ => []) { c with args }
    match (readArguments endSyntax args).bind FilePart.ofArguments with
    | .ok p => if p.count = 0 ∧ p.sign ≠ some '+' then { left := c.input } else copied
    | .error _ => copied

/-! ## Reverse order -/

/-- Finds the last separator in a text: where it starts and how long it is. -/
abbrev Separator := Text → Option (Nat × Nat)

def Separator.fixed (sep : Text) : Separator := fun t =>
  (Text.through sep.reverse t.reverse).map fun n => (t.length - n, sep.length)

/-- A separator that an expression matches. -/
def Separator.ofRegex (r : Regex) : Separator := fun t =>
  (List.range t.length).reverse.findSome? fun n =>
    let p : Regex.Place := ⟨(t.take n).reverse, t.drop n, []⟩
    (r.at? p).map fun q => (n, (q.since p).length)

/-- The records of a text from the last to the first. A separator ends its record, or begins the
next one; `tail` is what belongs to the record behind the text. -/
def turnedRecords (last? : Separator) (begins : Bool) : (fuel : Nat) → (t tail : Text) → List Text
  | 0, t, tail => [t ++ tail]
  | fuel + 1, t, tail =>
    match last? t with
    | none => [t ++ tail]
    | some (start, length) =>
      if begins then (t.drop start ++ tail) :: turnedRecords last? begins fuel (t.take start) []
      else
        (t.drop (start + length) ++ tail) ::
          turnedRecords last? begins fuel (t.take start) ((t.drop start).take length)

/-- Copies the records of its files, by default lines, in reverse order. -/
def tac : Utility :=
  withArguments { plain := "br", valued := "s"
                  long := [("before", 'b', false), ("regex", 'r', false),
                    ("separator", 's', true)] } 1 fun c a =>
    let i := c.inputsOr (unopened "failed to open") a.operands
    let sep := (a.value? 's').getD ['\n']
    let turned (last? : Separator) (t : Text) : Text :=
      (turnedRecords last? (a.has 'b') t.length t []).flatten
    let all (edit : Text → Text) : Effect := i.effect (i.contents.flatMap fun (_, t) => edit t) 0
    if a.has 'r' then
      match Regex.parse? { extended := false } sep with
      | some r =>
        if sep.isEmpty then c.fails (Raw.ofString "separator cannot be empty") 1
        else all (turned (.ofRegex r))
      | none => c.fails (Raw.ofString (Regex.faultMessage { extended := false } sep)) 1
    else if sep = ['\n'] && !a.has 'b' then all fun t => (Raw.brokenLines t).reverse.flatten
    else all (turned (.fixed (if sep.isEmpty then ['\x00'] else sep)))

/-- Copies its files with the characters of each line in reverse order. -/
def rev : Utility :=
  withArguments { plain := "0", long := [("zero", '0', false)] } 1 fun c a =>
    let named (name : Text) : Text := if name = ['-'] then "./-".toList else name
    let i := c.inputsOr
      (fun name why => Raw.ofString "cannot open " ++ (if name = "./-".toList then ['-'] else name) ++
        Raw.ofString (": " ++ why)) (a.operands.map named)
    let ending := if a.has '0' then '\x00' else '\n'
    let turned := i.contents.flatMap fun (_, t) => (endedRecords ending t).flatMap fun l =>
      if l.getLast? = some ending then l.dropLast.reverse ++ [ending] else l.reverse
    i.effect turned 0

end External

end SmartyLayout
