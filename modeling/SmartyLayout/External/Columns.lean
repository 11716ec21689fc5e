import SmartyLayout.External.Sorting.Order
import SmartyLayout.External.Utility

/-!
# SmartyLayout.External.Columns — parts of lines

Programs that cut fields and characters out of lines, put the lines of files side by side, and break
lines that are too long.
-/

namespace SmartyLayout

namespace External

/-! ## Cutting -/

/-- Positions from one to another; without an end they go on. -/
structure PositionRange where
  low : Nat
  high : Option Nat
deriving DecidableEq, Repr

/-- A list of ranges that is being read: the number that is being read and the start of the range. -/
structure RangeDraft where
  ranges : List PositionRange := []
  value : Nat := 0
  start : Option Nat := none
  hasLow : Bool := false
  hasHigh : Bool := false

namespace RangeDraft

def belowOne (fields : Bool) : Text :=
  Raw.ofString (if fields then "fields are numbered from 1"
    else "byte/character positions are numbered from 1")

def close (fields : Bool) (d : RangeDraft) : Except Text RangeDraft := do
  match d.start with
  | some low =>
    if !d.hasLow && !d.hasHigh then throw (Raw.ofString "invalid range with no endpoint: -")
    if d.hasHigh ∧ d.value < low then throw (Raw.ofString "invalid decreasing range")
    pure { ranges := d.ranges ++ [⟨low, if d.hasHigh then some d.value else none⟩] }
  | none =>
    if d.value = 0 then throw (belowOne fields)
    pure { ranges := d.ranges ++ [⟨d.value, some d.value⟩] }

/-- Reads ranges with commas or blanks between them. -/
def read (fields : Bool) : RangeDraft → Text → Except Text RangeDraft
  | d, [] => d.close fields
  | d, c :: cs => do
    if c = '-' then
      if d.start.isSome then
        throw (Raw.ofString (if fields then "invalid field range"
          else "invalid byte or character range"))
      if d.hasLow ∧ d.value = 0 then throw (belowOne fields)
      read fields { d with start := some (if d.hasLow then d.value else 1), value := 0 } cs
    else if c = ',' ∨ isGap c then
      let d ← d.close fields
      read fields d cs
    else if c.isDigit then
      let value := d.value * 10 + (c.toNat - '0'.toNat)
      if Nat.pow 2 64 - 1 ≤ value then
        let digits := Raw.ofNat d.value ++ (c :: cs).takeWhile Char.isDigit
        throw (Raw.ofString (if fields then "field number " else "byte/character offset ") ++
          Raw.quoted digits ++ Raw.ofString " is too large")
      read fields (if d.start.isSome then { d with value, hasHigh := true }
        else { d with value, hasLow := true }) cs
    else
      throw (Raw.ofString (if fields then "invalid field value " else
        "invalid byte/character position ") ++ Raw.quoted (c :: cs))

end RangeDraft

namespace PositionRange

def has (r : PositionRange) (n : Nat) : Bool :=
  r.low ≤ n && r.high.all (n ≤ ·)

/-- Ranges in the order of their first positions, with those that overlap made one. -/
def merged (rs : List PositionRange) : List PositionRange :=
  let sorted := rs.mergeSort fun a b => a.low ≤ b.low
  (sorted.foldl (fun (done : List PositionRange) r =>
    match done with
    | d :: ds =>
      if d.high.all (r.low ≤ ·) then
        ⟨d.low, match d.high, r.high with
          | some a, some b => some (max a b)
          | _, _ => none⟩ :: ds
      else r :: d :: ds
    | [] => [r]) []).reverse

/-- The positions between some ranges that are in order; `next` is the first one not yet passed. -/
def complement : (next : Nat) → List PositionRange → List PositionRange
  | next, [] => [⟨next, none⟩]
  | next, r :: rs =>
    let front : List PositionRange := if next < r.low then [⟨next, some (r.low - 1)⟩] else []
    match r.high with
    | some h => front ++ complement (h + 1) rs
    | none => front

def parse (fields complemented : Bool) (t : Text) : Except Text (List PositionRange) := do
  let d ← RangeDraft.read fields {} t
  let rs := merged d.ranges
  pure (if complemented then complement 1 rs else rs)

end PositionRange

def cutSyntax : OptionSyntax where
  plain := "nsz"
  valued := "bcdf"
  long := [("bytes", 'b', true), ("characters", 'c', true), ("fields", 'f', true),
    ("delimiter", 'd', true), ("only-delimited", 's', false), ("output-delimiter", 'O', true),
    ("complement", 'C', false), ("zero-terminated", 'z', false)]

def partsAt {α : Type} (rs : List PositionRange) (xs : List α) : List (List α) :=
  (rs.map fun r =>
    let rest := xs.drop (r.low - 1)
    match r.high with
    | some h => rest.take (h + 1 - r.low)
    | none => rest).filter (!·.isEmpty)

def cut : Utility :=
  withArguments cutSyntax 1 fun c a =>
    let lists := a.options.filter fun (o, _) => o == 'f' || o == 'b' || o == 'c'
    let fields := lists.head?.any (·.1 == 'f')
    let delimiter := (a.value? 'd').getD ['\t']
    match lists with
    | [] => c.misused (Raw.ofString "you must specify a list of bytes, characters, or fields") 1
    | _ :: _ :: _ => c.misused (Raw.ofString "only one list may be specified") 1
    | [(_, list)] =>
      if 1 < delimiter.length then
        c.misused (Raw.ofString "the delimiter must be a single character") 1
      else if !fields ∧ a.has 'd' then
        c.misused (Raw.ofString
          "an input delimiter may be specified only when operating on fields") 1
      else if !fields ∧ a.has 's' then
        c.misused (Raw.ofString
          "suppressing non-delimited lines makes sense\n\tonly when operating on fields") 1
      else
        match PositionRange.parse fields (a.has 'C') list with
        | .error message => c.misused message 1
        | .ok rs =>
          let d := delimiter.headD '\x00'
          let mark := (a.value? 'O').map fun v => if v.isEmpty then ['\x00'] else v
          let ending := if a.has 'z' then '\x00' else '\n'
          let record (l : Text) : List Text :=
            if fields then
              if l.any (· == d) then
                [List.intercalate (mark.getD [d]) (partsAt rs (l.splitOn d)).flatten]
              else if a.has 's' then [] else [l]
            else [List.intercalate (mark.getD []) (partsAt rs l)]
          (c.inputs a.operands).effectOfEach fun _ t =>
            if fields ∧ d = ending then
              let t := if t.getLast? = some ending then t.dropLast else t
              if t.isEmpty then t else Raw.unrecords ending (record t)
            else Raw.unrecords ending ((Raw.records ending t).flatMap record)

/-! ## Side by side -/

/-- Joins texts with delimiters that are used in turn. -/
def joinInTurn (ds : List Text) : (n : Nat) → List Text → Text
  | _, [] => []
  | _, [t] => t
  | n, t :: ts => t ++ (ds[n % ds.length]?.getD []) ++ joinInTurn ds (n + 1) ts

/-- The delimiters of a list: an escaped zero is the empty one. None if a backslash ends it. -/
def delimiterList? : Text → Option (List Text)
  | [] => some []
  | ['\\'] => none
  | '\\' :: c :: t =>
    let d : Text := match c with
      | '0' => []
      | 'b' => ['\x08']
      | 'f' => ['\x0c']
      | 'n' => ['\n']
      | 'r' => ['\r']
      | 't' => ['\t']
      | 'v' => ['\x0b']
      | c => [c]
    (delimiterList? t).map (d :: ·)
  | c :: t => (delimiterList? t).map ([c] :: ·)

/-- The rows of some columns, as many as the longest has. -/
def rowsOf : (n : Nat) → List (List Text) → List (List Text)
  | 0, _ => []
  | n + 1, columns => columns.map (·.head?.getD []) :: rowsOf n (columns.map List.tail)

/-- Every so many-th element of a list, from a place on. -/
def everyNth (n start : Nat) (ls : List Text) : List Text :=
  (ls.zipIdx).filterMap fun (l, i) => if i % n = start then some l else none

/-- Joins the lines of files. -/
def paste : Utility :=
  withArguments { plain := "sz", valued := "d"
                  long := [("serial", 's', false), ("delimiters", 'd', true),
                    ("zero-terminated", 'z', false)] } 1 fun c a =>
    let list := (a.value? 'd').getD ['\t']
    match delimiterList? list with
    | none =>
      c.fails (Raw.ofString "delimiter list ends with an unescaped backslash: " ++ list) 1
    | some ds =>
      let ds := if ds.isEmpty then [[]] else ds
      let ending := if a.has 'z' then '\x00' else '\n'
      let names := if a.operands.isEmpty then [['-']] else a.operands
      let i := c.inputs names
      if a.has 's' then
        i.effectOfEach fun _ t => joinInTurn ds 0 (Raw.records ending t) ++ [ending]
      else if i.failed then
        { stderr := (Raw.brokenLines i.stderr).headD [], status := 1, left := c.input }
      else
        let shared := Raw.records ending c.input
        let hyphens := (names.filter (· = ['-'])).length
        let (_, columns) := i.contents.foldl (fun (s : Nat × List (List Text)) (name, t) =>
          if name = ['-'] then (s.1 + 1, s.2 ++ [everyNth hyphens s.1 shared])
          else (s.1, s.2 ++ [Raw.records ending t])) (0, [])
        let rows := rowsOf ((columns.map List.length).foldl max 0) columns
        i.effect (rows.flatMap fun row => joinInTurn ds 0 row ++ [ending]) 0

/-! ## Breaking lines -/

def nextColumn (bytes : Bool) (column : Nat) (c : Char) : Nat :=
  if bytes then column + 1
  else if c = '\t' then column + 8 - column % 8
  else if c = '\x08' then column - 1
  else if c = '\r' then 0
  else column + 1

/-- Breaks a line that is too long; the characters of the current piece are given latest first. -/
def foldLine (bytes spaces : Bool) (width : Nat) : (fuel column : Nat) → Text → Text → Text
  | 0, _, piece, rest => piece.reverse ++ rest
  | _, _, piece, [] => piece.reverse
  | fuel + 1, column, piece, c :: cs =>
    if c = '\n' then piece.reverse ++ '\n' :: foldLine bytes spaces width fuel 0 [] cs
    else if nextColumn bytes column c ≤ width ∨ piece.isEmpty then
      foldLine bytes spaces width fuel (nextColumn bytes column c) (c :: piece) cs
    else
      let carried := if spaces ∧ piece.any isGap then piece.takeWhile fun c => !isGap c else []
      let kept := piece.drop carried.length
      let start := carried.reverse.foldl (nextColumn bytes) 0
      kept.reverse ++ '\n' :: foldLine bytes spaces width fuel start carried (c :: cs)

/-- Arguments of digits behind a hyphen are widths. -/
def withWidthOption : List Text → List Text
  | [] => []
  | ['-', '-'] :: rest => ['-', '-'] :: rest
  | a :: rest =>
    (match a with
      | '-' :: c :: cs =>
        if c.isDigit ∧ cs.all Char.isDigit then '-' :: 'w' :: c :: cs else a
      | a => a) :: withWidthOption rest

/-- Breaks long lines. -/
def fold : Utility := fun c =>
  withArguments { plain := "bs", valued := "w"
                  long := [("bytes", 'b', false), ("spaces", 's', false), ("width", 'w', true)] } 1
    (fun c a =>
      let widths := ((a.options.filter (·.1 == 'w')).map (·.2)).map fun v =>
        (v, Raw.nat? (if v.head? = some '+' then v.tail else v))
      match widths.find? fun (_, n) => n.all (· == 0) with
      | some (v, n) =>
        c.fails (Raw.ofString "invalid number of columns: " ++ Raw.quoted v ++
          Raw.ofString (if n.isNone then "" else ": Numerical result out of range")) 1
      | none =>
        let width := ((widths.getLast?.bind (·.2))).getD 80
        (c.inputs a.operands).effectOfEach fun _ t =>
          foldLine (a.has 'b') (a.has 's') width (3 * t.length + 1) 0 [] t)
    { c with args := withWidthOption c.args }

end External

end SmartyLayout
