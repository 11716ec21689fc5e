import SmartyLayout.External.Comparing
import SmartyLayout.External.Difference.Script

/-!
# SmartyLayout.External.Difference.Output — the ways to show differences

The utility `diff`. It compares two files line by line and shows the changes in one of several
styles: on their own, with lines around them, as commands of an editor, or side by side.
-/

namespace SmartyLayout

namespace External

namespace Difference

/-! ## Lines -/

/-- How lines are compared. -/
structure Sameness where
  foldCase : Bool := false
  /-- Blanks do not count at all. -/
  noBlanks : Bool := false
  /-- How many blanks there are does not count. -/
  anyBlanks : Bool := false
  /-- Blanks at the end do not count. -/
  noTrailing : Bool := false
  /-- A missing break at the end of a file does not count. -/
  anyEnd : Bool := false
  noReturn : Bool := false

/-- Several blanks in a row become one. -/
def squeezeBlanks : (blank : Bool) → Text → Text
  | _, [] => []
  | blank, c :: cs =>
    if Raw.isSpace c then (if blank then [] else [' ']) ++ squeezeBlanks true cs
    else c :: squeezeBlanks false cs

/-- What two lines must share to be the same. -/
def Sameness.key (s : Sameness) (l : Text) : Text :=
  let broken := l.getLast? = some '\n'
  let t := if broken then l.dropLast else l
  let t := if s.noReturn && t.getLast? = some '\r' then t.dropLast else t
  let trimmed (t : Text) : Text := (t.reverse.dropWhile Raw.isSpace).reverse
  let t := if s.noBlanks then t.filter (!Raw.isSpace ·)
    else if s.anyBlanks then trimmed (squeezeBlanks false t)
    else if s.noTrailing then trimmed t else t
  let t := if s.foldCase then t.map Char.toLower else t
  let loose := s.noBlanks || s.anyBlanks || s.noTrailing || s.anyEnd
  if broken || loose then t ++ ['\n'] else t

/-- A line behind a mark. A missing break at the end is told of. -/
def marked (mark : Text) (l : Text) : Text :=
  if l.getLast? = some '\n' then mark ++ l
  else mark ++ l ++ Raw.ofString "\n\\ No newline at end of file\n"

structure Sides where
  name0 : Text
  name1 : Text
  lines0 : List Text
  lines1 : List Text

/-- So many lines from a place on. -/
def stretch (ls : List Text) (start count : Nat) : List Text :=
  (ls.drop start).take count

def Sides.deleted (s : Sides) (c : Change) : List Text :=
  stretch s.lines0 c.line0 c.deleted

def Sides.inserted (s : Sides) (c : Change) : List Text :=
  stretch s.lines1 c.line1 c.inserted

/-- The numbers of the first and the last of some lines, or of the line before them. -/
def numberRange (start count : Nat) : Text :=
  if count ≤ 1 then Raw.ofNat (start + count)
  else Raw.ofNat (start + 1) ++ ',' :: Raw.ofNat (start + count)

/-- The letter of a change: lines are added, deleted or changed. -/
def Change.letter (c : Change) : Char :=
  if c.deleted = 0 then 'a' else if c.inserted = 0 then 'd' else 'c'

/-! ## Changes on their own -/

/-- A change with the lines of both files. -/
def Sides.plain (s : Sides) (indent : Text) (c : Change) : Text :=
  numberRange c.line0 c.deleted ++ c.letter :: numberRange c.line1 c.inserted ++ '\n' ::
    (s.deleted c).flatMap (marked ('<' :: indent)) ++
    (if c.letter = 'c' then Raw.ofString "---\n" else []) ++
    (s.inserted c).flatMap (marked ('>' :: indent))

def commandLine (l : Text) : Text :=
  if l.getLast? = some '\n' then l else l ++ ['\n']

def Sides.edit (s : Sides) (c : Change) : Text :=
  numberRange c.line0 c.deleted ++ [c.letter, '\n'] ++
    (if c.inserted = 0 then [] else (s.inserted c).flatMap commandLine ++ ['.', '\n'])

/-- A change as a command that is read from the first line to the last. -/
def Sides.forwardEdit (s : Sides) (c : Change) : Text :=
  let range := (numberRange c.line0 c.deleted).map fun x => if x = ',' then ' ' else x
  c.letter :: range ++ '\n' ::
    (if c.inserted = 0 then [] else (s.inserted c).flatMap commandLine ++ ['.', '\n'])

/-- A change as commands that count lines. -/
def Sides.counted (s : Sides) (c : Change) : Text :=
  (if c.deleted = 0 then []
    else 'd' :: Raw.ofNat (c.line0 + 1) ++ ' ' :: Raw.ofNat c.deleted ++ ['\n']) ++
  (if c.inserted = 0 then []
    else 'a' :: Raw.ofNat (c.line0 + c.deleted) ++ ' ' :: Raw.ofNat c.inserted ++ '\n' ::
      (s.inserted c).flatten)

/-! ## Changes with lines around them -/

/-- Changes that stand so close that they are shown together. -/
def hunks (around : Nat) (trivial : Change → Bool) : List Change → List (List Change)
  | [] => []
  | c :: cs =>
    match cs, hunks around trivial cs with
    | next :: _, h :: hs =>
      let gap := next.line0 - (c.line0 + c.deleted)
      let bound := if trivial c || trivial next then around else 2 * around + 1
      if gap < bound then (c :: h) :: hs else [c] :: h :: hs
    | _, hs => [c] :: hs

/-- The lines of both files that a hunk shows: where they begin and how many there are. -/
structure Window where
  start0 : Nat
  count0 : Nat
  start1 : Nat
  count1 : Nat

def Sides.window (s : Sides) (around : Nat) (cs : List Change) : Window :=
  match cs.head?, cs.getLast? with
  | some c, some d =>
    let start0 := c.line0 - min around c.line0
    let start1 := c.line1 - min around c.line1
    let stop0 := min s.lines0.length (d.line0 + d.deleted + around)
    let stop1 := min s.lines1.length (d.line1 + d.inserted + around)
    ⟨start0, stop0 - start0, start1, stop1 - start1⟩
  | _, _ => ⟨0, 0, 0, 0⟩

/-- A range of lines with their number. -/
def countedRange (start count : Nat) : Text :=
  if count = 0 then Raw.ofNat start ++ [',', '0']
  else if count = 1 then Raw.ofNat (start + 1)
  else Raw.ofNat (start + 1) ++ ',' :: Raw.ofNat count

/-- A hunk in which deleted and inserted lines follow one another. -/
def Sides.unifiedHunk (s : Sides) (around : Nat) (cs : List Change) : Text :=
  let w := s.window around cs
  let (body, place) := cs.foldl (fun (body, place) c =>
    (body ++ (stretch s.lines0 place (c.line0 - place)).flatMap (marked [' ']) ++
      (s.deleted c).flatMap (marked ['-']) ++ (s.inserted c).flatMap (marked ['+']),
      c.line0 + c.deleted)) (([] : Text), w.start0)
  Raw.ofString "@@ -" ++ countedRange w.start0 w.count0 ++ Raw.ofString " +" ++
    countedRange w.start1 w.count1 ++ Raw.ofString " @@\n" ++ body ++
    (stretch s.lines0 place (w.start0 + w.count0 - place)).flatMap (marked [' '])

/-- The lines of one file in a window: those of changes have a mark of their own. -/
def sideLines (ls : List Text) (start count : Nat) (mark : Nat → Char) : Text :=
  (stretch ls start count).zipIdx.flatMap fun (l, k) => marked [mark (start + k), ' '] l

/-- A hunk in which each file has its own part. -/
def Sides.contextHunk (s : Sides) (around : Nat) (cs : List Change) : Text :=
  let w := s.window around cs
  let mark0 (k : Nat) : Char :=
    match cs.find? fun c => c.line0 ≤ k && k < c.line0 + c.deleted with
    | some c => if c.inserted = 0 then '-' else '!'
    | none => ' '
  let mark1 (k : Nat) : Char :=
    match cs.find? fun c => c.line1 ≤ k && k < c.line1 + c.inserted with
    | some c => if c.deleted = 0 then '+' else '!'
    | none => ' '
  Raw.ofString "***************\n*** " ++ numberRange w.start0 w.count0 ++
    Raw.ofString " ****\n" ++
    (if cs.any (·.deleted != 0) then sideLines s.lines0 w.start0 w.count0 mark0 else []) ++
    Raw.ofString "--- " ++ numberRange w.start1 w.count1 ++ Raw.ofString " ----\n" ++
    (if cs.any (·.inserted != 0) then sideLines s.lines1 w.start1 w.count1 mark1 else [])

/-! ## Side by side -/

/-- Blanks and tabs from one column to another. -/
def fillColumns : (fuel : Nat) → (start stop : Nat) → Text
  | 0, _, _ => []
  | fuel + 1, start, stop =>
    let tab := start + 8 - start % 8
    if tab ≤ stop then '\t' :: fillColumns fuel tab stop
    else List.replicate (stop - start) ' '

/-- A line cut to some columns: its text, and the column behind it. -/
def halfLine (bound : Nat) : (read shown : Nat) → Text → Text × Nat
  | _, shown, [] => ([], shown)
  | read, shown, c :: cs =>
    if c = '\n' then ([], shown)
    else if c = '\t' then
      let tab := read + 8 - read % 8
      if read = shown ∧ tab < bound then
        let (t, column) := halfLine bound tab tab cs
        (c :: t, column)
      else halfLine bound tab shown cs
    else if read < bound then
      let (t, column) := halfLine bound (read + 1) (read + 1) cs
      (c :: t, column)
    else halfLine bound (read + 1) shown cs

/-- The columns of both sides. -/
structure Halves where
  width : Nat
  second : Nat

/-- The columns of both sides for a width of the page. -/
def Halves.ofWidth (width : Nat) : Halves :=
  let rough := width / 2 + 5 + (if width % 2 = 1 then 1 else 0)
  let second := rough - rough % 8
  let half := min (second - 3) (width - second)
  ⟨half, if half = 0 then width else second⟩

def Halves.line (h : Halves) (left : Option Text) (sign : Char) (right : Option Text) : Text :=
  let broken (l : Option Text) : Bool := l.any fun l => l.getLast? == some '\n'
  let (t, column) := halfLine h.width 0 0 (left.getD [])
  let middle := (h.width + h.second - 1) / 2
  let sign := if sign = '|' ∧ broken left != broken right then
      if broken left then '/' else '\\'
    else sign
  let (t, column) := if sign = ' ' then (t, column)
    else (t ++ fillColumns 200 column middle ++ [sign], middle + 1)
  let t := match right with
    | some r =>
      if r.head? = some '\n' then t
      else t ++ fillColumns 200 column h.second ++ (halfLine h.width 0 0 r).1
    | none => t
  if broken left || broken right then t ++ ['\n'] else t

def Halves.change (h : Halves) (s : Sides) (c : Change) : Text :=
  let ls := s.deleted c
  let rs := s.inserted c
  let both := min ls.length rs.length
  ((ls.zip rs).flatMap fun (l, r) => h.line (some l) '|' (some r)) ++
    ((rs.drop both).flatMap fun r => h.line none '>' (some r)) ++
    ((ls.drop both).flatMap fun l => h.line (some l) '<' none)

def Sides.sideBySide (s : Sides) (h : Halves) (hidden : Bool) (cs : List Change) : Text :=
  let common (start0 start1 count : Nat) : Text :=
    if hidden then []
    else ((stretch s.lines0 start0 count).zip (stretch s.lines1 start1 count)).flatMap
      fun (l, r) => h.line (some l) ' ' (some r)
  let (body, place0, place1) := cs.foldl (fun (body, place0, place1) c =>
    (body ++ common place0 place1 (c.line0 - place0) ++ h.change s c, c.line0 + c.deleted,
      c.line1 + c.inserted)) (([] : Text), 0, 0)
  body ++ common place0 place1 s.lines0.length

/-! ## The program -/

inductive Style where
  | plain
  | unified (around : Nat)
  | context (around : Nat)
  | edit
  | forwardEdit
  | counted
  | sideBySide
deriving DecidableEq, Repr

def differenceSyntax : OptionSyntax where
  plain := "aBbcdEeiNnpqrsTtuwyZlPfH"
  valued := "CDFILSUWXx"
  long := [("text", 'a', false), ("ignore-blank-lines", 'B', false),
    ("ignore-space-change", 'b', false), ("context", 'C', true), ("minimal", 'd', false),
    ("ed", 'e', false), ("ignore-case", 'i', false), ("label", 'L', true),
    ("new-file", 'N', false), ("rcs", 'n', false), ("show-c-function", 'p', false),
    ("brief", 'q', false), ("recursive", 'r', false), ("report-identical-files", 's', false),
    ("initial-tab", 'T', false), ("expand-tabs", 't', false), ("unified", 'U', true),
    ("width", 'W', true), ("ignore-all-space", 'w', false), ("side-by-side", 'y', false),
    ("ignore-trailing-space", 'Z', false), ("normal", 'M', false),
    ("suppress-common-lines", 'K', false), ("strip-trailing-cr", 'R', false),
    ("color", 'O', false)]

/-- The style that options ask for; a context that is no number is given back. -/
def styleOf (a : Arguments) : Except Text Style :=
  a.options.foldlM (fun (style : Style) (o, v) =>
    let context (make : Nat → Style) : Except Text Style :=
      match Raw.nat? v with
      | some n => .ok (make n)
      | none => .error v
    match o with
    | 'u' => .ok (match style with
      | .unified n => .unified n
      | _ => .unified 3)
    | 'c' => .ok (match style with
      | .context n => .context n
      | _ => .context 3)
    | 'U' => context .unified
    | 'C' => context .context
    | 'e' => .ok .edit
    | 'f' => .ok .forwardEdit
    | 'n' => .ok .counted
    | 'y' => .ok .sideBySide
    | _ => .ok style) .plain

/-- Changes that count for nothing. -/
def isTrivial (a : Arguments) (s : Sides) (c : Change) : Bool :=
  let blank (l : Text) : Bool :=
    if a.has 'w' || a.has 'b' || a.has 'Z' then l.all Raw.isSpace else l == ['\n']
  a.has 'B' && ((s.deleted c) ++ (s.inserted c)).all blank

/-- The names and times above a list of hunks. -/
def titles (a : Arguments) (s : Sides) (mark0 mark1 : String) : Text :=
  let labels := (a.options.filter (·.1 == 'L')).map (·.2)
  let title (mark : String) (label : Option Text) (name : Text) : Text :=
    Raw.ofString mark ++ ' ' :: (match label with
      | some l => l
      | none => name ++ Raw.ofString "\t1970-01-01 00:00:00.000000000 +0000") ++ ['\n']
  title mark0 labels.head? s.name0 ++ title mark1 (labels[1]?) s.name1

def Sides.shown (s : Sides) (a : Arguments) (style : Style) (cs : List Change) : Text :=
  let real := cs.filter (!isTrivial a s ·)
  let grouped (around : Nat) : List (List Change) :=
    (hunks around (isTrivial a s) cs).filter fun h => h.any (!isTrivial a s ·)
  if real.isEmpty ∧ style ≠ .sideBySide then []
  else
    match style with
    | .plain => real.flatMap (s.plain (if a.has 'T' then ['\t'] else [' ']))
    | .unified n => titles a s "---" "+++" ++ (grouped n).flatMap (s.unifiedHunk n)
    | .context n => titles a s "***" "---" ++ (grouped n).flatMap (s.contextHunk n)
    | .edit => real.reverse.flatMap s.edit
    | .forwardEdit => real.flatMap s.forwardEdit
    | .counted => real.flatMap s.counted
    | .sideBySide =>
      let width := ((a.value? 'W').bind Raw.nat?).getD 130
      s.sideBySide (.ofWidth width) (a.has 'K') real

def compareContents (c : Call) (a : Arguments) (style : Style) (x y s t : Text) : Effect :=
  let sameness : Sameness :=
    { foldCase := a.has 'i', noBlanks := a.has 'w', anyBlanks := a.has 'b'
      noTrailing := a.has 'Z', anyEnd := style = .edit ∨ style = .forwardEdit
      noReturn := a.has 'R' }
  let sides : Sides := ⟨x, y, Raw.brokenLines s, Raw.brokenLines t⟩
  let around := match style with
    | .unified n | .context n => n
    | _ => 0
  let cs := changes around (sides.lines0.map sameness.key) (sides.lines1.map sameness.key)
  let differ := cs.any (!isTrivial a sides ·)
  let binary := !a.has 'a' && s != t && (s.any (· == '\x00') || t.any (· == '\x00'))
  if a.has 'q' || binary then
    let differ := differ || binary
    let (before, between, after) :=
      if binary && !a.has 'q' then ("Binary files ", " and ", " differ")
      else ("Files ", " and ", " differ")
    { stdout := if differ then Raw.ofString before ++ x ++ Raw.ofString between ++ y ++
        Raw.ofString after ++ ['\n'] else []
      status := if differ then 1 else 0 }
  else if !differ && a.has 's' then
    { stdout := Raw.ofString "Files " ++ x ++ Raw.ofString " and " ++ y ++
        Raw.ofString " are identical\n" }
  else
    let unended (name content : Text) : Text :=
      if sameness.anyEnd && content.getLast?.any (· != '\n') then
        c.line (name ++ Raw.ofString ": No newline at end of file\n")
      else []
    let stderr := unended x s ++ unended y t
    { stdout := sides.shown a style cs, stderr
      status := if stderr.isEmpty then (if differ then 1 else 0) else 2 }

/-- Options whose value may be left out, and numbers of lines, in the form with a value. -/
def withContextOptions : List Text → List Text
  | [] => []
  | a :: rest =>
    let a' := match a with
      | '-' :: 'u' :: d :: ds => if (d :: ds).all Char.isDigit then '-' :: 'U' :: d :: ds else a
      | '-' :: 'c' :: d :: ds => if (d :: ds).all Char.isDigit then '-' :: 'C' :: d :: ds else a
      | _ =>
        if a = "--unified".toList then ['-', 'u']
        else if a = "--context".toList then ['-', 'c']
        else if Text.startsWith "--color=".toList a then "--color".toList
        else a
    a' :: withContextOptions rest

end Difference

open Difference in
/-- Compares two files line by line. -/
def diff : Utility := fun c =>
  match readArguments differenceSyntax (withContextOptions c.args) with
  | .error message => c.misusedByName message 2
  | .ok a =>
    match styleOf a with
    | .error t => c.misusedByName (Raw.ofString "invalid context length '" ++ t ++ ['\x27']) 2
    | .ok style =>
      match a.operands with
      | [] => c.misusedByName (Raw.ofString "missing operand after '" ++ c.name ++ ['\x27']) 2
      | [x] => c.misusedByName (Raw.ofString "missing operand after '" ++ x ++ ['\x27']) 2
      | [x, y] =>
        let side (name : Text) : Except String Text :=
          match c.side name with
          | .error why => if a.has 'N' && why != "Is a directory" then .ok [] else .error why
          | ok => ok
        let left := if x = ['-'] ∨ y = ['-'] then [] else c.input
        match side x, side y with
        | .ok s, .ok t => { compareContents c a style x y s t with left }
        | s, t =>
          let complaint (name : Text) : Except String Text → Text
            | .error why => c.line (unreadable name why)
            | .ok _ => []
          { stderr := complaint x s ++ complaint y t, status := 2, left }
      | _ :: _ :: z :: _ =>
        c.misusedByName (Raw.ofString "extra operand '" ++ z ++ ['\x27']) 2

end External

end SmartyLayout
