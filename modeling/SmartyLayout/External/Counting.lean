import SmartyLayout.External.Regex
import SmartyLayout.External.Utility

/-!
# SmartyLayout.External.Counting — utilities that count

Programs that count lines, words and bytes, and that number lines.
-/

namespace SmartyLayout

namespace External

/-! ## Counting lines, words and bytes -/

/-- The number of words that have something to print. -/
def wordCount (t : Text) : Nat :=
  ((Raw.words t).filter fun w => w.any fun c => 0x20 < c.toNat && c.toNat < 0x7F).length

/-- The greatest width of a line; `column` is the present one and `widest` that of earlier lines. -/
def lineWidth : (column widest : Nat) → Text → Nat
  | column, widest, [] => max column widest
  | column, widest, c :: cs =>
    if c = '\n' ∨ c = '\r' ∨ c = '\x0c' then lineWidth 0 (max column widest) cs
    else if c = '\t' then lineWidth (column + 8 - column % 8) widest cs
    else lineWidth (if Raw.isPlain c then column + 1 else column) widest cs

structure Counts where
  lines : Nat := 0
  words : Nat := 0
  bytes : Nat := 0
  width : Nat := 0
deriving DecidableEq, Repr

namespace Counts

def ofText (t : Text) : Counts :=
  ⟨t.count '\n', wordCount t, t.length, lineWidth 0 0 t⟩

/-- The counts of two files; the greatest width counts. -/
def add (a b : Counts) : Counts :=
  ⟨a.lines + b.lines, a.words + b.words, a.bytes + b.bytes, max a.width b.width⟩

def shown (a : Arguments) (n : Counts) : List Nat :=
  let all := !"clmwL".toList.any a.has
  (if all || a.has 'l' then [n.lines] else []) ++
  (if all || a.has 'w' then [n.words] else []) ++
  (if a.has 'm' then [n.bytes] else []) ++
  (if all || a.has 'c' then [n.bytes] else []) ++
  (if a.has 'L' then [n.width] else [])

/-- A row with a name, the counts as wide as given. -/
def row (a : Arguments) (width : Nat) (n : Counts) (name : Option Text) : Text :=
  List.intercalate [' '] ((n.shown a).map fun k => Raw.padLeft ' ' width (Raw.ofNat k)) ++
    (name.map (' ' :: ·)).getD [] ++ ['\n']

end Counts

def countSyntax : OptionSyntax where
  plain := "clmwL"
  long := [("bytes", 'c', false), ("chars", 'm', false), ("lines", 'l', false),
    ("words", 'w', false), ("debug", 'D', false), ("files0-from", 'F', true),
    ("max-line-length", 'L', false), ("total", 'T', true)]

def totalWords : List String := ["auto", "always", "only", "never"]

/-- Counts lines, words and bytes. Numbers are as wide as the size of all files needs, and at least
seven if one of the files is none that has a size; a single number is not padded. -/
def wc : Utility :=
  withArguments countSyntax 1 fun c a =>
    let names := if a.operands.isEmpty then [['-']] else a.operands
    let i := c.inputs a.operands
    let total := (a.value? 'T').getD "auto".toList
    match totalWords.find? fun w => !total.isEmpty && Text.startsWith total w.toList with
    | none =>
      c.misused (Raw.ofString "invalid argument " ++ Raw.quoted total ++
        Raw.ofString " for '--total'\nValid arguments are:" ++
        totalWords.flatMap fun w => Raw.ofString ("\n  - '" ++ w ++ "'")) 1
    | some when_ =>
      let single := names.length == 1 && ((({} : Counts).shown a).length == 1)
      let isPipe (name : Text) : Bool :=
        if name = ['-'] then !c.inputIsFile
        else c.isDirectory name || name = "/dev/null".toList || name = "/dev/stdin".toList
      let sizes := i.contents.map fun (name, t) => if isPipe name then 0 else t.length
      let width := if single then 1
        else max (if names.any isPipe then 7 else 1) (Raw.ofNat (sizes.foldl (· + ·) 0)).length
      let width := if when_ = "only" then 1 else width
      let row (n : Counts) (name : Option Text) : Text :=
        if when_ = "only" ∧ name ≠ none then [] else n.row a width name
      let results := names.zip i.results
      let (turns, out, sum) := results.foldl
        (fun (s : List (Text × Text) × Text × Counts) (name, r) =>
          let (turns, out, sum) := s
          match r with
          | .error complaint =>
            (turns ++ [(out, complaint)],
              if c.isDirectory name then row {} (some name) else [], sum)
          | .ok (name, t) =>
            let n := Counts.ofText t
            let shownAs := if a.operands.isEmpty then none else some name
            (turns, out ++ (if when_ = "only" then [] else n.row a width shownAs), sum.add n))
        ([], [], {})
      let closes := when_ = "always" ∨ when_ = "only" ∨ (when_ = "auto" ∧ 1 < names.length)
      let label := if when_ = "only" then none else some (Raw.ofString "total")
      { turns, stdout := if closes then out ++ sum.row a width label else out, left := i.left
        status := if i.failed then 1 else 0 }

/-! ## Numbering lines -/

namespace Numbering

/-- Which lines of a section are numbered. -/
inductive Style where
  | all
  | nonempty
  | none
  | matching (r : Regex)

/-- The sections of a page. -/
inductive Section where
  | header
  | body
  | footer
deriving DecidableEq, Repr

structure Job where
  header : Style := .none
  body : Style := .nonempty
  footer : Style := .none
  delimiter : Text := ['\\', ':']
  step : Int := 1
  /-- So many empty lines count as one. -/
  join : Nat := 1
  format : Text := ['r', 'n']
  keepsCounting : Bool := false
  mark : Text := ['\t']
  first : Int := 1
  width : Nat := 6

/-- What is known between lines: the section, the next number, and empty lines in a row. -/
structure State where
  place : Section := .body
  next : Int
  blank : Nat := 0

def Job.number (j : Job) (n : Int) : Text :=
  let t := Raw.ofInt n
  if j.format = ['l', 'n'] then Raw.padRight j.width t
  else if j.format = ['r', 'z'] then
    if n < 0 then '-' :: Raw.padLeft '0' (j.width - 1) t.tail else Raw.padLeft '0' j.width t
  else Raw.padLeft ' ' j.width t

def Job.opened? (j : Job) (l : Text) : Option Section :=
  let d := j.delimiter
  if d.length < 2 then Option.none
  else if l = d ++ d ++ d then some .header
  else if l = d ++ d then some .body
  else if l = d then some .footer
  else Option.none

def Job.style (j : Job) : Section → Style
  | .header => j.header
  | .body => j.body
  | .footer => j.footer

def Job.line (j : Job) (s : State) (l : Text) : State × Text :=
  match j.opened? l with
  | some place =>
    ({ s with place, next := if j.keepsCounting then s.next else j.first }, ['\n'])
  | Option.none =>
    let numbered (s : State) : State × Text :=
      ({ s with next := s.next + j.step }, j.number s.next ++ j.mark ++ l ++ ['\n'])
    let plain (s : State) : State × Text :=
      (s, List.replicate (j.width + j.mark.length) ' ' ++ l ++ ['\n'])
    match j.style s.place with
    | .all =>
      if 1 < j.join then
        if !l.isEmpty ∨ s.blank + 1 = j.join then numbered { s with blank := 0 }
        else plain { s with blank := s.blank + 1 }
      else numbered s
    | .nonempty => if l.isEmpty then plain s else numbered s
    | .none => plain s
    | .matching r => if (r.find? l).isSome then numbered s else plain s

/-- Reads which lines are numbered. -/
def Style.parse (t : Text) : Except (Option Text) Style :=
  match t with
  | 'a' :: _ => .ok .all
  | 't' :: _ => .ok .nonempty
  | 'n' :: _ => .ok .none
  | 'p' :: e =>
    match Regex.parse? { extended := false } e with
    | some r => .ok (.matching r)
    | Option.none => .error (some (Raw.ofString (Regex.faultMessage { extended := false } e)))
  | _ => .error Option.none

def options : OptionSyntax where
  plain := "p"
  valued := "bdfhilnsvw"
  long := [("header-numbering", 'h', true), ("body-numbering", 'b', true),
    ("footer-numbering", 'f', true), ("starting-line-number", 'v', true),
    ("line-increment", 'i', true), ("no-renumber", 'p', false), ("join-blank-lines", 'l', true),
    ("number-separator", 's', true), ("number-width", 'w', true), ("number-format", 'n', true),
    ("section-delimiter", 'd', true)]

/-- A job with one more option, and a complaint after which the rest is still looked at. -/
def Job.addOption (j : Job) (o : Char) (v : Text) : Except Text (Job × Option Text) :=
  let wrong (what : String) : Text := Raw.ofString ("invalid " ++ what ++ ": ") ++ Raw.quoted v
  let styled (what : String) (put : Style → Job) : Except Text (Job × Option Text) :=
    match Style.parse v with
    | .ok s => .ok (put s, Option.none)
    | .error (some message) => .error message
    | .error Option.none => .ok (j, some (wrong (what ++ " numbering style")))
  let counted (what : String) (put : Nat → Job) : Except Text (Job × Option Text) :=
    match Raw.int? v with
    | some n =>
      if 0 < n then .ok (put n.toNat, Option.none)
      else .error (wrong what ++ Raw.ofString ": Numerical result out of range")
    | Option.none => .error (wrong what)
  let whole (what : String) (put : Int → Job) : Except Text (Job × Option Text) :=
    match Raw.int? v with
    | some n => .ok (put n, Option.none)
    | Option.none => .error (wrong what)
  match o with
  | 'h' => styled "header" fun s => { j with header := s }
  | 'b' => styled "body" fun s => { j with body := s }
  | 'f' => styled "footer" fun s => { j with footer := s }
  | 'v' => whole "starting line number" fun n => { j with first := n }
  | 'i' => whole "line number increment" fun n => { j with step := n }
  | 'p' => .ok ({ j with keepsCounting := true }, Option.none)
  | 'l' => counted "line number of blank lines" fun n => { j with join := n }
  | 's' => .ok ({ j with mark := v }, Option.none)
  | 'w' => counted "line number field width" fun n => { j with width := n }
  | 'n' =>
    if v = "ln".toList ∨ v = "rn".toList ∨ v = "rz".toList then
      .ok ({ j with format := v }, Option.none)
    else .ok (j, some (wrong "line numbering format"))
  | 'd' => .ok ({ j with delimiter := if v.length = 1 then v ++ [':'] else v }, Option.none)
  | _ => .ok (j, Option.none)

end Numbering

open SmartyLayout.External.Numbering in
/-- Numbers lines, by pages that have a header, a body and a footer. -/
def nl : Utility := fun c =>
  let misused (faults : List Text) : Effect :=
    let e := c.misused (faults.getLast?.getD []) 1
    { e with stderr := faults.dropLast.flatMap c.line ++ e.stderr }
  let (os, operands) := scanArguments options none c.args
  let read := os.foldlM (fun (s : Job × List Text) o =>
    match o with
    | .error fault => Except.ok (s.1, s.2 ++ [fault])
    | .ok (o, v) =>
      match s.1.addOption o v with
      | .ok (j, fault) => .ok (j, s.2 ++ fault.toList)
      | .error message => .error (s.2 ++ [message])) ({}, [])
  match read with
  | .error faults => { stderr := faults.flatMap c.line, status := 1, left := c.input }
  | .ok (_, fault :: faults) => misused (fault :: faults)
  | .ok (j, []) =>
    (c.inputs operands).effectInTurn ({ next := j.first } : State)
      (fun s _ t =>
        let (s, out) := (Raw.lines t).foldl (fun (s : State × List Text) l =>
          let (next, text) := j.line s.1 l
          (next, text :: s.2)) (s, [])
        (s, out.reverse.flatten)) fun _ => []

end External

end SmartyLayout
