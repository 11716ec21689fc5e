import SmartyLayout.External.Sorting.Order
import SmartyLayout.External.Utility

/-!
# SmartyLayout.External.TabStops — tabs and blanks

Programs that write blanks in place of tabs, and tabs in place of blanks. Where tabs lead is given by
one width, or by a list of columns that may go on regularly.
-/

namespace SmartyLayout

namespace External

structure TabStops where
  /-- Columns in ascending order. -/
  columns : List Nat := []
  /-- Behind these, multiples of a width. -/
  multiples : Option Nat := none
  /-- Behind these, steps of a width from the last column. -/
  steps : Option Nat := none
deriving DecidableEq, Repr

namespace TabStops

def every (width : Nat) : TabStops := { multiples := some width }

/-- The next column that a tab leads to; none behind the last one. -/
def next? (s : TabStops) (column : Nat) : Option Nat :=
  match s.columns.find? (column < ·) with
  | some c => some c
  | none =>
    match s.multiples, s.steps with
    | some w, _ => some (column + (w - column % w))
    | none, some w => some (column + (w - (column - s.columns.getLast?.getD 0) % w))
    | none, none => none

structure Draft where
  columns : List Nat := []
  multiples : Option Nat := none
  steps : Option Nat := none

/-- Adds a list of columns, with commas or blanks between them; a slash or a plus sign in front of
the last one says how they go on. -/
def Draft.add (d : Draft) (list : Text) : Except Text Draft :=
  let items := ((list.map fun c => if isGap c then ',' else c).splitOn ',').filter (!·.isEmpty)
  items.foldlM (fun (d : Draft) item => do
    let number (t : Text) : Except Text Nat :=
      match Raw.nat? t with
      | some n => pure n
      | none =>
        let bad := t.dropWhile Char.isDigit
        match bad with
        | '/' :: _ =>
          throw (Raw.ofString "'/' specifier not at start of number: " ++ Raw.quoted bad)
        | '+' :: _ =>
          throw (Raw.ofString "'+' specifier not at start of number: " ++ Raw.quoted bad)
        | _ => throw (Raw.ofString "tab size contains invalid character(s): " ++ Raw.quoted bad)
    match item with
    | '/' :: t =>
      if d.multiples.any (0 < ·) then
        throw (Raw.ofString "'/' specifier only allowed with the last value")
      let n ← if t.isEmpty then pure 0 else number t
      pure { d with multiples := some n }
    | '+' :: t =>
      if d.steps.any (0 < ·) then
        throw (Raw.ofString "'+' specifier only allowed with the last value")
      let n ← if t.isEmpty then pure 0 else number t
      pure { d with steps := some n }
    | t =>
      let n ← number t
      pure { d with columns := d.columns ++ [n] }) d

/-- The columns of a list that has been read. -/
def Draft.finish (d : Draft) : Except Text TabStops := do
  let _ ← d.columns.foldlM (fun before n => do
    if n = 0 then throw (Raw.ofString "tab size cannot be 0")
    if n ≤ before then throw (Raw.ofString "tab sizes must be ascending")
    pure n) 0
  let multiples := d.multiples.filter (0 < ·)
  let steps := d.steps.filter (0 < ·)
  if multiples.isSome && steps.isSome then
    throw (Raw.ofString "'/' specifier is mutually exclusive with '+'")
  match d.columns, multiples, steps with
  | [], none, none => pure (every 8)
  | [], some w, _ => pure (every w)
  | [], none, some w => pure (every w)
  | [w], none, none => pure (every w)
  | columns, multiples, steps => pure { columns, multiples, steps }

/-- The letter of the option for lists that stand right behind a hyphen. -/
def bareList : Char := '\x01'

def ofArguments (a : Arguments) : Except Text TabStops := do
  let d ← (a.options.filter fun (o, _) => o == 't' || o == bareList).foldlM (fun d (_, v) => Draft.add d v) ({} : Draft)
  d.finish

/-- Arguments of digits behind a hyphen, as lists of columns behind an option. -/
def withColumnOptions (option : Char) : List Text → List Text
  | [] => []
  | ['-', '-'] :: rest => ['-', '-'] :: rest
  | a :: rest =>
    (match a with
      | '-' :: c :: cs =>
        if c.isDigit ∧ cs.all (fun c => c.isDigit || c == ',') then '-' :: option :: c :: cs else a
      | a => a) :: withColumnOptions option rest

end TabStops

/-- A text with blanks in place of tabs; `all` says that not only those at the front of a line count,
and `active` that they still count in this line. -/
def expandTabs (s : TabStops) (all : Bool) : (active : Bool) → (column : Nat) → Text → Text
  | _, _, [] => []
  | active, column, c :: cs =>
    if c = '\n' then c :: expandTabs s all true 0 cs
    else if !active then c :: expandTabs s all false column cs
    else if c = '\t' then
      let stop := (s.next? column).getD (column + 1)
      List.replicate (stop - column) ' ' ++ expandTabs s all true stop cs
    else if c = '\x08' then c :: expandTabs s all (active && all) (column - 1) cs
    else c :: expandTabs s all (all || isGap c) (column + 1) cs

def expandSyntax : OptionSyntax where
  plain := "i"
  valued := "t"
  long := [("tabs", 't', true), ("initial", 'i', false)]

/-- Copies its files with blanks in place of tabs. -/
def expand : Utility := fun c =>
  withArguments expandSyntax 1 (fun c a =>
    match TabStops.ofArguments a with
    | .error message => c.fails message 1
    | .ok s =>
      let i := c.inputs a.operands
      i.effect (expandTabs s (!a.has 'i') true 0 i.joined) 0)
    { c with args := TabStops.withColumnOptions 't' c.args }

structure TabbedLine where
  active : Bool := true
  column : Nat := 0
  /-- The last character was a blank, or there is none. -/
  afterBlank : Bool := true
  /-- One blank stood right in front of a stop. -/
  lone : Bool := false
  /-- Blanks that may become a tab. -/
  pending : Text := []

/-- A text with tabs in place of blanks. -/
def collectTabs (s : TabStops) (all : Bool) : TabbedLine → Text → Text
  | l, [] => if 1 < l.pending.length ∧ l.lone then '\t' :: l.pending.tail else l.pending
  | l, c :: cs =>
    let written (l : TabbedLine) : Text :=
      if 1 < l.pending.length ∧ l.lone then '\t' :: l.pending.tail else l.pending
    let goOn (l : TabbedLine) (c : Char) (blank : Bool) : Text :=
      let l' := { l with pending := [], lone := false, afterBlank := blank, active := all || blank }
      written l ++ c :: collectTabs s all (if c = '\n' then {} else l') cs
    if !l.active then c :: collectTabs s all (if c = '\n' then {} else l) cs
    else if isGap c then
      match s.next? l.column with
      | none => written l ++ c :: collectTabs s all { l with active := false, pending := []
                                                             lone := false } cs
      | some stop =>
        if c = '\t' then
          goOn { l with column := stop, pending := if l.lone then ['\t'] else [] } c true
        else if l.afterBlank ∧ l.column + 1 = stop then
          goOn { l with column := stop, pending := if l.lone then ['\t'] else [] } '\t' true
        else
          collectTabs s all { l with column := l.column + 1, afterBlank := true
                                     lone := l.lone || l.column + 1 = stop
                                     pending := l.pending ++ [c] } cs
    else if c = '\x08' then goOn { l with column := l.column - 1 } c false
    else goOn { l with column := l.column + 1 } c false

/-- The options of the program that collects blanks. -/
def unexpandSyntax : OptionSyntax where
  plain := "a"
  valued := "t\x01"
  long := [("tabs", 't', true), ("all", 'a', false), ("first-only", 'f', false)]

/-- Copies its files with tabs in place of blanks. -/
def unexpand : Utility := fun c =>
  withArguments unexpandSyntax 1 (fun c a =>
    match TabStops.ofArguments a with
    | .error message => c.fails message 1
    | .ok s =>
      let all := (a.has 'a' || a.has 't') && !a.has 'f'
      let i := c.inputs a.operands
      i.effect (collectTabs s all {} i.joined) 0)
    { c with args := TabStops.withColumnOptions TabStops.bareList c.args }

end External

end SmartyLayout
