import SmartyLayout.External.Regex
import SmartyLayout.External.Utility

/-!
# SmartyLayout.External.Searching — looking for lines

The utility `grep`, which shows the lines that a pattern matches.
-/

namespace SmartyLayout

namespace External

namespace Searching

structure Query where
  patterns : List Regex
  wholeLine : Bool := false
  wholeWord : Bool := false

def fixed (n : Regex.Dialect) (t : Text) : Regex :=
  .sequence (t.map (Regex.char n))

/-- A match stands for itself between other words. -/
def isWordMatch (p q : Regex.Place) : Bool :=
  !p.before.head?.any Regex.isWord && !q.after.head?.any Regex.isWord

/-- The first match of a pattern that is wanted, from a place on. -/
def Query.hit? (q : Query) (r : Regex) : (fuel : Nat) → Regex.Place →
    Option (Regex.Place × Regex.Place)
  | 0, _ => none
  | fuel + 1, p => do
    let r := if q.wholeLine then .sequence [.lineStart, .group 0 r, .lineEnd] else r
    let (start, stop) ← r.search? (p.after.length + 1) p
    if q.wholeWord ∧ ¬ isWordMatch start stop then
      if start.after.isEmpty then none else q.hit? r fuel (start.advance 1)
    else some (start, stop)

/-- The earlier of two matches, and of two at one place the longer. -/
def earlier (a b : Option (Regex.Place × Regex.Place)) : Option (Regex.Place × Regex.Place) :=
  match a, b with
  | some (p, q), some (p', q') =>
    if p.after.length < p'.after.length
        ∨ (p.after.length = p'.after.length ∧ q'.after.length < q.after.length) then b else a
  | none, b => b
  | a, none => a

/-- The first match of any pattern, from a place on. -/
def Query.first? (q : Query) (p : Regex.Place) : Option (Regex.Place × Regex.Place) :=
  (q.patterns.map fun r => q.hit? r (p.after.length + 1) p).foldl earlier none

def Query.allHits (q : Query) : (fuel : Nat) → Regex.Place → List Text
  | 0, _ => []
  | fuel + 1, p =>
    match q.first? p with
    | none => []
    | some (start, stop) =>
      let hit := stop.since start
      if hit.isEmpty then
        if start.after.isEmpty then [] else q.allHits fuel { start.advance 1 with groups := [] }
      else hit :: q.allHits fuel { stop with groups := [] }

def Query.selects (q : Query) (inverted : Bool) (l : Text) : Bool :=
  (q.first? ⟨[], l, []⟩).isSome != inverted

end Searching

open Searching in
/-- Shows the lines that a pattern matches. -/
def grep : Utility := fun c =>
  let syntaxes : OptionSyntax :=
    { plain := "EFGPivwxcnoqshHlLyaIUz", valued := "emABCfdD"
      long := [("extended-regexp", 'E', false), ("fixed-strings", 'F', false),
        ("basic-regexp", 'G', false), ("ignore-case", 'i', false), ("invert-match", 'v', false),
        ("word-regexp", 'w', false), ("line-regexp", 'x', false), ("count", 'c', false),
        ("line-number", 'n', false), ("only-matching", 'o', false), ("quiet", 'q', false),
        ("silent", 'q', false), ("no-messages", 's', false), ("no-filename", 'h', false),
        ("with-filename", 'H', false), ("files-with-matches", 'l', false),
        ("regexp", 'e', true), ("max-count", 'm', true), ("after-context", 'A', true),
        ("before-context", 'B', true), ("context", 'C', true)] }
  let usage := Raw.ofString
    "Usage: grep [OPTION]... PATTERNS [FILE]...\nTry 'grep --help' for more information.\n"
  match readArguments syntaxes c.args with
  | .error message => { stderr := c.line message ++ usage, status := 2, left := c.input }
  | .ok a =>
    let given := (a.options.filter (·.1 == 'e')).map (·.2)
    match if given.isEmpty then a.operands.head? else some (List.intercalate ['\n'] given) with
    | none => { stderr := usage, status := 2, left := c.input }
    | some source =>
      let names := if given.isEmpty then a.operands.tail else a.operands
      let dialect : Regex.Dialect :=
        { extended := a.has 'E' || a.has 'P', foldCase := a.has 'i' || a.has 'y' }
      let read (t : Text) : Option Regex :=
        if a.has 'F' then some (fixed dialect t) else Regex.parse? dialect t
      match (source.splitOn '\n').mapM read with
      | none => c.fails (Raw.ofString (Regex.faultMessage dialect source)) 2
      | some patterns =>
        let q : Query := { patterns, wholeLine := a.has 'x', wholeWord := a.has 'w' }
        let i := c.inputsOr (fun name why => name ++ Raw.ofString (": " ++ why)) names
        let label := (1 < i.named || a.has 'H') && !a.has 'h'
        let most := (a.value? 'm').bind Raw.nat?
        let title (name : Text) : Text :=
          if name = ['-'] then Raw.ofString "(standard input)" else name
        let around (letter : Char) : Nat :=
          ((a.value? letter <|> a.value? 'C').bind Raw.nat?).getD 0
        let file (name t : Text) : Text × Nat :=
          let ls := (Raw.lines t).zipIdx 1
          let hits := ls.filter fun (l, _) => q.selects (a.has 'v') l
          let hits := match most with
            | some m => hits.take m
            | none => hits
          let front (mark : Char) (n : Nat) : Text :=
            (if label then title name ++ [mark] else []) ++
            (if a.has 'n' then Raw.ofNat n ++ [mark] else [])
          let numbers := hits.map (·.2)
          let isNear (n : Nat) : Bool :=
            numbers.any fun h => h ≤ n + around 'B' && n ≤ h + around 'A'
          let shown :=
            if a.has 'c' then (if label then title name ++ [':'] else []) ++
              Raw.ofNat hits.length ++ ['\n']
            else if a.has 'l' then (if hits.isEmpty then [] else title name ++ ['\n'])
            else if a.has 'L' then (if hits.isEmpty then title name ++ ['\n'] else [])
            else if a.has 'o' then
              if a.has 'v' then []
              else hits.flatMap fun (l, n) =>
                Raw.unlines ((q.allHits (l.length + 1) ⟨[], l, []⟩).map (front ':' n ++ ·))
            else
              let context := 0 < around 'A' || 0 < around 'B'
              (ls.filter fun (_, n) => isNear n).flatMap fun (l, n) =>
                let gap := context && 1 < n && !isNear (n - 1) && numbers.any (· < n)
                (if gap then Raw.ofString "--\n" else []) ++
                  front (if numbers.contains n then ':' else '-') n ++ l ++ ['\n']
          (shown, hits.length)
        let results := i.contents.map fun (name, t) => file name t
        let found := results.any fun (_, n) => 0 < n
        let status := if found then (if i.failed && !a.has 'q' then 2 else 0)
          else if i.failed then 2 else 1
        { stdout := if a.has 'q' then [] else results.flatMap (·.1)
          stderr := if a.has 's' then [] else i.stderr
          status, left := i.left }

end External

end SmartyLayout
