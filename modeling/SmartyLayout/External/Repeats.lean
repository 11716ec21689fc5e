import SmartyLayout.External.Sorting.Order
import SmartyLayout.External.Utility

/-!
# SmartyLayout.External.Repeats — equal lines in a row

A program that leaves one of several equal lines in a row, or shows, counts or sets apart those that
are repeated.
-/

namespace SmartyLayout

namespace External

namespace Repeats

/-- Where an empty record stands. -/
inductive Gap where
  | none
  | before
  | behind
  | between
  | around
deriving DecidableEq, Repr

structure Job where
  counts : Bool := false
  single : Bool := true
  firstOfMany : Bool := true
  laterOfMany : Bool := false
  /-- Empty records at groups of repeated lines. -/
  delimit : Gap := .none
  /-- Empty records at all groups; all lines are shown. -/
  group : Option Gap := Option.none
  skippedFields : Nat := 0
  skippedChars : Nat := 0
  comparedChars : Option Nat := Option.none
  foldCase : Bool := false

/-- A text without so many fields in front. -/
def dropFields : Nat → Text → Text
  | 0, t => t
  | _, [] => []
  | n + 1, c :: cs =>
    dropFields n (((c :: cs).dropWhile isFieldGap).dropWhile fun c => !isFieldGap c)

/-- The part of a line that is compared. -/
def Job.key (j : Job) (l : Text) : Text :=
  let l := (dropFields j.skippedFields l).drop j.skippedChars
  let l := match j.comparedChars with
    | some n => l.take n
    | Option.none => l
  if j.foldCase then l.map Char.toUpper else l

/-- Lines in groups of equal ones. -/
def groups (same : Text → Text → Bool) : List Text → List (List Text)
  | [] => []
  | l :: ls =>
    match groups same ls with
    | (m :: ms) :: gs => if same l m then (l :: m :: ms) :: gs else [l] :: (m :: ms) :: gs
    | gs => [l] :: gs

/-- The lines that are shown of a group, each with the number in front of it if it has one. -/
def Job.shown (j : Job) (g : List Text) : List Text :=
  let numbered (n : Nat) (l : Text) : Text :=
    if j.counts then Raw.padLeft ' ' 7 (Raw.ofNat n) ++ ' ' :: l else l
  if g.length ≤ 1 then (if j.single then g.map (numbered 1) else [])
  else if j.laterOfMany then
    (if j.firstOfMany then g else g.dropLast).map (numbered g.length)
  else if j.firstOfMany then (g.take 1).map (numbered g.length)
  else []

def Job.records (j : Job) (ls : List Text) : List Text :=
  let gs := groups (fun a b => j.key a == j.key b) ls
  match j.group with
  | some gap =>
    let body := match gap with
      | .before | .around => gs.flatMap ([] :: ·)
      | _ => List.intercalate [[]] gs
    if (gap = .behind ∨ gap = .around) ∧ !gs.isEmpty then body ++ [[]] else body
  | Option.none =>
    let (_, out) := gs.foldl (fun (s : Bool × List (List Text)) g =>
      let repeated := 1 < g.length
      let gap : List Text :=
        if repeated ∧ (j.delimit = .before ∨ (j.delimit = .between ∧ s.1)) then [[]] else []
      (s.1 || repeated, (gap ++ j.shown g) :: s.2)) (false, [])
    out.reverse.flatten

end Repeats

/-- The options of the program that looks at equal lines. -/
def repeatsSyntax : OptionSyntax where
  plain := "cdDiuz0123456789"
  valued := "fsw"
  optional := "AG"
  long := [("count", 'c', false), ("repeated", 'd', false), ("all-repeated", 'A', true),
    ("group", 'G', true), ("ignore-case", 'i', false), ("unique", 'u', false),
    ("skip-fields", 'f', true), ("skip-chars", 's', true), ("check-chars", 'w', true),
    ("zero-terminated", 'z', false)]

open Repeats in
/-- Reads where empty records stand; `known` are the words for it. -/
def gapOf (option : String) (known : List (String × Gap)) (usual : Gap) (v : Text) :
    Except (Text × Bool) Gap :=
  if v.isEmpty then .ok usual
  else
    match known.filter fun (w, _) => Text.startsWith v w.toList with
    | (_, g) :: _ => .ok g
    | [] => .error (Raw.ofString "invalid argument " ++ Raw.quoted v ++
        Raw.ofString (" for '" ++ option ++ "'\nValid arguments are:") ++
        known.flatMap fun (w, _) => Raw.ofString ("\n  - '" ++ w ++ "'"), true)

open Repeats in
/-- What options say about equal lines; a fault may come with a hint. -/
def Repeats.Job.ofArguments (a : Arguments) : Except (Text × Bool) Job := do
  let number (c : Char) (what : String) : Except (Text × Bool) (Option Nat) :=
    match a.value? c with
    | none => .ok none
    | some v =>
      match Raw.nat? v with
      | some n => .ok (some n)
      | none => .error (v ++ Raw.ofString (": invalid number of " ++ what), false)
  let fields ← number 'f' "fields to skip"
  let digits := ((a.options.reverse.takeWhile (·.1 != 'f')).reverse.map (·.1)).filter Char.isDigit
  let fields := if digits.isEmpty then fields else some (Raw.digits 10 digits)
  let chars ← number 's' "bytes to skip"
  let compared ← number 'w' "bytes to compare"
  let repeats := a.options.filter fun (o, _) => o == 'A' || o == 'D'
  let delimit ← match repeats.getLast?.map (·.2) with
    | none => pure Gap.none
    | some v => gapOf "--all-repeated" [("none", .none), ("prepend", .before),
        ("separate", .between)] .none v
  let group ← match a.value? 'G' with
    | none => pure none
    | some v => some <$> gapOf "--group" [("prepend", .before), ("append", .behind),
        ("separate", .between), ("both", .around)] .between v
  let all := a.has 'D' || a.has 'A'
  if group.isSome && (a.has 'c' || a.has 'd' || all || a.has 'u') then
    throw (Raw.ofString "--group is mutually exclusive with -c/-d/-D/-u", true)
  if a.has 'c' && all then
    throw (Raw.ofString "printing all duplicated lines and repeat counts is meaningless", true)
  pure
    { counts := a.has 'c', single := !(a.has 'd' || all), firstOfMany := !a.has 'u'
      laterOfMany := all, delimit, group, skippedFields := fields.getD 0
      skippedChars := chars.getD 0, comparedChars := compared, foldCase := a.has 'i' }

/-- Leaves one of several equal lines in a row, or shows only some of them. -/
def uniq : Utility :=
  withArguments repeatsSyntax 1 fun c a =>
    match Repeats.Job.ofArguments a with
    | .error (message, true) => c.misused message 1
    | .error (message, false) => c.fails message 1
    | .ok j =>
      let ending := if a.has 'z' then '\x00' else '\n'
      let i := c.inputs (a.operands.take 1)
      let out := Raw.unrecords ending (j.records (Raw.records ending i.joined))
      match a.operands with
      | _ :: _ :: extra :: _ => c.misused (Raw.ofString "extra operand " ++ Raw.quoted extra) 1
      | [_, target] =>
        if target = ['-'] ∨ i.failed then i.effect out 0
        else { i.effect [] 0 with files := [(target, out)] }
      | _ => i.effect out 0

end External

end SmartyLayout
