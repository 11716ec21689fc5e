import SmartyLayout.External.Printing
import SmartyLayout.External.Utility

/-!
# SmartyLayout.External.Exchange — exchanging characters

The utility `tr`, which exchanges, deletes and squeezes characters.
-/

namespace SmartyLayout

namespace External

namespace Exchange

inductive Member where
  | range (low high : Char)
  | named (name : Text)
  /-- A character several times; none fills the set up to the length of the other. -/
  | filled (c : Char) (count : Option Nat)

/-- A character at the front of a text, with its escape read, and what follows. -/
def unit? : Text → Option (Char × Text)
  | [] => none
  | '\\' :: t =>
    match formatEscape? .shell t with
    | some (c, used) => some (c, t.drop used)
    | none =>
      match t with
      | c :: cs => some (c, cs)
      | [] => some ('\\', [])
  | c :: cs => some (c, cs)

/-- A class or a filled member at the front of a text. -/
def bracketed? : Text → Option (Member × Text)
  | '[' :: ':' :: t =>
    let name := t.takeWhile (· != ':')
    match t.drop name.length with
    | ':' :: ']' :: rest => if (charClass? name).isSome then some (.named name, rest) else none
    | _ => none
  | '[' :: '=' :: c :: '=' :: ']' :: rest => some (.range c c, rest)
  | '[' :: t => do
    let (c, rest) ← unit? t
    match rest with
    | '*' :: rest =>
      let count := rest.takeWhile Char.isDigit
      match rest.drop count.length with
      | ']' :: rest =>
        let n := Raw.digits (if count.head? = some '0' then 8 else 10) count
        some (.filled c (if n = 0 then none else some n), rest)
      | _ => none
    | _ => none
  | _ => none

def members : (fuel : Nat) → Text → List Member
  | 0, _ => []
  | fuel + 1, t =>
    match bracketed? t with
    | some (m, rest) => m :: members fuel rest
    | none =>
      match unit? t with
      | none => []
      | some (a, '-' :: rest) =>
        match unit? rest with
        | some (b, rest) => .range a b :: members fuel rest
        | none => [.range a a, .range '-' '-']
      | some (a, rest) => .range a a :: members fuel rest

/-- A range whose end stands in front of its start. -/
def reversedRange? (t : Text) : Option Text :=
  (members (t.length + 1) t).findSome? fun m =>
    match m with
    | .range a b => if b < a then some [a, '-', b] else none
    | _ => none

def allChars : Text :=
  (List.range 256).map Char.ofNat

/-- The characters of a member; `room` is how many a filled one may take. -/
def Member.chars (room : Nat) : Member → Text
  | .range a b => (List.range (b.toNat + 1 - a.toNat)).map fun n => Char.ofNat (a.toNat + n)
  | .named name => allChars.filter ((charClass? name).getD fun _ => false)
  | .filled c (some n) => List.replicate n c
  | .filled c none => List.replicate room c

/-- The characters of a set; `length` is that of the other set. -/
def chars (t : Text) (length : Nat) : Text :=
  let ms := members (t.length + 1) t
  let fixed := (ms.flatMap (Member.chars 0)).length
  ms.flatMap (Member.chars (length - fixed))

/-- Leaves one of several equal characters of a set in a row. -/
def squeeze (set : Text) : (last : Option Char) → Text → Text
  | _, [] => []
  | last, c :: cs =>
    if last = some c ∧ set.any (· == c) then squeeze set last cs
    else c :: squeeze set (some c) cs

/-- The character that stands in place of another. A short second set is filled up with its last
character. -/
def exchanged (source target : Text) (c : Char) : Char :=
  match (source.zip (target ++ List.replicate (source.length - target.length)
      (target.getLast?.getD c))).reverse.find? (·.1 == c) with
  | some (_, x) => x
  | none => c

end Exchange

open Exchange in
/-- Exchanges, deletes or squeezes characters of its input. -/
def tr : Utility :=
  withArguments { plain := "cCdst", permuted := false
                  long := [("complement", 'c', false), ("delete", 'd', false),
                    ("squeeze-repeats", 's', false), ("truncate-set1", 't', false)] } 1 fun c a =>
    let delete := a.has 'd'
    let squeezes := a.has 's'
    let two := "Two strings must be given when "
    let hint := Raw.ofString "Try 'tr --help' for more information.\n"
    let quoted (t : Text) : Text := '\x27' :: t ++ ['\x27']
    let source (t : Text) (n : Nat) : Text :=
      let set := chars t n
      if a.has 'c' || a.has 'C' then allChars.filter fun x => !set.any (· == x) else set
    match if a.operands.length ≤ 2 then a.operands.findSome? reversedRange? else none with
    | some r =>
      c.fails (Raw.ofString "range-endpoints of " ++ quoted r ++
        Raw.ofString " are in reverse collating sequence order") 1
    | none =>
    match a.operands with
    | [] => c.misused (Raw.ofString "missing operand") 1
    | [s] =>
      let set := source s 0
      if delete && !squeezes then { stdout := c.input.filter fun x => !set.any (· == x) }
      else if squeezes && !delete then { stdout := squeeze set none c.input }
      else
        { stderr := c.line (Raw.ofString "missing operand after " ++ quoted s) ++
            Raw.ofString (two ++ (if delete then "both deleting and squeezing repeats.\n"
              else "translating.\n")) ++ hint
          status := 1, left := c.input }
    | [s, t] =>
      if delete && squeezes then
        let kept := c.input.filter fun x => !(source s 0).any (· == x)
        { stdout := squeeze (chars t 0) none kept }
      else if delete then
        { stderr := c.line (Raw.ofString "extra operand " ++ quoted t) ++
            Raw.ofString ("Only one string may be given when deleting " ++
              "without squeezing repeats.\n") ++ hint
          status := 1, left := c.input }
      else
        let first := source s 0
        let target := chars t first.length
        let first := if a.has 't' then first.take target.length else first
        let out := c.input.map (exchanged first target)
        { stdout := if squeezes then squeeze target none out else out }
    | _ :: t :: u :: _ =>
      c.misused (Raw.ofString "extra operand " ++ quoted (if delete && !squeezes then t else u)) 1

end External

end SmartyLayout
