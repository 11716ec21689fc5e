import SmartyLayout.External.Raw

/-!
# SmartyLayout.External.Shell.Pattern — patterns of the shell

Patterns choose cases and cut values. A quoted character of a pattern stands for itself.
-/

namespace SmartyLayout

namespace External

namespace Shell

/-- A character and whether it is quoted. -/
abbrev Quotable := Char × Bool

inductive PatternItem where
  | char (c : Char)
  | any
  /-- Any text. -/
  | many
  | oneOf (accepts : Char → Bool)

namespace Pattern

/-- The members of a bracket and what stands behind it; `first` says that a closing bracket stands
for itself. -/
def members? : (fuel : Nat) → (first : Bool) → List Quotable →
    Option (List (Char → Bool) × List Quotable)
  | 0, _, _ => none
  | fuel + 1, first, t =>
    let go (accepts : Char → Bool) (rest : List Quotable) :=
      (members? fuel false rest).map fun (ms, rest) => (accepts :: ms, rest)
    match t with
    | [] => none
    | (']', false) :: cs => if first then go (· == ']') cs else some ([], cs)
    | ('[', false) :: (':', false) :: cs =>
      let name := (cs.map (·.1)).takeWhile (· != ':')
      match charClass? name, cs.drop name.length with
      | some accepts, (':', _) :: (']', _) :: rest => go accepts rest
      | _, _ => go (· == '[') ((':', false) :: cs)
    | (a, _) :: ('-', false) :: (b, q) :: cs =>
      if b = ']' ∧ !q then go (· == a) (('-', false) :: (b, q) :: cs)
      else go (fun c => a ≤ c && c ≤ b) cs
    | (a, _) :: cs => go (· == a) cs

def items : (fuel : Nat) → List Quotable → List PatternItem
  | 0, _ => []
  | fuel + 1, t =>
    match t with
    | [] => []
    | ('*', false) :: cs => .many :: items fuel cs
    | ('?', false) :: cs => .any :: items fuel cs
    | ('\\', false) :: (c, _) :: cs => .char c :: items fuel cs
    | ('[', false) :: cs =>
      let negated := cs.head? = some ('!', false)
      match members? (cs.length + 1) true (if negated then cs.tail else cs) with
      | some (ms, rest) =>
        .oneOf (fun c => (ms.any fun accepts => accepts c) != negated) :: items fuel rest
      | none => .char '[' :: items fuel cs
    | (c, _) :: cs => .char c :: items fuel cs

def fits : List PatternItem → Text → Bool
  | [], t => t.isEmpty
  | .many :: ps, [] => fits ps []
  | .many :: ps, c :: cs => fits ps (c :: cs) || fits (.many :: ps) cs
  | .char a :: ps, c :: cs => a == c && fits ps cs
  | .any :: ps, _ :: cs => fits ps cs
  | .oneOf accepts :: ps, c :: cs => accepts c && fits ps cs
  | _ :: _, [] => false
termination_by ps t => ps.length + t.length

def accepts (pattern : List Quotable) (t : Text) : Bool :=
  fits (items (pattern.length + 1) pattern) t

/-- Cuts off the front of a text that fits a pattern. -/
def trimFront (longest : Bool) (pattern : List Quotable) (t : Text) : Text :=
  let ps := items (pattern.length + 1) pattern
  let sizes := List.range (t.length + 1)
  match (if longest then sizes.reverse else sizes).find? fun n => fits ps (t.take n) with
  | some n => t.drop n
  | none => t

/-- Cuts off the end of a text that fits a pattern. -/
def trimBack (longest : Bool) (pattern : List Quotable) (t : Text) : Text :=
  let ps := items (pattern.length + 1) pattern
  let sizes := List.range (t.length + 1)
  match (if longest then sizes else sizes.reverse).find? fun n => fits ps (t.drop n) with
  | some n => t.take n
  | none => t

end Pattern

end Shell

end External

end SmartyLayout
