import SmartyLayout.Text.Search
import SmartyLayout.Text.Utf8

/-!
# SmartyLayout.File.Path — path texts and their components

A path is kept as it was written, because messages show it that way; what it means is read off its
components. Repeated slashes and inner single dots do not count as components.
-/

namespace SmartyLayout

namespace Path

inductive Component where
  /-- The slash in front of an absolute path. -/
  | root
  /-- A single dot in front of a relative path. -/
  | current
  | parent
  | name (t : Text)
deriving DecidableEq, Repr

/-- The segments between slashes, each with the number of characters of the path through it. -/
def segmentsFrom : (through : Nat) → (current : Text) → Text → List (Text × Nat)
  | n, current, [] => [(current.reverse, n)]
  | n, current, c :: cs =>
    if c = '/' then (current.reverse, n) :: segmentsFrom (n + 1) [] cs
    else segmentsFrom (n + 1) (c :: current) cs

/-- The component a segment stands for; `first` says that a single dot counts. -/
def component? (first : Bool) (segment : Text) : Option Component :=
  if segment = [] then none
  else if segment = ['.'] then (if first then some .current else none)
  else if segment = ['.', '.'] then some .parent
  else some (.name segment)

/-- The components of a path, each with the number of characters through it. -/
def located (p : Text) : List (Component × Nat) :=
  match p with
  | [] => []
  | '/' :: _ =>
    (.root, 1) :: (segmentsFrom 0 [] p).filterMap fun (s, n) => (component? false s).map (·, n)
  | _ =>
    match segmentsFrom 0 [] p with
    | [] => []
    | (s, n) :: later =>
      -- a single dot counts in front alone
      ((component? true s).map (·, n)).toList ++
        later.filterMap fun (s, n) => (component? false s).map (·, n)

def components (p : Text) : List Component :=
  (located p).map (·.1)

def isAbsolute (p : Text) : Bool :=
  p.head? == some '/'

/-- The path without its last component; the root and the empty path have no parent. -/
def parent? (p : Text) : Option Text :=
  match (located p).reverse with
  | [] => none
  | (.root, _) :: _ => none
  | _ :: [] => some []
  | _ :: (_, n) :: _ => some (p.take n)

/-- A path followed by another; an absolute one stands for itself. -/
def join (p q : Text) : Text :=
  if isAbsolute q then q
  else if p.isEmpty then q
  else if p.getLast? = some '/' then p ++ q
  else p ++ '/' :: q

/-- The number of characters a component is written with. -/
def Component.width : Component → Nat
  | .root | .current => 1
  | .parent => 2
  | .name t => t.length

/-- What is left of `p` behind the components of `base`, as it is written there. -/
def relativeTo? (base p : Text) : Option Text :=
  let bs := components base
  let ps := located p
  if bs.isPrefixOf (ps.map (·.1)) then
    let rest := ps.drop bs.length
    match rest.head?, rest.getLast? with
    | some (c, first), some (_, last) => some ((p.take last).drop (first - c.width))
    | _, _ => some []
  else none

def withoutDot (p : Text) : Text :=
  (relativeTo? ['.'] p).getD p

/-- The key by which components are ordered: the root first, then dots, then names by bytes. -/
def Component.key : Component → List Nat
  | .root => [0]
  | .current => [1]
  | .parent => [2]
  | .name t => 3 :: (Utf8.encode t).map UInt8.toNat

/-- The key by which paths are ordered: component by component. -/
def key (p : Text) : List (List Nat) :=
  (components p).map Component.key

/-- Adds a path in its place, unless one with the same components is there. -/
def insertSorted (p : Text) : List Text → List Text
  | [] => [p]
  | q :: qs =>
    match compare (key p) (key q) with
    | .lt => p :: q :: qs
    | .eq => q :: qs
    | .gt => q :: insertSorted p qs

/-- Paths in order; of several with the same components the first is kept. -/
def sort (ps : List Text) : List Text :=
  ps.foldl (fun acc p => insertSorted p acc) []

end Path

end SmartyLayout
