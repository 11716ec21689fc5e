import SmartyLayout.External.Raw

/-!
# SmartyLayout.External.Difference.Script — a shortest way from one list of lines to another

Two lists of lines are compared in four steps. What both have at their ends is set aside. Lines that
the other list does not have are changed for sure, and some lines that it has too often are taken as
changed along with them. A shortest script for the rest is found by walking from both corners of the
grid of all pairs of lines until the ways meet. At last each run of changed lines is moved as far
down as it goes, or to where it meets a run of the other list.
-/

namespace SmartyLayout

namespace External

namespace Difference

/-- Which lines of both lists are changed. -/
structure Marks where
  first : Array Bool
  second : Array Bool

/-- A change: where it begins in both lists, and how many lines are deleted and inserted. -/
structure Change where
  line0 : Nat
  line1 : Nat
  deleted : Nat
  inserted : Nat
deriving DecidableEq, Repr

/-! ## Lines that are changed for sure -/

/-- What is known of a line before the search. -/
inductive Fate where
  | kept
  | discarded
  /-- Discarded if it stands between lines that are. -/
  | provisional
deriving DecidableEq, Repr, Inhabited

/-- The smallest power of two whose square is not under a number, about. -/
def rootPower : (fuel value size : Nat) → Nat
  | 0, value, _ => value
  | fuel + 1, value, size => if size / 4 = 0 then value else rootPower fuel (2 * value) (size / 4)

/-- The fate of each line by how often the other list has it. -/
def fates (xs ys : Array Text) : Array Fate :=
  let many := rootPower 64 5 (xs.size / 64)
  xs.map fun x =>
    let n := (ys.filter (· == x)).size
    if n = 0 then .discarded else if many < n then .provisional else .kept

/-- Cancels provisional fates from an end of a run, up to three discarded lines in a row or to the
first discarded one behind eight lines. The run is given by its places in order. -/
def cancelFrom : List Nat → (seen row : Nat) → Array Fate → Array Fate
  | [], _, _, fs => fs
  | k :: ks, seen, row, fs =>
    match fs[k]? with
    | some .discarded =>
      if 8 ≤ seen ∨ row = 2 then fs else cancelFrom ks (seen + 1) (row + 1) fs
    | _ => cancelFrom ks (seen + 1) 0 (fs.setIfInBounds k .kept)

/-- Cancels every part of a run that has `least` or more provisional lines in a row. -/
def cancelRows (least : Nat) (fs : Array Fate) (ks : List Nat) : Array Fate :=
  let flush (row : List Nat) (fs : Array Fate) : Array Fate :=
    if least ≤ row.length then row.foldl (fun fs k => fs.setIfInBounds k .kept) fs else fs
  let (row, fs) := ks.foldl (fun (row, fs) k =>
    if fs[k]? = some Fate.provisional then (k :: row, fs) else ([], flush row fs)) ([], fs)
  flush row fs

/-- Decides on the provisional lines of a run that begins and ends with discarded ones. -/
def settleRun (fs : Array Fate) (start stop : Nat) : Array Fate :=
  let ks := (List.range (stop - start)).map (· + start)
  let doubtful := (ks.filter fun k => fs[k]? = some Fate.provisional)
  if ks.length < 4 * doubtful.length then
    doubtful.foldl (fun fs k => fs.setIfInBounds k .kept) fs
  else
    let least := rootPower 64 1 (ks.length / 4) + 1
    let fs := cancelRows least fs ks
    cancelFrom ks.reverse 0 0 (cancelFrom ks 0 0 fs)

/-- Decides on all provisional lines. -/
def settle (fs : Array Fate) : Array Fate := Id.run do
  let mut fs := fs
  let mut i := 0
  for _ in [0:fs.size] do
    if fs.size ≤ i then break
    match fs[i]? with
    | some .provisional =>
      fs := fs.setIfInBounds i .kept
      i := i + 1
    | some .discarded =>
      let run := ((fs.toList.drop i).takeWhile (· != .kept))
      let inner := (run.reverse.dropWhile (· == .provisional)).length
      for k in [inner:run.length] do
        fs := fs.setIfInBounds (i + k) .kept
      fs := settleRun fs i (i + inner)
      i := i + inner
    | _ => i := i + 1
  return fs

/-! ## A shortest script -/

/-- A part of the grid of all pairs of lines. -/
structure Box where
  x0 : Nat
  x1 : Nat
  y0 : Nat
  y1 : Nat

/-- How far the walks have come on each diagonal. The diagonals are numbered so that none is
negative. -/
structure Reach where
  far : Array Int
  lowest : Int
  highest : Int

namespace Reach

def at? (r : Reach) (offset : Int) (d : Int) : Int :=
  r.far[(d + offset).toNat]?.getD 0

/-- A new place on a diagonal. -/
def put (r : Reach) (offset : Int) (d x : Int) : Reach :=
  { r with far := r.far.setIfInBounds (d + offset).toNat x }

/-- One diagonal more at each side, unless the grid ends there; `outside` stands on the diagonals
that are not reached. -/
def widen (r : Reach) (offset low high outside : Int) : Reach :=
  let r := if low < r.lowest then
      ({ r with lowest := r.lowest - 1 }).put offset (r.lowest - 2) outside
    else { r with lowest := r.lowest + 1 }
  if r.highest < high then ({ r with highest := r.highest + 1 }).put offset (r.highest + 2) outside
  else { r with highest := r.highest - 1 }

/-- The diagonals that are walked on in a round, the highest first. -/
def diagonals (r : Reach) : List Int :=
  (List.range ((r.highest - r.lowest + 2).toNat / 2)).map fun (k : Nat) => r.highest - 2 * (k : Int)

end Reach

/-- The same line stands at both places. -/
def sameAt (xs ys : Array Text) (x y : Int) : Bool :=
  xs[x.toNat]? == ys[y.toNat]?

/-- How far two lists agree forward. -/
def forward (xs ys : Array Text) (b : Box) : (fuel : Nat) → (x y : Int) → Int
  | 0, x, _ => x
  | fuel + 1, x, y =>
    if x < b.x1 ∧ y < b.y1 ∧ sameAt xs ys x y then forward xs ys b fuel (x + 1) (y + 1) else x

/-- How far two lists agree backward. -/
def backward (xs ys : Array Text) (b : Box) : (fuel : Nat) → (x y : Int) → Int
  | 0, x, _ => x
  | fuel + 1, x, y =>
    if b.x0 < x ∧ b.y0 < y ∧ sameAt xs ys (x - 1) (y - 1) then
      backward xs ys b fuel (x - 1) (y - 1)
    else x

/-- A point in the middle of a shortest way through a part of the grid. -/
def middle (xs ys : Array Text) (b : Box) : Nat × Nat := Id.run do
  let low : Int := (b.x0 : Int) - b.y1
  let high : Int := (b.x1 : Int) - b.y0
  let offset : Int := 2 - low
  let size := (high - low + 5).toNat
  let top : Int := (b.x0 : Int) - b.y0
  let bottom : Int := (b.x1 : Int) - b.y1
  let far : Int := xs.size + ys.size + 2
  let odd := (top - bottom) % 2 != 0
  let mut f : Reach := (Reach.mk (Array.replicate size 0) top top).put offset top b.x0
  let mut g : Reach := (Reach.mk (Array.replicate size 0) bottom bottom).put offset bottom b.x1
  for _ in [0:size] do
    f := f.widen offset low high (-1)
    for d in f.diagonals do
      let lower := f.at? offset (d - 1)
      let upper := f.at? offset (d + 1)
      let start := if lower < upper then upper else lower + 1
      let x := forward xs ys b size start (start - d)
      f := f.put offset d x
      if odd ∧ g.lowest ≤ d ∧ d ≤ g.highest ∧ g.at? offset d ≤ x then
        return (x.toNat, (x - d).toNat)
    g := g.widen offset low high far
    for d in g.diagonals do
      let lower := g.at? offset (d - 1)
      let upper := g.at? offset (d + 1)
      let start := if lower < upper then lower else upper - 1
      let x := backward xs ys b size start (start - d)
      g := g.put offset d x
      if !odd ∧ f.lowest ≤ d ∧ d ≤ f.highest ∧ x ≤ f.at? offset d then
        return (x.toNat, (x - d).toNat)
  return (b.x1, b.y1)

def markRange (start stop : Nat) (marks : Array Bool) : Array Bool :=
  (List.range (stop - start)).foldl (fun ms k => ms.setIfInBounds (start + k) true) marks

/-- Marks the changes of a part of the grid. -/
def compareBox (xs ys : Array Text) : (fuel : Nat) → Box → Marks → Marks
  | 0, b, m => ⟨markRange b.x0 b.x1 m.first, markRange b.y0 b.y1 m.second⟩
  | fuel + 1, b, m =>
    let size := xs.size + ys.size
    let front := (forward xs ys b size b.x0 b.y0).toNat - b.x0
    let b := { b with x0 := b.x0 + front, y0 := b.y0 + front }
    let back := b.x1 - (backward xs ys b size b.x1 b.y1).toNat
    let b := { b with x1 := b.x1 - back, y1 := b.y1 - back }
    if b.x0 = b.x1 then { m with second := markRange b.y0 b.y1 m.second }
    else if b.y0 = b.y1 then { m with first := markRange b.x0 b.x1 m.first }
    else
      let (x, y) := middle xs ys b
      let m := compareBox xs ys fuel { b with x1 := x, y1 := y } m
      compareBox xs ys fuel { b with x0 := x, y0 := y } m

/-! ## Runs of changes -/

/-- Moves the runs of changed lines of a list. The other list's marks tell where runs correspond.
Both arrays of marks have an unmarked place at each end. -/
def moveRuns (lines : Array Text) (changed other : Array Bool) : Array Bool := Id.run do
  let stop := lines.size
  let fuel := 2 * (changed.size + other.size)
  let mark (ms : Array Bool) (k : Nat) : Bool := ms[k + 1]?.getD false
  let line (k : Nat) : Option Text := lines[k]?
  let mut ms := changed
  let mut i := 0
  let mut j := 0
  for _ in [0:fuel] do
    for _ in [0:fuel] do
      if stop ≤ i ∨ mark ms i then break
      for _ in [0:fuel] do
        if !mark other j then break
        j := j + 1
      j := j + 1
      i := i + 1
    if stop ≤ i then break
    let mut start := i
    for _ in [0:fuel] do
      i := i + 1
      if !mark ms i then break
    for _ in [0:fuel] do
      if !mark other j then break
      j := j + 1
    let mut meets := stop
    for _ in [0:fuel] do
      let length := i - start
      for _ in [0:fuel] do
        if start = 0 ∨ line (start - 1) != line (i - 1) then break
        start := start - 1
        i := i - 1
        ms := (ms.setIfInBounds (start + 1) true).setIfInBounds (i + 1) false
        for _ in [0:fuel] do
          if start = 0 ∨ !mark ms (start - 1) then break
          start := start - 1
        for _ in [0:fuel] do
          j := j - 1
          if !mark other j then break
      meets := if j ≠ 0 ∧ mark other (j - 1) then i else stop
      for _ in [0:fuel] do
        if i = stop ∨ line start != line i then break
        ms := (ms.setIfInBounds (start + 1) false).setIfInBounds (i + 1) true
        start := start + 1
        i := i + 1
        for _ in [0:fuel] do
          if !mark ms i then break
          i := i + 1
        for _ in [0:fuel] do
          j := j + 1
          if !mark other j then break
          meets := i
      if length = i - start then break
    for _ in [0:fuel] do
      if i ≤ meets then break
      start := start - 1
      i := i - 1
      ms := (ms.setIfInBounds (start + 1) true).setIfInBounds (i + 1) false
      for _ in [0:fuel] do
        j := j - 1
        if !mark other j then break
  return ms

/-- The changes of two lists by their marks; `x` and `y` are the places reached. -/
def changesOf (m : Marks) : (fuel : Nat) → (x y : Nat) → List Change
  | 0, _, _ => []
  | fuel + 1, x, y =>
    let run (ms : Array Bool) (k : Nat) : Nat := (ms.toList.drop k).takeWhile id |>.length
    let deleted := run m.first x
    let inserted := run m.second y
    if deleted = 0 ∧ inserted = 0 then
      if m.first.size ≤ x ∧ m.second.size ≤ y then [] else changesOf m fuel (x + 1) (y + 1)
    else ⟨x, y, deleted, inserted⟩ :: changesOf m fuel (x + deleted) (y + inserted)

/-- How many lines two lists have in common at their fronts. -/
def commonFront : List Text → List Text → Nat
  | x :: xs, y :: ys => if x = y then commonFront xs ys + 1 else 0
  | _, _ => 0

/-- The changes from one list of lines to another; `horizon` lines of what both have at their ends
take part in the comparison. -/
def changes (horizon : Nat) (xs ys : List Text) : List Change :=
  let front := commonFront xs ys
  let skipped := front - min horizon front
  let xs := xs.drop skipped
  let ys := ys.drop skipped
  let kept := front - skipped
  let back := commonFront (xs.drop kept).reverse (ys.drop kept).reverse
  let dropped := back - min horizon back
  let xs := (xs.take (xs.length - dropped)).toArray
  let ys := (ys.take (ys.length - dropped)).toArray
  let places (fs : Array Fate) : Array Nat :=
    ((List.range fs.size).filter fun k => fs[k]? = some Fate.kept).toArray
  let fx := settle (fates xs ys)
  let fy := settle (fates ys xs)
  let px := places fx
  let py := places fy
  let pick (ls : Array Text) (ps : Array Nat) : Array Text := ps.filterMap fun k => ls[k]?
  let m := compareBox (pick xs px) (pick ys py) (px.size + py.size + 1)
    ⟨0, px.size, 0, py.size⟩ ⟨Array.replicate px.size false, Array.replicate py.size false⟩
  let spread (fs : Array Fate) (ps : Array Nat) (ms : Array Bool) : Array Bool :=
    let sure := fs.map (· != .kept)
    let all := (ps.toList.zip ms.toList).foldl (fun all (k, b) => all.setIfInBounds k b) sure
    (#[false] ++ all).push false
  let first := spread fx px m.first
  let second := spread fy py m.second
  let first := moveRuns xs first second
  let second := moveRuns ys second first
  let inner (ms : Array Bool) : Array Bool := (ms.toList.drop 1).dropLast.toArray
  (changesOf ⟨inner first, inner second⟩ (xs.size + ys.size + 2) 0 0).map fun c =>
    { c with line0 := c.line0 + skipped, line1 := c.line1 + skipped }

end Difference

end External

end SmartyLayout
