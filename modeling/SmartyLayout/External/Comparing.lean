import SmartyLayout.External.Dump

/-!
# SmartyLayout.External.Comparing — utilities that read two files side by side

Programs that look for the first difference of two files, and programs that walk through two sorted
files together: lines that both have, or lines with the same key.
-/

namespace SmartyLayout

namespace External

/-! ## Two files -/

/-- The content of a file that is compared; a hyphen stands for the standard input. -/
def Call.side (c : Call) (name : Text) : Except String Text :=
  if name = ['-'] then .ok c.input
  else if c.isDirectory name then .error "Is a directory"
  else match c.read name with
    | some t => .ok t
    | none => .error "No such file or directory"

/-- Runs a program on two files, or fails at the first one that cannot be read. -/
def Call.withSides (c : Call) (a b : Text) (status : Nat) (run : Text → Text → Effect) : Effect :=
  match c.side a, c.side b with
  | .error why, _ => c.fails (unreadable a why) status
  | _, .error why => c.fails (unreadable b why) status
  | .ok s, .ok t =>
    let e := run s t
    { e with left := if a = ['-'] ∨ b = ['-'] then [] else c.input }

/-- Runs a program that needs just two operands. -/
def withTwoOperands (s : OptionSyntax) (run : Call → Arguments → Text → Text → Effect) : Utility :=
  withArguments s 1 fun c a =>
    match a.operands with
    | [] => c.misused (Raw.ofString "missing operand") 1
    | [x] => c.misused (Raw.ofString "missing operand after " ++ Raw.quoted x) 1
    | [x, y] => run c a x y
    | _ :: _ :: z :: _ => c.misused (Raw.ofString "extra operand " ++ Raw.quoted z) 1

/-! ## The first difference -/

/-- A wrong use of a program that names itself in its hint too. -/
def Call.misusedByName (c : Call) (message : Text) (status : Nat) : Effect :=
  { stderr := c.line message ++ c.line (Raw.ofString "Try '" ++ c.name ++
      Raw.ofString " --help' for more information.")
    status, left := c.input }

/-- The bytes where two texts differ, with their places from 1 on. -/
def differences : (place : Nat) → Text → Text → List (Nat × Char × Char)
  | place, x :: xs, y :: ys =>
    if x = y then differences (place + 1) xs ys else (place, x, y) :: differences (place + 1) xs ys
  | _, _, _ => []

/-- A byte in octal digits, and perhaps in visible form. -/
def shownByte (visibly : Bool) (width : Nat) (c : Char) : Text :=
  let number := Raw.padLeft ' ' 3 (Nat.toDigits 8 c.toNat)
  let plain (n : Nat) : Text :=
    if n < 32 then ['^', Char.ofNat (n + 64)] else if n = 127 then ['^', '?'] else [Char.ofNat n]
  let seen := if 128 ≤ c.toNat then ['M', '-'] ++ plain (c.toNat - 128) else plain c.toNat
  if visibly then number ++ ' ' :: Raw.padRight width seen else number

/-- What is said of a file that ends before the other. -/
def endMessage (listing : Bool) (name content : Text) : Text :=
  let line := content.count '\n'
  Raw.ofString "EOF on " ++ name ++
    (if content.isEmpty then Raw.ofString " which is empty"
      else
        Raw.ofString " after byte " ++ Raw.ofNat content.length ++
          (if listing then []
            else if content.getLast? = some '\n' then Raw.ofString ", line " ++ Raw.ofNat line
            else Raw.ofString ", in line " ++ Raw.ofNat (line + 1)))

/-- Compares two contents byte by byte. -/
def compareBytes (c : Call) (a : Arguments) (x y s t : Text) : Effect :=
  let ds := differences 1 s t
  let silent := a.has 's'
  let visibly := a.has 'b'
  let rest : Text := if s.length = t.length then []
    else if s.length < t.length then c.line (endMessage (a.has 'l') x s)
    else c.line (endMessage (a.has 'l') y t)
  let same := ds.isEmpty && s.length == t.length
  if same then {}
  else if silent then { status := 1 }
  else if a.has 'l' then
    let width := (Raw.ofNat (min s.length t.length)).length
    { stdout := ds.flatMap fun (place, p, q) =>
        Raw.padLeft ' ' width (Raw.ofNat place) ++ ' ' :: shownByte visibly 4 p ++
          ' ' :: shownByte visibly 0 q ++ ['\n']
      stderr := rest, status := 1 }
  else
    match ds with
    | [] => { stderr := rest, status := 1 }
    | (place, p, q) :: _ =>
      let line := (s.take (place - 1)).count '\n' + 1
      { stdout := x ++ ' ' :: y ++ Raw.ofString (if visibly then " differ: byte " else
            " differ: char ") ++ Raw.ofNat place ++ Raw.ofString ", line " ++ Raw.ofNat line ++
          (if visibly then
            Raw.ofString " is " ++ shownByte true 0 p ++ ' ' :: shownByte true 0 q
          else []) ++ ['\n']
        status := 1 }

/-- Finds the first difference of two files. -/
def cmp : Utility := fun c =>
  let options : OptionSyntax :=
    { plain := "bls", valued := "in"
      long := [("print-bytes", 'b', false), ("ignore-initial", 'i', true), ("verbose", 'l', false),
        ("bytes", 'n', true), ("quiet", 's', false), ("silent", 's', false)] }
  match readArguments options c.args with
  | .error message => c.misusedByName message 2
  | .ok a =>
    match a.operands with
    | [] => c.misusedByName (Raw.ofString "missing operand after '" ++ c.name ++ ['\x27']) 2
    | x :: more =>
      let y := more.headD ['-']
      let skips := match a.value? 'i' with
        | some t =>
          match t.splitOn ':' with
          | [p, q] => [p, q]
          | _ => [t, t]
        | none => (more.tail.take 2)
      let limit := (a.value? 'n').map Dump.byteCount?
      match skips.mapM Dump.byteCount?, limit with
      | none, _ =>
        let wrong := skips.find? fun t => (Dump.byteCount? t).isNone
        c.misusedByName (Raw.ofString "invalid --ignore-initial value '" ++ wrong.getD [] ++ ['\x27']) 2
      | _, some none =>
        c.misusedByName (Raw.ofString "invalid --bytes value '" ++ (a.value? 'n').getD [] ++ ['\x27']) 2
      | some counts, limit =>
        if more.length > 3 then
          c.misusedByName (Raw.ofString "extra operand '" ++ (more.drop 3).headD [] ++ ['\x27']) 2
        else
          c.withSides x y 2 fun s t =>
            let cut (t : Text) : Text := match limit with
              | some (some n) => t.take n
              | _ => t
            let skip (k : Nat) (t : Text) : Text := cut (t.drop (counts[k]?.getD 0))
            if x = y then {} else compareBytes c a x y (skip 0 s) (skip 1 t)

/-! ## Sorted files -/

/-- Whether files have to be sorted. -/
inductive SortedInput where
  /-- Only if there are lines without a partner. -/
  | assumed
  | required
  | ignored
deriving DecidableEq, Repr

/-- The way through two sorted files. -/
structure Walk where
  /-- There has been a line without a partner. -/
  unpaired : Bool := false
  /-- The files that are known to be in disorder. -/
  disordered : List Nat := []
  complaints : List Text := []
  /-- Disorder has ended the walk. -/
  stopped : Bool := false
  /-- What has been written, latest first. -/
  written : List Text := []

namespace Walk

def put (w : Walk) (t : Text) : Walk :=
  { w with written := t :: w.written }

/-- Notes that a file is in disorder if it is looked at. -/
def check (w : Walk) (rule : SortedInput) (file : Nat) (disorder : Bool) (complaint : Text) :
    Walk :=
  let looks := rule = .required ∨ (rule = .assumed ∧ w.unpaired)
  if looks ∧ disorder ∧ !w.disordered.contains file then
    { w with
      disordered := file :: w.disordered
      complaints := w.complaints ++ [complaint]
      stopped := rule = .required }
  else w

def effect (w : Walk) (c : Call) : Effect :=
  let last := if w.disordered.isEmpty ∨ w.stopped then []
    else c.line (Raw.ofString "input is not in sorted order")
  { stdout := w.written.reverse.flatten
    stderr := w.complaints.flatMap c.line ++ last
    status := if w.disordered.isEmpty then 0 else 1 }

end Walk

def sortedRule (a : Arguments) : SortedInput :=
  match (a.options.filter fun (o, _) => o == 'R' || o == 'N').getLast? with
  | some ('R', _) => .required
  | some ('N', _) => .ignored
  | _ => .assumed

/-! ## Common lines -/

def disorderMessage (file : Nat) : Text :=
  Raw.ofString ("file " ++ toString file ++ " is not in sorted order")

/-- The step to the next line of a file: lines before it, latest first, and it with those behind. -/
def stepLine (rule : SortedInput) (file : Nat) (w : Walk) (before : List Text) :
    List Text → Walk × List Text × List Text
  | [] => (w, before, [])
  | l :: ls =>
    match ls, before with
    | next :: _, _ =>
      (w.check rule file (Raw.before next l) (disorderMessage file), l :: before, ls)
    | [], previous :: _ =>
      (w.check rule file (Raw.before l previous) (disorderMessage file), l :: before, [])
    | [], [] => (w, [l], [])

/-- Walks through the lines of two files: those of the first, of the second, and of both stand in
columns. -/
def commonLines (rule : SortedInput) (column : Nat → Text → Text) :
    (fuel : Nat) → Walk → (before1 rest1 before2 rest2 : List Text) → Walk
  | 0, w, _, _, _, _ => w
  | fuel + 1, w, b1, r1, b2, r2 =>
    if w.stopped then w
    else
      let first (w : Walk) (l : Text) : Walk :=
        let (w, b1, r1) := stepLine rule 1 ({ w with unpaired := true }.put (column 1 l)) b1 r1
        commonLines rule column fuel w b1 r1 b2 r2
      let second (w : Walk) (l : Text) : Walk :=
        let (w, b2, r2) := stepLine rule 2 ({ w with unpaired := true }.put (column 2 l)) b2 r2
        commonLines rule column fuel w b1 r1 b2 r2
      match r1, r2 with
      | [], [] => w
      | l :: _, [] => first w l
      | [], l :: _ => second w l
      | l :: _, m :: _ =>
        if Raw.before l m then first w l
        else if Raw.before m l then second w m
        else
          let (w, b1, r1) := stepLine rule 1 (w.put (column 3 m)) b1 r1
          let (w, b2, r2) := stepLine rule 2 w b2 r2
          commonLines rule column fuel w b1 r1 b2 r2

def linesEndedBy (stop : Char) (t : Text) : List Text :=
  if t.isEmpty then []
  else if t.getLast? = some stop then t.dropLast.splitOn stop else t.splitOn stop

/-- Shows which lines two sorted files have in common. -/
def comm : Utility :=
  withTwoOperands { plain := "123z"
                    long := [("check-order", 'R', false), ("nocheck-order", 'N', false),
                      ("output-delimiter", 'D', true), ("total", 'T', false),
                      ("zero-terminated", 'z', false)] } fun c a x y =>
    c.withSides x y 1 fun s t =>
      let stop := if a.has 'z' then '\x00' else '\n'
      let mark := match a.value? 'D' with
        | some [] => ['\x00']
        | some d => d
        | none => ['\t']
      let hidden (n : Nat) : Bool := a.has (Nat.digitChar n)
      let column (n : Nat) (l : Text) : Text :=
        if hidden n then []
        else ((List.range n).drop 1).flatMap (fun k => if hidden k then [] else mark) ++ l ++ [stop]
      let ls := linesEndedBy stop s
      let ms := linesEndedBy stop t
      let walk (column : Nat → Text → Text) : Walk :=
        commonLines (sortedRule a) column (ls.length + ms.length + 1) {} [] ls [] ms
      let w := walk column
      let count (n : Nat) : Text :=
        Raw.ofNat ((walk fun k _ => if k = n then ['x'] else []).written.filter (· ≠ [])).length
      let e := w.effect c
      if a.has 'T' ∧ !w.stopped then
        { e with
          stdout := e.stdout ++ List.intercalate mark [count 1, count 2, count 3, "total".toList] ++
            [stop] }
      else e

/-! ## Lines with the same key -/

structure Joining where
  /-- The key's place in the lines of each file, from 0 on. -/
  keys : Nat × Nat := (0, 0)
  /-- What divides fields; without it blanks do. -/
  divider : Option Char := none
  foldCase : Bool := false
  /-- Lines without a partner are shown, of each file. -/
  lonely : Bool × Bool := (false, false)
  /-- Lines with a partner are shown. -/
  pairs : Bool := true
  /-- The fields that are shown: the key, or a field of one file. -/
  chosen : Option (List (Option (Nat × Nat))) := none
  /-- What stands for an empty field. -/
  filler : Text := []
  rule : SortedInput := .assumed

namespace Joining

def fields (j : Joining) (l : Text) : List Text :=
  match j.divider with
  | some d => l.splitOn d
  | none =>
    let blank (c : Char) : Bool := c == ' ' || c == '\t'
    ((l.map fun c => if blank c then ' ' else c).splitOn ' ').filter (!·.isEmpty)

def key (j : Joining) (file : Nat) (l : Text) : Text :=
  let k := ((j.fields l)[if file = 1 then j.keys.1 else j.keys.2]?).getD []
  if j.foldCase then k.map Char.toLower else k

def shown (j : Joining) (t : Option Text) : Text :=
  match t with
  | some (c :: cs) => c :: cs
  | _ => j.filler

/-- The line of two lines, one of which may be missing. -/
def line (j : Joining) (a b : Option Text) : Text :=
  let fs := (a.map j.fields).getD []
  let gs := (b.map j.fields).getD []
  let keyField : Option Text := if a.isSome then fs[j.keys.1]? else gs[j.keys.2]?
  let others (place : Nat) (xs : List Text) : List Text :=
    (xs.zipIdx.filter fun (_, i) => i != place).map (·.1)
  let columns := match j.chosen with
    | some cs => cs.map fun c =>
      match c with
      | none => j.shown keyField
      | some (file, n) => j.shown (if file = 1 then fs[n]? else gs[n]?)
    | none =>
      (keyField :: (others j.keys.1 fs).map some ++ (others j.keys.2 gs).map some).map j.shown
  List.intercalate [j.divider.getD ' '] columns ++ ['\n']

def step (j : Joining) (name : Text) (file number : Nat) (w : Walk) (ls : List Text) : Walk :=
  match ls with
  | l :: next :: _ =>
    w.check j.rule file (Raw.before (j.key file next) (j.key file l))
      (name ++ ':' :: Raw.ofNat (number + 1) ++ Raw.ofString ": is not sorted: " ++ next)
  | _ => w

def steps (j : Joining) (name : Text) (file : Nat) : (count number : Nat) → Walk → List Text → Walk
  | 0, _, w, _ => w
  | count + 1, number, w, ls =>
    if w.stopped then w
    else j.steps name file count (number + 1) (j.step name file number w ls) ls.tail

/-- Walks through two files; the lines before have numbers up to `n` and `m`. -/
def walk (j : Joining) (x y : Text) : (fuel : Nat) → Walk → (n : Nat) → List Text → (m : Nat) →
    List Text → Walk
  | 0, w, _, _, _, _ => w
  | fuel + 1, w, n, ls, m, ms =>
    if w.stopped then w
    else
      match ls, ms with
      | [], [] => w
      | l :: rest, [] =>
        let w := if j.lonely.1 then w.put (j.line (some l) none) else w
        j.walk x y fuel (j.step x 1 (n + 1) w ls) (n + 1) rest m []
      | [], k :: rest =>
        let w := if j.lonely.2 then w.put (j.line none (some k)) else w
        j.walk x y fuel (j.step y 2 (m + 1) w ms) n [] (m + 1) rest
      | l :: rest, k :: more =>
        let a := j.key 1 l
        let b := j.key 2 k
        if Raw.before a b then
          let w := if j.lonely.1 then w.put (j.line (some l) none) else w
          j.walk x y fuel (j.step x 1 (n + 1) { w with unpaired := true } ls) (n + 1) rest m ms
        else if Raw.before b a then
          let w := if j.lonely.2 then w.put (j.line none (some k)) else w
          j.walk x y fuel (j.step y 2 (m + 1) { w with unpaired := true } ms) n ls (m + 1) more
        else
          let same1 := ls.takeWhile (j.key 1 · = b)
          let same2 := ms.takeWhile (j.key 2 · = a)
          let w := j.steps x 1 same1.length (n + 1) w ls
          let w := j.steps y 2 same2.length (m + 1) w ms
          let w := if j.pairs ∧ !w.stopped then
              same1.foldl (fun w p =>
                same2.foldl (fun (w : Walk) q => w.put (j.line (some p) (some q))) w) w
            else w
          let ls' := ls.drop same1.length
          let ms' := ms.drop same2.length
          let w := if ls'.isEmpty != ms'.isEmpty then { w with unpaired := true } else w
          j.walk x y fuel w (n + same1.length) ls' (m + same2.length) ms'

end Joining

/-- A field of a list: `0` for the key, or a file and a field. -/
def joinedField? (t : Text) : Except Text (Option (Nat × Nat)) :=
  match t with
  | ['0'] => .ok none
  | f :: '.' :: ds =>
    match f, Raw.nat? ds with
    | '1', some (n + 1) => .ok (some (1, n))
    | '2', some (n + 1) => .ok (some (2, n))
    | '1', _ | '2', _ => .error (Raw.ofString "invalid field number: " ++ Raw.quoted ds)
    | _, _ => .error (Raw.ofString "invalid file number in field spec: " ++ Raw.quoted t)
  | _ => .error (Raw.ofString "invalid field specifier: " ++ Raw.quoted t)

/-- Takes the fields that are listed as operands behind a list of fields. -/
def withFieldLists (args : List Text) : List Text :=
  match args with
  | ['-', 'o'] :: list :: rest =>
    let more := rest.takeWhile fun t => t.length > 2 && (joinedField? t).isOk
    ['-', 'o'] :: List.intercalate [','] (list :: more) :: withFieldLists (rest.drop more.length)
  | a :: rest => a :: withFieldLists rest
  | [] => []
termination_by args.length

/-- Reads one option of a program that joins lines. -/
def joiningOption (j : Joining) (option : Char × Text) : Except Text Joining :=
  let (o, v) := option
  let number (t : Text) (use : Nat → Joining) : Except Text Joining :=
    match Raw.nat? t with
    | some (n + 1) => .ok (use n)
    | _ => .error (Raw.ofString "invalid field number: " ++ Raw.quoted t)
  let file (use : Bool → Bool → Joining) : Except Text Joining :=
    if v = ['1'] then .ok (use true j.lonely.2)
    else if v = ['2'] then .ok (use j.lonely.1 true)
    else .error (Raw.ofString "invalid field number: " ++ Raw.quoted v)
  match o with
  | '1' => number v fun n => { j with keys := (n, j.keys.2) }
  | '2' => number v fun n => { j with keys := (j.keys.1, n) }
  | 'j' => number v fun n => { j with keys := (n, n) }
  | 'a' => file fun x y => { j with lonely := (x, y) }
  | 'v' => file fun x y => { j with lonely := (x, y), pairs := false }
  | 't' =>
    match v with
    | [] => .ok { j with divider := some '\n' }
    | [d] => .ok { j with divider := some d }
    | ['\\', '0'] => .ok { j with divider := some '\x00' }
    | _ => .error (Raw.ofString "multi-character tab " ++ Raw.quoted v)
  | 'e' => .ok { j with filler := v }
  | 'i' => .ok { j with foldCase := true }
  | 'o' =>
    if v = "auto".toList then .ok j
    else do
      let parts := (v.map fun c => if c = ' ' ∨ c = '\t' then ',' else c).splitOn ','
      let fs ← (parts.filter (!·.isEmpty)).mapM joinedField?
      .ok { j with chosen := some (j.chosen.getD [] ++ fs) }
  | _ => .ok j

/-- The fields that are shown when every line has as many as the first. -/
def Joining.automatic (j : Joining) (l m : Option Text) : Joining :=
  let count (l : Option Text) : Nat := ((l.map j.fields).getD []).length
  let all (file place n : Nat) : List (Option (Nat × Nat)) :=
    ((List.range n).filter (· != place)).map fun k => some (file, k)
  { j with chosen := some (none :: all 1 j.keys.1 (count l) ++ all 2 j.keys.2 (count m)) }

/-- Joins the lines of two sorted files that have the same key. -/
def join : Utility := fun c =>
  withTwoOperands { plain := "iz", valued := "aejotv12"
                    long := [("ignore-case", 'i', false), ("check-order", 'R', false),
                      ("nocheck-order", 'N', false), ("header", 'H', false),
                      ("zero-terminated", 'z', false)] } (fun c a x y =>
    match a.options.foldlM joiningOption { rule := sortedRule a } with
    | .error message => c.fails message 1
    | .ok j =>
      c.withSides x y 1 fun s t =>
        let ls := Raw.lines s
        let ms := Raw.lines t
        let j := if a.options.any fun (o, v) => o == 'o' && v == "auto".toList then
            j.automatic ls.head? ms.head?
          else j
        let (title, ls, ms) : Text × List Text × List Text := if a.has 'H' then
            (if ls.isEmpty && ms.isEmpty then [] else j.line ls.head? ms.head?, ls.tail, ms.tail)
          else ([], ls, ms)
        let e := (j.walk x y (ls.length + ms.length + 1) {} 0 ls 0 ms).effect c
        { e with stdout := title ++ e.stdout })
    { c with args := withFieldLists c.args }

end External

end SmartyLayout
