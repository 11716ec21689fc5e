import SmartyLayout.External.Utility

/-!
# SmartyLayout.External.Filling — filling paragraphs

The utility `fmt`. It reads paragraphs, lines of words with the same indent, and breaks each into
lines anew. Where to break is decided for the paragraph as a whole: every line costs the more the
further it is from the wanted width, and breaks behind sentences, at punctuation or before single
words have costs of their own.
-/

namespace SmartyLayout

namespace External

namespace Filling

structure Word where
  text : Text
  /-- The blanks behind it, if no break comes there. -/
  space : Nat := 0
  /-- It begins with an opening bracket or quote. -/
  opens : Bool := false
  /-- It ends with the sign of the end of a sentence. -/
  period : Bool := false
  /-- It ends with punctuation. -/
  punctuated : Bool := false
  /-- It ends a sentence. -/
  final : Bool := false

def Word.ofText (t : Text) : Word :=
  let isPunct (c : Char) : Bool := (charClass? "punct".toList).any (· c)
  let kernel := (t.reverse.dropWhile fun c => ")]'\"".toList.any (· == c))
  let last := if kernel.isEmpty then t.head? else kernel.head?
  { text := t
    opens := t.head?.any fun c => "(['\x60\"".toList.any (· == c)
    punctuated := t.getLast?.any isPunct
    period := last.any fun c => ".?!".toList.any (· == c) }

structure Manner where
  width : Nat := 75
  /-- The width that lines should have. -/
  goal : Nat := 70
  /-- The first two lines keep their indents. -/
  crown : Bool := false
  /-- As `crown`, but the second line must be indented otherwise than the first. -/
  tagged : Bool := false
  /-- Lines are broken but not joined. -/
  split : Bool := false
  /-- One blank between words and two between sentences. -/
  uniform : Bool := false
  /-- Only lines that begin with this are filled. -/
  prefixText : Text := []
  /-- The blanks in front of this. -/
  prefixLead : Nat := 0
  /-- The length of this with the blanks behind it. -/
  prefixFull : Nat := 0

/-! ## Breaking -/

/-- What is decided for the words from one on: the cost, how many words the first line has, and its
length. -/
structure Plan where
  cost : Int
  words : Nat
  length : Nat

def square (n : Int) : Int := n * n

def shortCost (n : Int) : Int := square (10 * n)

/-- What a difference to the next line costs. -/
def raggedCost (n : Int) : Int := shortCost n / 2

/-- What it costs that a line begins with a word; the two words in front of it are given, the nearer
one first. -/
def startCost (w : Word) (before : List Word) : Int :=
  let line := square 70
  let front : Int := match before with
    | [] => 0
    | p :: more =>
      if p.period then (if p.final then -square 50 else square 600)
      else if p.punctuated then -square 40
      else match more with
        | q :: _ => if q.final then square 200 / (p.text.length + 2) else 0
        | [] => 0
  let own : Int := if w.opens then -square 40
    else if w.final then square 150 / (w.text.length + 2) else 0
  line + front + own

/-- The cheapest first line of some words. `plans` are the decisions for what is left behind each
further word: the first of them for the words behind the next word. `length` is the line so far with
`count` words, the last of which has `space` blanks behind it. -/
def bestLine (m : Manner) : (words : List Word) → (plans : List Plan) →
    (count length space : Nat) → Option Plan → Option Plan
  | words, plan :: plans, count, length, space, best =>
    let last := words.isEmpty
    let own : Int := if last then 0
      else
        shortCost ((m.goal : Int) - length) +
          (if plan.words = words.length then 0 else raggedCost ((length : Int) - plan.length))
    let cost := own + plan.cost
    let best := match best with
      | some b => if cost < b.cost then some ⟨cost, count, length⟩ else best
      | none => some ⟨cost, count, length⟩
    match words with
    | [] => best
    | w :: ws =>
      let longer := length + space + w.text.length
      if longer < m.width then bestLine m ws plans (count + 1) longer w.space best else best
  | _, [], _, _, _, best => best

/-- The decisions for the words from each on; a last one stands for the end. `before` are the words
in front, the nearest first. -/
def plans (m : Manner) (first other : Nat) : (before : List Word) → List Word → List Plan
  | _, [] => [⟨0, 0, 0⟩]
  | before, w :: ws =>
    let rest := plans m first other (w :: before) ws
    let indent := if before.isEmpty then first else other
    match bestLine m ws rest 1 (indent + w.text.length) w.space none with
    | some p => { p with cost := p.cost + startCost w before } :: rest
    | none => rest

def linesOf : (fuel : Nat) → List Word → List Plan → List (List Word)
  | 0, _, _ => []
  | _, [], _ => []
  | fuel + 1, ws, ps =>
    let n := max 1 ((ps.head?.map (·.words)).getD 1)
    ws.take n :: linesOf fuel (ws.drop n) (ps.drop n)

/-! ## Reading -/

/-- A line of the input: the indent in front of the prefix, the column of the first word, and its
words with the blanks behind each. -/
structure Line where
  /-- The columns in front of the prefix. -/
  lead : Nat
  /-- The column of the text. -/
  column : Nat
  /-- The text from that column on. -/
  rest : Text
  /-- A break stands behind it. -/
  broken : Bool

/-- The column behind blanks, whether there was a tab, and the text behind them. -/
def overBlanks : (column : Nat) → (tabbed : Bool) → Text → Nat × Bool × Text
  | column, tabbed, ' ' :: cs => overBlanks (column + 1) tabbed cs
  | column, _, '\t' :: cs => overBlanks ((column / 8 + 1) * 8) true cs
  | column, tabbed, cs => (column, tabbed, cs)

/-- A line of the input, and whether it has a tab in front of its text. -/
def readLine (m : Manner) (t : Text) (broken : Bool) : Line × Bool :=
  let (column, tabbed, rest) := overBlanks 0 false t
  if m.prefixText.isEmpty then
    (⟨min m.prefixLead column, column, rest, broken⟩, tabbed)
  else
    let common := ((rest.zip m.prefixText).takeWhile fun (a, b) => a == b).length
    if common < m.prefixText.length then
      (⟨column, column + common, rest.drop common, broken⟩, tabbed)
    else
      let (after, tabbed, rest) := overBlanks (column + common) tabbed (rest.drop common)
      (⟨column, after, rest, broken⟩, tabbed)

def wordsOf (m : Manner) : (fuel column : Nat) → (tabbed : Bool) → Text → List Word × Bool
  | 0, _, tabbed, _ => ([], tabbed)
  | fuel + 1, column, tabbed, t =>
    let text := t.take 1 ++ t.tail.takeWhile fun c => !Raw.isSpace c
    let behind := column + text.length
    let (next, tabbed, rest) := overBlanks behind tabbed (t.drop text.length)
    let w := Word.ofText text
    let last := rest.isEmpty
    let final := w.period && (last || 1 < next - behind)
    let space := if last || m.uniform then (if final then 2 else 1) else next - behind
    let w := { w with final, space }
    if last then ([w], tabbed)
    else
      let (ws, tabbed) := wordsOf m fuel next tabbed rest
      (w :: ws, tabbed)

/-! ## Writing -/

/-- Blanks from a column on, with tabs if the input has some. -/
def blanks (tabbed : Bool) (column count : Nat) : Text :=
  let target := column + count
  let tab := target / 8 * 8
  if tabbed ∧ column + 1 < tab then
    List.replicate (tab / 8 - column / 8) '\t' ++ List.replicate (target - tab) ' '
  else List.replicate count ' '

/-- What has been written, and what is remembered from one paragraph to the next. -/
structure State where
  written : List Text := []
  tabbed : Bool := false
  /-- The indent of further lines. -/
  other : Nat := 0

def copied (m : Manner) (tabbed : Bool) (l : Line) : Text :=
  let blank := l.rest.isEmpty
  if l.lead < l.column ∨ !blank then
    let lead := blanks tabbed 0 l.lead
    let mark := m.prefixText.take (l.column - l.lead)
    let column := l.lead + mark.length
    let gap := if blank then [] else blanks tabbed column (l.column - column)
    lead ++ mark ++ gap ++ l.rest ++
      (if blank ∧ !l.broken ∧ l.lead + m.prefixText.length ≤ l.column then ['\n'] else [])
  else l.rest

def filledLine (m : Manner) (tabbed : Bool) (lead indent : Nat) (ws : List Word) : Text :=
  let front := blanks tabbed 0 lead ++ m.prefixText
  let column := lead + m.prefixText.length
  let front := front ++ blanks tabbed column (indent - column)
  let start := max column indent
  let (t, _, _) := ws.foldl (fun (t, column, pending) w =>
    let gap := blanks tabbed column pending
    (t ++ gap ++ w.text, column + pending + w.text.length, w.space)) (front, start, 0)
  t ++ ['\n']

/-- A line belongs to a paragraph whose prefix stands at a column. -/
def Line.continues (m : Manner) (lead : Nat) (l : Line) : Bool :=
  l.lead == lead && l.lead + m.prefixFull ≤ l.column && !l.rest.isEmpty

def Line.begins (m : Manner) (l : Line) : Bool :=
  !l.rest.isEmpty && m.prefixLead ≤ l.lead && l.lead + m.prefixFull ≤ l.column

/-- The lines that follow the first one of a paragraph, and the indent of further lines. -/
def paragraphRest (m : Manner) (other : Nat) (l : Line) (ls : List Line) : List Line × Nat :=
  let next := ls.head?.filter (·.continues m l.lead)
  let column := (next.map (·.column)).getD 0
  let same := next.isSome
  let other := if m.split then l.column
    else if m.crown then (if same then column else l.column)
    else if m.tagged then
      if same && column != l.column then column
      else if other = l.column then (if l.column = 0 then 3 else 0) else other
    else l.column
  let run := ls.takeWhile fun k => k.continues m l.lead && k.column == other
  let rest := if m.split then []
    else if m.tagged && !(same && column != l.column) then []
    else run
  (rest, other)

def fill (m : Manner) : (fuel : Nat) → State → List (Line × Bool) → State
  | 0, s, _ => s
  | _, s, [] => s
  | fuel + 1, s, (l, tab) :: ls =>
    let s := { s with tabbed := s.tabbed || tab }
    if l.begins m then
      let (more, other) := paragraphRest m s.other l (ls.map (·.1))
      let all := l :: more
      let (words, tabbed) := all.foldl (fun (ws, tabbed) (k : Line) =>
        let (us, tabbed) := wordsOf m (k.rest.length + 1) k.column tabbed k.rest
        (ws ++ us, tabbed)) (([] : List Word), s.tabbed)
      let seen := (ls.take (more.length + 1)).any (·.2)
      let words := match words.reverse with
        | w :: ws => ({ w with period := true, final := true } :: ws).reverse
        | [] => []
      let tabbed := tabbed || seen
      let body := linesOf (words.length + 1) words (plans m l.column other [] words)
      let text := body.zipIdx.flatMap fun (ws, k) =>
        filledLine m tabbed l.lead (if k = 0 then l.column else other) ws
      fill m fuel { s with tabbed, other, written := text :: s.written } (ls.drop more.length)
    else
      let text := copied m s.tabbed l ++ (if l.broken then ['\n'] else [])
      fill m fuel { s with written := text :: s.written } ls

def filled (m : Manner) (t : Text) : Text :=
  let ls := (Raw.brokenLines t).map fun l =>
    if l.getLast? = some '\n' then readLine m l.dropLast true else readLine m l false
  (fill m (ls.length + 1) {} ls).written.reverse.flatten

end Filling

open Filling in
def fmt : Utility := fun c =>
  let args := match c.args with
    | ('-' :: d :: ds) :: rest => if d.isDigit then ('-' :: 'w' :: d :: ds) :: rest else c.args
    | args => args
  withArguments { plain := "cstu", valued := "wgp"
                  long := [("crown-margin", 'c', false), ("split-only", 's', false),
                    ("tagged-paragraph", 't', false), ("uniform-spacing", 'u', false),
                    ("width", 'w', true), ("goal", 'g', true), ("prefix", 'p', true)] } 1
    (fun c a =>
      let wrong (t : Text) : Effect :=
        c.fails (Raw.ofString "invalid width: '" ++ t ++ Raw.ofString
          (if (Raw.nat? t).isSome then "': Numerical result out of range" else "'")) 1
      let width := (a.value? 'w').map fun t => (t, (Raw.nat? t).filter (· ≤ 2500))
      let bound := (width.bind (·.2)).getD 75
      let goal := (a.value? 'g').map fun t => (t, (Raw.nat? t).filter (· ≤ bound))
      match width, goal with
      | some (t, none), _ | _, some (t, none) => wrong t
      | width, goal =>
        let given := width.bind (·.2)
        let wanted := goal.bind (·.2)
        let width := given.getD ((wanted.map (· + 10)).getD 75)
        let lead := (a.value? 'p').getD []
        let body := lead.dropWhile (· == ' ')
        let m : Manner :=
          { width, goal := wanted.getD (width * 187 / 200)
            crown := a.has 'c', tagged := a.has 't', split := a.has 's', uniform := a.has 'u'
            prefixLead := lead.length - body.length
            prefixFull := body.length
            prefixText := (body.reverse.dropWhile (· == ' ')).reverse }
        let i := c.inputsOr (fun name why => Raw.ofString "cannot open '" ++ name ++
          Raw.ofString ("' for reading: " ++ why)) a.operands
        i.effect (i.contents.flatMap fun (_, t) => filled m t) 0)
    { c with args }

end External

end SmartyLayout
