import Mathlib.Algebra.GroupWithZero.Nat
import SmartyLayout.Proofs.Division
import SmartyLayout.Proofs.Grammar
import SmartyLayout.Proofs.Stages

/-!
# SmartyLayout.Proofs.Partition — logical lines partition a text

`LogicalLine.split` loses nothing and cuts only between literals. `split_partition` collects what this
means: the lines, one below the other, are the text; the literals of a line stand in it at byte
offsets that are character boundaries, in order and apart, each a whole literal of its kind
(`WellFormed`); and a line break of the text either ends one line or lies in one literal of one line.

The last part follows from the first two by arithmetic on the offsets at which the lines begin
(`lineStart`): the literals of a line lie inside it, and the break that ends it lies behind it.
-/

namespace SmartyLayout

open Text Literal

/-! ## Well-formed lines -/

/-- The literals of a line: whole, in bounds, at character boundaries, in order and apart, and no
line break outside them. -/
structure LogicalLine.WellFormed (d : Dialect) (l : LogicalLine) : Prop where
  nonempty : ∀ s ∈ l.spans, s.span.start < s.span.stop
  bounded : ∀ s ∈ l.spans, s.span.stop ≤ size l.text
  complete : ∀ s ∈ l.spans, ∃ before lexeme after, l.text = before ++ (lexeme ++ after) ∧
    size before = s.span.start ∧ size (before ++ lexeme) = s.span.stop ∧ IsComplete d s.kind lexeme
  ordered : l.spans.Pairwise fun s s' => s.span.stop ≤ s'.span.start
  breaks : ∀ before after, l.text = before ++ '\n' :: after → l.inLiteral (size before) = true

namespace Atom

/-- A span of a run of units is that of a literal in it. -/
theorem exists_literal_of_mem_spansFrom {pos : Nat} {as : List Atom} {s : LiteralSpan}
    (h : s ∈ spansFrom pos as) :
    ∃ xs lexeme ys, as = xs ++ literal s.kind lexeme :: ys ∧
      s.span.start = pos + size (written xs) ∧ s.span.stop = s.span.start + size lexeme := by
  induction as generalizing pos with
  | nil => simp [spansFrom] at h
  | cons a as ih =>
    cases a with
    | plain c =>
      obtain ⟨xs, lexeme, ys, rfl, hstart, hstop⟩ := ih h
      refine ⟨plain c :: xs, lexeme, ys, rfl, ?_, hstop⟩
      simp [hstart, Nat.add_assoc]
    | literal kind lexeme =>
      rcases List.mem_cons.1 h with rfl | h
      · exact ⟨[], lexeme, as, rfl, rfl, rfl⟩
      · obtain ⟨xs, lexeme', ys, rfl, hstart, hstop⟩ := ih h
        refine ⟨literal kind lexeme :: xs, lexeme', ys, rfl, ?_, hstop⟩
        simp [hstart, Nat.add_assoc]

theorem pairwise_spansFrom (pos : Nat) (as : List Atom) :
    (spansFrom pos as).Pairwise fun s s' => s.span.stop ≤ s'.span.start := by
  induction as generalizing pos with
  | nil => exact .nil
  | cons a as ih =>
    cases a with
    | plain c => exact ih _
    | literal kind lexeme =>
      refine .cons ?_ (ih _)
      intro s hs
      obtain ⟨xs, _, _, _, hstart, _⟩ := exists_literal_of_mem_spansFrom hs
      rw [hstart]
      exact Nat.le_add_right _ _

/-- The literals of a stream are whole. -/
theorem Reads.isComplete {d : Dialect} {us : List Atom} (h : Reads d us) {kind : Kind} {lexeme : Text}
    (hmem : literal kind lexeme ∈ us) : IsComplete d kind lexeme := by
  induction us with
  | nil => simp at hmem
  | cons a us ih =>
    rcases List.mem_cons.1 hmem with rfl | hmem
    · exact isComplete_iff_at?.2 (((at?_local d).find_append_iff rfl _).1 h.1)
    · exact ih h.2 hmem

/-- A run of units of a stream, without plain breaks, makes a well-formed line. -/
theorem Reads.wellFormed {d : Dialect} {us as : List Atom} (h : Reads d us)
    (has : ∀ a ∈ as, a ∈ us ∧ a ≠ plain '\n') : (LogicalLine.ofAtoms as).WellFormed d := by
  have hcomplete : ∀ s ∈ spansFrom 0 as, ∃ before lexeme after,
      written as = before ++ (lexeme ++ after) ∧ size before = s.span.start ∧
      size (before ++ lexeme) = s.span.stop ∧ IsComplete d s.kind lexeme := by
    intro s hs
    obtain ⟨xs, lexeme, ys, rfl, hstart, hstop⟩ := exists_literal_of_mem_spansFrom hs
    have hmem : literal s.kind lexeme ∈ us := (has _ (by simp)).1
    refine ⟨written xs, lexeme, written ys, by simp, ?_, ?_, h.isComplete hmem⟩
    · simp [hstart]
    · simp [hstart, hstop]
  refine ⟨?_, ?_, hcomplete, pairwise_spansFrom 0 as, ?_⟩
  · intro s hs
    obtain ⟨before, lexeme, after, -, hstart, hstop, hlexeme⟩ := hcomplete s hs
    have hne : lexeme ≠ [] := by
      rintro rfl
      simpa [at?] using isComplete_iff_at?.1 hlexeme
    have hpos := size_pos_of_ne_nil hne
    rw [size_append] at hstop
    omega
  · intro s hs
    obtain ⟨before, lexeme, after, htext, hstart, hstop, -⟩ := hcomplete s hs
    rw [text_ofAtoms, htext, ← hstop]
    simp only [size_append]
    omega
  · -- a break outside the literals would be a unit of its own
    intro before after htext
    by_contra hfree
    simp only [LogicalLine.inLiteral, List.any_eq_true, not_exists, not_and, Bool.not_eq_true] at hfree
    have hplain : ∀ s ∈ spansFrom 0 as, s.span.contains (0 + size before) = false := by
      intro s hs
      rw [Nat.zero_add]
      exact hfree s hs
    obtain ⟨xs, ys, rfl, -⟩ := exists_plain_of_not_mem_spansFrom htext hplain
    exact (has (plain '\n') (by simp)).2 rfl

end Atom

namespace LogicalLine

theorem wellFormed_of_mem_split {d : Dialect} {t : Text} {l : LogicalLine} (h : l ∈ split d t) :
    l.WellFormed d := by
  obtain ⟨us, rfl, hus⟩ := Atom.exists_reads d t
  obtain ⟨as, has, rfl⟩ := List.mem_map.1 h
  rw [Atom.read_written hus] at has
  exact hus.wellFormed fun a ha => mem_of_mem_splitOn has ha

/-! ## Where the line breaks are -/

/-- The offset at which line number `i` begins. -/
def lineStart (ls : List LogicalLine) (i : Nat) : Nat :=
  ((ls.take i).map fun l => size l.text + 1).sum

/-- The byte at `offset` is the break behind line number `i`. -/
def EndsLine (ls : List LogicalLine) (offset i : Nat) : Prop :=
  i + 1 < ls.length ∧ offset + 1 = lineStart ls (i + 1)

/-- The byte at `offset` lies in the literal `s` of line number `i`. -/
def InSpan (ls : List LogicalLine) (offset : Nat) : Nat × LiteralSpan → Prop
  | (i, s) => ∃ l, ls[i]? = some l ∧ s ∈ l.spans ∧
      lineStart ls i + s.span.start ≤ offset ∧ offset < lineStart ls i + s.span.stop

variable {d : Dialect} {ls : List LogicalLine} {offset : Nat}

@[simp] theorem lineStart_cons_succ (l : LogicalLine) (ls : List LogicalLine) (i : Nat) :
    lineStart (l :: ls) (i + 1) = size l.text + 1 + lineStart ls i := rfl

/-- A line and the break behind it end before a later line begins. -/
theorem lineStart_add_size_lt {l : LogicalLine} {i j : Nat} (hi : ls[i]? = some l) (hij : i < j) :
    lineStart ls i + size l.text + 1 ≤ lineStart ls j := by
  induction ls generalizing i j with
  | nil => simp at hi
  | cons k ls ih =>
    obtain ⟨j, rfl⟩ : ∃ j', j = j' + 1 := ⟨j - 1, by omega⟩
    rw [lineStart_cons_succ]
    cases i with
    | zero =>
      obtain rfl : k = l := by simpa using hi
      simp [lineStart]
    | succ i =>
      have hrest := ih (by simpa using hi) (Nat.lt_of_succ_lt_succ hij)
      rw [lineStart_cons_succ]
      omega

theorem lineStart_lt {i j : Nat} (hi : i < ls.length) (hij : i < j) :
    lineStart ls i < lineStart ls j := by
  have hbefore := lineStart_add_size_lt (List.getElem?_eq_getElem hi) hij
  omega

theorem EndsLine.unique {i j : Nat} (hi : EndsLine ls offset i) (hj : EndsLine ls offset j) :
    i = j := by
  obtain ⟨hi, hstart⟩ := hi
  obtain ⟨hj, hstart'⟩ := hj
  rcases Nat.lt_trichotomy i j with hij | rfl | hij
  · have hlt := lineStart_lt hi (Nat.add_lt_add_right hij 1)
    omega
  · rfl
  · have hlt := lineStart_lt hj (Nat.add_lt_add_right hij 1)
    omega

/-- Literals lie inside their lines, so the break behind a line is in none. -/
theorem EndsLine.not_inSpan (hls : ∀ l ∈ ls, l.WellFormed d) {i : Nat} (h : EndsLine ls offset i)
    (p : Nat × LiteralSpan) : ¬ InSpan ls offset p := by
  obtain ⟨j, s⟩ := p
  rintro ⟨l, hl, hs, hlow, hhigh⟩
  obtain ⟨hi, hstart⟩ := h
  have hbound := (hls l (List.mem_of_getElem? hl)).bounded s hs
  rcases Nat.lt_trichotomy (i + 1) j with hij | rfl | hij
  · have hlt := lineStart_lt hi hij
    omega
  · omega
  · have hbefore := lineStart_add_size_lt hl hij
    omega

theorem InSpan.unique (hls : ∀ l ∈ ls, l.WellFormed d) {p q : Nat × LiteralSpan}
    (hp : InSpan ls offset p) (hq : InSpan ls offset q) : p = q := by
  obtain ⟨i, s⟩ := p
  obtain ⟨j, s'⟩ := q
  obtain ⟨l, hl, hs, hlow, hhigh⟩ := hp
  obtain ⟨l', hl', hs', hlow', hhigh'⟩ := hq
  have hbound := (hls l (List.mem_of_getElem? hl)).bounded s hs
  have hbound' := (hls l' (List.mem_of_getElem? hl')).bounded s' hs'
  rcases Nat.lt_trichotomy i j with hij | rfl | hij
  · have hbefore := lineStart_add_size_lt hl hij
    omega
  · obtain rfl : l = l' := Option.some.inj (hl.symm.trans hl')
    -- two literals of one line that share an offset are one
    have hordered := (hls l (List.mem_of_getElem? hl)).ordered
    obtain ⟨front, back, hspans⟩ := List.append_of_mem hs
    rw [hspans, List.pairwise_append, List.pairwise_cons] at hordered
    rw [hspans, List.mem_append, List.mem_cons] at hs'
    rcases hs' with hs' | rfl | hs'
    · have hapart := hordered.2.2 s' hs' s (by simp)
      omega
    · rfl
    · have hapart := hordered.2.1.1 s' hs'
      omega
  · have hbefore := lineStart_add_size_lt hl' hij
    omega

/-- Moving a first line in front moves everything by its size and a break. -/
theorem EndsLine.cons {i : Nat} (h : EndsLine ls offset i) (l : LogicalLine) :
    EndsLine (l :: ls) (size l.text + 1 + offset) (i + 1) := by
  obtain ⟨hi, hstart⟩ := h
  refine ⟨by simpa using hi, ?_⟩
  rw [lineStart_cons_succ, ← hstart]
  omega

theorem InSpan.cons {i : Nat} {s : LiteralSpan} (h : InSpan ls offset (i, s)) (l : LogicalLine) :
    InSpan (l :: ls) (size l.text + 1 + offset) (i + 1, s) := by
  obtain ⟨k, hk, hs, hlow, hhigh⟩ := h
  refine ⟨k, by simpa using hk, hs, ?_, ?_⟩
  · rw [lineStart_cons_succ]
    omega
  · rw [lineStart_cons_succ]
    omega

theorem inSpan_of_inLiteral {l : LogicalLine} (h : l.inLiteral offset = true) :
    ∃ s, InSpan (l :: ls) offset (0, s) := by
  simp only [inLiteral, List.any_eq_true, Span.contains, Bool.and_eq_true, decide_eq_true_eq] at h
  obtain ⟨s, hs, hlow, hhigh⟩ := h
  exact ⟨s, l, rfl, hs, by simpa [lineStart] using hlow, by simpa [lineStart] using hhigh⟩

theorem exists_endsLine_or_inSpan (hls : ∀ l ∈ ls, l.WellFormed d) {before after : Text}
    (h : unlines (ls.map (·.text)) = before ++ '\n' :: after) :
    (∃ i, EndsLine ls (size before) i) ∨ ∃ p, InSpan ls (size before) p := by
  have hbreak : Char.utf8Size '\n' = 1 := by decide
  induction ls generalizing before with
  | nil => simp [unlines] at h
  | cons l ls ih =>
    have hinside {rest : Text} (hl : l.text = before ++ '\n' :: rest) :
        ∃ p, InSpan (l :: ls) (size before) p := by
      obtain ⟨s, hs⟩ := inSpan_of_inLiteral ((hls l (by simp)).breaks before rest hl)
      exact ⟨(0, s), hs⟩
    by_cases hnil : ls = []
    · subst hnil
      exact .inr (hinside (by simpa using h))
    · have hlast : EndsLine (l :: ls) (size l.text) 0 :=
        ⟨by simpa [List.length_pos_iff] using hnil, rfl⟩
      rw [List.map_cons, unlines_cons _ (by simpa using hnil), append_eq_append_cons_iff] at h
      rcases h with ⟨mid, rfl, hrest⟩ | ⟨mid, hl, -⟩
      · cases mid with
        | nil =>
          rw [List.append_nil]
          exact .inl ⟨0, hlast⟩
        | cons c mid =>
          -- the break lies behind the first line and its own break
          rw [List.cons_append, List.cons.injEq] at hrest
          obtain ⟨rfl, hrest⟩ := hrest
          have hsize : size (l.text ++ '\n' :: mid) = size l.text + 1 + size mid := by
            rw [size_append, size_cons, hbreak, Nat.add_assoc]
          rw [hsize]
          rcases ih (fun k hk => hls k (List.mem_cons_of_mem l hk)) hrest with ⟨i, hi⟩ | ⟨⟨i, s⟩, hp⟩
          · exact .inl ⟨i + 1, hi.cons l⟩
          · exact .inr ⟨(i + 1, s), hp.cons l⟩
      · exact .inr (hinside hl)

/-- Logical lines partition a text around its literals. -/
theorem split_partition (d : Dialect) (t : Text) :
    unlines ((split d t).map (·.text)) = t ∧ (∀ l ∈ split d t, l.WellFormed d) ∧
    ∀ before after, t = before ++ '\n' :: after →
      ((∃! i, EndsLine (split d t) (size before) i) ∧ ∀ p, ¬ InSpan (split d t) (size before) p) ∨
      ((∃! p, InSpan (split d t) (size before) p) ∧ ∀ i, ¬ EndsLine (split d t) (size before) i) := by
  have hformed : ∀ l ∈ split d t, l.WellFormed d := fun l hl => wellFormed_of_mem_split hl
  refine ⟨unlines_split d t, hformed, ?_⟩
  intro before after htext
  rw [← unlines_split d t] at htext
  rcases exists_endsLine_or_inSpan hformed htext with ⟨i, hi⟩ | ⟨p, hp⟩
  · exact .inl ⟨⟨i, hi, fun j hj => hj.unique hi⟩, hi.not_inSpan hformed⟩
  · refine .inr ⟨⟨p, hp, fun q hq => hq.unique hformed hp⟩, fun i hi => hi.not_inSpan hformed p hp⟩

end LogicalLine

end SmartyLayout
