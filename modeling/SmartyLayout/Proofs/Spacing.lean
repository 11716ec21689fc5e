import SmartyLayout.Proofs.Division

/-!
# SmartyLayout.Proofs.Spacing — layout changes nothing but blanks

The *units* of a logical line are its visible characters outside literals, each on its own, and its
literals, each as a whole. `Text.Spaced us t` says that the text `t` is the units `us` in order with
blanks around them. The main result, `Reindenter.spaced_reindent`, is that a text and its
re-indented form are spaced by the same units.
-/

namespace SmartyLayout

namespace Text

/-! ## Texts as spaced units -/

/-- The text is made of the units in order, with nothing but blanks in front of, between and behind
them. -/
inductive Spaced : List Text → Text → Prop
  | done {g : Text} (hg : blank g = true) : Spaced [] g
  | unit {us : List Text} {g u t : Text} (hg : blank g = true) (ht : Spaced us t) :
      Spaced (u :: us) (g ++ u ++ t)

namespace Spaced

variable {us vs : List Text} {s t : Text}

theorem blank_append {g : Text} (hg : blank g = true) (h : Spaced us t) : Spaced us (g ++ t) := by
  cases h with
  | done hg' => exact .done (by simp [hg, hg'])
  | @unit us g' u t hg' ht =>
    have hgap : blank (g ++ g') = true := by simp [hg, hg']
    simpa using Spaced.unit (u := u) hgap ht

theorem append (hs : Spaced us s) (ht : Spaced vs t) : Spaced (us ++ vs) (s ++ t) := by
  induction hs with
  | done hg => exact ht.blank_append hg
  | unit hg _ ih => simpa using Spaced.unit hg ih

theorem trimStart (hus : ∀ u ∈ us, Solid u) (h : Spaced us t) : Spaced us (trimStart t) := by
  cases h with
  | done hg =>
    rw [trimStart_of_blank hg]
    exact .done rfl
  | @unit us g u t hg ht =>
    obtain ⟨c, rest, hu, hc⟩ := (hus u (by simp)).first
    have hcut : Text.trimStart (g ++ u ++ t) = [] ++ u ++ t := by
      rw [List.append_assoc, trimStart_blank_append hg, hu, List.cons_append, trimStart_cons hc]
      rfl
    rw [hcut]
    exact .unit rfl ht

theorem trimEnd (hus : ∀ u ∈ us, Solid u) (h : Spaced us t) : Spaced us (trimEnd t) := by
  induction h with
  | done hg =>
    rw [trimEnd_of_blank hg]
    exact .done rfl
  | @unit us g u t hg ht ih =>
    obtain ⟨front, c, hu, hc⟩ := (hus u (by simp)).last
    have hlast : ∃ front c, g ++ u = front ++ [c] ∧ isBlank c = false :=
      ⟨g ++ front, c, by rw [hu, List.append_assoc], hc⟩
    -- trimming stops at the last unit, which ends with a visible character
    rw [trimEnd_append_of_solid hlast]
    exact .unit hg (ih fun v hv => hus v (List.mem_cons_of_mem u hv))

theorem trim (hus : ∀ u ∈ us, Solid u) (h : Spaced us t) : Spaced us (trim t) :=
  (h.trimStart hus).trimEnd hus

/-- Lines written one below the other, when each is spaced by its share of the units. -/
theorem unlines_append {xs ys : List Text} (hxs : xs ≠ []) (hys : ys ≠ [])
    (hs : Spaced us (unlines xs)) (ht : Spaced vs (unlines ys)) :
    Spaced (us ++ vs) (unlines (xs ++ ys)) := by
  have hbreak : blank ['\n'] = true := rfl
  rw [Text.unlines_append hxs hys]
  exact hs.append (ht.blank_append hbreak)

end Spaced

/-- The visible characters of a text, one by one. -/
def visibleUnits (t : Text) : List Text :=
  (visible t).map fun c => [c]

@[simp] theorem visibleUnits_append (s t : Text) :
    visibleUnits (s ++ t) = visibleUnits s ++ visibleUnits t := by
  simp [visibleUnits]

end Text

open Text

/-! ## The units of a line -/

namespace LogicalLine

/-- The units of a line from byte `pos` on: the visible characters up to the next literal, that
literal, and so on. -/
def unitsFrom (t : Text) : Nat → List LiteralSpan → List Text
  | pos, [] => visibleUnits (dropBytes pos t)
  | pos, s :: ss =>
    visibleUnits (Text.slice t ⟨pos, s.span.start⟩) ++
      Text.slice t s.span :: unitsFrom t s.span.stop ss

/-- The visible characters of a line outside its literals, and its literals, in order. -/
def units (l : LogicalLine) : List Text :=
  unitsFrom l.text 0 l.spans

end LogicalLine

namespace Atom

/-- A unit of a line as layout sees it. -/
def units : Atom → List Text
  | .plain c => visibleUnits [c]
  | .literal _ lexeme => [lexeme]

theorem solid_of_mem_units {a : Atom} (ha : a.Sound) : ∀ u ∈ a.units, Solid u := by
  intro u hu
  cases a with
  | plain c =>
    cases hc : isBlank c with
    | true => simp [units, visibleUnits, visible, hc] at hu
    | false =>
      have huc : u = [c] := by simpa [units, visibleUnits, visible, hc] using hu
      rw [huc]
      exact solid_singleton hc
  | literal kind lexeme => exact List.mem_singleton.1 hu ▸ ha

theorem solid_of_mem_flatMap_units {as : List Atom} (has : ∀ a ∈ as, a.Sound) :
    ∀ u ∈ as.flatMap units, Solid u := by
  intro u hu
  obtain ⟨a, ha, hu⟩ := List.mem_flatMap.1 hu
  exact solid_of_mem_units (has a ha) u hu

theorem spaced_text (a : Atom) : Spaced a.units a.text := by
  cases a with
  | plain c =>
    cases hc : isBlank c with
    | true =>
      have hnone : (plain c).units = [] := by simp [units, visibleUnits, visible, hc]
      rw [hnone]
      exact .done (by simp [hc])
    | false =>
      have hone : (plain c).units = [[c]] := by simp [units, visibleUnits, visible, hc]
      rw [hone]
      exact .unit blank_nil (.done blank_nil)
  | literal kind lexeme => simpa [units] using Spaced.unit (u := lexeme) blank_nil (.done blank_nil)

theorem spaced_written (as : List Atom) : Spaced (as.flatMap units) (written as) := by
  induction as with
  | nil => exact .done rfl
  | cons a as ih => exact a.spaced_text.append ih

/-- A plain line break is no unit. -/
theorem flatMap_units_intercalate (lines : List (List Atom)) :
    ([plain '\n'].intercalate lines).flatMap units = lines.flatMap (·.flatMap units) := by
  induction lines with
  | nil => rfl
  | cons as lines ih =>
    cases lines with
    | nil => simp
    | cons bs lines =>
      rw [List.intercalate_cons_cons, List.flatMap_append, List.flatMap_append, ih]
      simp [units, visibleUnits, visible]

/-- The spans of a line show its units; `gap` is the plain text since the last literal. -/
theorem unitsFrom_spansFrom (front gap : Text) (as : List Atom) :
    LogicalLine.unitsFrom (front ++ gap ++ written as) (size front)
        (spansFrom (size front + size gap) as) =
      visibleUnits gap ++ as.flatMap units := by
  induction as generalizing front gap with
  | nil => simp [spansFrom, LogicalLine.unitsFrom]
  | cons a as ih =>
    cases a with
    | plain c =>
      -- a plain character joins the gap, and shows up with it before the next literal
      have hlater := ih front (gap ++ [c])
      simp only [size_append, size_cons, size_nil, Nat.add_zero, ← Nat.add_assoc,
        visibleUnits_append, List.append_assoc] at hlater
      simpa [spansFrom, units] using hlater
    | literal kind lexeme =>
      have hgap := slice_append front gap (lexeme ++ written as)
      have hlexeme := slice_append (front ++ gap) lexeme (written as)
      have hlater := ih (front ++ gap ++ lexeme) []
      simp only [size_append, size_nil, Nat.add_zero, List.append_nil, List.append_assoc]
        at hgap hlexeme hlater
      simp only [spansFrom, LogicalLine.unitsFrom, written_cons, text_literal, List.append_assoc,
        hgap, hlexeme]
      rw [← Nat.add_assoc] at hlater
      rw [hlater]
      simp [visibleUnits, units]

theorem units_ofAtoms (as : List Atom) : (LogicalLine.ofAtoms as).units = as.flatMap units := by
  have hunits := unitsFrom_spansFrom [] [] as
  simp only [List.nil_append, size_nil, Nat.add_zero] at hunits
  exact hunits

end Atom

/-! ## Layout -/

namespace Reindenter

open Atom

variable {r : Reindenter}

theorem emit_ne_nil {m : Bool} {s : RegionStack} {ps : List Piece} (hps : ps ≠ []) :
    (r.emit m s ps).1 ≠ [] := by
  cases ps with
  | nil => exact absurd rfl hps
  | cons p ps => simp [emit]

theorem Divided.ne_nil {l : LogicalLine} {ts : List Transition} {start : Nat} {as : List Atom}
    {ps : List Piece} (h : Divided l ts start as ps) : ps ≠ [] := by
  cases h <;> simp

/-- The pieces of a line, written behind any indentation, are spaced by its units. -/
theorem Divided.spaced_emit (hunit : blank r.unit = true) {l : LogicalLine} {ts : List Transition}
    {start : Nat} {as : List Atom} {ps : List Piece} (h : Divided l ts start as ps)
    (has : ∀ a ∈ as, a.Sound) (m : Bool) (s : RegionStack) :
    Spaced (as.flatMap units) (unlines (r.emit m s ps).1) := by
  -- a piece loses blanks at its ends and gets others in front, so its units stay
  have hpiece (bs : List Atom) (hbs : ∀ b ∈ bs, b.Sound) (n : Nat) : Spaced (bs.flatMap units)
      (times n r.unit ++ (leading l.text ++ trim (written bs))) :=
    ((spaced_written bs).trim (solid_of_mem_flatMap_units hbs)).blank_append (blank_leading _)
      |>.blank_append (blank_times hunit n)
  induction h generalizing s with
  | whole _ _ => simpa [emit, unlines] using hpiece _ has _
  | @cut start stop as bs ps _ _ _ _ hrest ih =>
    rw [List.flatMap_append]
    have hfirst (n : Nat) : Spaced (as.flatMap units)
        (unlines [times n r.unit ++ (leading l.text ++ trim (written as))]) := by
      rw [unlines_singleton]
      exact hpiece as (fun a ha => has a (List.mem_append_left _ ha)) n
    have hlater := ih fun a ha => has a (List.mem_append_right _ ha)
    exact Spaced.unlines_append (List.cons_ne_nil _ []) (emit_ne_nil hrest.ne_nil) (hfirst _)
      (hlater _)

theorem line_ne_nil (st : State) (l : LogicalLine) : (r.line st l).1 ≠ [] := by
  unfold line
  split
  · simp
  · refine emit_ne_nil ?_
    unfold pieces
    split
    · simp
    · next hcuts =>
      cases h : cuts l (Transition.resolve r.taxonomy st.verbatim (r.tags l)).1 with
      | nil => exact absurd h hcuts
      | cons c cs => simp [piecesBetween]

/-- A logical line is written as its units with blanks around them. -/
theorem spaced_line (hunit : blank r.unit = true) {as : List Atom} (has : ∀ a ∈ as, a.Sound)
    (st : State) : Spaced (as.flatMap units) (unlines (r.line st (.ofAtoms as)).1) := by
  cases hblank : (LogicalLine.ofAtoms as).blank with
  | true =>
    -- a blank line has no units
    have hempty : (r.line st (.ofAtoms as)).1 = [[]] := by simp [line, hblank]
    have htrim := (spaced_written as).trim (solid_of_mem_flatMap_units has)
    have hnil : trim (written as) = [] := trim_of_blank hblank
    rw [hnil] at htrim
    rw [hempty]
    exact htrim
  | false =>
    have hdivided := divided_pieces (r := r) st.verbatim hblank
    simpa [line, hblank] using hdivided.spaced_emit hunit has _ _

/-- A whole run writes the units of its lines with blanks around them. -/
theorem spaced_run (hunit : blank r.unit = true) {lines : List (List Atom)}
    (hsound : ∀ as ∈ lines, ∀ a ∈ as, a.Sound) (st : State) :
    Spaced (lines.flatMap (·.flatMap units)) (unlines (r.run st (lines.map .ofAtoms)).1) := by
  induction lines generalizing st with
  | nil => exact .done rfl
  | cons as lines ih =>
    have hline := spaced_line hunit (hsound as (by simp)) st
    have hlater := ih (fun bs hbs => hsound bs (List.mem_cons_of_mem as hbs))
      (r.line st (.ofAtoms as)).2
    cases lines with
    | nil => simpa [run] using hline
    | cons bs lines =>
      refine Spaced.unlines_append (line_ne_nil st _) ?_ hline hlater
      exact List.append_ne_nil_of_left_ne_nil (line_ne_nil _ _) _

/-- Re-indenting a text changes blanks outside its literals and nothing else: the visible characters
outside literals and the whole literals of the text, in order and with blanks between them, make up
the text and its re-indented form alike. No line is cut inside a literal. -/
theorem spaced_reindent (d : Dialect) (tax : Taxonomy) (o : Options) (t : Text) :
    Spaced ((LogicalLine.split d t).flatMap (·.units)) t ∧
    Spaced ((LogicalLine.split d t).flatMap (·.units))
      (Reindenter.reindent ⟨tax, o.indentUnit⟩ (LogicalLine.split d t)) ∧
    ∀ l ∈ LogicalLine.split d t, ∀ ts, ∀ offset ∈ cuts l ts, ∀ s ∈ l.spans,
      s.span.contains offset = false := by
  obtain ⟨us, rfl, hus⟩ := exists_reads d t
  have hsplit : LogicalLine.split d (written us) =
      (us.splitOn (.plain '\n')).map .ofAtoms := by
    rw [LogicalLine.split, read_written hus]
  have hsound : ∀ as ∈ us.splitOn (.plain '\n'), ∀ a ∈ as, a.Sound :=
    fun as has a ha => hus.sound a (mem_of_mem_splitOn has ha).1
  have hunits : (LogicalLine.split d (written us)).flatMap (·.units) =
      (us.splitOn (.plain '\n')).flatMap (·.flatMap units) := by
    rw [hsplit, List.flatMap_map]
    exact List.flatMap_congr fun as _ => units_ofAtoms as
  refine ⟨?_, ?_, ?_⟩
  · have hall := flatMap_units_intercalate (us.splitOn (.plain '\n'))
    rw [List.intercalate_splitOn] at hall
    rw [hunits, ← hall]
    exact spaced_written us
  · rw [hunits, hsplit]
    exact spaced_run o.blank_indentUnit hsound {}
  · -- cuts are filtered by whether they stand in a literal
    intro l _ ts offset hoffset s hs
    have hlit := (List.mem_filter.1 hoffset).2
    simp only [LogicalLine.inLiteral, Bool.not_eq_true', List.any_eq_false] at hlit
    simpa using hlit s hs

end Reindenter

end SmartyLayout
