import SmartyLayout.Proofs.Idempotence

/-!
# SmartyLayout.Proofs.SecondPass — what is laid out is not cut again

Layout writes each line as its parts, behind other blanks. `Relaid` is this relation between the
units of a line and those of the lines it is written as. It is a reflow (`Relaid.reflowed`), so the
lines that are written are the logical lines of what is written (`exists_relaid_split`), and on them
every transition but the first stands in a literal: `uncut_reindent`.
-/

namespace SmartyLayout

open Text

namespace Atom

/-! ## Lines written as their parts -/

/-- A part of a line behind blanks. -/
def Indented (c o : List Atom) : Prop :=
  ∃ g : Text, blank g = true ∧ o = g.map .plain ++ c

/-- The lines that a line is written as: one empty line if it is blank, and else its parts without the
blanks around them, each behind some indentation. -/
inductive Relaid : List Atom → List (List Atom) → Prop
  | blank {g : Text} (hg : Text.blank g = true) : Relaid (g.map .plain) [[]]
  | parts {lead g : Text} {bs : List Atom} {cs os : List (List Atom)} (hlead : Text.blank lead = true)
      (hg : Text.blank g = true) (hparts : Parts bs cs) (hsolid : ∀ c ∈ cs, Solid (written c))
      (hos : List.Forall₂ Indented cs os) : Relaid (lead.map .plain ++ (bs ++ g.map .plain)) os

theorem Relaid.ne_nil {as : List Atom} {os : List (List Atom)} (h : Relaid as os) : os ≠ [] := by
  cases h with
  | blank => simp
  | parts _ _ hparts _ hos =>
    rintro rfl
    exact hparts.ne_nil (List.forall₂_nil_right_iff.1 hos)

/-- A line that is written is empty or a solid part behind blanks. -/
theorem Relaid.eq_nil_or_indented {as : List Atom} {os : List (List Atom)} (h : Relaid as os) :
    ∀ o ∈ os, o = [] ∨ ∃ c, Indented c o ∧ Solid (written c) ∧ c <:+: as := by
  cases h with
  | blank => simp
  | @parts lead g bs _ _ _ _ hparts hsolid hos =>
    intro o ho
    obtain ⟨n, hn, rfl⟩ := List.getElem_of_mem ho
    -- lines and parts are paired by their number
    have hlength := hos.length_eq
    have hpart := hparts.infix_of_mem (List.getElem_mem (by omega : n < _))
    refine .inr ⟨_, List.Forall₂.get hos (by omega) hn, hsolid _ (List.getElem_mem _), ?_⟩
    exact hpart.trans ⟨lead.map plain, g.map plain, by simp⟩

theorem isGap_of_blank {g : Text} (hg : blank g = true) :
    ∀ a ∈ g.map plain, ∃ c, a = plain c ∧ isBlank c = true := by
  intro a ha
  obtain ⟨c, hc, rfl⟩ := List.mem_map.1 ha
  exact ⟨c, rfl, blank_iff.1 hg c hc⟩

/-- Indenting a part, on a line of its own, is reflowing it with the blanks in front of it. -/
theorem Indented.reflowed {c o gap us us' : List Atom} (ho : Indented c o)
    (hgap : ∀ a ∈ gap, ∃ c, a = plain c ∧ isBlank c = true)
    (hnear : plain '\n' ∈ gap ∨ (c ++ us).head? = some (plain '{')) (hus : Reflowed us us') :
    Reflowed (gap ++ (c ++ us)) (plain '\n' :: o ++ us') := by
  obtain ⟨g, hg, rfl⟩ := ho
  have hbreak : ∀ a ∈ plain '\n' :: g.map plain, ∃ c, a = plain c ∧ isBlank c = true :=
    List.forall_mem_cons.2 ⟨⟨'\n', rfl, isBlank_newline⟩, isGap_of_blank hg⟩
  have hreflow : Reflowed (gap ++ (c ++ us)) ((plain '\n' :: g.map plain) ++ (c ++ us')) :=
    .gap hgap hbreak (by simp) hnear (hus.keepAll c)
  simpa using hreflow

/-- Breaking a run of units into its parts and indenting them, each on a line of its own, is reflowing
it. -/
theorem Parts.reflowed_indented {bs : List Atom} {cs os : List (List Atom)} (h : Parts bs cs)
    (hos : List.Forall₂ Indented cs os) {gap us us' : List Atom}
    (hgap : ∀ a ∈ gap, ∃ c, a = plain c ∧ isBlank c = true)
    (hnear : plain '\n' ∈ gap ∨ (bs ++ us).head? = some (plain '{')) (hus : Reflowed us us') :
    Reflowed (gap ++ (bs ++ us)) (os.flatMap (plain '\n' :: ·) ++ us') := by
  induction h generalizing gap os with
  | whole as =>
    obtain ⟨o, _, ho, hnil, rfl⟩ := List.forall₂_cons_left_iff.1 hos
    cases hnil
    simpa using ho.reflowed hgap hnear hus
  | @cut as g bs cs hg hcs ih =>
    obtain ⟨o, os', ho, hos', rfl⟩ := List.forall₂_cons_left_iff.1 hos
    -- the part behind the gap begins with a brace, so a break may stand there
    have hrest := ih hos' (isGap_of_blank hg) (.inr rfl)
    rw [List.append_assoc, List.append_assoc] at hnear ⊢
    rw [List.flatMap_cons, List.append_assoc]
    exact ho.reflowed hgap hnear hrest

/-- Writing the lines of a document is reflowing it, with a break in front of every line. `g` are
blanks in front of the first break. -/
theorem Relaid.reflowed {ls : List (List Atom)} {oss : List (List (List Atom))}
    (h : List.Forall₂ Relaid ls oss) {g : Text} (hg : Text.blank g = true) :
    Reflowed (g.map plain ++ ls.flatMap (plain '\n' :: ·))
      (oss.flatten.flatMap (plain '\n' :: ·)) := by
  induction h generalizing g with
  | nil => exact .done (by simpa using isGap_of_blank hg) (by simp)
  | @cons as os ls oss has _ ih =>
    have hbreak (g' : Text) (hg' : Text.blank g' = true) :
        ∀ a ∈ g.map plain ++ plain '\n' :: g'.map plain, ∃ c, a = plain c ∧ isBlank c = true :=
      List.forall_mem_append.2 ⟨isGap_of_blank hg,
        List.forall_mem_cons.2 ⟨⟨'\n', rfl, isBlank_newline⟩, isGap_of_blank hg'⟩⟩
    rw [List.flatMap_cons, List.flatten_cons, List.flatMap_append]
    cases has with
    | @blank g' hg' =>
      -- the blanks of the line stand in front of the next break
      have hline : Reflowed ((g.map plain ++ [plain '\n']) ++
          (g'.map plain ++ ls.flatMap (plain '\n' :: ·)))
          ([plain '\n'] ++ oss.flatten.flatMap (plain '\n' :: ·)) :=
        .gap (hbreak [] rfl) (by simp [isBlank_newline]) (by simp) (.inl (by simp)) (ih hg')
      simpa using hline
    | @parts lead g' bs cs os hlead hg' hparts _ hos =>
      have hline := hparts.reflowed_indented hos (hbreak lead hlead) (.inl (by simp)) (ih hg')
      simpa using hline

theorem cons_intercalate_eq_flatMap {α : Type} (x : α) {xs : List (List α)} (h : xs ≠ []) :
    x :: [x].intercalate xs = xs.flatMap (x :: ·) := by
  induction xs with
  | nil => exact absurd rfl h
  | cons y ys ih =>
    by_cases hys : ys = []
    · simp [hys]
    · rw [List.intercalate_cons_of_ne_nil hys, List.flatMap_cons, ← ih hys]
      simp

/-- If a text is reflowed into lines, with a break in front of every line, these are the lines of
what is written. -/
theorem Reads.read_unlines {d : Dialect} {us : List Atom} (hus : Reads d us) {os : List (List Atom)}
    (hne : os ≠ []) (hfree : ∀ o ∈ os, plain '\n' ∉ o)
    (h : Reflowed ((us.splitOn (plain '\n')).flatMap (plain '\n' :: ·))
      (os.flatMap (plain '\n' :: ·))) :
    read d (unlines (os.map written)) = os := by
  have hreads : Reads d ([plain '\n'].intercalate os) := by
    rw [← cons_intercalate_eq_flatMap _ (List.splitOn_ne_nil _ us),
      ← cons_intercalate_eq_flatMap _ hne, List.intercalate_splitOn] at h
    -- a break in front of the text lets every line have one, and is taken away again
    have hbreak : Reads d (['\n'].map plain ++ us) :=
      reads_map_plain_append (by simp [isBlank_newline]) hus
    exact (hbreak.reflowed h).2
  rw [← written_intercalate, read_written hreads, List.splitOn_intercalate _ hfree hne]

/-- The lines that a text is written as are the lines of what is written. -/
theorem Relaid.split_unlines {d : Dialect} {us : List Atom} (hus : Reads d us)
    {oss : List (List (List Atom))} (h : List.Forall₂ Relaid (us.splitOn (plain '\n')) oss)
    (hfree : ∀ o ∈ oss.flatten, plain '\n' ∉ o) :
    LogicalLine.split d (unlines (oss.flatten.map written)) = oss.flatten.map .ofAtoms := by
  have hne : oss.flatten ≠ [] := by
    obtain ⟨as, ls, hls⟩ := List.exists_cons_of_ne_nil (List.splitOn_ne_nil (plain '\n') us)
    rw [hls] at h
    obtain ⟨os, oss', hos, -, rfl⟩ := List.forall₂_cons_left_iff.1 h
    exact List.append_ne_nil_of_left_ne_nil hos.ne_nil _
  rw [LogicalLine.split, hus.read_unlines hne hfree (Relaid.reflowed h (g := []) rfl)]

end Atom

namespace Reindenter

open Atom Transition

variable {r : Reindenter}

/-! ## No line is cut again -/

/-- No line is to be cut. The verbatim state goes from line to line, from the first one to the
last. -/
inductive Uncut (r : Reindenter) : Verbatim → List (List Atom) → Verbatim → Prop
  | nil (v : Verbatim) : Uncut r v [] v
  | cons {v last : Verbatim} {o : List Atom} {os : List (List Atom)}
      (hlit : ∀ t ∈ (r.resolved v o).1.tail, (LogicalLine.ofAtoms o).inLiteral t.offset = true)
      (h : Uncut r (r.resolved v o).2 os last) : Uncut r v (o :: os) last

/-- A line that is not to be cut is written on one line. -/
theorem length_line {st : State} {l : LogicalLine}
    (h : ∀ t ∈ (resolve r.taxonomy st.verbatim (r.tags l)).1.tail, l.inLiteral t.offset = true) :
    (r.line st l).1.length = 1 := by
  -- a line is cut only at transitions behind the first and outside literals
  have hcuts : cuts l (resolve r.taxonomy st.verbatim (r.tags l)).1 = [] := by
    refine List.filter_eq_nil_iff.2 fun offset hoffset => ?_
    obtain ⟨t, ht, rfl⟩ := List.mem_map.1 hoffset
    simp [h t ht]
  cases hblank : l.blank with
  | true => simp [line, hblank]
  | false => simp [line, hblank, pieces, hcuts, emit]

namespace Uncut

variable {v last : Verbatim} {os os' : List (List Atom)}

theorem append {mid : Verbatim} (h : Uncut r v os mid) (h' : Uncut r mid os' last) :
    Uncut r v (os ++ os') last := by
  induction h with
  | nil => exact h'
  | cons hlit _ ih => exact .cons hlit (ih h')

theorem forall₂_transitions (h : Uncut r v os last) :
    List.Forall₂ (fun (l : LogicalLine) (ts : List Transition) =>
        ∀ t ∈ ts.tail, l.inLiteral t.offset = true)
      (os.map .ofAtoms) (r.transitions v (os.map .ofAtoms)) := by
  induction h with
  | nil => exact .nil
  | cons hlit _ ih => exact .cons hlit ih

theorem length_run (h : Uncut r v os last) (s : RegionStack) :
    (r.run ⟨s, v⟩ (os.map .ofAtoms)).1.length = os.length := by
  induction h generalizing s with
  | nil => rfl
  | @cons v last o os hlit _ ih =>
    have hstate : (r.line ⟨s, v⟩ (.ofAtoms o)).2.verbatim = (r.resolved v o).2 := by
      rw [line_state]
      rfl
    have hrest := ih (r.line ⟨s, v⟩ (.ofAtoms o)).2.stack
    rw [← hstate] at hrest
    have hone : (r.line ⟨s, v⟩ (.ofAtoms o)).1.length = 1 := length_line hlit
    simp only [List.map_cons, run, List.length_append, hone, hrest, List.length_cons]
    omega

end Uncut

/-- Indentation moves the transitions of a part, and its literals along. -/
theorem Segmented.uncut {lead : Text} {v last : Verbatim} {cs os : List (List Atom)} {ps : List Piece}
    (h : Segmented r lead v cs ps last) (hos : List.Forall₂ Indented cs os) : Uncut r v os last := by
  induction h generalizing os with
  | nil =>
    cases hos
    exact .nil _
  | @cons v last c cs ps n hsolid hlit _ ih =>
    obtain ⟨_, os', ⟨g, hg, rfl⟩, hos', rfl⟩ := List.forall₂_cons_left_iff.1 hos
    have hmoved := resolved_blank_append (r := r) v hg c
    refine .cons ?_ ?_
    · intro t ht
      rw [hmoved, ← List.map_tail] at ht
      obtain ⟨u, hu, rfl⟩ := List.mem_map.1 ht
      -- indentation is no literal, so literals are moved as far as tags are
      have hcovers : covers (fun _ => true) 0 (g.map .plain ++ c)
            (size (written (g.map .plain)) + u.offset) = covers (fun _ => true) 0 c u.offset :=
        covers_append_right (g.map .plain) c u.offset
      rw [written_map_plain] at hcovers
      rw [LogicalLine.inLiteral_ofAtoms, offset_shift, hcovers, ← LogicalLine.inLiteral_ofAtoms]
      exact hlit u hu
    · rw [hmoved]
      exact ih hos'

/-- Parts behind indentation, as lines of units. -/
theorem exists_indented (hunit : blank r.unit = true) (hbreak : '\n' ∉ r.unit) {lead : Text}
    (hlead : blank lead = true) (hfree : '\n' ∉ lead) {cs : List (List Atom)} {out : List Text}
    (hcs : ∀ c ∈ cs, plain '\n' ∉ c)
    (h : List.Forall₂ (fun c out => ∃ n, out = times n r.unit ++ (lead ++ written c)) cs out) :
    ∃ os, List.Forall₂ Indented cs os ∧ out = os.map written ∧ ∀ o ∈ os, plain '\n' ∉ o := by
  induction h with
  | nil => exact ⟨[], .nil, rfl, by simp⟩
  | @cons c _ cs out hc _ ih =>
    rw [List.forall_mem_cons] at hcs
    obtain ⟨n, rfl⟩ := hc
    obtain ⟨os, hos, hout, hfrees⟩ := ih hcs.2
    have hindent : '\n' ∉ times n r.unit ++ lead := by
      rw [List.mem_append, not_or]
      exact ⟨fun hmem => hbreak (mem_of_mem_times hmem), hfree⟩
    refine ⟨((times n r.unit ++ lead).map .plain ++ c) :: os,
      .cons ⟨_, by simp [blank_times hunit n, hlead], rfl⟩ hos, ?_, ?_⟩
    · rw [List.map_cons, written_append, written_map_plain, List.append_assoc, hout]
    · refine List.forall_mem_cons.2 ⟨?_, hfrees⟩
      rw [List.mem_append, not_or]
      exact ⟨by simpa using hindent, hcs.1⟩

/-- A line is written as lines that are not to be cut. -/
theorem exists_relaid_line (hunit : blank r.unit = true) (hbreak : '\n' ∉ r.unit) {as : List Atom}
    (hsound : ∀ a ∈ as, a.Sound) (hfree : plain '\n' ∉ as) (st : State) :
    ∃ os, Relaid as os ∧ (r.line st (.ofAtoms as)).1 = os.map written ∧
      (∀ o ∈ os, plain '\n' ∉ o) ∧ Uncut r st.verbatim os (r.line st (.ofAtoms as)).2.verbatim := by
  cases hblank : (LogicalLine.ofAtoms as).blank with
  | true =>
    have hwritten : blank (written as) = true := hblank
    obtain ⟨bs, has, hbs⟩ := exists_blank_append hsound (blank_iff.1 hwritten)
      (List.append_nil (written as)).symm
    obtain rfl := eq_nil_of_written_eq_nil
      (fun a ha => hsound a (by rw [has]; exact List.mem_append_right _ ha)) hbs
    have hline : r.line st (.ofAtoms as) = ([[]], st) := by simp [line, hblank]
    have hnone : r.resolved st.verbatim [] = ([], st.verbatim) := rfl
    -- an empty line has no transition
    have hempty : Uncut r st.verbatim [[]] st.verbatim := .cons (by simp [hnone]) (.nil _)
    refine ⟨[[]], ?_, by rw [hline]; rfl, by simp, by rw [hline]; exact hempty⟩
    rw [has, List.append_nil]
    exact .blank hwritten
  | false =>
    obtain ⟨cs, bs, g, has, hg, hparts, hsegmented⟩ :=
      exists_segmented (r := r) hsound hblank st.verbatim
    have hlead := blank_leading (written as)
    generalize leading (written as) = lead at has hsegmented hlead
    rw [line_ofAtoms hblank]
    -- neither the parts nor the indentation in front of them hold a plain break
    have hcs : ∀ c ∈ cs, plain '\n' ∉ c := by
      intro c hc hmem
      apply hfree
      rw [has]
      exact List.mem_append_right _ (List.mem_append_left _ ((hparts.infix_of_mem hc).subset hmem))
    have hleadFree : '\n' ∉ lead := by
      intro hmem
      apply hfree
      rw [has]
      exact List.mem_append_left _ (List.mem_map_of_mem hmem)
    obtain ⟨os, hos, hout, hfrees⟩ := exists_indented hunit hbreak hlead hleadFree hcs
      (hsegmented.forall₂_emit (isMiddleLine (r.resolved st.verbatim as).1) st.stack)
    refine ⟨os, ?_, hout, hfrees, hsegmented.uncut hos⟩
    rw [has]
    exact .parts hlead hg hparts hsegmented.solid hos

/-- A document is written as lines that are not to be cut. -/
theorem exists_relaid_run (hunit : blank r.unit = true) (hbreak : '\n' ∉ r.unit)
    {ls : List (List Atom)} (hsound : ∀ as ∈ ls, ∀ a ∈ as, a.Sound)
    (hfree : ∀ as ∈ ls, plain '\n' ∉ as) (st : State) :
    ∃ oss, List.Forall₂ Relaid ls oss ∧ (r.run st (ls.map .ofAtoms)).1 = oss.flatten.map written ∧
      (∀ o ∈ oss.flatten, plain '\n' ∉ o) ∧
      Uncut r st.verbatim oss.flatten (r.run st (ls.map .ofAtoms)).2.verbatim := by
  induction ls generalizing st with
  | nil => exact ⟨[], .nil, rfl, by simp, .nil _⟩
  | cons as ls ih =>
    rw [List.forall_mem_cons] at hsound hfree
    obtain ⟨os, hrelaid, hout, hos, huncut⟩ :=
      exists_relaid_line hunit hbreak hsound.1 hfree.1 st
    obtain ⟨oss, hrelaids, houts, hoss, huncuts⟩ := ih hsound.2 hfree.2 (r.line st (.ofAtoms as)).2
    refine ⟨os :: oss, .cons hrelaid hrelaids, ?_, ?_, ?_⟩
    · simp only [List.map_cons, run, List.flatten_cons, List.map_append, hout, houts]
    · rw [List.flatten_cons, List.forall_mem_append]
      exact ⟨hos, hoss⟩
    · rw [List.flatten_cons]
      exact huncut.append huncuts

/-- What is laid out consists of lines that are not to be cut, each empty or a solid part of the text
behind indentation. -/
theorem exists_relaid_split (hunit : blank r.unit = true) (hbreak : '\n' ∉ r.unit) (d : Dialect)
    (t : Text) :
    ∃ os : List (List Atom),
      LogicalLine.split d (r.reindent (LogicalLine.split d t)) = os.map .ofAtoms ∧
      (∀ o ∈ os, plain '\n' ∉ o ∧
        (o = [] ∨ ∃ c, Indented c o ∧ Solid (written c) ∧ written c <:+: t)) ∧
      ∃ last, Uncut r none os last := by
  obtain ⟨us, rfl, hus⟩ := exists_reads d t
  have hsplit : LogicalLine.split d (written us) = (us.splitOn (plain '\n')).map .ofAtoms := by
    rw [LogicalLine.split, read_written hus]
  obtain ⟨oss, hrelaid, hout, hfree, huncut⟩ := exists_relaid_run hunit hbreak (r := r)
    (fun as has a ha => hus.sound a (mem_of_mem_splitOn has ha).1)
    (fun as has hmem => (mem_of_mem_splitOn has hmem).2 rfl) {}
  refine ⟨oss.flatten, ?_, ?_, _, huncut⟩
  · rw [hsplit, reindent, hout, Relaid.split_unlines hus hrelaid hfree]
  · intro o ho
    refine ⟨hfree o ho, ?_⟩
    obtain ⟨os, hos, ho⟩ := List.mem_flatten.1 ho
    -- the line comes from the logical line of the same number
    obtain ⟨n, hn, rfl⟩ := List.getElem_of_mem hos
    have hlength := hrelaid.length_eq
    have hline : (us.splitOn (plain '\n')).get ⟨n, by omega⟩ ∈ us.splitOn (plain '\n') :=
      List.get_mem _ _
    refine ((List.Forall₂.get hrelaid (by omega) hn).eq_nil_or_indented o ho).imp_right ?_
    rintro ⟨c, hc, hsolid, hpart⟩
    exact ⟨c, hc, hsolid, written_infix_of_mem_splitOn hline hpart⟩

/-- No line of what is laid out is cut again: every transition of it but the first stands in a
literal, and so the second pass writes one line for each. -/
theorem uncut_reindent (d : Dialect) (tax : Taxonomy) (o : Options) (t : Text) :
    let r : Reindenter := ⟨tax, o.indentUnit⟩
    let ls := LogicalLine.split d (r.reindent (LogicalLine.split d t))
    List.Forall₂ (fun (l : LogicalLine) (ts : List Transition) =>
        ∀ t ∈ ts.tail, l.inLiteral t.offset = true) ls (r.transitions none ls) ∧
      (r.run {} ls).1.length = ls.length := by
  intro r ls
  obtain ⟨os, hsplit, -, last, huncut⟩ := exists_relaid_split (r := r) o.blank_indentUnit
    o.newline_not_mem_indentUnit d t
  have hls : ls = os.map .ofAtoms := hsplit
  rw [hls, List.length_map]
  exact ⟨huncut.forall₂_transitions, huncut.length_run _⟩

end Reindenter

end SmartyLayout
