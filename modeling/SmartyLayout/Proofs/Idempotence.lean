import SmartyLayout.Proofs.Flush
import SmartyLayout.Proofs.Nesting
import SmartyLayout.Proofs.Parts
import SmartyLayout.Proofs.Reflow
import SmartyLayout.Proofs.Stages

/-!
# SmartyLayout.Proofs.Idempotence — layout of what is laid out

Trimming the lines of a text and re-indenting it is a normal form: doing it again changes nothing
(`relayout_relayout`), if no line both splits and closes blocks. The argument goes through the
*parts* that the first pass writes its lines as:

* `exists_parts_run`: the first pass writes the same as a pass over the parts would, each part behind
  some indentation;
* `Broken.split_unlines`: the parts, written one below the other, are read as these very lines, since
  layout opens no literal;
* `trimEach_unlines`: trimming the lines that were written gives the parts back.
-/

namespace SmartyLayout

open Text

/-! ## A document and its parts -/

namespace Atom

/-- The lines of a document, each with the parts it is cut into. -/
abbrev Broken : List (List Atom) → List (List (List Atom)) → Prop :=
  List.Forall₂ Parts

theorem Parts.ne_nil {as : List Atom} {cs : List (List Atom)} (h : Parts as cs) : cs ≠ [] := by
  cases h <;> simp

/-- A part of a line is a part of the text. -/
theorem written_infix_of_mem_splitOn {us as c : List Atom} (has : as ∈ us.splitOn (plain '\n'))
    (hc : c <:+: as) : written c <:+: written us := by
  obtain ⟨front, back, rfl⟩ := hc
  have hus : written us = unlines ((us.splitOn (plain '\n')).map written) := by
    rw [← written_intercalate, List.intercalate_splitOn]
  have hline : written (front ++ c ++ back) <:+: written us := by
    rw [hus]
    exact infix_unlines (List.mem_map_of_mem has)
  exact List.IsInfix.trans ⟨written front, written back, by simp⟩ hline

theorem Parts.infix_of_mem {as : List Atom} {cs : List (List Atom)} (h : Parts as cs)
    {c : List Atom} (hc : c ∈ cs) : c <:+: as := by
  induction h with
  | whole as =>
    rw [List.mem_singleton] at hc
    rw [hc]
  | @cut as g bs cs _ _ ih =>
    rcases List.mem_cons.1 hc with rfl | hc
    · exact (List.prefix_append c _).isInfix
    · have hrest : plain '{' :: bs <:+ as ++ (g.map plain ++ plain '{' :: bs) :=
        (List.suffix_append _ _).trans (List.suffix_append _ _)
      exact (ih hc).trans hrest.isInfix

/-- Breaking a line into its parts is reflowing it. -/
theorem Parts.reflowed {as : List Atom} {cs : List (List Atom)} (h : Parts as cs)
    {us us' : List Atom} (hus : Reflowed us us') :
    Reflowed (as ++ us) ([plain '\n'].intercalate cs ++ us') := by
  induction h with
  | whole as =>
    rw [List.intercalate_singleton]
    exact hus.keepAll as
  | @cut as g bs cs hg hcs ih =>
    rw [List.intercalate_cons_of_ne_nil hcs.ne_nil, List.append_assoc, List.append_assoc,
      List.append_assoc, List.append_assoc]
    -- the blanks in front of a brace become a break
    refine Reflow.keepAll as (.gap ?_ ?_ (by simp) (.inr rfl) ih)
    · intro a ha
      obtain ⟨c, hc, rfl⟩ := List.mem_map.1 ha
      exact ⟨c, rfl, blank_iff.1 hg c hc⟩
    · intro a ha
      exact ⟨'\n', List.mem_singleton.1 ha, isBlank_newline⟩

namespace Broken

variable {ls : List (List Atom)} {ps : List (List (List Atom))}

theorem flatten_ne_nil (h : Broken ls ps) (hls : ls ≠ []) : ps.flatten ≠ [] := by
  cases h with
  | nil => exact absurd rfl hls
  | cons hcs _ => exact List.append_ne_nil_of_left_ne_nil hcs.ne_nil _

/-- Breaking the lines of a document is reflowing it. -/
theorem reflowed (h : Broken ls ps) :
    Reflowed ([plain '\n'].intercalate ls) ([plain '\n'].intercalate ps.flatten) := by
  induction h with
  | nil => exact .refl _
  | @cons as cs ls ps hcs hps ih =>
    -- the last line has no break behind it
    by_cases hnil : ls = []
    · subst hnil
      cases hps
      simpa using hcs.reflowed (.refl [])
    · rw [List.intercalate_cons_of_ne_nil hnil, List.flatten_cons,
        intercalate_append _ hcs.ne_nil (flatten_ne_nil hps hnil), List.append_assoc]
      exact hcs.reflowed (.keep _ ih)

theorem exists_infix_of_mem (h : Broken ls ps) {c : List Atom} (hc : c ∈ ps.flatten) :
    ∃ as ∈ ls, c <:+: as := by
  induction h with
  | nil => simp at hc
  | @cons as cs ls ps hcs _ ih =>
    rw [List.flatten_cons, List.mem_append] at hc
    rcases hc with hc | hc
    · exact ⟨as, by simp, hcs.infix_of_mem hc⟩
    · obtain ⟨bs, hbs, hpart⟩ := ih hc
      exact ⟨bs, by simp [hbs], hpart⟩

/-- The parts of the lines of a text, written one below the other, are the lines of what is written. -/
theorem split_unlines {d : Dialect} {us : List Atom} (hus : Reads d us)
    (h : Broken (us.splitOn (plain '\n')) ps) :
    LogicalLine.split d (unlines (ps.flatten.map written)) = ps.flatten.map .ofAtoms := by
  -- reflowing does not change how a text is read, so the parts are read as they were
  have hreads : Reads d ([plain '\n'].intercalate ps.flatten) := by
    have hreflowed := h.reflowed
    rw [List.intercalate_splitOn] at hreflowed
    exact hus.reflowed hreflowed
  have hfree : ∀ c ∈ ps.flatten, plain '\n' ∉ c := by
    intro c hc hmem
    obtain ⟨as, has, hpart⟩ := h.exists_infix_of_mem hc
    exact (mem_of_mem_splitOn has (hpart.subset hmem)).2 rfl
  have hne : ps.flatten ≠ [] := h.flatten_ne_nil (List.splitOn_ne_nil _ us)
  rw [← written_intercalate, LogicalLine.split, read_written hreads,
    List.splitOn_intercalate _ hfree hne]

end Broken

end Atom

namespace Reindenter

open Atom Transition

variable {r : Reindenter}

theorem run_ne_nil (st : State) {ls : List LogicalLine} (h : ls ≠ []) : (r.run st ls).1 ≠ [] := by
  obtain ⟨l, ls, rfl⟩ := List.exists_cons_of_ne_nil h
  exact List.append_ne_nil_of_left_ne_nil (line_ne_nil st l) _

theorem line_empty (st : State) : r.line st (.ofAtoms []) = ([[]], st) := rfl

/-- A solid or empty line is written as its parts are. -/
theorem exists_parts_line {as : List Atom} (st : State) (hsound : ∀ a ∈ as, a.Sound)
    (hsolid : written as = [] ∨ Solid (written as))
    (hunmixed : Unmixed (r.resolved st.verbatim as).1) :
    ∃ cs, Parts as cs ∧ (∀ c ∈ cs, written c = [] ∨ Solid (written c)) ∧
      r.run st (cs.map .ofAtoms) = r.line st (.ofAtoms as) ∧
      List.Forall₂ (fun c out => ∃ n, out = times n r.unit ++ written c) cs
        (r.line st (.ofAtoms as)).1 := by
  rcases hsolid with hnil | hsolid
  · obtain rfl := eq_nil_of_written_eq_nil hsound hnil
    refine ⟨[[]], .whole [], by simp, ?_, ?_⟩
    · simp [run, line_empty]
    · rw [line_empty]
      exact .cons ⟨0, rfl⟩ .nil
  · obtain ⟨cs, hparts, hsolids, hrun, hout⟩ := exists_parts hsound hsolid st hunmixed
    exact ⟨cs, hparts, fun c hc => .inr (hsolids c hc), hrun, hout⟩

/-- A document of solid and empty lines is written as its parts are. -/
theorem exists_parts_run {ls : List (List Atom)} (st : State)
    (hsound : ∀ as ∈ ls, ∀ a ∈ as, a.Sound)
    (hsolid : ∀ as ∈ ls, written as = [] ∨ Solid (written as))
    (hunmixed : ∀ ts ∈ r.transitions st.verbatim (ls.map .ofAtoms), Unmixed ts) :
    ∃ ps, Broken ls ps ∧ (∀ c ∈ ps.flatten, written c = [] ∨ Solid (written c)) ∧
      r.run st (ps.flatten.map .ofAtoms) = r.run st (ls.map .ofAtoms) ∧
      List.Forall₂ (fun c out => ∃ n, out = times n r.unit ++ written c) ps.flatten
        (r.run st (ls.map .ofAtoms)).1 := by
  induction ls generalizing st with
  | nil => exact ⟨[], .nil, by simp, rfl, .nil⟩
  | cons as ls ih =>
    rw [List.map_cons, transitions, List.forall_mem_cons] at hunmixed
    have hverbatim : (resolve r.taxonomy st.verbatim (r.tags (.ofAtoms as))).2 =
        (r.line st (.ofAtoms as)).2.verbatim := by
      rw [resolve_snd, line_state]
    -- the verbatim state behind a line is the one its parts leave too
    rw [hverbatim] at hunmixed
    obtain ⟨cs, hparts, hcs, hrun, hout⟩ := exists_parts_line st (hsound as (by simp))
      (hsolid as (by simp)) hunmixed.1
    obtain ⟨ps, hbroken, hps, hruns, houts⟩ := ih (r.line st (.ofAtoms as)).2
      (fun bs hbs => hsound bs (by simp [hbs])) (fun bs hbs => hsolid bs (by simp [hbs])) hunmixed.2
    refine ⟨cs :: ps, .cons hparts hbroken, ?_, ?_, ?_⟩
    · rw [List.flatten_cons, List.forall_mem_append]
      exact ⟨hcs, hps⟩
    · rw [List.flatten_cons, List.map_append, run_append, hrun, hruns]
      rfl
    · exact List.rel_append hout houts

/-! ## Final breaks -/

/-- A text, re-indented, with its final breaks dropped. -/
def laidOut (r : Reindenter) (d : Dialect) (t : Text) : Text :=
  dropFinalBreaks (r.reindent (LogicalLine.split d t))

/-- Behind a break at the end of a text stands an empty line. -/
theorem read_append_newline (d : Dialect) (t : Text) : read d (t ++ ['\n']) = read d t ++ [[]] := by
  obtain ⟨us, rfl, hus⟩ := exists_reads d t
  -- a break at the end is one more blank
  have hend : Atom.Reflowed us (us ++ [plain '\n']) := by
    have hlast : Atom.Reflowed [] [plain '\n'] := .done (by simp) (by simp)
    simpa using hlast.keepAll us
  have hread := read_written (hus.reflowed hend)
  rw [written_append, List.splitOn_append_cons_self] at hread
  rw [read_written hus]
  exact hread

theorem split_append_newline (d : Dialect) (t : Text) :
    LogicalLine.split d (t ++ ['\n']) = LogicalLine.split d t ++ [.ofAtoms []] := by
  rw [LogicalLine.split, read_append_newline, List.map_append]
  rfl

/-- A break at the end of a text stays at its end. -/
theorem reindent_append_newline (d : Dialect) (t : Text) :
    r.reindent (LogicalLine.split d (t ++ ['\n'])) =
      r.reindent (LogicalLine.split d t) ++ ['\n'] := by
  have hne : LogicalLine.split d t ≠ [] := by simp [LogicalLine.split, Atom.read]
  rw [split_append_newline, reindent, run_append,
    unlines_append (run_ne_nil _ hne) (run_ne_nil _ (List.cons_ne_nil _ [])), reindent]
  rfl

/-- Breaks at the end of a text do not show. -/
theorem laidOut_append_breaks (d : Dialect) (t : Text) (n : Nat) :
    r.laidOut d (t ++ List.replicate n '\n') = r.laidOut d t := by
  induction n with
  | zero => simp
  | succ n ih =>
    rw [List.replicate_succ', ← List.append_assoc, laidOut, reindent_append_newline,
      dropFinalBreaks_concat_newline, ← ih, laidOut]

/-! ## The second pass -/

/-- Trimming the lines that were written gives the parts back. -/
theorem trimEach_unlines (hunit : blank r.unit = true) (hbreak : '\n' ∉ r.unit)
    {cs : List (List Atom)} {out : List Text} (hcs : ∀ c ∈ cs, Flush (written c))
    (h : List.Forall₂ (fun c out => ∃ n, out = times n r.unit ++ written c) cs out) :
    trimEach (unlines out) = unlines (cs.map written) := by
  -- a part may hold literals that span lines, so lines are trimmed one by one
  have hlines : (out.flatMap lines).map trim = (cs.map written).flatMap lines := by
    induction h with
    | nil => rfl
    | @cons c o cs out hc _ ih =>
      obtain ⟨n, rfl⟩ := hc
      rw [List.forall_mem_cons] at hcs
      have hindent : '\n' ∉ times n r.unit := fun hmem => hbreak (mem_of_mem_times hmem)
      rw [List.flatMap_cons, List.map_append, ih hcs.2, List.map_cons, List.flatMap_cons,
        map_trim_lines_blank_append (blank_times hunit n) hindent, hcs.1.map_trim_lines]
  by_cases hnil : cs = []
  · subst hnil
    cases h
    rfl
  · have hout : out ≠ [] := by
      rintro rfl
      exact hnil (List.forall₂_nil_right_iff.1 h)
    rw [trimEach, lines_unlines hout, hlines, ← lines_unlines (by simpa using hnil), unlines_lines]

/-- Trims the lines of a text, re-indents it and drops its final breaks. -/
def relayout (r : Reindenter) (d : Dialect) (t : Text) : Text :=
  r.laidOut d (Beautifier.trimmed t)

/-- What is trimmed after final breaks are dropped is laid out as what is trimmed with them. -/
theorem relayout_dropFinalBreaks (d : Dialect) (t : Text) :
    r.relayout d (dropFinalBreaks t) = r.laidOut d (trimEach t) := by
  obtain ⟨n, ht⟩ := exists_dropFinalBreaks_append t
  obtain ⟨m, htrim⟩ := Beautifier.exists_trimmed_append (dropFinalBreaks t)
  calc r.relayout d (dropFinalBreaks t)
      = r.laidOut d (trimEach (dropFinalBreaks t)) := by
        rw [relayout, ← htrim, laidOut_append_breaks]
    _ = r.laidOut d (trimEach t) := by
        conv_rhs => rw [← ht, trimEach_append_breaks, laidOut_append_breaks]

/-- Neither end of a line is a line break. -/
theorem eq_nil_or_solid_of_flush {as : List Atom} (hsound : ∀ a ∈ as, a.Sound)
    (hbreak : ∀ a ∈ as, a ≠ plain '\n') (h : Flush (written as)) :
    written as = [] ∨ Solid (written as) := by
  -- a literal may hold breaks, but not at its ends
  have hedge : ∀ a ∈ as, a.text ≠ [] ∧ a.text.head? ≠ some '\n' ∧ a.text.getLast? ≠ some '\n' := by
    intro a ha
    cases a with
    | plain c => simpa using hbreak (plain c) ha
    | literal kind lexeme =>
      obtain ⟨c, rest, hfirst, hc⟩ := (hsound _ ha).first
      obtain ⟨front, e, hlast, he⟩ := (hsound _ ha).last
      refine ⟨by simp [hfirst], ?_, ?_⟩
      · rintro heq
        obtain rfl : c = '\n' := by simpa [hfirst] using heq
        simp at hc
      · rintro heq
        obtain rfl : e = '\n' := by simpa [hlast] using heq
        simp at he
  refine h.eq_nil_or_solid ?_ ?_
  · cases as with
    | nil => simp
    | cons a as =>
      obtain ⟨hne, hhead, -⟩ := hedge a (by simp)
      rwa [written_cons, List.head?_append_of_ne_nil _ hne]
  · rcases List.eq_nil_or_concat' as with rfl | ⟨front, a, rfl⟩
    · simp
    · obtain ⟨hne, -, hlast⟩ := hedge a (by simp)
      rw [written_append, List.getLast?_append_of_ne_nil _ (by simpa using hne)]
      simpa using hlast

/-- A text whose lines are trimmed is written as its parts are, and these are the lines of the text
they make. -/
theorem exists_parts_of_flush {d : Dialect} {t : Text} (hflush : Flush t)
    (hunmixed : ∀ ts ∈ r.transitions none (LogicalLine.split d t), Unmixed ts) :
    ∃ cs : List (List Atom), (∀ c ∈ cs, Flush (written c)) ∧
      LogicalLine.split d (unlines (cs.map written)) = cs.map .ofAtoms ∧
      r.run {} (cs.map .ofAtoms) = r.run {} (LogicalLine.split d t) ∧
      List.Forall₂ (fun c out => ∃ n, out = times n r.unit ++ written c) cs
        (r.run {} (LogicalLine.split d t)).1 := by
  obtain ⟨us, rfl, hus⟩ := exists_reads d t
  have hsplit : LogicalLine.split d (written us) = (us.splitOn (plain '\n')).map .ofAtoms := by
    rw [LogicalLine.split, read_written hus]
  have hlines : written us = unlines ((us.splitOn (plain '\n')).map written) := by
    rw [← written_intercalate, List.intercalate_splitOn]
  have hsound : ∀ as ∈ us.splitOn (plain '\n'), ∀ a ∈ as, a.Sound :=
    fun as has a ha => hus.sound a (mem_of_mem_splitOn has ha).1
  have hsolid : ∀ as ∈ us.splitOn (plain '\n'), written as = [] ∨ Solid (written as) := by
    intro as has
    rw [hlines, flush_unlines_iff] at hflush
    exact eq_nil_or_solid_of_flush (hsound as has) (fun a ha => (mem_of_mem_splitOn has ha).2)
      (hflush (written as) (List.mem_map_of_mem has))
  rw [hsplit] at hunmixed ⊢
  obtain ⟨ps, hbroken, hparts, hrun, hout⟩ := exists_parts_run {} hsound hsolid hunmixed
  refine ⟨ps.flatten, ?_, hbroken.split_unlines hus, hrun, hout⟩
  intro c hc
  rcases hparts c hc with hnil | hsolid
  · rw [hnil]
    exact flush_nil
  · -- a solid part of a flush text
    obtain ⟨as, has, hpart⟩ := hbroken.exists_infix_of_mem hc
    exact hflush.of_infix hsolid (written_infix_of_mem_splitOn has hpart)

end Reindenter

theorem Options.newline_not_mem_indentUnit (o : Options) : '\n' ∉ o.indentUnit := by
  intro hmem
  rcases Options.eq_of_mem_indentUnit hmem with heq | heq
  · exact absurd heq (by decide)
  · exact absurd heq (by decide)

namespace Reindenter

open Atom Transition

/-- Layout of what is laid out changes nothing, unless some line both splits and closes blocks. -/
theorem relayout_relayout (d : Dialect) (tax : Taxonomy) (o : Options) (t : Text)
    (h : ∀ ts ∈ transitions ⟨tax, o.indentUnit⟩ none (LogicalLine.split d (Beautifier.trimmed t)),
      Unmixed ts) :
    relayout ⟨tax, o.indentUnit⟩ d (relayout ⟨tax, o.indentUnit⟩ d t) =
      relayout ⟨tax, o.indentUnit⟩ d t := by
  obtain ⟨cs, hflush, hsplit, hrun, hout⟩ := exists_parts_of_flush (Beautifier.flush_trimmed t) h
  have htrim := trimEach_unlines o.blank_indentUnit o.newline_not_mem_indentUnit hflush hout
  generalize (⟨tax, o.indentUnit⟩ : Reindenter) = r at hrun hout htrim ⊢
  calc r.relayout d (r.relayout d t)
      = r.laidOut d (trimEach (r.reindent (LogicalLine.split d (Beautifier.trimmed t)))) :=
        relayout_dropFinalBreaks d _
    _ = r.laidOut d (unlines (cs.map written)) := by rw [reindent, htrim]
    _ = dropFinalBreaks (r.reindent (cs.map .ofAtoms)) := by rw [laidOut, hsplit]
    _ = r.relayout d t := by rw [reindent, hrun, relayout, laidOut, reindent]

/-- Two lines that are cut, around a string that spans lines. -/
theorem relayout_relayout_cut_lines :
    let r : Reindenter := ⟨.default, Options.indentUnit {}⟩
    let t := "  \x7bif $a\x7d \x7bforeach $b as $c\x7d\n<p title=\"x\n y\">\n".toList ++
      "\x7b/foreach\x7d\x7b/if\x7d\n".toList
    r.relayout .single t ≠ t ∧ r.relayout .single (r.relayout .single t) = r.relayout .single t :=
  ⟨by decide, relayout_relayout .single .default {} _ (by decide)⟩

end Reindenter

end SmartyLayout
