import SmartyLayout.Markup.Embedded
import SmartyLayout.Proofs.Margins

/-!
# SmartyLayout.Proofs.EmbeddedCode — code indented by bracket depth

The body of a script or style is indented line by line, each line by the brackets in front of it.
Brackets count outside literals only, and blanks do not count, so a line's part in this is its core:

* `indentLines_ofAtoms`: the lines that are written are the cores of the code, each behind its
  indentation (`placed`);
* `read_indent`: they are the logical lines of the indented code;
* `indent_trim_indent`: without the blanks around it, indented code is indented already, since the
  first line that is not blank stands at depth zero.

`indent_moves_blanks` says this of the code itself.
-/

namespace SmartyLayout

open Text Atom

namespace Text

theorem blank_unlines {ls : List Text} (h : ∀ l ∈ ls, l = []) : blank (unlines ls) = true := by
  induction ls with
  | nil => rfl
  | cons l ls ih =>
    rw [List.forall_mem_cons] at h
    by_cases hnil : ls = []
    · rw [hnil, unlines_singleton, h.1, blank_nil]
    · rw [unlines_cons l hnil, blank_append, h.1, blank_cons, ih h.2]
      rfl

/-- Empty lines around a text are trimmed with it. -/
theorem trim_unlines_between {es ts es' : List Text} (hes : ∀ l ∈ es, l = [])
    (hes' : ∀ l ∈ es', l = []) (hne : ts ≠ []) (hsolid : Solid (unlines ts)) :
    trim (unlines (es ++ (ts ++ es'))) = unlines ts := by
  obtain ⟨g', hg', hbehind⟩ : ∃ g', blank g' = true ∧ unlines (ts ++ es') = unlines ts ++ g' := by
    by_cases hnil : es' = []
    · exact ⟨[], rfl, by simp [hnil]⟩
    · refine ⟨'\n' :: unlines es', ?_, unlines_append hne hnil⟩
      rw [blank_cons, isBlank_newline, Bool.true_and, blank_unlines hes']
  obtain ⟨g, hg, hfront⟩ :
      ∃ g, blank g = true ∧ unlines (es ++ (ts ++ es')) = g ++ unlines (ts ++ es') := by
    by_cases hnil : es = []
    · exact ⟨[], rfl, by simp [hnil]⟩
    · refine ⟨unlines es ++ ['\n'], ?_, ?_⟩
      · rw [blank_append, blank_unlines hes]
        rfl
      · rw [unlines_append hnil (List.append_ne_nil_of_left_ne_nil hne es'), List.append_assoc]
        rfl
  rw [hfront, hbehind, ← List.append_assoc, hsolid.trim_append hg hg']

theorem solid_unlines {ts : List Text}
    (hfirst : ∃ c rest ls, ts = (c :: rest) :: ls ∧ isBlank c = false)
    (hlast : ∃ ls front c, ts = ls ++ [front ++ [c]] ∧ isBlank c = false) : Solid (unlines ts) := by
  constructor
  · obtain ⟨c, rest, ls, rfl, hc⟩ := hfirst
    by_cases hnil : ls = []
    · exact ⟨c, rest, by rw [hnil, unlines_singleton], hc⟩
    · exact ⟨c, _, by rw [unlines_cons _ hnil, List.cons_append], hc⟩
  · obtain ⟨ls, front, c, rfl, hc⟩ := hlast
    by_cases hnil : ls = []
    · exact ⟨front, c, by rw [hnil, List.nil_append, unlines_singleton], hc⟩
    · refine ⟨unlines ls ++ '\n' :: front, c, ?_, hc⟩
      rw [unlines_append hnil (List.cons_ne_nil _ _), unlines_singleton, List.append_assoc,
        List.cons_append]

theorem trim_trim (t : Text) : trim (trim t) = trim t := by
  cases h : blank t with
  | true => rw [trim_of_blank h, trim_of_blank blank_nil]
  | false =>
    obtain ⟨-, -, -, hsolid⟩ := exists_solid_core h
    exact hsolid.trim_eq

/-- A text without blanks at its ends has no line breaks there. -/
theorem Solid.trimBreaks_eq {t : Text} (h : Solid t) : trimBreaks t = t := by
  have hbreak {c : Char} (hc : isBlank c = false) : ¬ (c == '\n') = true := by
    rw [beq_iff_eq]
    rintro rfl
    exact absurd hc (by decide)
  have hstart : t.dropWhile (· == '\n') = t := by
    obtain ⟨c, rest, rfl, hc⟩ := h.first
    exact List.dropWhile_cons_of_neg (hbreak hc)
  obtain ⟨front, e, hlast, he⟩ := h.last
  rw [trimBreaks, hstart, hlast]
  exact List.rdropWhile_concat_neg _ _ _ (hbreak he)

end Text

namespace Embedded

/-! ## Brackets outside literals -/

/-- How far a run of units moves the bracket depth. -/
def net : List Atom → Int
  | [] => 0
  | .plain c :: as => (if opensBracket c then 1 else if closesBracket c then -1 else 0) + net as
  | .literal _ _ :: as => net as

theorem net_append (as bs : List Atom) : net (as ++ bs) = net as + net bs := by
  induction as with
  | nil => simp [net]
  | cons a as ih =>
    cases a with
    | plain c => rw [List.cons_append, net, net, ih, Int.add_assoc]
    | literal kind lexeme => exact ih

theorem net_map_plain {g : Text} (hg : blank g = true) : net (g.map plain) = 0 := by
  induction g with
  | nil => rfl
  | cons c g ih =>
    rw [blank_cons, Bool.and_eq_true] at hg
    -- no blank is a bracket, so all of them can be tried
    have hc : opensBracket c = false ∧ closesBracket c = false :=
      forall_of_isBlank (P := fun c => opensBracket c = false ∧ closesBracket c = false)
        (by decide) hg.1
    simp [net, hc, ih hg.2]

theorem net_core (as : List Atom) : net (core as) = net as := by
  obtain ⟨lead, g, hlead, hg, has⟩ := exists_core_append as
  conv_rhs => rw [has, net_append, net_append, net_map_plain hlead, net_map_plain hg, Int.zero_add,
    Int.add_zero]

theorem netFrom_append (l : LogicalLine) (pos : Nat) (s t : Text) :
    netFrom l pos (s ++ t) = netFrom l pos s + netFrom l (pos + size s) t := by
  induction s generalizing pos with
  | nil => simp [netFrom]
  | cons c s ih =>
    rw [List.cons_append, netFrom, netFrom, ih, size_cons, Int.add_assoc, Nat.add_assoc]

/-- Brackets in literals do not count. -/
theorem netFrom_of_inLiteral {l : LogicalLine} {pos : Nat} {t : Text}
    (h : ∀ n, pos ≤ n → n < pos + size t → l.inLiteral n = true) : netFrom l pos t = 0 := by
  induction t generalizing pos with
  | nil => rfl
  | cons c t ih =>
    have hc : 0 < c.utf8Size := Char.utf8Size_pos c
    rw [size_cons] at h
    have hlater : netFrom l (pos + c.utf8Size) t = 0 :=
      ih fun n hle hlt => h n (by omega) (by omega)
    rw [netFrom, h pos (by omega) (by omega), hlater]
    rfl

/-- The depth moves by the brackets among the plain units of a line. -/
theorem netFrom_ofAtoms (before as : List Atom) :
    netFrom (.ofAtoms (before ++ as)) (size (written before)) (written as) = net as := by
  induction as generalizing before with
  | nil => rfl
  | cons a as ih =>
    have hlater := ih (before ++ [a])
    rw [List.append_assoc, List.singleton_append, written_append, size_append, written_cons,
      written_nil, List.append_nil] at hlater
    rw [written_cons, netFrom_append, hlater]
    -- the literals of the line are looked up from where the unit begins
    have hbehind (n : Nat) : (LogicalLine.ofAtoms (before ++ a :: as)).inLiteral
        (size (written before) + n) = covers (fun _ => true) 0 (a :: as) n := by
      rw [LogicalLine.inLiteral_ofAtoms, covers_append_right]
    cases a with
    | plain c =>
      have hc : 0 < c.utf8Size := Char.utf8Size_pos c
      -- all later literals begin behind the character
      have hoff : covers (fun _ => true) (0 + c.utf8Size) as 0 = false :=
        covers_eq_false (.inl (by omega))
      have hplain : (LogicalLine.ofAtoms (before ++ plain c :: as)).inLiteral
          (size (written before)) = false := (hbehind 0).trans hoff
      simp [netFrom, hplain, net]
    | literal kind lexeme =>
      have hnone : netFrom (.ofAtoms (before ++ literal kind lexeme :: as)) (size (written before))
          lexeme = 0 := by
        refine netFrom_of_inLiteral fun n hle hlt => ?_
        obtain ⟨k, rfl⟩ := Nat.exists_eq_add_of_le hle
        have hhere : (⟨0, 0 + size lexeme⟩ : Span).contains k = true := by
          simp only [Span.contains, Bool.and_eq_true, decide_eq_true_eq]
          omega
        rw [hbehind, covers, spansFrom, List.any_cons, hhere]
        rfl
      rw [text_literal, hnone, Int.zero_add, net]

/-! ## Cores behind their indentation -/

/-- The lines with the given cores, each behind its indentation; `depth` is the bracket depth in
front of them. -/
def placed (unit : Text) : (depth : Nat) → List (List Atom) → List (List Atom)
  | _, [] => []
  | depth, c :: cs =>
    if c.isEmpty then [] :: placed unit depth cs
    else
      ((times (depth - leadingClosers (written c)) unit).map plain ++ c) ::
        placed unit (depth + net c).toNat cs

variable {unit : Text} {depth : Nat}

theorem placed_nil_cons (unit : Text) (depth : Nat) (cs : List (List Atom)) :
    placed unit depth ([] :: cs) = [] :: placed unit depth cs := rfl

theorem placed_cons {c : List Atom} (hc : c ≠ []) (cs : List (List Atom)) :
    placed unit depth (c :: cs) =
      ((times (depth - leadingClosers (written c)) unit).map plain ++ c) ::
        placed unit (depth + net c).toNat cs := by
  rw [placed, if_neg (by simpa using hc)]

/-- Indentation writes the cores of the lines. -/
theorem indentLines_ofAtoms {ls : List (List Atom)} (hsound : ∀ as ∈ ls, ∀ a ∈ as, a.Sound) :
    indentLines unit depth (ls.map .ofAtoms) = (placed unit depth (ls.map core)).map written := by
  induction ls generalizing depth with
  | nil => rfl
  | cons as ls ih =>
    rw [List.forall_mem_cons] at hsound
    have hcore : trim (LogicalLine.ofAtoms as).text = written (core as) :=
      (written_core hsound.1).symm
    -- the blanks around a core move the depth nowhere
    have hdepth : depthAfter (.ofAtoms as) depth = (depth + net (core as)).toNat := by
      have hnet := netFrom_ofAtoms [] as
      rw [List.nil_append] at hnet
      rw [depthAfter, net_core, ← hnet]
      rfl
    rw [List.map_cons, List.map_cons, indentLines, hcore]
    by_cases hnil : core as = []
    · rw [hnil, placed_nil_cons, List.map_cons, ← ih hsound.2]
      rfl
    · have hne : (written (core as)).isEmpty = false := by
        obtain ⟨c, rest, hfirst, -⟩ := (solid_written_core hsound.1 hnil).first
        rw [hfirst]
        rfl
      rw [placed_cons hnil, List.map_cons, written_append, written_map_plain, ← ih hsound.2, hdepth]
      simp [hne]

theorem placed_ne_nil {cs : List (List Atom)} (h : cs ≠ []) : placed unit depth cs ≠ [] := by
  obtain ⟨c, cs, rfl⟩ := List.exists_cons_of_ne_nil h
  rw [placed]
  split <;> simp

theorem placed_append (unit : Text) (depth : Nat) (cs ds : List (List Atom)) :
    ∃ depth', placed unit depth (cs ++ ds) = placed unit depth cs ++ placed unit depth' ds := by
  induction cs generalizing depth with
  | nil => exact ⟨depth, rfl⟩
  | cons c cs ih =>
    by_cases hc : c = []
    · obtain ⟨depth', hrest⟩ := ih depth
      exact ⟨depth', by rw [hc, List.cons_append, placed_nil_cons, hrest]; rfl⟩
    · obtain ⟨depth', hrest⟩ := ih (depth + net c).toNat
      exact ⟨depth', by rw [List.cons_append, placed_cons hc, hrest, placed_cons hc]; rfl⟩

/-- Blank lines leave the depth alone. -/
theorem placed_empty_append {es : List (List Atom)} (hes : ∀ c ∈ es, c = [])
    (cs : List (List Atom)) : placed unit depth (es ++ cs) = es ++ placed unit depth cs := by
  induction es with
  | nil => rfl
  | cons c es ih =>
    rw [List.forall_mem_cons] at hes
    rw [hes.1, List.cons_append, placed_nil_cons, ih hes.2, List.cons_append]

/-- Each core stands behind some indent units, and an empty one behind none. -/
theorem forall₂_placed (unit : Text) (depth : Nat) (cs : List (List Atom)) :
    List.Forall₂ (fun c o => ∃ n, (c = [] → n = 0) ∧ o = (times n unit).map plain ++ c) cs
      (placed unit depth cs) := by
  induction cs generalizing depth with
  | nil => exact .nil
  | cons c cs ih =>
    by_cases hc : c = []
    · rw [hc, placed_nil_cons]
      exact .cons ⟨0, fun _ => rfl, rfl⟩ (ih depth)
    · rw [placed_cons hc]
      exact .cons ⟨_, fun hnil => absurd hnil hc, rfl⟩ (ih _)

theorem mem_of_mem_placed {cs : List (List Atom)} {o : List Atom} (h : o ∈ placed unit depth cs) :
    ∃ c ∈ cs, ∃ n, o = (times n unit).map plain ++ c := by
  have hall := forall₂_placed unit depth cs
  have hlength := hall.length_eq
  obtain ⟨i, hi, rfl⟩ := List.getElem_of_mem h
  obtain ⟨n, -, hn⟩ := hall.get (by omega) hi
  exact ⟨_, List.getElem_mem _, n, hn⟩

/-- Indentation does not change the cores. -/
theorem map_core_placed (hunit : blank unit = true) {cs : List (List Atom)}
    (hcs : ∀ c ∈ cs, core c = c) : (placed unit depth cs).map core = cs := by
  -- line by line: indentation is not part of a core
  have hall := (List.forall₂_and_left ..).2 ⟨hcs, forall₂_placed unit depth cs⟩
  have heq : List.Forall₂ (· = ·) cs ((placed unit depth cs).map core) := by
    rw [List.forall₂_map_right_iff]
    refine hall.imp ?_
    rintro c o ⟨hc, n, -, rfl⟩
    rw [core_blank_append (blank_times hunit n), hc]
  exact (List.forall₂_eq_eq_eq ▸ heq).symm

/-! ## Indented code -/

/-- The cores of the lines of a text, an empty one for each blank line. -/
def lineCores (d : Dialect) (t : Text) : List (List Atom) :=
  (read d t).map core

section

variable {d : Dialect} {t : Text}

theorem facts_of_mem_lineCores {c : List Atom} (h : c ∈ lineCores d t) :
    core c = c ∧ (∀ a ∈ c, a.Sound) ∧ plain '\n' ∉ c := by
  obtain ⟨as, has, rfl⟩ := List.mem_map.1 h
  obtain ⟨hsound, hbreak⟩ := facts_of_mem_read has
  exact ⟨core_core as, fun a ha => hsound a ((isInfix_core as).subset ha),
    fun hmem => hbreak ((isInfix_core as).subset hmem)⟩

theorem indentLines_split (unit : Text) (d : Dialect) (t : Text) :
    indentLines unit 0 (LogicalLine.split d t) = (placed unit 0 (lineCores d t)).map written :=
  indentLines_ofAtoms fun _ has => (facts_of_mem_read has).1

/-- Cores of a text behind their indentation, without some blank lines, are the lines of what is
written. -/
theorem read_unlines_placed (hunit : blank unit = true) (hbreak : '\n' ∉ unit)
    {cs : List (List Atom)} (hne : cs ≠ []) (hsub : cs ⊆ lineCores d t)
    (hcores : (cs.filter fun c => !c.isEmpty) = (lineCores d t).filter fun c => !c.isEmpty) :
    read d (unlines ((placed unit depth cs).map written)) = placed unit depth cs := by
  have hcs : ∀ c ∈ cs, core c = c := fun c hc => (facts_of_mem_lineCores (hsub hc)).1
  refine read_unlines_of_cores (t := t) (placed_ne_nil hne) (fun o ho hmem => ?_) ?_
  · obtain ⟨c, hc, n, rfl⟩ := mem_of_mem_placed ho
    -- a break would stand in the indentation or in the core
    rcases List.mem_append.1 hmem with hmem | hmem
    · obtain ⟨e, he, heq⟩ := List.mem_map.1 hmem
      rw [Atom.plain.inj heq] at he
      exact hbreak (mem_of_mem_times he)
    · exact (facts_of_mem_lineCores (hsub hc)).2.2 hmem
  · rw [cores_eq_filter, map_core_placed hunit hcs, hcores, cores_eq_filter, lineCores]

/-! ### Blank lines around the code -/

/-- Some lines without the blank ones in front of them and behind them. -/
theorem exists_middle (cs : List (List Atom)) :
    ∃ es mid es', cs = es ++ (mid ++ es') ∧ (∀ c ∈ es, c = []) ∧ (∀ c ∈ es', c = []) ∧
      (mid ≠ [] →
        (∃ c rest, mid = c :: rest ∧ c ≠ []) ∧ ∃ front c, mid = front ++ [c] ∧ c ≠ []) := by
  refine ⟨cs.takeWhile List.isEmpty, (cs.dropWhile List.isEmpty).rdropWhile List.isEmpty,
    (cs.dropWhile List.isEmpty).rtakeWhile List.isEmpty, ?_, ?_, ?_, fun hne => ⟨?_, ?_⟩⟩
  · rw [List.rdropWhile_append_rtakeWhile, List.takeWhile_append_dropWhile]
  · exact fun c hc => List.isEmpty_iff.1 (List.mem_takeWhile_imp hc)
  · exact fun c hc => List.isEmpty_iff.1 (List.mem_rtakeWhile_imp hc)
  · -- what is left in front is the first line that is not empty
    obtain ⟨c, rest, hcons⟩ := List.exists_cons_of_ne_nil hne
    obtain ⟨back, hback⟩ := List.rdropWhile_prefix List.isEmpty (cs.dropWhile List.isEmpty)
    have hhead := List.head?_dropWhile_not List.isEmpty cs
    rw [← hback, hcons] at hhead
    exact ⟨c, rest, hcons, by simpa using hhead⟩
  · refine ⟨_, _, (List.dropLast_append_getLast hne).symm, ?_⟩
    simpa using List.rdropWhile_last_not List.isEmpty (cs.dropWhile List.isEmpty) hne

/-- Indented code begins and ends with a visible character, if its first and last line are not
blank. -/
theorem solid_unlines_placed {cs : List (List Atom)} (hsub : cs ⊆ lineCores d t)
    (hfirst : ∃ c rest, cs = c :: rest ∧ c ≠ []) (hlast : ∃ front c, cs = front ++ [c] ∧ c ≠ []) :
    Solid (unlines ((placed unit 0 cs).map written)) := by
  have hsolid {c : List Atom} (hc : c ∈ cs) (hne : c ≠ []) : Solid (written c) := by
    obtain ⟨hcore, hsound, -⟩ := facts_of_mem_lineCores (hsub hc)
    rw [← hcore] at hne ⊢
    exact solid_written_core hsound hne
  apply solid_unlines
  · obtain ⟨c, rest, rfl, hne⟩ := hfirst
    obtain ⟨e, tail, htext, he⟩ := (hsolid List.mem_cons_self hne).first
    -- the first line stands at depth zero
    have hzero : times (0 - leadingClosers (written c)) unit = [] := by
      rw [Nat.zero_sub]
      rfl
    rw [placed_cons hne, List.map_cons, written_append, written_map_plain, hzero, htext]
    exact ⟨e, tail, _, rfl, he⟩
  · obtain ⟨front, c, rfl, hne⟩ := hlast
    obtain ⟨body, e, htext, he⟩ := (hsolid (by simp) hne).last
    obtain ⟨depth, happend⟩ := placed_append unit 0 front [c]
    rw [happend, placed_cons hne, List.map_append, List.map_cons, written_append, written_map_plain,
      htext, ← List.append_assoc]
    exact ⟨_, _, e, rfl, he⟩

theorem indent_eq (d : Dialect) (unit code : Text) :
    indent d unit code = unlines ((placed unit 0 (lineCores d (trimBreaks code))).map written) := by
  rw [indent, indentLines_split]

/-- Without the blanks around it, indented code is indented already. -/
theorem indent_trim_indent (d : Dialect) (hunit : blank unit = true) (hbreak : '\n' ∉ unit)
    (code : Text) :
    indent d unit (trim (indent d unit code)) = trim (indent d unit code) := by
  obtain ⟨es, mid, es', hlines, hes, hes', hmid⟩ := exists_middle (lineCores d (trimBreaks code))
  obtain ⟨depth, hbehind⟩ := placed_append unit 0 mid es'
  have hempty : placed unit depth es' = es' := by
    have hall : placed unit depth (es' ++ []) = es' ++ placed unit depth [] :=
      placed_empty_append hes' []
    simpa [placed] using hall
  have hplaced :
      placed unit 0 (lineCores d (trimBreaks code)) = es ++ (placed unit 0 mid ++ es') := by
    rw [hlines, placed_empty_append hes, hbehind, hempty]
  have hwritten {cs : List (List Atom)} (hcs : ∀ c ∈ cs, c = []) : ∀ l ∈ cs.map written, l = [] :=
    List.forall_mem_map.2 fun c hc => by rw [hcs c hc, written_nil]
  rw [indent_eq d unit code, hplaced, List.map_append, List.map_append]
  -- code of blank lines only is trimmed to nothing
  by_cases hnil : mid = []
  · have hblank : blank (unlines (es.map written ++ ((placed unit 0 mid).map written ++
        es'.map written))) = true := by
      refine blank_unlines ?_
      rw [hnil, placed, List.map_nil, List.nil_append, List.forall_mem_append]
      exact ⟨hwritten hes, hwritten hes'⟩
    rw [trim_of_blank hblank]
    rfl
  · have hsub : mid ⊆ lineCores d (trimBreaks code) := by
      rw [hlines]
      exact List.subset_append_of_subset_right _ (List.subset_append_left _ _)
    have hsolid : Solid (unlines ((placed unit 0 mid).map written)) :=
      solid_unlines_placed hsub (hmid hnil).1 (hmid hnil).2
    have hne : (placed unit 0 mid).map written ≠ [] := by
      have hplacedMid : placed unit 0 mid ≠ [] := placed_ne_nil hnil
      simpa using hplacedMid
    rw [trim_unlines_between (hwritten hes) (hwritten hes') hne hsolid]
    -- the lines of the trimmed code have the cores `mid`
    have hread : lineCores d (unlines ((placed unit 0 mid).map written)) = mid := by
      have hcores : ∀ c ∈ mid, core c = c := fun c hc => (facts_of_mem_lineCores (hsub hc)).1
      have hshown {cs : List (List Atom)} (hcs : ∀ c ∈ cs, c = []) :
          (cs.filter fun c => !c.isEmpty) = [] :=
        List.filter_eq_nil_iff.2 fun c hc => by simp [hcs c hc]
      have hsame : (mid.filter fun c => !c.isEmpty) =
          (lineCores d (trimBreaks code)).filter fun c => !c.isEmpty := by
        rw [hlines, List.filter_append, List.filter_append, hshown hes, hshown hes', List.nil_append,
          List.append_nil]
      rw [lineCores, read_unlines_placed hunit hbreak hnil hsub hsame, map_core_placed hunit hcores]
    rw [indent_eq, hsolid.trimBreaks_eq, hread]

/-- The lines of indented code are the cores of the code behind their indentation. -/
theorem read_indent (d : Dialect) (hunit : blank unit = true) (hbreak : '\n' ∉ unit) (code : Text) :
    read d (indent d unit code) = placed unit 0 (lineCores d (trimBreaks code)) := by
  have hne : lineCores d (trimBreaks code) ≠ [] := by simp [lineCores, Atom.read]
  rw [indent_eq]
  exact read_unlines_placed hunit hbreak hne (List.Subset.refl _) rfl

/-! ### What stays -/

/-- Line breaks around a text bring no cores. -/
theorem cores_read_trimBreaks (d : Dialect) (t : Text) :
    cores (read d (trimBreaks t)) = cores (read d t) := by
  -- a break in front is an empty line above, one behind an empty line below
  have hfront : cores (read d (t.dropWhile (· == '\n'))) = cores (read d t) := by
    induction t with
    | nil => rfl
    | cons c t ih =>
      by_cases hc : c = '\n'
      · have hnone : Literal.at? d ('\n' :: t) = none :=
          Literal.at?_eq_none_of_blank isBlank_newline t
        rw [hc, List.dropWhile_cons_of_pos rfl, ih, read_cons_of_at?_eq_none hnone, if_pos rfl,
          cores, cores, shown_cons_of_all rfl]
      · rw [List.dropWhile_cons_of_neg (by simpa using hc)]
  have hback (s : Text) (n : Nat) :
      cores (read d (s ++ List.replicate n '\n')) = cores (read d s) := by
    induction n with
    | zero => rw [List.replicate_zero, List.append_nil]
    | succ n ih =>
      rw [List.replicate_succ', ← List.append_assoc, Reindenter.read_append_newline, cores,
        shown_append, ← ih]
      simp [shown, cores]
  obtain ⟨n, hn⟩ := exists_dropFinalBreaks_append (t.dropWhile (· == '\n'))
  rw [← hfront, trimBreaks]
  conv_rhs => rw [← hn]
  exact (hback _ n).symm

/-- The line `o` is the line `l` behind some indent units, and an empty line if `l` is blank. It
holds what `l` holds. -/
structure Indents (unit : Text) (l o : LogicalLine) : Prop where
  text : ∃ n, (l.blank = true → n = 0) ∧ o.text = times n unit ++ trim l.text
  units : o.units = l.units
  literals : o.literals = l.literals

theorem indents_ofAtoms (hunit : blank unit = true) {as o : List Atom} (hsound : ∀ a ∈ as, a.Sound)
    (h : ∃ n, (core as = [] → n = 0) ∧ o = (times n unit).map plain ++ core as) :
    Indents unit (.ofAtoms as) (.ofAtoms o) := by
  obtain ⟨n, hzero, rfl⟩ := h
  -- both lines have the same core, and blanks hold nothing
  have hheld {α : Type} {f : Atom → List α} (hf : ∀ a, a.isGap = true → f a = []) :
      ((times n unit).map plain ++ core as).flatMap f = as.flatMap f := by
    rw [← flatMap_core hf, core_blank_append (blank_times hunit n), core_core, flatMap_core hf]
  constructor
  · refine ⟨n, fun hblank => hzero ?_, ?_⟩
    · rw [core_eq_nil_iff, ← blank_written hsound]
      exact hblank
    · rw [text_ofAtoms, text_ofAtoms, written_append, written_map_plain, written_core hsound]
  · rw [units_ofAtoms, units_ofAtoms, hheld fun _ => units_eq_nil]
  · rw [literals_ofAtoms, literals_ofAtoms, hheld fun _ => lexeme_eq_nil]

end

/-- Indenting embedded code by spaces or tabs moves blanks outside literals and nothing else: the
visible characters and the literals stay, in their order, and each logical line of the code gives
one line. Without the blanks around it, indented code is not changed by indenting it again. -/
theorem indent_moves_blanks (d : Dialect) {unit : Text} (hunit : ∀ c ∈ unit, c = ' ' ∨ c = '\t')
    (code : Text) :
    visible (indent d unit code) = visible code ∧
    (LogicalLine.split d (indent d unit code)).flatMap LogicalLine.units =
      (LogicalLine.split d code).flatMap LogicalLine.units ∧
    (LogicalLine.split d (indent d unit code)).flatMap LogicalLine.literals =
      (LogicalLine.split d code).flatMap LogicalLine.literals ∧
    List.Forall₂ (Indents unit) (LogicalLine.split d (trimBreaks code))
      (LogicalLine.split d (indent d unit code)) ∧
    trim (indent d unit (trim (indent d unit code))) = trim (indent d unit code) := by
  have hblank : blank unit = true := by
    refine blank_iff.2 fun c hc => ?_
    rcases hunit c hc with rfl | rfl <;> decide
  have hbreak : '\n' ∉ unit := by
    intro hmem
    exact absurd (hunit '\n' hmem) (by decide)
  have hread := read_indent d hblank hbreak code
  have hcores : cores (read d (indent d unit code)) = cores (read d code) := by
    have hcs : ∀ c ∈ lineCores d (trimBreaks code), core c = c :=
      fun c hc => (facts_of_mem_lineCores hc).1
    rw [← cores_read_trimBreaks d code, cores_eq_filter, cores_eq_filter, hread,
      map_core_placed hblank hcs, lineCores]
  obtain ⟨hvisible, hunits, hliterals⟩ := LogicalLine.eq_of_cores hcores
  refine ⟨hvisible, hunits, hliterals, ?_, ?_⟩
  · have hsound : ∀ as ∈ read d (trimBreaks code), ∀ a ∈ as, a.Sound :=
      fun as has => (facts_of_mem_read has).1
    have hplaced := forall₂_placed unit 0 (lineCores d (trimBreaks code))
    rw [lineCores, List.forall₂_map_left_iff] at hplaced
    rw [LogicalLine.split, LogicalLine.split, hread, List.forall₂_map_left_iff,
      List.forall₂_map_right_iff, lineCores]
    refine ((List.forall₂_and_left ..).2 ⟨hsound, hplaced⟩).imp ?_
    exact fun as o h => indents_ofAtoms hblank h.1 h.2
  · rw [indent_trim_indent d hblank hbreak code, trim_trim]

/-- A script with brackets in a string and in a comment, the comment over two lines, indented by a
tab. -/
theorem indent_moves_blanks_script :
    let code := "\n  if (a) \x7b  \n\n/* \x7b\n  ( */ f(\"(\", [\n 1])\n  \x7d; \n\n".toList
    let indented := "if (a) \x7b\n\n\t/* \x7b\n  ( */ f(\"(\", [\n\t\t\t1])\n\x7d;".toList
    indent .single ['\t'] code = indented ∧
    (LogicalLine.split .single indented).flatMap LogicalLine.literals =
      (LogicalLine.split .single code).flatMap LogicalLine.literals ∧
    List.Forall₂ (Indents ['\t']) (LogicalLine.split .single (trimBreaks code))
      (LogicalLine.split .single indented) ∧
    trim (indent .single ['\t'] (trim indented)) = trim indented := by
  intro code indented
  have hunit : ∀ c ∈ ['\t'], c = ' ' ∨ c = '\t' := by simp
  have hindent : indent .single ['\t'] code = indented := by decide +kernel
  obtain ⟨-, -, hliterals, hlines, hagain⟩ := indent_moves_blanks .single hunit code
  rw [hindent] at hliterals hlines hagain
  exact ⟨hindent, hliterals, hlines, hagain⟩

end Embedded

end SmartyLayout
