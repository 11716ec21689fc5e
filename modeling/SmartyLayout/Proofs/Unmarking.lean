import SmartyLayout.Proofs.MarkedReading
import SmartyLayout.Proofs.Spacing
import SmartyLayout.Proofs.Trace

/-!
# SmartyLayout.Proofs.Unmarking — removing markers from a layout

When layout is done, every marker is removed from the result, wherever one is found. On a text with
the same trace as the text with markers, just the inserted ones are found, so what is left is spaced
by the units of the text without markers (`spaced_unprotect`): its visible characters outside literals
and its literals, whole. Markers that fell into literals are removed from them without a trace, unless
they took the place of tabs and spaces.
-/

namespace SmartyLayout

namespace Text

/-! ## Traces of parts -/

theorem trace_false_eq_modifyHead (t : Text) :
    trace false t = (trace true t).modifyHead fun x => (x.1, false) := by
  induction t with
  | nil => rfl
  | cons c t ih =>
    cases hc : isBlank c with
    | true =>
      rw [trace_cons_of_blank _ hc, trace_cons_of_blank _ hc, ih]
      cases trace true t <;> rfl
    | false =>
      rw [trace_cons _ hc, trace_cons _ hc]
      rfl

/-- The trace of a text shows the trace of its last part. -/
theorem trace_append_congr {s t : Text} (h : trace true s = trace true t) (joined : Bool) (w : Text) :
    trace joined (w ++ s) = trace joined (w ++ t) := by
  induction w generalizing joined with
  | nil =>
    cases joined with
    | true => exact h
    | false => rw [List.nil_append, List.nil_append, trace_false_eq_modifyHead, h, ← trace_false_eq_modifyHead]
  | cons c w ih =>
    cases hc : isBlank c with
    | true => rw [List.cons_append, List.cons_append, trace_cons_of_blank _ hc, trace_cons_of_blank _ hc, ih]
    | false => rw [List.cons_append, List.cons_append, trace_cons _ hc, trace_cons _ hc, ih]

theorem trace_concat_append (joined : Bool) (w : Text) {c : Char} (hc : isBlank c = false) (t : Text) :
    trace joined ((w ++ [c]) ++ t) = trace joined (w ++ [c]) ++ trace true t := by
  induction w generalizing joined with
  | nil =>
    rw [List.nil_append, List.singleton_append, trace_cons _ hc, trace_cons _ hc]
    rfl
  | cons e w ih =>
    cases he : isBlank e with
    | true =>
      rw [List.cons_append, List.cons_append, trace_cons_of_blank _ he, trace_cons_of_blank _ he, ih]
    | false =>
      rw [List.cons_append, List.cons_append, trace_cons _ he, trace_cons _ he, ih, List.cons_append]

/-- Behind the same word, texts with the same trace have the same trace. -/
theorem trace_eq_of_trace_append_eq {g g' u s t : Text} (hu : Solid u) (hg : blank g = true)
    (hg' : blank g' = true) {joined joined' : Bool}
    (h : trace joined (g ++ u ++ s) = trace joined' (g' ++ u ++ t)) : trace true s = trace true t := by
  obtain ⟨front, c, rfl, hc⟩ := hu.last
  have hlen {g : Text} (hg : blank g = true) (joined : Bool) :
      (trace joined (g ++ front ++ [c])).length = (visible (front ++ [c])).length := by
    rw [← List.length_map Prod.fst, map_fst_trace, List.append_assoc, visible_append, visible_of_blank hg,
      List.nil_append]
  rw [← List.append_assoc g, ← List.append_assoc g', trace_concat_append _ _ hc,
    trace_concat_append _ _ hc] at h
  exact (List.append_inj h ((hlen hg joined).trans (hlen hg' joined').symm)).2

end Text

namespace IgnoreMarker

open Text Literal

/-! ## Where markers are found -/

/-- Whether a marker is found shows in the trace. -/
theorem marker?_eq_none_of_trace_eq {c : Char} {s t : Text} (h : trace true s = trace true t)
    (ht : marker? (c :: t) = none) : marker? (c :: s) = none := by
  cases hs : marker? (c :: s) with
  | none => rfl
  | some found =>
    exfalso
    obtain ⟨-, m, rest, heq, hm, -⟩ := marker?_eq_some_iff.1 hs
    obtain ⟨inner, word, rfl, hword, htrace⟩ := trace_of_isMarker hm
    rw [List.cons_append, List.cons.injEq] at heq
    obtain ⟨rfl, rfl⟩ := heq
    exact marker?_of_trace hword (h.symm.trans (htrace rest)) ht

/-- In a text with markers only the inserted markers are found, if no marked line ends in a stub. -/
theorem marker?_guarded_eq_none {cs : List Chunk} (hapart : cs.IsChain Chunk.Apart)
    (hfree : ∀ s, s <:+ cs.flatMap Chunk.source → marker? s = none)
    (hstub : ∀ l ∈ cs.filterMap Chunk.line?, endsInStub l = false) {xs ys : List Sign} {c : Char}
    (h : cs.flatMap Chunk.signs = xs ++ .char c :: ys) : marker? (c :: guarded ys) = none := by
  induction cs generalizing xs with
  | nil => simp at h
  | cons x cs ih =>
    have hlater {xs : List Sign} (h : cs.flatMap Chunk.signs = xs ++ .char c :: ys) :
        marker? (c :: guarded ys) = none := by
      refine ih hapart.tail (fun s hs => hfree s ?_) (fun l hl => hstub l ?_) h
      · exact hs.trans (List.suffix_append _ _)
      · rw [List.filterMap_cons]
        split
        · exact hl
        · exact List.mem_cons_of_mem _ hl
    cases x with
    | char e =>
      cases xs with
      | nil =>
        rw [List.flatMap_cons, Chunk.signs, List.singleton_append, List.nil_append, List.cons.injEq,
          Sign.char.injEq] at h
        obtain ⟨rfl, rfl⟩ := h
        rw [guarded_flatMap_signs]
        have hrun : e :: Chunk.run cs <+: (Chunk.char e :: cs).flatMap Chunk.source :=
          (List.prefix_cons_inj e).2 (Chunk.run_isPrefix_source cs)
        exact marker?_guarded_char hapart
          (marker?_eq_none_of_isPrefix hrun (hfree _ List.suffix_rfl))
      | cons s xs => exact hlater (List.cons.inj h).2
    | line indent text =>
      rw [List.flatMap_cons, Chunk.signs] at h
      cases xs with
      | nil => simp at h
      | cons s xs =>
        have hsplit : text.map Sign.char ++ .mark .stop [] :: cs.flatMap Chunk.signs =
            xs ++ .char c :: ys := by simpa using (List.cons.inj h).2
        rcases append_eq_append_cons_iff.1 hsplit with ⟨mid, rfl, hmid⟩ | ⟨mid, htext, rfl⟩
        · -- behind the line
          cases mid with
          | nil => simp at hmid
          | cons m mid => exact hlater (List.cons.inj hmid).2
        · -- in the line, where a marker would be one of the text or run into the inserted one
          obtain ⟨front, back, rfl, -, hback⟩ := List.map_eq_append_iff.1 htext
          obtain ⟨c', tail, rfl, hc, rfl⟩ := List.map_eq_cons_iff.1 hback
          obtain rfl : c' = c := by simpa using hc
          have hnone : marker? (c' :: tail) = none :=
            marker?_eq_none_of_isPrefix (List.prefix_append _ (cs.flatMap Chunk.source))
              (hfree _ ⟨indent ++ front, by simp [Chunk.source]⟩)
          by_contra hsome
          have hguarded : c' :: guarded (tail.map .char ++ .mark .stop [] :: cs.flatMap Chunk.signs) =
              (c' :: tail) ++ (closing ++ cs.flatMap Chunk.guarded) := by
            simp [guarded_flatMap_signs, Side.marker]
          rw [hguarded] at hsome
          have hm := isMarker_of_marker?_closing (List.cons_ne_nil c' tail) hnone hsome
          have hends := hstub (front ++ c' :: tail) (by simp)
          rw [endsInStub_iff.2 ⟨c' :: tail, List.suffix_append _ _, hm⟩] at hends
          exact absurd hends (by decide)

theorem unprotect_cons_of_none {c : Char} {t : Text} (h : marker? (c :: t) = none) :
    unprotect (c :: t) = c :: unprotect t := by
  simp [unprotect, substitute, segments_cons_of_none h, Segment.text]

theorem unprotect_blank_append {g : Text} (hg : blank g = true) (t : Text) :
    unprotect (g ++ t) = g ++ unprotect t := by
  induction g with
  | nil => rfl
  | cons c g ih =>
    rw [blank_cons, Bool.and_eq_true] at hg
    have hnone : marker? (c :: (g ++ t)) = none := by
      refine marker?_cons_of_ne ?_ _
      rintro rfl
      exact absurd hg.1 (by decide)
    rw [List.cons_append, unprotect_cons_of_none hnone, ih hg.2, List.cons_append]

/-- The signs of a literal or a character, in front of a text with the right trace. -/
theorem unprotect_guarded_append {ss : List Sign} {s t : Text} (htrace : trace true s = trace true t)
    (hkept : ∀ side g, .mark side g ∈ ss → g = [])
    (hmarker : ∀ xs c ys, ss = xs ++ .char c :: ys → marker? (c :: (guarded ys ++ t)) = none) :
    unprotect (guarded ss ++ s) = source ss ++ unprotect s := by
  induction ss with
  | nil => rfl
  | cons x ss ih =>
    have hrest := ih (fun side g hmem => hkept side g (List.mem_cons_of_mem _ hmem))
      (fun xs c ys hss => hmarker (x :: xs) c ys (by rw [hss]; rfl))
    cases x with
    | char c =>
      have hhere := marker?_eq_none_of_trace_eq (trace_append_congr htrace true (guarded ss))
        (hmarker [] c ss rfl)
      rw [guarded_char, source_char, List.cons_append, unprotect_cons_of_none hhere, hrest,
        List.cons_append]
    | mark side g =>
      obtain rfl : g = [] := hkept side g List.mem_cons_self
      have hm : IsMarker side.marker := by
        cases side with
        | start => exact isMarker_opening
        | stop => exact isMarker_closing
      rw [guarded_mark, List.append_assoc, unprotect_append_marker hm, hrest, source_mark,
        List.nil_append]

/-! ## Layouts of a text with markers -/

/-- A unit that is kept, in front of a layout of the units behind it. -/
theorem exists_unprotect_unit {ss later : List Sign} {us : List Text} {t : Text} {joined joined' : Bool}
    (hsolid : Solid (guarded ss)) (hkept : ∀ side g, .mark side g ∈ ss → g = [])
    (hmarker : ∀ xs c ys, ss ++ later = xs ++ .char c :: ys → marker? (c :: guarded ys) = none)
    (ht : Spaced (guarded ss :: us) t) (htrace : trace joined t = trace joined' (guarded (ss ++ later))) :
    ∃ g rest, blank g = true ∧ Spaced us rest ∧ trace true rest = trace true (guarded later) ∧
      unprotect t = g ++ source ss ++ unprotect rest := by
  cases ht with
  | @unit _ g _ rest hg hrest =>
    have hsame : trace joined (g ++ guarded ss ++ rest) = trace joined' ([] ++ guarded ss ++ guarded later) := by
      rw [htrace, guarded_append, List.nil_append]
    have hlater := trace_eq_of_trace_append_eq hsolid hg blank_nil hsame
    refine ⟨g, rest, hg, hrest, hlater, ?_⟩
    have hunit := unprotect_guarded_append hlater hkept fun xs c ys hss => by
      rw [← guarded_append]
      exact hmarker xs c (ys ++ later) (by rw [hss]; simp)
    rw [List.append_assoc, unprotect_blank_append hg, hunit, List.append_assoc]

/-- A marker between units, in front of a layout of the units behind it. -/
theorem exists_unprotect_mark {side : Side} {g : Text} {later : List Sign} {us : List Text} {t : Text}
    {joined joined' : Bool} (hsolid : Solid side.marker)
    (hmarker : ∀ xs c ys, .mark side g :: later = xs ++ .char c :: ys → marker? (c :: guarded ys) = none)
    (ht : Spaced (side.marker :: us) t)
    (htrace : trace joined t = trace joined' (guarded (.mark side g :: later))) :
    ∃ g' rest, blank g' = true ∧ Spaced us rest ∧ trace true rest = trace true (guarded later) ∧
      unprotect t = g' ++ unprotect rest := by
  -- what the marker takes the place of is not seen by the text with markers
  have hmark : guarded [.mark side []] = side.marker := by simp
  have hmarker' : ∀ xs c ys, [.mark side []] ++ later = xs ++ .char c :: ys →
      marker? (c :: guarded ys) = none := by
    intro xs c ys h
    cases xs with
    | nil => simp at h
    | cons x xs => exact hmarker (.mark side g :: xs) c ys (congrArg _ (List.cons.inj h).2)
  rw [← hmark] at hsolid ht
  obtain ⟨g', rest, hg', hrest, hsame, heq⟩ := exists_unprotect_unit hsolid (by simp) hmarker' ht htrace
  refine ⟨g', rest, hg', hrest, hsame, ?_⟩
  rw [heq, source_mark, source_nil, List.append_nil, List.append_nil]

/-- A layout of the text with markers, with the markers removed, is a layout of the text. -/
theorem spaced_unprotect {ms : List MarkedAtom} (hsound : ∀ a ∈ ms.flatMap (·.guardedAtoms), a.Sound)
    (hkept : ∀ kind ss, .literal kind ss ∈ ms → ∀ side g, .mark side g ∈ ss → g = [])
    (hdropped : ∀ side g, .mark side g ∈ ms → blank g = true)
    (hmarker : ∀ xs c ys, ms.flatMap (·.signs) = xs ++ .char c :: ys → marker? (c :: guarded ys) = none)
    {t : Text} (ht : Spaced ((ms.flatMap (·.guardedAtoms)).flatMap Atom.units) t) {joined joined' : Bool}
    (htrace : trace joined t = trace joined' (guarded (ms.flatMap (·.signs)))) :
    Spaced ((ms.flatMap (·.atoms)).flatMap Atom.units) (unprotect t) := by
  induction ms generalizing t joined joined' with
  | nil =>
    cases ht with
    | done hg =>
      have hsame := unprotect_blank_append hg []
      rw [List.append_nil] at hsame
      rw [hsame]
      exact (Spaced.done hg).append (.done blank_nil)
  | cons m ms ih =>
    simp only [List.flatMap_cons, List.flatMap_append] at hsound hmarker ht htrace ⊢
    have hlater {t : Text} {joined joined' : Bool}
        (ht : Spaced ((ms.flatMap (·.guardedAtoms)).flatMap Atom.units) t)
        (htrace : trace joined t = trace joined' (guarded (ms.flatMap (·.signs)))) :
        Spaced ((ms.flatMap (·.atoms)).flatMap Atom.units) (unprotect t) := by
      refine ih (fun a ha => hsound a (List.mem_append_right _ ha))
        (fun kind ss hmem => hkept kind ss (List.mem_cons_of_mem m hmem))
        (fun side g hmem => hdropped side g (List.mem_cons_of_mem m hmem)) (fun xs c ys h => ?_) ht htrace
      exact hmarker (m.signs ++ xs) c ys (by rw [h, List.append_assoc])
    cases m with
    | plain c =>
      cases hc : isBlank c with
      | true =>
        -- a blank is no unit and leaves no trace
        have hunits : (Atom.plain c).units = [] := by simp [Atom.units, visibleUnits, visible, hc]
        simp only [MarkedAtom.guardedAtoms_plain, MarkedAtom.atoms_plain, MarkedAtom.signs_plain,
          List.flatMap_cons, List.flatMap_nil, hunits, List.nil_append, List.singleton_append, guarded_char,
          trace_cons_of_blank _ hc] at ht htrace ⊢
        exact hlater ht htrace
      | false =>
        have hunits : (Atom.plain c).units = [[c]] := by simp [Atom.units, visibleUnits, visible, hc]
        simp only [MarkedAtom.guardedAtoms_plain, MarkedAtom.atoms_plain, MarkedAtom.signs_plain,
          List.flatMap_cons, List.flatMap_nil, hunits, List.append_nil, List.singleton_append] at ht htrace hmarker ⊢
        have hsolid : Solid (guarded [.char c]) := solid_singleton hc
        obtain ⟨g, rest, hg, hrest, hsame, heq⟩ :=
          exists_unprotect_unit hsolid (by simp) hmarker ht htrace
        rw [heq]
        exact .unit hg (hlater hrest hsame)
    | literal kind ss =>
      simp only [MarkedAtom.guardedAtoms_literal, MarkedAtom.atoms_literal, MarkedAtom.signs_literal,
        List.flatMap_cons, List.flatMap_nil, List.append_nil, Atom.units, List.singleton_append] at ht htrace hmarker hsound ⊢
      obtain ⟨g, rest, hg, hrest, hsame, heq⟩ := exists_unprotect_unit
        (hsound _ List.mem_cons_self) (hkept kind ss List.mem_cons_self) hmarker ht htrace
      rw [heq]
      exact .unit hg (hlater hrest hsame)
    | mark side g =>
      simp only [MarkedAtom.guardedAtoms_mark, MarkedAtom.atoms_mark, MarkedAtom.signs_mark,
        List.flatMap_cons, List.flatMap_nil, List.append_nil, Atom.units, List.singleton_append] at ht htrace hmarker hsound ⊢
      obtain ⟨g', rest, hg', hrest, hsame, heq⟩ :=
        exists_unprotect_mark (hsound _ List.mem_cons_self) hmarker ht htrace
      -- the indent that comes back holds no units
      have hgap : (g.map Atom.plain).flatMap Atom.units = [] := by
        rw [List.flatMap_map, List.flatMap_eq_nil_iff]
        intro c hc
        have hblank := blank_iff.1 (hdropped side g List.mem_cons_self) c hc
        simp [Atom.units, visibleUnits, visible, hblank]
      rw [heq, hgap, List.nil_append]
      exact (hlater hrest hsame).blank_append hg'

end IgnoreMarker

end SmartyLayout
