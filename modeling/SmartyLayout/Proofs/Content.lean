import SmartyLayout.Proofs.Protection
import SmartyLayout.Proofs.Stages

/-!
# SmartyLayout.Proofs.Content — what formatting does to the characters of a document

Formatting is meant to keep the visible characters of a document. `visible_formatDocument_iff` says
when it does: a document without ignore markers and placeholders keeps them exactly if no line that
gets marked ends in a stub, a marker that lacks its final slash. Behind such a line stands an
inserted marker; its slash completes the stub, so that the wrong characters are taken for a marker.
`formatDocument_changes_content` is a document to which this happens.
-/

namespace SmartyLayout

open Text IgnoreMarker

/-! ## Markers and line endings -/

theorem LineEnding.exists_suffix_of_suffix_normalize {s t : Text}
    (h : s <:+ LineEnding.normalize t) : ∃ u, u <:+ t ∧ s = LineEnding.normalize u := by
  fun_induction LineEnding.normalize t with
  | case1 cs ih =>
    rcases List.suffix_cons_iff.1 h with rfl | h
    · exact ⟨'\r' :: '\n' :: cs, List.suffix_rfl, rfl⟩
    · obtain ⟨u, hu, rfl⟩ := ih h
      exact ⟨u, hu.trans (List.suffix_append ['\r', '\n'] cs), rfl⟩
  | case2 c cs hnot ih =>
    rcases List.suffix_cons_iff.1 h with rfl | h
    · exact ⟨c :: cs, List.suffix_rfl, by rw [LineEnding.normalize]; exact hnot⟩
    · obtain ⟨u, hu, rfl⟩ := ih h
      exact ⟨u, hu.trans (List.suffix_cons c cs), rfl⟩
  | case3 => exact ⟨[], List.suffix_rfl, by simpa [LineEnding.normalize] using h⟩

theorem LineEnding.exists_of_normalize_eq_cons {t rest : Text} {c : Char} (hc : isBlank c = false)
    (h : LineEnding.normalize t = c :: rest) :
    ∃ cs, t = c :: cs ∧ LineEnding.normalize cs = rest := by
  fun_cases LineEnding.normalize t with
  | case1 cs =>
    rw [LineEnding.normalize, List.cons.injEq] at h
    -- the character is not blank, so it is no break
    rw [← h.1, isBlank_newline] at hc
    exact absurd hc (by decide)
  | case2 e cs hnot =>
    rw [LineEnding.normalize, List.cons.injEq] at h
    · exact ⟨cs, by rw [h.1], h.2⟩
    · exact hnot
  | case3 => simp [LineEnding.normalize] at h

/-- Normalising line endings makes no words. -/
theorem LineEnding.infix_of_infix_normalize {p t : Text} (hp : ∀ c ∈ p, isBlank c = false)
    (h : p <:+: LineEnding.normalize t) : p <:+: t := by
  have hwords : ∀ u, p <+: LineEnding.normalize u → p <+: u := by
    induction p with
    | nil => exact fun u _ => List.nil_prefix
    | cons c p ih =>
      rintro u ⟨rest, hrest⟩
      obtain ⟨cs, rfl, hcs⟩ :=
        LineEnding.exists_of_normalize_eq_cons (hp c (by simp)) hrest.symm
      have hcs' : p <+: LineEnding.normalize cs := ⟨rest, hcs.symm⟩
      have htail : p <+: cs := by
        refine ih (fun e he => hp e (List.mem_cons_of_mem c he)) ?_ cs hcs'
        exact ((List.suffix_cons c p).isInfix).trans h
      exact (List.prefix_cons_inj c).2 htail
  obtain ⟨s, hpre, hsuf⟩ := List.infix_iff_prefix_suffix.1 h
  obtain ⟨u, hu, rfl⟩ := LineEnding.exists_suffix_of_suffix_normalize hsuf
  exact (hwords u hpre).isInfix.trans hu.isInfix

/-- Normalising line endings makes no markers. -/
theorem IgnoreMarker.marker?_normalize {t : Text} (h : marker? t = none) :
    marker? (LineEnding.normalize t) = none := by
  cases hsome : marker? (LineEnding.normalize t) with
  | none => rfl
  | some found =>
    exfalso
    obtain ⟨-, m, rest, heq, hm, -⟩ := marker?_eq_some_iff.1 hsome
    obtain ⟨inner, word, rfl, hword, htrace⟩ := trace_of_isMarker hm
    -- a marker is known by its trace, and normalising keeps traces
    rw [List.cons_append] at heq
    obtain ⟨cs, rfl, hcs⟩ := LineEnding.exists_of_normalize_eq_cons (by decide) heq
    have hmarker : trace true cs = markerTrace word ++ trace true rest := by
      rw [← LineEnding.trace_normalize, hcs, htrace]
    exact marker?_of_trace hword hmarker h

namespace Formatter

variable {f : Formatter}

/-- The three beautifiers that only move blanks. -/
def MovesBlanks (b : Beautifier) : Prop :=
  b = .passThrough ∨ b = .trimLines ∨ b = .builtin Printer.echo

theorem trace_beautified {b : Beautifier} (hb : MovesBlanks b) {s : Beautifier.Settings}
    {t out : Text} (hkey : ¬ Shield.keyAttribute <:+: t) (h : b.run t s = .ok out) :
    trace false out = trace false t := by
  rcases hb with rfl | rfl | rfl
  · cases h
    rfl
  · cases h
    exact Beautifier.trace_trimLines t
  · exact Markup.trace_beautify hkey h

/-- What stands between markers stands in the text. -/
theorem infix_of_mem_markedLines {t l : Text} (h : l ∈ markedLines t) : l <:+: t := by
  rw [← filterMap_line?_chunks] at h
  obtain ⟨x, hx, hl⟩ := List.mem_filterMap.1 h
  cases x with
  | char c => simp at hl
  | line indent text =>
    rw [Chunk.line?_line, Option.some.injEq] at hl
    subst hl
    obtain ⟨before, after, hchunks⟩ := List.append_of_mem hx
    have hsource := source_chunks t
    rw [hchunks] at hsource
    refine ⟨before.flatMap Chunk.source ++ indent, after.flatMap Chunk.source, ?_⟩
    simpa [Chunk.source] using hsource

/-- A stub is visible. -/
theorem endsInStub_of_blank {l : Text} (h : blank l = true) : endsInStub l = false := by
  by_contra hstub
  obtain ⟨s, hs, hm⟩ := endsInStub_iff.1 (by simpa using hstub)
  obtain ⟨inner, heq, -⟩ := hm.slashes
  have hmem : '/' ∈ s := by
    have hsplit : s ++ ['/'] = ('/' :: (inner ++ ['*'])) ++ ['/'] := by rw [heq]; simp
    rw [List.append_cancel_right hsplit]
    simp
  exact absurd (blank_iff.1 h _ (hs.subset hmem)) (by decide)

/-- Re-indenting what a beautifier has made of a text keeps the trace of the text. -/
theorem trace_reindented {b : Beautifier} (hb : MovesBlanks b) {s : Beautifier.Settings}
    {t beautified : Text} (hkey : ¬ Shield.keyAttribute <:+: t) (h : b.run t s = .ok beautified)
    (d : Dialect) :
    trace false (f.reindenter.reindent (LogicalLine.split d (LineEnding.normalize beautified))) =
      trace false t := by
  rw [Reindenter.trace_reindent f.options.blank_indentUnit, LineEnding.trace_normalize,
    trace_beautified hb hkey h]

/-- Formatting a text with LF endings. -/
theorem visible_formatLf_iff (hb : MovesBlanks f.beautifier) {t out : Text}
    (hmarker : ∀ s, s <:+ t → marker? s = none) (hkey : ¬ Shield.keyAttribute <:+: t)
    (h : f.formatLf t = .ok out) :
    visible out = visible t ↔ ∀ l ∈ markedLines t, endsInStub l = false := by
  simp only [formatLf] at h
  split at h
  · next hblank =>
    -- nothing is formatted, and nothing was there
    cases h
    have hlines : ∀ l ∈ markedLines t, endsInStub l = false := by
      intro l hl
      refine endsInStub_of_blank (blank_iff.2 fun c hc => ?_)
      exact blank_iff.1 hblank c ((infix_of_mem_markedLines hl).subset hc)
    simpa [visible_of_blank hblank] using hlines
  · split at h
    · simp at h
    · next beautified hrun =>
      cases h
      -- the inserted markers complete no placeholder
      have hguarded : ¬ Shield.keyAttribute <:+: (protect t).text := by
        rw [← guarded_chunks]
        intro hin
        have hsource : Shield.keyAttribute <:+: [] ++ (chunks t).flatMap Chunk.source :=
          infix_source_of_infix_guarded (by decide) (by decide) (by decide) [] _ hin
        rw [List.nil_append, source_chunks] at hsource
        exact hkey hsource
      have htrace := trace_reindented (f := f) hb hguarded hrun (Dialect.detect t)
      cases hchanged : (protect t).changed with
      | false =>
        -- no line was marked, and no marker is taken out again
        obtain ⟨htext, hlines⟩ := protect_of_not_changed hchanged
        rw [htext] at htrace
        simp [layOut, visible_eq_of_trace_eq htrace, hlines]
      | true =>
        have hfree : ∀ s, s <:+ (chunks t).flatMap Chunk.source → marker? s = none := by
          rw [source_chunks]
          exact hmarker
        have hiff := visible_unprotect_guarded_iff (isChain_chunks t)
          (fun _ _ => blank_indent_of_mem_chunks) hfree
        rw [guarded_chunks, source_chunks, filterMap_line?_chunks] at hiff
        simp only [layOut, if_true]
        rw [visible_unprotect_eq_of_trace_eq htrace]
        exact hiff

/-- A document without ignore markers and without placeholders keeps its visible characters in
formatting, exactly if no line that is marked on the way ends in a marker without its final
slash. -/
theorem visible_formatDocument_iff (hb : MovesBlanks f.beautifier) {t out : Text}
    (hmarker : ∀ s ∈ t.tails, marker? s = none)
    (hkey : Text.contains "data-smartyfmt".toList t = false) (h : f.formatDocument t = .ok out) :
    visible out = visible t ↔
      ∀ l ∈ markedLines (LineEnding.normalize t), endsInStub l = false := by
  have hvisible : visible (LineEnding.normalize t) = visible t :=
    visible_eq_of_trace_eq (LineEnding.trace_normalize false t)
  have hmarker' : ∀ s, s <:+ LineEnding.normalize t → marker? s = none := by
    intro s hs
    obtain ⟨u, hu, rfl⟩ := LineEnding.exists_suffix_of_suffix_normalize hs
    exact marker?_normalize (hmarker u ((List.mem_tails u t).2 hu))
  have hkey' : ¬ Shield.keyAttribute <:+: LineEnding.normalize t := by
    intro hin
    have hcontains : Text.contains Shield.keyAttribute t = true :=
      contains_iff.2 (LineEnding.infix_of_infix_normalize Shield.visible_keyAttribute hin)
    exact Bool.false_ne_true (hkey.symm.trans hcontains)
  simp only [formatDocument] at h
  split at h
  · simp at h
  · next formatted hformatted =>
    cases h
    rw [LineEnding.visible_restore, visible_closeDocument, ← hvisible]
    exact visible_formatLf_iff hb hmarker' hkey' hformatted

/-- A document with a marked line that holds the front of a marker. -/
theorem visible_formatDocument_style :
    let t := "<style>\r\n \x7bx\x7d /* beautify\r\n</style>".toList
    let out := "<style>\r\n\x7bx\x7d /* beautify\r\n</style>".toList
    let f : Formatter := { options := {}, beautifier := .passThrough }
    f.formatDocument t = .ok out ∧ visible out = visible t := by
  intro t out f
  have hout : f.formatDocument t = .ok out := by decide +kernel
  have hlines : ∀ l ∈ markedLines (LineEnding.normalize t), endsInStub l = false := by
    decide +kernel
  exact ⟨hout, (visible_formatDocument_iff (.inl rfl) (by decide +kernel) (by decide +kernel)
    hout).2 hlines⟩

/-- Not every document without markers and placeholders keeps its content: here the slash of the
inserted marker completes the comment at the end of the line, and the rest of the inserted marker is
left. -/
theorem formatDocument_changes_content :
    ¬ ∀ (f : Formatter) (t out : Text), MovesBlanks f.beautifier →
      (∀ s ∈ t.tails, marker? s = none) → Text.contains "data-smartyfmt".toList t = false →
      f.formatDocument t = .ok out → visible out = visible t := by
  intro h
  have hkept := h { options := {}, beautifier := .passThrough }
    "<style>\n\x7bx\x7d /* beautify ignore:end *\n</style>".toList
    "<style>\n\x7bx\x7d * beautify ignore:end */\n</style>".toList (.inl rfl) (by decide +kernel)
    (by decide +kernel) (by decide +kernel)
  exact absurd hkept (by decide +kernel)

end Formatter

end SmartyLayout
