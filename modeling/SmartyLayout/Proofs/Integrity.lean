import SmartyLayout.Proofs.Content
import SmartyLayout.Proofs.Flush
import SmartyLayout.Proofs.Unmarking

/-!
# SmartyLayout.Proofs.Integrity — literals come through formatting whole

The literals of a document stand in the formatted document as they were, in order and without overlap
(`Formatter.inOrder_formatDocument`), if markers leave them alone: a marker inside a literal may end it
early, and tabs and spaces that a marker took the place of do not come back. Both happen only at
`lossyPlaces`. `Formatter.formatDocument_changes_literal` is a document to which the second happens.
-/

namespace SmartyLayout

namespace Text

/-! ## Words in order -/

/-- The words stand in the text in order, none of them overlapping another. -/
inductive InOrder : List Text → Text → Prop
  | nil (t : Text) : InOrder [] t
  | cons {w : Text} {ws : List Text} (front : Text) {rest : Text} (h : InOrder ws rest) :
      InOrder (w :: ws) (front ++ w ++ rest)

theorem InOrder.append_left {ws : List Text} {t : Text} (h : InOrder ws t) (s : Text) :
    InOrder ws (s ++ t) := by
  cases h with
  | nil => exact .nil _
  | @cons w ws front rest h =>
    have hlonger := InOrder.cons (w := w) (s ++ front) h
    simpa using hlonger

/-- Words may be left out. -/
theorem InOrder.sublist {vs ws : List Text} (hsub : vs.Sublist ws) {t : Text} (h : InOrder ws t) :
    InOrder vs t := by
  induction hsub generalizing t with
  | slnil => exact h
  -- the word is left out, so all in front of the next one is skipped
  | cons w _ ih =>
    cases h with
    | cons front h => exact (ih h).append_left _
  | cons_cons w _ ih =>
    cases h with
    | cons front h => exact .cons front (ih h)

theorem InOrder.isInfix {ws : List Text} {t w : Text} (h : InOrder ws t) (hw : w ∈ ws) : w <:+: t := by
  induction h with
  | nil t => simp at hw
  | @cons v ws front rest _ ih =>
    rcases List.mem_cons.1 hw with rfl | hw
    · exact ⟨front, rest, rfl⟩
    · exact (ih hw).trans (List.suffix_append _ rest).isInfix

theorem Spaced.inOrder {us : List Text} {t : Text} (h : Spaced us t) : InOrder us t := by
  induction h with
  | done => exact .nil _
  | unit _ _ ih => exact .cons _ ih

/-- Line breaks at the end of a text do not matter to its layout. -/
theorem Spaced.dropFinalBreaks {us : List Text} (hus : ∀ u ∈ us, Solid u) {t : Text} (h : Spaced us t) :
    Spaced us (Text.dropFinalBreaks t) := by
  obtain ⟨n, hn⟩ := exists_dropFinalBreaks_append t
  have hbreaks : blank (List.replicate n '\n') = true := by
    rw [blank_iff]
    intro c hc
    rw [List.eq_of_mem_replicate hc]
    rfl
  -- both texts are the same once their ends are trimmed, and a layout survives trimming
  have htrim : Text.trimEnd t = Text.trimEnd (Text.dropFinalBreaks t) := by
    rw [← trimEnd_append_blank (Text.dropFinalBreaks t) hbreaks, hn]
  obtain ⟨g, hg, hsplit⟩ := exists_trimEnd_append (Text.dropFinalBreaks t)
  have hlayout := (h.trimEnd hus).append (.done hg)
  rwa [htrim, hsplit, List.append_nil] at hlayout

end Text

open Text IgnoreMarker Literal

/-! ## Line endings -/

namespace LineEnding

/-- A text without CRLF is its own normal form. -/
theorem normalize_eq_self {t : Text} (h : ¬ ['\r', '\n'] <:+: t) : normalize t = t := by
  fun_induction normalize t with
  | case1 cs ih => exact absurd (List.prefix_append ['\r', '\n'] cs).isInfix h
  | case2 c cs _ ih => rw [ih fun hin => h (hin.trans (List.suffix_cons c cs).isInfix)]
  | case3 => rfl

theorem detect_eq_lf {t : Text} (h : ¬ ['\r', '\n'] <:+: t) : detect t = .lf := by
  have hcount : countCrlf t = 0 := by
    fun_induction countCrlf t with
    | case1 cs ih => exact absurd (List.prefix_append ['\r', '\n'] cs).isInfix h
    | case2 c cs _ ih => exact ih fun hin => h (hin.trans (List.suffix_cons c cs).isInfix)
    | case3 => rfl
  rw [detect, hcount, if_neg (Nat.not_lt_zero _)]

end LineEnding

/-! ## Places -/

namespace IgnoreMarker

/-- A marker at this place changes a literal for good: it may end the literal, or it takes the place of
tabs and spaces. -/
def lossy (kind : Kind) (front back : Text) : Bool :=
  frail kind front back || back.head? == some '\t' || back.head? == some ' '

/-- The places at which a marker changes a literal of the text for good, or how the text is read. -/
def lossyPlaces (d : Dialect) (t : Text) : List Nat :=
  barredPlaces lossy 0 (Atom.stream d t)

theorem eq_nil_of_lossy {kind : Kind} {front g back : Text} (hg : ∀ c ∈ g, c = '\t' ∨ c = ' ')
    (h : lossy kind front (g ++ back) = false) : g = [] := by
  cases g with
  | nil => rfl
  | cons c g =>
    rcases hg c (by simp) with rfl | rfl
    · simp [lossy] at h
    · simp [lossy] at h

/-- Protecting a text brings in no CRLF. -/
theorem crlf_not_infix_protect {t : Text} (h : ¬ ['\r', '\n'] <:+: t) :
    ¬ ['\r', '\n'] <:+: (protect t).text := by
  intro hin
  rw [← guarded_chunks] at hin
  have hsource : ['\r', '\n'] <:+: [] ++ (chunks t).flatMap Chunk.source :=
    infix_source_of_infix_guarded (by decide) (by decide) (by decide) [] _ hin
  rw [List.nil_append, source_chunks] at hsource
  exact h hsource

/-- A layout of the text with markers, with the markers removed, is a layout of the text, if the
markers leave its literals alone and no marked line ends in a stub. -/
theorem spaced_unprotect_layout {d : Dialect} {t layout : Text}
    (hmarker : ∀ s, s <:+ t → marker? s = none)
    (hplaces : ∀ n ∈ markerPlaces t, n ∉ lossyPlaces d t)
    (hstub : ∀ l ∈ markedLines t, endsInStub l = false)
    (hspaced : Spaced ((Atom.stream d (protect t).text).flatMap Atom.units) layout)
    (htrace : trace false layout = trace false (protect t).text) :
    Spaced ((Atom.stream d t).flatMap Atom.units) (unprotect layout) := by
  -- no marker stands at a lossy place, so the signs can be grouped by units
  have hfrail (kind : Kind) (front back : Text) (h : frail kind front back = true) :
      lossy kind front back = true := by
    simp [lossy, h]
  obtain ⟨ms, hsigns, hatoms, hguarded, hclear⟩ := exists_clear hfrail hplaces
  have hplaced := placed_signs t '\n'
  -- what a marker takes the place of is tabs and spaces only
  have hdropped {side : Side} {g : Text} (hmem : .mark side g ∈ signs t) : ∀ c ∈ g, c = '\t' ∨ c = ' ' := by
    obtain ⟨xs, ys, hsplit⟩ := List.append_of_mem hmem
    rw [hsplit] at hplaced
    exact hplaced.dropped
  have hmem {m : MarkedAtom} (hm : m ∈ ms) {s : Sign} (hs : s ∈ m.signs) : s ∈ signs t := by
    rw [← hsigns]
    exact List.mem_flatMap.2 ⟨m, hm, hs⟩
  rw [← guarded_signs, ← hsigns] at htrace
  rw [← hguarded] at hspaced
  rw [← hatoms]
  refine spaced_unprotect ?_ (fun kind ss hlit side g hmark => ?_) (fun side g hmark => ?_) ?_ hspaced
    htrace
  · rw [hguarded]
    exact (Atom.reads_stream d _).sound
  · -- inside a literal a clear marker takes the place of nothing
    obtain ⟨xs, ys, hsplit⟩ := List.append_of_mem hmark
    exact eq_nil_of_lossy (hdropped (hmem hlit hmark)) (hclear.of_mem hlit hsplit)
  · rw [blank_iff]
    intro c hc
    rcases hdropped (hmem hmark List.mem_cons_self) c hc with rfl | rfl <;> rfl
  · -- the source has no marker of its own, and none arises across an inserted one
    intro xs c ys hsplit
    rw [hsigns] at hsplit
    refine marker?_guarded_eq_none (isChain_chunks t) ?_ ?_ hsplit
    · rwa [source_chunks]
    · rwa [filterMap_line?_chunks]

end IgnoreMarker

/-! ## Layout -/

namespace LogicalLine

def literals (l : LogicalLine) : List Text :=
  l.spans.map fun s => Text.slice l.text s.span

theorem literals_sublist_units (l : LogicalLine) : l.literals.Sublist l.units := by
  have hall (t : Text) (spans : List LiteralSpan) (pos : Nat) :
      (spans.map fun s => Text.slice t s.span).Sublist (unitsFrom t pos spans) := by
    induction spans generalizing pos with
    | nil => exact List.nil_sublist _
    | cons s spans ih =>
      rw [List.map_cons, unitsFrom]
      exact ((ih s.span.stop).cons_cons _).trans (List.sublist_append_right _ _)
  exact hall l.text l.spans 0

/-- The units of the lines of a text are those of its stream. -/
theorem flatMap_units_split (d : Dialect) (t : Text) :
    (split d t).flatMap (·.units) = (Atom.stream d t).flatMap Atom.units := by
  rw [split, List.flatMap_map, Atom.stream, Atom.flatMap_units_intercalate]
  exact List.flatMap_congr fun as _ => Atom.units_ofAtoms as

theorem literals_split_sublist (d : Dialect) (t : Text) :
    ((split d t).flatMap literals).Sublist ((Atom.stream d t).flatMap Atom.units) := by
  rw [← flatMap_units_split]
  generalize split d t = ls
  induction ls with
  | nil => exact List.Sublist.slnil
  | cons l ls ih => exact l.literals_sublist_units.append ih

end LogicalLine

namespace Reindenter

theorem spaced_reindent_stream {r : Reindenter} (hunit : blank r.unit = true) (d : Dialect) (t : Text) :
    Spaced ((Atom.stream d t).flatMap Atom.units) (r.reindent (LogicalLine.split d t)) := by
  have hsound : ∀ as ∈ Atom.read d t, ∀ a ∈ as, a.Sound := by
    obtain ⟨us, rfl, hus⟩ := Atom.exists_reads d t
    intro as has a ha
    rw [Atom.read_written hus] at has
    exact hus.sound a (mem_of_mem_splitOn has ha).1
  rw [Atom.stream, Atom.flatMap_units_intercalate]
  exact spaced_run hunit hsound {}

end Reindenter

namespace Formatter

variable {f : Formatter}

/-- Formatting a text without CRLF keeps its units. -/
theorem spaced_formatLf (hb : f.beautifier = .passThrough) {t : Text} (hlf : ¬ ['\r', '\n'] <:+: t)
    (hmarker : ∀ s, s <:+ t → marker? s = none)
    (hplaces : ∀ n ∈ markerPlaces t, n ∉ lossyPlaces (Dialect.detect t) t)
    (hstub : ∀ l ∈ markedLines t, endsInStub l = false) :
    ∃ out, f.formatLf t = .ok out ∧
      Spaced ((Atom.stream (Dialect.detect t) t).flatMap Atom.units) out := by
  have hsolid := Atom.solid_of_mem_flatMap_units (Atom.reads_stream (Dialect.detect t) t).sound
  have hrun : f.beautifier.run (protect t).text f.settings = .ok (protect t).text := by rw [hb]; rfl
  simp only [formatLf, hrun]
  split
  · next hblank =>
    have htrim := (Atom.spaced_written (Atom.stream (Dialect.detect t) t)).trim hsolid
    rw [Atom.written_stream, trim_of_blank hblank] at htrim
    exact ⟨[], rfl, htrim⟩
  · refine ⟨_, rfl, ?_⟩
    have hlines := LineEnding.normalize_eq_self (crlf_not_infix_protect hlf)
    have hunit : blank f.reindenter.unit = true := f.options.blank_indentUnit
    have hspaced := Reindenter.spaced_reindent_stream hunit (Dialect.detect t) (protect t).text
    have htrace := Reindenter.trace_reindent hunit (Dialect.detect t) (protect t).text
    -- the layout is unprotected only if something was marked
    cases hchanged : (protect t).changed with
    | false =>
      rw [layOut, hlines, (protect_of_not_changed hchanged).1]
      exact Reindenter.spaced_reindent_stream hunit (Dialect.detect t) t
    | true =>
      rw [layOut, hlines]
      exact spaced_unprotect_layout hmarker hplaces hstub hspaced htrace

/-- A document with LF endings and without ignore markers keeps its literals in formatting, in order
and without overlap, if no marker that is put into it stands at a lossy place and no line that is
marked ends in a marker without its final slash. -/
theorem inOrder_formatDocument (hb : f.beautifier = .passThrough) {t : Text}
    (hlf : Text.contains "\r\n".toList t = false) (hmarker : ∀ s ∈ t.tails, marker? s = none)
    (hplaces : ∀ n ∈ markerPlaces t, n ∉ lossyPlaces (Dialect.detect t) t)
    (hstub : ∀ l ∈ markedLines t, endsInStub l = false) :
    ∃ out, f.formatDocument t = .ok out ∧
      InOrder ((LogicalLine.split (Dialect.detect t) t).flatMap (·.literals)) out := by
  have hlf' : ¬ ['\r', '\n'] <:+: t := by
    intro hin
    have hcontains : Text.contains "\r\n".toList t = true := contains_iff.2 hin
    exact Bool.false_ne_true (hlf.symm.trans hcontains)
  obtain ⟨out, hout, hspaced⟩ :=
    spaced_formatLf hb hlf' (fun s hs => hmarker s ((List.mem_tails s t).2 hs)) hplaces hstub
  have hsolid := Atom.solid_of_mem_flatMap_units (Atom.reads_stream (Dialect.detect t) t).sound
  -- closing a document adds and drops breaks behind its last unit
  have hclosed : Spaced ((Atom.stream (Dialect.detect t) t).flatMap Atom.units) (f.closeDocument out) := by
    have hdropped := hspaced.dropFinalBreaks hsolid
    simp only [closeDocument]
    split
    · have hbreak := hdropped.append (.done (g := ['\n']) rfl)
      rwa [List.append_nil] at hbreak
    · exact hdropped
  refine ⟨f.closeDocument out, ?_, ?_⟩
  · simp only [formatDocument, LineEnding.normalize_eq_self hlf', LineEnding.detect_eq_lf hlf', hout]
    rfl
  · exact hclosed.inOrder.sublist (LogicalLine.literals_split_sublist _ t)

/-- A template kept in a script, a string across lines, and a script with template lines. -/
theorem inOrder_formatDocument_template :
    let t := ("<script type=\"text/template\">\n\x7bif $a\x7d\n  x\n</script>\n" ++
      "<p title=\"a\n  b\">\n<script>\n  \x7bif $b\x7d 'c  d'\n</script>").toList
    let f : Formatter := { options := {}, beautifier := .passThrough }
    (LogicalLine.split (Dialect.detect t) t).flatMap (·.literals) =
        ["<script type=\"text/template\">\n\x7bif $a\x7d\n  x\n</script>".toList,
          "\"a\n  b\"".toList, "'c  d'".toList] ∧
      ∃ out, f.formatDocument t = .ok out ∧
        InOrder ((LogicalLine.split (Dialect.detect t) t).flatMap (·.literals)) out :=
  ⟨by decide +kernel, inOrder_formatDocument rfl (by decide +kernel) (by decide +kernel)
    (by decide +kernel) (by decide +kernel)⟩

/-- Not every document without markers keeps its literals: here a line inside the template that the
script holds loses its indentation. -/
theorem formatDocument_changes_literal :
    ¬ ∀ (f : Formatter) (t out : Text), f.beautifier = .passThrough →
      Text.contains "\r\n".toList t = false → (∀ s ∈ t.tails, marker? s = none) →
      f.formatDocument t = .ok out →
      InOrder ((LogicalLine.split (Dialect.detect t) t).flatMap (·.literals)) out := by
  intro h
  have hkept := h { options := {}, beautifier := .passThrough }
    "<script type=\"text/template\">\n  \x7bif $a\x7d\n</script>".toList
    "<script type=\"text/template\">\n\x7bif $a\x7d\n</script>".toList rfl (by decide +kernel)
    (by decide +kernel) (by decide +kernel)
  have hinfix := hkept.isInfix
    (w := "<script type=\"text/template\">\n  \x7bif $a\x7d\n</script>".toList) (by decide +kernel)
  exact absurd hinfix (by decide +kernel)

end Formatter

end SmartyLayout
