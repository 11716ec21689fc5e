import SmartyLayout.Proofs.LineEnds
import SmartyLayout.Proofs.RangeEndings

/-!
# SmartyLayout.Proofs.DocumentEndings — line endings of a document, and its final break

How the lines of a document end, and whether the last one does, is settled outside the layout. Layout
itself gives a *body*: a text broken by LF, without final breaks.

* `formatDocument_eq_body`, `formatRange_eq_body`: what is made of a body;
* `body_endingWith`: the body does not depend on whether a final break was asked for, although the
  built-in beautifier is told and puts one in front of the layout;
* `formatDocument_endingWith` and `formatDocument_restore_crlf`: a final break, and another line
  ending, change nothing but the breaks they are about.
-/

namespace SmartyLayout

open Text

/-! ## Line endings -/

namespace LineEnding

/-- A break behind a text stands for itself, unless the text ends with half a break. -/
theorem normalize_append_newline {t : Text} (h : t.getLast? ≠ some '\r') :
    normalize (t ++ ['\n']) = normalize t ++ ['\n'] := by
  fun_induction normalize t with
  | case1 cs ih =>
    have hcs : cs.getLast? ≠ some '\r' := by
      intro hlast
      apply h
      simp [List.getLast?_cons, hlast]
    show '\n' :: normalize (cs ++ ['\n']) = '\n' :: normalize cs ++ ['\n']
    rw [ih hcs, List.cons_append]
  | case2 c cs hpair ih =>
    cases cs with
    | nil =>
      have hc : c ≠ '\r' := by
        intro hc
        exact h (by rw [hc]; rfl)
      simp [normalize, hc]
    | cons e cs =>
      have hcs : (e :: cs).getLast? ≠ some '\r' := by
        rwa [List.getLast?_cons_cons] at h
      -- the pair at the front is the same with the break behind it
      rw [List.cons_append, normalize, ih hcs, List.cons_append]
      intro cs' hc hcs'
      rw [List.cons_append, List.cons.injEq] at hcs'
      exact hpair cs hc (by rw [hcs'.1])
  | case3 => rfl

/-- Writing a text with CRLF can be undone. -/
theorem normalize_restore {t : Text} (h : '\r' ∉ t) : normalize (LineEnding.crlf.restore t) = t := by
  induction t with
  | nil => rfl
  | cons c t ih =>
    rw [List.mem_cons, not_or] at h
    rw [restore_crlf_cons]
    split
    · next hc =>
      show '\n' :: normalize (LineEnding.crlf.restore t) = c :: t
      rw [ih h.2, hc]
    · next hc =>
      rw [List.singleton_append, normalize, ih h.2]
      intro _ hreturn
      exact absurd hreturn.symm h.1

/-- A text written with CRLF shows it by its first break. -/
theorem detect_restore {t : Text} (h : '\n' ∈ t) : detect (LineEnding.crlf.restore t) = .crlf := by
  have hbreak : '\n' ∈ LineEnding.crlf.restore t := List.mem_flatMap.2 ⟨'\n', h, by simp⟩
  rw [detect_eq (returned_restore t), if_neg]
  intro hzero
  exact List.count_eq_zero.1 hzero hbreak

theorem restore_append_newline (e : LineEnding) (t : Text) :
    e.restore (t ++ ['\n']) = e.restore t ++ e.text := by
  cases e with
  | lf => rfl
  | crlf => simp [restore, text]

theorem restore_isEmpty (e : LineEnding) (t : Text) : (e.restore t).isEmpty = t.isEmpty := by
  cases e with
  | lf => rfl
  | crlf =>
    cases t with
    | nil => rfl
    | cons c t =>
      rw [restore_crlf_cons]
      split <;> rfl

end LineEnding

/-! ## A break at the end of what is laid out -/

namespace IgnoreMarker

/-- A marker does not end with a line break. -/
theorem marker?_append_newline {t : Text} (h : marker? t = none) : marker? (t ++ ['\n']) = none := by
  cases hsome : marker? (t ++ ['\n']) with
  | none => rfl
  | some found =>
    obtain ⟨-, m, rest, heq, hm, -⟩ := marker?_eq_some_iff.1 hsome
    obtain ⟨inner, hinner, -⟩ := hm.slashes
    rcases List.eq_nil_or_concat' rest with rfl | ⟨rest, c, rfl⟩
    · -- the marker would be the whole text, but it ends with a slash
      have hlast := congrArg List.getLast? heq
      simp [hinner, List.getLast?_cons] at hlast
    · rw [← List.append_assoc] at heq
      obtain ⟨rfl, -⟩ := List.append_inj' heq rfl
      rw [marker?_append hm] at h
      simp at h

theorem unprotect_append_newline (t : Text) : unprotect (t ++ ['\n']) = unprotect t ++ ['\n'] := by
  induction t using marker_induction with
  | nil => exact unprotect_blank_append (g := ['\n']) (by decide) []
  | char c t hnone ih =>
    have hlonger : marker? (c :: (t ++ ['\n'])) = none := marker?_append_newline hnone
    rw [List.cons_append, unprotect_cons_of_none hlonger, unprotect_cons_of_none hnone, ih,
      List.cons_append]
  | marker m t hm ih =>
    rw [List.append_assoc, unprotect_append_marker hm, unprotect_append_marker hm, ih]

end IgnoreMarker

namespace Formatter

/-- A break behind a beautified text is a break behind the layout. -/
theorem layOut_append_newline (f : Formatter) (d : Dialect) (marked : Bool) {t : Text}
    (h : t.getLast? ≠ some '\r') :
    f.layOut d marked (t ++ ['\n']) = f.layOut d marked t ++ ['\n'] := by
  unfold layOut
  dsimp only
  rw [LineEnding.normalize_append_newline h, Reindenter.reindent_append_newline]
  cases marked with
  | false => rfl
  | true => exact IgnoreMarker.unprotect_append_newline _

end Formatter

/-! ## What the built-in beautifier ends with -/

namespace Markup

theorem mem_keptLines {keeps : Nat → Bool} {started : Bool} {run : Nat} {ls : List Text} {l : Text}
    (h : l ∈ keptLines keeps started run ls) : l = [] ∨ l ∈ ls := by
  fun_induction keptLines keeps started run ls with
  | case1 => simp at h
  | case2 run k ls _ ih =>
    rcases List.mem_append.1 h with h | h
    · split at h
      · exact .inl (List.mem_singleton.1 h)
      · simp at h
    · exact (ih h).imp_right (List.mem_cons_of_mem k)
  | case3 started run k ls _ _ ih => exact (ih h).imp_right (List.mem_cons_of_mem k)
  | case4 started run k ls _ ih =>
    rcases List.mem_cons.1 h with rfl | h
    · exact .inr List.mem_cons_self
    · exact (ih h).imp_right (List.mem_cons_of_mem k)

/-- The last line that is left when the empty ones at the end are dropped. -/
theorem exists_concat_of_dropFinalEmpty {ls : List Text} (h : dropFinalEmpty ls ≠ []) :
    ∃ front last, dropFinalEmpty ls = front ++ [last] ∧ last ∈ ls ∧ last ≠ [] := by
  have hne : ls.rdropWhile List.isEmpty ≠ [] := h
  refine ⟨_, _, (List.dropLast_append_getLast hne).symm, ?_, ?_⟩
  · exact (List.rdropWhile_prefix List.isEmpty ls).subset (List.getLast_mem hne)
  · have hlast := List.rdropWhile_last_not List.isEmpty ls hne
    simpa using hlast

/-- The lines that a tidied text consists of. -/
def tidyLines (d : Dialect) (s : Beautifier.Settings) (t : Text) : List Text :=
  dropFinalEmpty (keptLines s.keepsBlankLine false 0
    ((LogicalLine.split d t).map fun l => trimEnd l.text))

/-- Without the break at its end, a tidied text ends with a visible character, or is empty. -/
theorem isBlank_of_getLast?_tidyLines {d : Dialect} {s : Beautifier.Settings} {t : Text} {c : Char}
    (h : (unlines (tidyLines d s t)).getLast? = some c) : isBlank c = false := by
  by_cases hnil : tidyLines d s t = []
  · simp [hnil, unlines] at h
  · obtain ⟨front, last, heq, hmem, hne⟩ := exists_concat_of_dropFinalEmpty hnil
    -- the last line is not empty, so it was trimmed and not put in place of a blank one
    rcases mem_keptLines hmem with hempty | hmem
    · exact absurd hempty hne
    · obtain ⟨l, -, rfl⟩ := List.mem_map.1 hmem
      obtain ⟨body, e, hbody, he⟩ := exists_concat_of_trimEnd hne
      have hend : (unlines (tidyLines d s t)).getLast? = some e := by
        rw [tidyLines, heq]
        by_cases hfront : front = []
        · simp [hfront, hbody]
        · rw [unlines_append hfront (by simp), unlines_singleton, hbody, List.getLast?_append]
          simp [List.getLast?_cons]
      rw [hend] at h
      rwa [← Option.some.inj h]

/-- Tidying looks at the final break at its end only. -/
theorem finish_endWithNewline (d : Dialect) (s : Beautifier.Settings) (final : Bool) (t : Text) :
    finish d { s with endWithNewline := final } t =
      if final && !(unlines (tidyLines d s t)).isEmpty then unlines (tidyLines d s t) ++ ['\n']
      else unlines (tidyLines d s t) := rfl

/-- What the beautifier answers, asked for a final break and not. -/
theorem beautify_endWithNewline (printer : Printer) (t : Text) (s : Beautifier.Settings) :
    (∃ fault, ∀ final, beautify printer t { s with endWithNewline := final } = .error fault) ∨
      ∃ out, out.getLast? ≠ some '\r' ∧
        ∀ final, beautify printer t { s with endWithNewline := final } =
          .ok (if final && !out.isEmpty then out ++ ['\n'] else out) := by
  cases hblank : blank t with
  | true => exact .inr ⟨[], by simp, fun final => by simp [beautify, hblank]⟩
  | false =>
    -- the printer is not told about the final break
    have hrequest (shield : Shield) (d : Dialect) (final : Bool) :
        shield.request d { s with endWithNewline := final } = shield.request d s := rfl
    cases hbuild : Shield.build (Dialect.detect t) t with
    | error fault => exact .inl ⟨fault, fun final => by simp [beautify, hblank, hbuild]⟩
    | ok shield =>
      cases hprint : printer (shield.request (Dialect.detect t) s) with
      | error fault =>
        refine .inl ⟨shield.fault fault, fun final => ?_⟩
        simp [beautify, hblank, hbuild, hrequest, hprint]
      | ok printed =>
        right
        refine ⟨unlines (tidyLines (Dialect.detect t) s (shield.restore printed)), ?_, ?_⟩
        · intro hlast
          exact absurd (isBlank_of_getLast?_tidyLines hlast) (by decide)
        · intro final
          simp only [beautify, hblank, hbuild, hrequest, hprint, finish_endWithNewline,
            Bool.false_eq_true, if_false]

end Markup

/-! ## Bodies -/

namespace Formatter

/-- The formatter, asked for a final break or not. -/
def endingWith (f : Formatter) (final : Bool) : Formatter :=
  { f with options := { f.options with endWithNewline := final } }

/-- The document as it is laid out, broken by LF and without final breaks. -/
def body (f : Formatter) (t : Text) : Except FormatFault Text :=
  (f.formatLf (LineEnding.normalize t)).map dropFinalBreaks

/-- A document is its body, with a final break if there is to be one, and its own line ending. -/
theorem formatDocument_eq_body (f : Formatter) (t : Text) :
    f.formatDocument t = (f.body t).map fun body => (LineEnding.detect t).restore
      (if f.options.endWithNewline && !body.isEmpty then body ++ ['\n'] else body) := by
  unfold formatDocument body
  cases f.formatLf (LineEnding.normalize t) with
  | error fault => rfl
  | ok formatted => rfl

/-- Lines of a document are replaced by the body of these lines. -/
theorem formatRange_eq_body (f : Formatter) {t : Text} {r : LineRange} {span : Span}
    (h : lineSpan? t r = .ok (some span)) :
    f.formatRange t r = (f.body (slice t span)).map fun body =>
      ⟨span, (LineEnding.detect (slice t span)).restore body⟩ := by
  simp only [formatRange, h, body]
  cases f.formatLf (LineEnding.normalize (slice t span)) with
  | error fault => rfl
  | ok formatted => rfl

/-- Nothing of a final break that the built-in beautifier is asked for is left in the body. -/
theorem body_endingWith {f : Formatter} {printer : Printer} (hb : f.beautifier = .builtin printer)
    (final : Bool) (t : Text) : (f.endingWith final).body t = (f.endingWith false).body t := by
  unfold body
  generalize LineEnding.normalize t = t
  cases hblank : blank t with
  | true => simp [formatLf, hblank]
  | false =>
    have hrun (final : Bool) : (f.endingWith final).formatLf t =
        ((Markup.beautify printer (IgnoreMarker.protect t).text
          { f.settings with endWithNewline := final }).mapError FormatFault.beautifier).map
            (f.layOut (Dialect.detect t) (IgnoreMarker.protect t).changed) := by
      have hbeautify : (f.endingWith final).beautifier.run (IgnoreMarker.protect t).text
          (f.endingWith final).settings = Markup.beautify printer (IgnoreMarker.protect t).text
            { f.settings with endWithNewline := final } := by
        simp only [endingWith, hb]
        rfl
      simp only [formatLf, hblank, Bool.false_eq_true, if_false, hbeautify]
      cases Markup.beautify printer (IgnoreMarker.protect t).text
          { f.settings with endWithNewline := final } with
      | error fault => rfl
      | ok out => rfl
    rcases Markup.beautify_endWithNewline printer (IgnoreMarker.protect t).text f.settings with
      ⟨fault, hfault⟩ | ⟨out, hlast, hout⟩
    · simp only [hrun, hfault]
    · simp only [hrun, hout, Bool.false_and, Bool.false_eq_true, if_false]
      split
      · -- the break goes through the layout and is dropped with the final breaks
        simp only [Except.mapError, Except.map, layOut_append_newline f _ _ hlast,
          dropFinalBreaks_concat_newline]
      · rfl

/-- The option for a final break decides about a break at the end of a document and about nothing
else, and not even about that where lines of a document are formatted. -/
theorem formatDocument_endingWith (printer : Printer) (taxonomy : Taxonomy) (options : Options)
    (t : Text) :
    let f : Formatter := { options, taxonomy, beautifier := .builtin printer }
    (f.endingWith true).formatDocument t = ((f.endingWith false).formatDocument t).map (fun out =>
      if out.isEmpty then out else out ++ (LineEnding.detect t).text) ∧
    ∀ r : LineRange,
      (f.endingWith true).formatRange t r = (f.endingWith false).formatRange t r ∧
      (∀ span, lineSpan? t r = .ok (some span) → (f.endingWith true).formatRange t r =
        ((f.endingWith false).formatDocument (slice t span)).map (RangeEdit.mk span)) ∧
      (r.first ≤ r.last → r.last.toNat < lineCount t → lineCount t < UInt64.size →
        ∃ span, lineSpan? t r = .ok (some span)) := by
  intro f
  have hbody (t : Text) := body_endingWith (f := f) rfl true t
  refine ⟨?_, fun r => ⟨?_, fun span hspan => ?_, fun hfirst hlast hcount => ?_⟩⟩
  · rw [formatDocument_eq_body, formatDocument_eq_body, hbody]
    cases (f.endingWith false).body t with
    | error fault => rfl
    | ok body =>
      have hon : (f.endingWith true).options.endWithNewline = true := rfl
      have hoff : (f.endingWith false).options.endWithNewline = false := rfl
      simp only [Except.map, hon, hoff, Bool.true_and, Bool.false_and, Bool.false_eq_true, if_false,
        LineEnding.restore_isEmpty]
      cases body with
      | nil => rfl
      | cons c body => exact congrArg Except.ok (LineEnding.restore_append_newline _ (c :: body))
  · rcases hspan : lineSpan? t r with _ | _ | span
    · simp only [formatRange, hspan]
    · simp only [formatRange, hspan]
    · rw [formatRange_eq_body _ hspan, formatRange_eq_body _ hspan, hbody]
  · rw [formatRange_eq_body _ hspan, formatDocument_eq_body, hbody]
    cases (f.endingWith false).body (slice t span) with
    | error fault => rfl
    | ok body => rfl
  · obtain ⟨front, selected, ret, rest, hcovers⟩ := exists_covers hfirst hlast hcount
    exact ⟨_, hcovers.span_eq⟩

/-- A document broken by CRLF, with a final break and without, and the second of its lines. -/
theorem formatDocument_endingWith_crlf :
    let f : Formatter := { options := {}, beautifier := .builtin Printer.echo }
    let t := LineEnding.crlf.restore "\x7bif $a\x7d\n<p>x</p>\n\x7b/if\x7d\n\n".toList
    let out := LineEnding.crlf.restore "\x7bif $a\x7d\n    <p>x</p>\n\x7b/if\x7d".toList
    (f.endingWith false).formatDocument t = .ok out ∧
      (f.endingWith true).formatDocument t = .ok (out ++ ['\r', '\n']) ∧
      (∃ span, lineSpan? t ⟨1, 1⟩ = .ok (some span)) ∧
      (f.endingWith true).formatRange t ⟨1, 1⟩ = .ok ⟨⟨9, 17⟩, "<p>x</p>".toList⟩ := by
  intro f t out
  obtain ⟨hdocument, hrange⟩ := formatDocument_endingWith Printer.echo .default {} t
  obtain ⟨-, hedit, hvalid⟩ := hrange ⟨1, 1⟩
  have hoff : (f.endingWith false).formatDocument t = .ok out := by decide +kernel
  have hslice : (f.endingWith false).formatDocument (slice t ⟨9, 17⟩) = .ok "<p>x</p>".toList := by
    decide +kernel
  refine ⟨hoff, ?_, hvalid (by decide) (by decide) (by decide), ?_⟩
  · have hdetect : LineEnding.detect t = .crlf := by decide +kernel
    rw [hdocument, hoff, hdetect]
    rfl
  · rw [hedit ⟨9, 17⟩ (by decide +kernel), hslice]
    rfl

/-- A document written with CRLF is formatted as the document itself, and the result written with
CRLF, whatever the beautifier makes of it. -/
theorem formatDocument_restore_crlf (f : Formatter) {t : Text} (hreturn : '\r' ∉ t)
    (hbreak : '\n' ∈ t) :
    f.formatDocument (LineEnding.crlf.restore t) =
      (f.formatDocument t).map LineEnding.crlf.restore := by
  have hfree : ¬ ['\r', '\n'] <:+: t := fun hin => hreturn (hin.subset List.mem_cons_self)
  have hbody : f.body (LineEnding.crlf.restore t) = f.body t := by
    rw [body, body, LineEnding.normalize_restore hreturn, LineEnding.normalize_eq_self hfree]
  rw [formatDocument_eq_body, formatDocument_eq_body, hbody, LineEnding.detect_restore hbreak,
    LineEnding.detect_eq_lf hfree]
  cases f.body t with
  | error fault => rfl
  | ok body => rfl

/-- The beautifier answers with breaks of both kinds and with a carriage return of its own. -/
theorem formatDocument_restore_crlf_mixed :
    let f : Formatter :=
      { options := { endWithNewline := true }, beautifier := .constant "a\r\n\rb\nc\n\n".toList }
    f.formatDocument "x\ny".toList = .ok "a\n\rb\nc\n".toList ∧
      f.formatDocument "x\r\ny".toList = .ok "a\r\n\rb\r\nc\r\n".toList := by
  intro f
  have hlf : f.formatDocument "x\ny".toList = .ok "a\n\rb\nc\n".toList := by decide +kernel
  have hcrlf := formatDocument_restore_crlf f (t := "x\ny".toList) (by decide) (by decide)
  rw [hlf] at hcrlf
  exact ⟨hlf, hcrlf⟩

end Formatter

end SmartyLayout
