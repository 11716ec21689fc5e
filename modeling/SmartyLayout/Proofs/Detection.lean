import SmartyLayout.Document
import SmartyLayout.Proofs.MarkedLiterals

/-!
# SmartyLayout.Proofs.Detection — the dialect of a protected text

The dialect of a document is looked for twice: in the text before it is laid out, and by the built-in
beautifier in its protected form. Markers hold no braces and stand at the ends of lines, so what closes
a double-brace comment or tag in one of them closes it in the other (`commentCloses_guarded`,
`tagCloses_guarded`). What opens one in the text opens one in the protected text, but two braces at the
end of a marked line open no tag in the text, since a line break follows them, and may open one with a
marker behind them. That is a `CutOpener`.

`detect_protect_eq_iff` says that nothing else makes the two dialects differ. `detect_protect_differs`
is a document in which it does, and which loses blanks inside a comment by it.
-/

namespace SmartyLayout

open Text IgnoreMarker

namespace IgnoreMarker

/-- A word away from line ends stands in front of the protected text just if it stands in front of the
text. -/
theorem startsWith_guarded {p : Char} {ss : List Sign} {w : Text} (hss : Placed AtBreak p ss)
    (hp : p ≠ '\n' ∧ p ≠ '>') (hw : ∀ c ∈ w, c ≠ '/' ∧ c ≠ '<' ∧ c ≠ '\n' ∧ c ≠ '>') :
    startsWith w (guarded ss) = startsWith w (source ss) := by
  rw [Bool.eq_iff_iff, startsWith_iff, startsWith_iff]
  constructor
  · rintro ⟨rest, hrest⟩
    have hslash : '/' ∉ w := fun hmem => (hw _ hmem).1 rfl
    obtain ⟨ss', rfl, -⟩ := exists_of_guarded_eq_append hslash hrest.symm
    exact ⟨source ss', by simp⟩
  · rintro ⟨rest, hrest⟩
    have hbehind : ∀ c ∈ (p :: w).dropLast, c ≠ '\n' ∧ c ≠ '>' := by
      intro c hc
      rcases List.mem_cons.1 (List.dropLast_subset _ hc) with rfl | hc
      · exact hp
      · exact (hw c hc).2.2
    have hfront : ∀ c ∈ w, c ≠ '\n' ∧ c ≠ '<' := fun c hc => ⟨(hw c hc).2.2.1, (hw c hc).2.1⟩
    obtain ⟨ss', rfl, -⟩ := exists_of_source_eq_append hss hbehind hfront hrest.symm
    exact ⟨guarded ss', by simp⟩

/-- A marker at the front of signs: what it takes the place of, and what is left behind it. -/
theorem Placed.of_mark {atEnd : List Sign → Prop} {p : Char} {side : Side} {g : Text} {ss : List Sign}
    (h : Placed atEnd p (.mark side g :: ss)) :
    (∀ c ∈ g, c = '\t' ∨ c = ' ') ∧ Placed atEnd p ss := by
  cases side with
  | start => exact ⟨h.2.1, h.2.2⟩
  | stop =>
    obtain ⟨rfl, -, hrest⟩ := h
    exact ⟨by simp, hrest⟩

end IgnoreMarker

namespace Dialect

/-! ## Inert characters -/

theorem tagCloses_inert_append {w : Text} (hw : ∀ c ∈ w, inert c = true) (inner : Bool) (t : Text) :
    tagCloses inner (w ++ t) = tagCloses inner t := by
  induction w with
  | nil => rfl
  | cons c w ih =>
    rw [List.forall_mem_cons] at hw
    have hopen : c ≠ '{' := by
      rintro rfl
      exact absurd hw.1 (by decide)
    have hclose : c ≠ '}' := by
      rintro rfl
      exact absurd hw.1 (by decide)
    have hplain : (c == '{') = false := by simpa using hopen
    cases inner with
    | true => simp [tagCloses, hopen, hclose, ih hw.2]
    | false => simp [tagCloses, hclose, hplain, ih hw.2]

theorem commentCloses_inert_append {w : Text} (hw : ∀ c ∈ w, inert c = true)
    (hlast : w.getLast? ≠ some '*') (t : Text) : commentCloses (w ++ t) = commentCloses t := by
  induction w with
  | nil => rfl
  | cons c w ih =>
    rw [List.forall_mem_cons] at hw
    have hbreak : c ≠ '\n' := by
      rintro rfl
      exact absurd hw.1 (by decide)
    -- a star in `w` has another character of `w` behind it, and that is no brace
    have hcloser : startsWith "*\x7d\x7d".toList (c :: (w ++ t)) = false := by
      rw [Bool.eq_false_iff, ne_eq, startsWith_iff]
      rintro ⟨rest, hrest⟩
      obtain ⟨rfl, hbraces⟩ : '*' = c ∧ '}' :: '}' :: rest = w ++ t := by simpa using hrest
      cases w with
      | nil => exact hlast rfl
      | cons e w =>
        have he := hw.2 e List.mem_cons_self
        rw [← (List.cons.inj hbraces).1] at he
        exact absurd he (by decide)
    have hrest : w.getLast? ≠ some '*' := by
      intro hstar
      exact hlast (by simp [List.getLast?_cons, hstar])
    rw [List.cons_append, commentCloses, hcloser, ih hw.2 hrest]
    simp [hbreak]

/-! ## What closes a comment or a tag -/

/-- A tag is well formed in a protected text just if it is in the text. -/
theorem tagCloses_guarded {p : Char} {ss : List Sign} (hss : Placed AtBreak p ss) (inner : Bool) :
    tagCloses inner (guarded ss) = tagCloses inner (source ss) := by
  induction ss generalizing p inner with
  | nil => rfl
  | cons s ss ih =>
    cases s with
    | char c =>
      have hrest := placed_char.1 hss
      rw [guarded_char, source_char]
      cases inner with
      | true => simp only [tagCloses, ih hrest]
      | false =>
        by_cases hc : c = '}'
        · -- no marker stands between the two braces
          subst hc
          have hbrace := startsWith_guarded (w := ['}']) hrest (by decide)
            (forall_mem_of_all (by decide))
          have hhead (t : Text) : (t.head? == some '}') = startsWith ['}'] t := by
            cases t with
            | nil => rfl
            | cons e t => simp [startsWith, List.isPrefixOf, Bool.beq_comm]
          simp only [tagCloses, if_true, hhead, hbrace]
        · simp only [tagCloses, hc, if_false, ih hrest]
    | mark side g =>
      obtain ⟨hg, hrest⟩ := hss.of_mark
      rw [guarded_mark, source_mark, tagCloses_inert_append side.inert_of_mem,
        tagCloses_inert_append (inert_of_indent hg), ih hrest]

/-- A comment closes on its line in a protected text just if it does in the text. -/
theorem commentCloses_guarded {p : Char} {ss : List Sign} (hss : Placed AtBreak p ss) :
    commentCloses (guarded ss) = commentCloses (source ss) := by
  induction ss generalizing p with
  | nil => rfl
  | cons s ss ih =>
    cases s with
    | char c =>
      have hrest := placed_char.1 hss
      have hcloser : startsWith "*\x7d\x7d".toList (c :: guarded ss) =
          startsWith "*\x7d\x7d".toList (c :: source ss) := by
        have hcons (t : Text) : startsWith "*\x7d\x7d".toList (c :: t) =
            ('*' == c && startsWith "\x7d\x7d".toList t) := rfl
        rw [hcons, hcons]
        by_cases hc : '*' = c
        · subst hc
          rw [startsWith_guarded (w := "\x7d\x7d".toList) hrest (by decide)
            (forall_mem_of_all (by decide))]
        · rw [beq_false_of_ne hc, Bool.false_and, Bool.false_and]
      rw [guarded_char, source_char, commentCloses, commentCloses, hcloser, ih hrest]
    | mark side g =>
      obtain ⟨hg, hrest⟩ := hss.of_mark
      have hstar : g.getLast? ≠ some '*' := by
        intro hlast
        rcases hg _ (List.mem_of_getLast? hlast) with hc | hc
        · exact absurd hc (by decide)
        · exact absurd hc (by decide)
      have hslash : side.marker.getLast? ≠ some '*' := by
        cases side <;> decide
      rw [guarded_mark, source_mark, commentCloses_inert_append side.inert_of_mem hslash,
        commentCloses_inert_append (inert_of_indent hg) hstar, ih hrest]

/-! ## What opens a comment or a tag -/

/-- Two braces end a marked line, and what stands behind the line would be the rest of a tag. -/
def CutOpener (ss : List Sign) : Prop :=
  ∃ front back, ss = front ++ .char '{' :: .char '{' :: .mark .stop [] :: back ∧
    tagCloses false (source back) = true

theorem cutOpener_cons {s : Sign} {ss : List Sign} :
    CutOpener (s :: ss) ↔ (∃ back, s :: ss = .char '{' :: .char '{' :: .mark .stop [] :: back ∧
      tagCloses false (source back) = true) ∨ CutOpener ss := by
  constructor
  · rintro ⟨front, back, heq, hcloses⟩
    cases front with
    | nil => exact .inl ⟨back, heq, hcloses⟩
    | cons s' front =>
      obtain ⟨rfl, rfl⟩ := List.cons.inj heq
      exact .inr ⟨front, back, rfl, hcloses⟩
  · rintro (⟨back, heq, hcloses⟩ | ⟨front, back, rfl, hcloses⟩)
    · exact ⟨[], back, heq, hcloses⟩
    · exact ⟨s :: front, back, rfl, hcloses⟩

theorem doubleAt_eq_true_iff {t : Text} :
    doubleAt t = true ↔ ∃ c rest, t = '{' :: '{' :: c :: rest ∧
      (c = '*' ∧ commentCloses rest = true ∨
        c ≠ '}' ∧ isBlank c = false ∧ tagCloses false rest = true) := by
  fun_cases doubleAt t with
  | case1 c cs => simp [and_assoc]
  | case2 t hne =>
    refine iff_of_false (by simp) ?_
    rintro ⟨c, rest, rfl, -⟩
    exact hne c rest rfl

/-- Two braces in front of a marker open a tag if what follows the marker closes it. -/
theorem doubleAt_marker (t : Text) :
    doubleAt ('{' :: '{' :: (Side.stop.marker ++ t)) = tagCloses false t := by
  obtain ⟨tail, heq, hinert⟩ := Side.stop.exists_marker_eq
  rw [heq]
  exact tagCloses_inert_append hinert false t

/-- A construct opens at the front of the protected text if it does in the text, or if its opener is
cut off there. -/
theorem doubleAt_guarded_iff {c : Char} {ss : List Sign} (hss : Placed AtBreak c ss) :
    doubleAt (c :: guarded ss) = true ↔ doubleAt (c :: source ss) = true ∨
      ∃ back, .char c :: ss = .char '{' :: .char '{' :: .mark .stop [] :: back ∧
        tagCloses false (source back) = true := by
  -- behind two braces, either a character of the text comes next or the line is over
  have hnext {ss : List Sign} (hss : Placed AtBreak '{' ss) :
      doubleAt ('{' :: '{' :: guarded ss) = true ↔ doubleAt ('{' :: '{' :: source ss) = true ∨
        ∃ back, ss = .mark .stop [] :: back ∧ tagCloses false (source back) = true := by
    cases ss with
    | nil => simp
    | cons s ss =>
      cases s with
      | char e =>
        have hrest := placed_char.1 hss
        simp [doubleAt, commentCloses_guarded hrest, tagCloses_guarded hrest]
      | mark side g =>
        cases side with
        | start =>
          rcases hss.1 with hp | hp
          · exact absurd hp (by decide)
          · exact absurd hp (by decide)
        | stop =>
          obtain ⟨rfl, hend, hrest⟩ := hss
          rw [guarded_mark, doubleAt_marker, tagCloses_guarded hrest]
          constructor
          · intro hcloses
            exact .inr ⟨ss, rfl, hcloses⟩
          · rintro (hdouble | ⟨back, heq, hcloses⟩)
            · -- a tag may begin with the closing tag of the script that ends the line
              rcases hend with rfl | ⟨e, back, rfl, rfl | rfl⟩
              · simp [doubleAt] at hdouble
              · simp [doubleAt] at hdouble
              · have hangle : isBlank '<' = false ∧ tagCloses false (source back) = true := by
                  simpa [doubleAt] using hdouble
                simpa [tagCloses] using hangle.2
            · obtain ⟨-, rfl⟩ := List.cons.inj heq
              exact hcloses
  constructor
  · intro hdouble
    obtain ⟨e, rest, heq, -⟩ := doubleAt_eq_true_iff.1 hdouble
    obtain ⟨rfl, hguarded⟩ := List.cons.inj heq
    obtain ⟨ss, rfl, -⟩ := exists_of_guarded_eq_append (w := ['{']) (by decide) hguarded
    rcases (hnext (placed_char.1 hss)).1 hdouble with hsource | ⟨back, rfl, hcloses⟩
    · exact .inl hsource
    · exact .inr ⟨back, rfl, hcloses⟩
  · rintro (hdouble | ⟨back, heq, hcloses⟩)
    · obtain ⟨e, rest, heq, -⟩ := doubleAt_eq_true_iff.1 hdouble
      obtain ⟨rfl, hsource⟩ := List.cons.inj heq
      obtain ⟨ss, rfl, -⟩ := exists_of_source_eq_append (w := ['{']) hss
        (forall_mem_of_all (by decide)) (forall_mem_of_all (by decide)) hsource
      exact (hnext (placed_char.1 hss)).2 (.inl hdouble)
    · obtain ⟨hc, rfl⟩ := List.cons.inj heq
      obtain rfl := Sign.char.inj hc
      exact (hnext (placed_char.1 hss)).2 (.inr ⟨back, rfl, hcloses⟩)

theorem anyDouble_append_of_not_mem {w : Text} (hw : '{' ∉ w) (t : Text) :
    anyDouble (w ++ t) = anyDouble t := by
  induction w with
  | nil => rfl
  | cons c w ih =>
    rw [List.mem_cons, not_or] at hw
    have hnone : doubleAt (c :: (w ++ t)) = false := by
      rw [Bool.eq_false_iff, ne_eq, doubleAt_eq_true_iff]
      rintro ⟨e, rest, heq, -⟩
      exact hw.1 (List.cons.inj heq).1.symm
    rw [List.cons_append, anyDouble, hnone, ih hw.2, Bool.false_or]

/-- The double-brace constructs of a protected text are those of the text and those whose openers are
cut off. -/
theorem anyDouble_guarded_iff {p : Char} {ss : List Sign} (hss : Placed AtBreak p ss) :
    anyDouble (guarded ss) = true ↔ anyDouble (source ss) = true ∨ CutOpener ss := by
  induction ss generalizing p with
  | nil =>
    have hnone : ¬ CutOpener [] := by
      rintro ⟨front, back, heq, -⟩
      simp at heq
    simp [hnone, anyDouble]
  | cons s ss ih =>
    rw [cutOpener_cons]
    cases s with
    | char c =>
      have hrest := placed_char.1 hss
      rw [guarded_char, source_char, anyDouble, anyDouble, Bool.or_eq_true, Bool.or_eq_true, ih hrest,
        doubleAt_guarded_iff hrest]
      exact or_or_or_comm
    | mark side g =>
      have hbrace {w : Text} (hw : ∀ c ∈ w, inert c = true) : '{' ∉ w := by
        intro hmem
        exact absurd (hw _ hmem) (by decide)
      obtain ⟨hg, hrest⟩ := hss.of_mark
      rw [guarded_mark, source_mark, anyDouble_append_of_not_mem (hbrace side.inert_of_mem),
        anyDouble_append_of_not_mem (hbrace (inert_of_indent hg)), ih hrest]
      simp

/-- A text and its protected form are of the same dialect, unless the text is a single-brace one and
two braces that end a marked line would open a tag. -/
theorem detect_protect_eq_iff (t : Text) :
    detect (protect t).text = detect t ↔ (CutOpener (signs t) → detect t = .double) := by
  have hguarded := anyDouble_guarded_iff (placed_signs t '\n').atBreak
  rw [guarded_signs, source_signs] at hguarded
  have hdetect (u : Text) : detect u = .double ↔ anyDouble u = true := by
    unfold detect
    split <;> simp [*]
  rw [← hdetect, ← hdetect] at hguarded
  constructor
  · intro heq hcut
    rw [← heq]
    exact hguarded.2 (.inr hcut)
  · intro hcut
    cases hsource : detect t with
    | double => exact hguarded.2 (.inl hsource)
    | single =>
      cases hprotected : detect (protect t).text with
      | single => rfl
      | double =>
        rcases hguarded.1 hprotected with hdouble | hopener
        · exact hdouble.symm.trans hsource
        · exact (hcut hopener).symm.trans hsource

/-- A document and its protected form can be of different dialects. The comment of this one is kept by
the layout, but the beautifier looks for comments between double braces, and trims its lines. -/
theorem detect_protect_differs :
    let t := "\x7b* a  \n b *\x7d\n<script>\n\x7b\x7b\na\x7d\x7d\n</script>".toList
    let f : Formatter := { options := {}, beautifier := .builtin Printer.echo }
    detect (protect t).text ≠ detect t ∧
      f.formatDocument t =
        .ok "\x7b* a\n b *\x7d\n<script>\n\x7b\x7b\na\x7d\x7d\n</script>".toList := by
  decide +kernel

end Dialect

end SmartyLayout
