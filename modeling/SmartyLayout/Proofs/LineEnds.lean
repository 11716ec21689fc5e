import SmartyLayout.Proofs.Integrity
import SmartyLayout.Proofs.Partition
import SmartyLayout.Proofs.RoundTrip
import SmartyLayout.Proofs.SecondPass

/-!
# SmartyLayout.Proofs.LineEnds — where a line may end with a blank

Layout leaves no blank at the end of a logical line, whatever text it is given
(`trimEnd_of_mem_split_reindent`), and none at the end of any line if the lines it is given are
trimmed (`endsClean_reindent`). Markers are removed after that. A place where a line of the result ends
is a place of the laid out text behind which a line ends (`exists_of_unprotect_eq_append`), so a blank
in front of it was in front of it before, unless a marker was there.

`endsInBlank_formatDocument` puts this together. That lines do end with blanks where markers were
removed is shown by `formatDocument_keeps_trailing_blank`.
-/

namespace SmartyLayout

open Text

namespace Text

/-! ## Line ends -/

/-- The text ends with a blank other than a line break. -/
def EndsInBlank (t : Text) : Prop :=
  ∃ c, t.getLast? = some c ∧ isBlank c = true ∧ c ≠ '\n'

/-- A line ends in front of the text. -/
def BreaksOff (t : Text) : Prop :=
  t = [] ∨ t.head? = some '\n'

/-- No line of the text ends with a blank. -/
def EndsClean (t : Text) : Prop :=
  (t ++ ['\n']).IsChain fun c e => e = '\n' → isBlank c = true → c = '\n'

theorem EndsInBlank.exists_concat {t : Text} (h : EndsInBlank t) :
    ∃ front c, t = front ++ [c] ∧ isBlank c = true ∧ c ≠ '\n' := by
  obtain ⟨c, hlast, hc, hne⟩ := h
  exact ⟨t.dropLast, c, (List.dropLast_append_getLast? c hlast).symm, hc, hne⟩

theorem not_endsInBlank_of_trimEnd_eq {t : Text} (h : trimEnd t = t) : ¬ EndsInBlank t := by
  intro hend
  obtain ⟨front, c, rfl, hc, -⟩ := hend.exists_concat
  rw [trimEnd_eq_rdropWhile, List.rdropWhile_eq_self_iff] at h
  exact h (by simp) (by simpa using hc)

theorem not_endsInBlank_unlines {ls : List Text} (h : ∀ l ∈ ls, ¬ EndsInBlank l) :
    ¬ EndsInBlank (unlines ls) := by
  rcases List.eq_nil_or_concat' ls with rfl | ⟨front, l, rfl⟩
  · rintro ⟨c, hlast, -⟩
    simp [unlines] at hlast
  · by_cases hfront : front = []
    · simpa [hfront] using h l (by simp)
    · rintro ⟨c, hlast, hc, hne⟩
      rw [unlines_append hfront (List.cons_ne_nil l []), unlines_singleton] at hlast
      -- behind an empty last line stands the break in front of it
      by_cases hl : l = []
      · simp [hl, hne.symm] at hlast
      · have hline : l.getLast? = some c := by
          rwa [List.getLast?_append_of_ne_nil _ (List.cons_ne_nil _ _),
            List.getLast?_cons_of_ne_nil hl] at hlast
        exact h l (by simp) ⟨c, hline, hc, hne⟩

theorem Flush.endsClean {t : Text} (h : Flush t) : EndsClean t :=
  h.tail.imp fun _ _ hmeet => hmeet.2

theorem endsClean_unlines {ls : List Text} (h : ∀ l ∈ ls, EndsClean l) : EndsClean (unlines ls) := by
  induction ls with
  | nil => exact List.isChain_singleton _
  | cons l ls ih =>
    rw [List.forall_mem_cons] at h
    by_cases hls : ls = []
    · simpa [hls] using h.1
    · have hframe : unlines (l :: ls) ++ ['\n'] = l ++ '\n' :: (unlines ls ++ ['\n']) := by
        rw [unlines_cons l hls]
        simp
      rw [EndsClean, hframe, List.isChain_split]
      exact ⟨h.1, List.isChain_cons.2 ⟨fun _ _ _ _ => rfl, ih h.2⟩⟩

/-- Indentation does no harm to a text that begins with a visible character. -/
theorem EndsClean.indented {g t : Text} (hg : '\n' ∉ g) (ht : Solid t) (h : EndsClean t) :
    EndsClean (g ++ t) := by
  obtain ⟨c, rest, hfirst, hc⟩ := ht.first
  -- inside the indentation stands no break, and behind it no blank
  rw [EndsClean, List.append_assoc, List.isChain_append]
  refine ⟨?_, h, ?_⟩
  · refine List.Pairwise.isChain (List.pairwise_of_forall_mem_list ?_)
    exact fun _ _ e he hbreak => absurd (hbreak ▸ he) hg
  · intro _ _ e he hbreak
    obtain rfl : c = e := by simpa [hfirst] using he
    rw [hbreak] at hc
    exact absurd hc (by decide)

theorem EndsClean.not_endsInBlank {u v : Text} (h : EndsClean (u ++ v)) (hv : BreaksOff v) :
    ¬ EndsInBlank u := by
  intro hu
  obtain ⟨front, c, rfl, hc, hne⟩ := hu.exists_concat
  obtain ⟨rest, hrest⟩ : ∃ rest, v ++ ['\n'] = '\n' :: rest := by
    rcases hv with rfl | hhead
    · exact ⟨[], rfl⟩
    · obtain ⟨v', rfl⟩ := List.head?_eq_some_iff.1 hhead
      exact ⟨v' ++ ['\n'], rfl⟩
  -- the blank and the break behind it are neighbours
  have hpair : [c, '\n'] <:+: front ++ [c] ++ v ++ ['\n'] := ⟨front, rest, by simp [hrest]⟩
  have hchain := List.IsChain.infix h hpair
  exact hne (List.isChain_pair.1 hchain rfl hc)

/-- The final line breaks of a text make no difference to where its lines end with blanks. -/
theorem exists_of_dropFinalBreaks_eq {t x rest : Text} {final : Text}
    (hfinal : final = [] ∨ final = ['\n']) (h : dropFinalBreaks t ++ final = x ++ rest)
    (hrest : BreaksOff rest) (hx : EndsInBlank x) : ∃ rest', t = x ++ rest' ∧ BreaksOff rest' := by
  obtain ⟨n, ht⟩ := exists_dropFinalBreaks_append t
  have hbreaks : BreaksOff (List.replicate n '\n') := by
    cases n with
    | zero => exact .inl rfl
    | succ n => exact .inr rfl
  -- the dropped breaks go back behind the rest
  have hlonger {back : Text} (hback : BreaksOff back) (heq : dropFinalBreaks t = x ++ back) :
      ∃ rest', t = x ++ rest' ∧ BreaksOff rest' := by
    refine ⟨back ++ List.replicate n '\n', by rw [← ht, heq, List.append_assoc], ?_⟩
    rcases hback with rfl | hhead
    · exact hbreaks
    · obtain ⟨back, rfl⟩ := List.head?_eq_some_iff.1 hhead
      exact .inr rfl
  rcases hfinal with rfl | rfl
  · exact hlonger hrest (by simpa using h)
  · rcases List.eq_nil_or_concat' rest with rfl | ⟨back, c, rfl⟩
    · -- the text would end with the break
      obtain ⟨c, hlast, -, hne⟩ := hx
      rw [List.append_nil] at h
      simp [← h, hne.symm] at hlast
    · rw [← List.append_assoc] at h
      obtain ⟨hbody, -⟩ := List.append_inj' h rfl
      refine hlonger ?_ hbody
      rcases hrest with hnil | hhead
      · simp at hnil
      · cases back with
        | nil => exact .inl rfl
        | cons e back => exact .inr (by simpa using hhead)

end Text

namespace IgnoreMarker

/-- Where a line ends without the markers, a line ends with them, and the last character of it is the
same, unless it is that of a marker. -/
theorem exists_of_unprotect_eq_append {t x rest : Text} (h : unprotect t = x ++ rest)
    (hrest : BreaksOff rest) :
    ∃ u v, t = u ++ v ∧ BreaksOff v ∧ unprotect u = x ∧
      ((∃ w m, u = w ++ m ∧ IsMarker m ∧ unprotect w = x) ∨ u.getLast? = x.getLast?) := by
  induction t using marker_induction generalizing x with
  | nil =>
    obtain ⟨rfl, -⟩ := List.append_eq_nil_iff.1 (h.symm.trans rfl)
    exact ⟨[], [], rfl, .inl rfl, rfl, .inr rfl⟩
  | char c t hnone ih =>
    rw [unprotect_cons_of_none hnone] at h
    cases x with
    | nil =>
      -- the line ends here, so the character kept is its break
      obtain rfl : c = '\n' := by
        rw [List.nil_append] at h
        simpa [BreaksOff, ← h] using hrest
      exact ⟨[], '\n' :: t, rfl, .inr rfl, rfl, .inr rfl⟩
    | cons e x =>
      obtain ⟨rfl, htail⟩ : c = e ∧ unprotect t = x ++ rest := by simpa using h
      obtain ⟨u, v, rfl, hv, rfl, hlast⟩ := ih htail
      -- the character is kept in front of less text too, since no marker begins with it
      have hfront {w : Text} (hw : w <+: u) : unprotect (c :: w) = c :: unprotect w := by
        have hlonger : c :: w <+: c :: (u ++ v) :=
          List.cons_prefix_cons.2 ⟨rfl, hw.trans (List.prefix_append u v)⟩
        exact unprotect_cons_of_none (marker?_eq_none_of_isPrefix hlonger hnone)
      refine ⟨c :: u, v, rfl, hv, hfront (List.prefix_refl u), ?_⟩
      rcases hlast with ⟨w, m, rfl, hm, hw⟩ | hlast
      · exact .inl ⟨c :: w, m, rfl, hm, by rw [hfront (List.prefix_append w m), hw]⟩
      · exact .inr (by rw [List.getLast?_cons, List.getLast?_cons, hlast])
  | marker m t hm ih =>
    rw [unprotect_append_marker hm] at h
    obtain ⟨u, v, rfl, hv, rfl, hlast⟩ := ih h
    refine ⟨m ++ u, v, by simp, hv, unprotect_append_marker hm u, ?_⟩
    rcases hlast with ⟨w, m', rfl, hm', hw⟩ | hlast
    · exact .inl ⟨m ++ w, m', by simp, hm', by rw [unprotect_append_marker hm, hw]⟩
    · -- an empty line that is left ends in the marker itself
      by_cases hu : u = []
      · exact .inl ⟨[], m, by simp [hu], hm, by rw [hu]⟩
      · exact .inr (by rw [List.getLast?_append_of_ne_nil _ hu, hlast])

end IgnoreMarker

namespace LogicalLine

variable {d : Dialect} {ls : List LogicalLine}

theorem lineStart_eq_size {i : Nat} (hi : i < ls.length) :
    lineStart ls (i + 1) = size (unlines ((ls.take (i + 1)).map (·.text))) + 1 := by
  have hall (ks : List LogicalLine) (hks : ks ≠ []) :
      (ks.map fun l => size l.text + 1).sum = size (unlines (ks.map (·.text))) + 1 := by
    induction ks with
    | nil => exact absurd rfl hks
    | cons k ks ih =>
      by_cases hnil : ks = []
      · simp [hnil]
      · have hbreak : Char.utf8Size '\n' = 1 := by decide
        rw [List.map_cons, List.sum_cons, ih hnil, List.map_cons, unlines_cons _ (by simpa using hnil),
          size_append, size_cons, hbreak]
        omega
  exact hall _ (by simp [List.take_eq_nil_iff, List.ne_nil_of_length_pos (Nat.zero_lt_of_lt hi)])

/-- What stands in front of the break behind a line are the lines up to it. -/
theorem EndsLine.eq_unlines {u v : Text} {i : Nat} (h : EndsLine ls (size u) i)
    (htext : unlines (ls.map (·.text)) = u ++ v) : u = unlines ((ls.take (i + 1)).map (·.text)) := by
  obtain ⟨hi, hstart⟩ := h
  rw [lineStart_eq_size (by omega)] at hstart
  have hsize : size u = size (unlines ((ls.take (i + 1)).map (·.text))) := by omega
  have hfront : (ls.take (i + 1)).map (·.text) ≠ [] := by
    simp [List.take_eq_nil_iff, List.ne_nil_of_length_pos (Nat.zero_lt_of_lt hi)]
  have hback : (ls.drop (i + 1)).map (·.text) ≠ [] := by simpa using hi
  rw [← List.take_append_drop (i + 1) ls, List.map_append, unlines_append hfront hback] at htext
  -- both ways to cut the text take the same number of bytes
  have hcut := congrArg (takeBytes (size u)) htext
  rw [takeBytes_size_append, hsize, takeBytes_size_append] at hcut
  exact hcut.symm

/-- If no logical line ends with a blank, only lines that end in a literal do. -/
theorem exists_inSpan_of_endsInBlank {t u v : Text} (hlines : ∀ l ∈ split d t, ¬ EndsInBlank l.text)
    (ht : t = u ++ v) (hv : BreaksOff v) (hu : EndsInBlank u) : ∃ p, InSpan (split d t) (size u) p := by
  have hclean (ks : List LogicalLine) (hks : ∀ k ∈ ks, k ∈ split d t) :
      ¬ EndsInBlank (unlines (ks.map (·.text))) := by
    refine not_endsInBlank_unlines fun l hl => ?_
    obtain ⟨k, hk, rfl⟩ := List.mem_map.1 hl
    exact hlines k (hks k hk)
  have htext : unlines ((split d t).map (·.text)) = u ++ v := (unlines_split d t).trans ht
  rcases hv with rfl | hhead
  · refine absurd hu ?_
    rw [← List.append_nil u, ← htext]
    exact hclean _ fun _ hk => hk
  · obtain ⟨v, rfl⟩ := List.head?_eq_some_iff.1 hhead
    rcases exists_endsLine_or_inSpan (fun l hl => wellFormed_of_mem_split hl) htext with
      ⟨i, hi⟩ | hspan
    · -- a logical line ends here
      refine absurd hu ?_
      rw [hi.eq_unlines htext]
      exact hclean _ fun k hk => List.mem_of_mem_take hk
    · exact hspan

end LogicalLine

/-! ## Layout -/

namespace Reindenter

open Atom

variable {r : Reindenter}

/-- No logical line of what is laid out ends with a blank. -/
theorem trimEnd_of_mem_split_reindent (hunit : blank r.unit = true) (hbreak : '\n' ∉ r.unit)
    {d : Dialect} {t : Text} {l : LogicalLine}
    (h : l ∈ LogicalLine.split d (r.reindent (LogicalLine.split d t))) : trimEnd l.text = l.text := by
  obtain ⟨os, hsplit, hos, -⟩ := exists_relaid_split hunit hbreak d t
  rw [hsplit] at h
  obtain ⟨o, ho, rfl⟩ := List.mem_map.1 h
  rcases (hos o ho).2 with rfl | ⟨c, ⟨g, -, rfl⟩, hsolid, -⟩
  · rfl
  · obtain ⟨front, e, hlast, he⟩ := hsolid.last
    rw [text_ofAtoms, written_append, hlast, ← List.append_assoc, trimEnd_concat _ he]

/-- No line of what is laid out ends with a blank if the lines of the text are trimmed. -/
theorem endsClean_reindent (hunit : blank r.unit = true) (hbreak : '\n' ∉ r.unit) (d : Dialect)
    {t : Text} (ht : Flush t) : EndsClean (r.reindent (LogicalLine.split d t)) := by
  obtain ⟨os, hsplit, hos, -⟩ := exists_relaid_split hunit hbreak d t
  rw [← LogicalLine.unlines_split d (r.reindent (LogicalLine.split d t)), hsplit]
  refine endsClean_unlines fun out hout => ?_
  obtain ⟨l, hl, rfl⟩ := List.mem_map.1 hout
  obtain ⟨o, ho, rfl⟩ := List.mem_map.1 hl
  obtain ⟨hfree, hline⟩ := hos o ho
  rcases hline with rfl | ⟨c, ⟨g, -, rfl⟩, hsolid, hpart⟩
  · exact flush_nil.endsClean
  · have hg : '\n' ∉ g := fun hmem => hfree (List.mem_append_left _ (List.mem_map_of_mem hmem))
    rw [text_ofAtoms, written_append, written_map_plain]
    exact (ht.of_infix hsolid hpart).endsClean.indented hg hsolid

end Reindenter

namespace Formatter

open IgnoreMarker

variable {f : Formatter}

/-- The text as it is laid out, with the markers still in it. -/
def markedLayout (f : Formatter) (t : Text) : Except FormatFault Text :=
  match f.beautifier.run (protect t).text f.settings with
  | .error fault => .error (.beautifier fault)
  | .ok beautified => .ok (f.layOut (Dialect.detect t) false beautified)

theorem exists_markedLayout {t out : Text} (hblank : blank t = false) (h : f.formatLf t = .ok out) :
    ∃ layout, f.markedLayout t = .ok layout ∧
      out = if (protect t).changed then unprotect layout else layout := by
  simp only [formatLf, hblank, Bool.false_eq_true, if_false] at h
  simp only [markedLayout]
  cases hrun : f.beautifier.run (protect t).text f.settings with
  | error fault => simp [hrun] at h
  | ok beautified =>
    rw [hrun] at h
    refine ⟨_, rfl, ?_⟩
    simp only [Except.ok.injEq] at h
    rw [← h]
    rfl

theorem exists_of_markedLayout {t layout : Text} (h : f.markedLayout t = .ok layout) :
    ∃ beautified, f.beautifier.run (protect t).text f.settings = .ok beautified ∧
      layout = f.reindenter.reindent
        (LogicalLine.split (Dialect.detect t) (LineEnding.normalize beautified)) := by
  simp only [markedLayout] at h
  cases hrun : f.beautifier.run (protect t).text f.settings with
  | error fault => simp [hrun] at h
  | ok beautified =>
    rw [hrun] at h
    exact ⟨beautified, rfl, (Except.ok.inj h).symm⟩

theorem trimEnd_of_mem_markedLayout {t layout : Text} (h : f.markedLayout t = .ok layout) :
    ∀ l ∈ LogicalLine.split (Dialect.detect t) layout, trimEnd l.text = l.text := by
  obtain ⟨beautified, -, rfl⟩ := exists_of_markedLayout h
  exact fun l hl => Reindenter.trimEnd_of_mem_split_reindent f.options.blank_indentUnit
    f.options.newline_not_mem_indentUnit hl

theorem endsClean_markedLayout (hb : f.beautifier = .trimLines) {t layout : Text}
    (h : f.markedLayout t = .ok layout) : EndsClean layout := by
  obtain ⟨beautified, hrun, rfl⟩ := exists_of_markedLayout h
  rw [hb, Beautifier.run_trimLines] at hrun
  obtain rfl := Except.ok.inj hrun
  have hflush := Beautifier.flush_trimmed (protect t).text
  -- trimmed lines end without a carriage return
  have hlf : ¬ ['\r', '\n'] <:+: Beautifier.trimmed (protect t).text := by
    intro hin
    have hpair : ['\r', '\n'] <:+: '\n' :: (Beautifier.trimmed (protect t).text ++ ['\n']) :=
      hin.trans ((List.prefix_append _ _).isInfix.trans (List.suffix_cons _ _).isInfix)
    have hchain := List.IsChain.infix hflush hpair
    exact absurd ((List.isChain_pair.1 hchain).2 rfl rfl) (by decide)
  rw [LineEnding.normalize_eq_self hlf]
  exact Reindenter.endsClean_reindent f.options.blank_indentUnit f.options.newline_not_mem_indentUnit
    _ hflush

theorem exists_closeDocument_eq (f : Formatter) (t : Text) :
    ∃ final, (final = [] ∨ final = ['\n']) ∧ f.closeDocument t = dropFinalBreaks t ++ final := by
  simp only [closeDocument]
  split
  · exact ⟨['\n'], .inr rfl, rfl⟩
  · exact ⟨[], .inl rfl, (List.append_nil _).symm⟩

/-- Closing a document leaves its lines alone but for empty ones. -/
theorem mem_split_closeDocument {d : Dialect} {t : Text} {l : LogicalLine}
    (h : l ∈ LogicalLine.split d (f.closeDocument t)) : l ∈ LogicalLine.split d t ∨ l.text = [] := by
  have hbreaks (s : Text) (n : Nat) : LogicalLine.split d (s ++ List.replicate n '\n') =
      LogicalLine.split d s ++ List.replicate n (.ofAtoms []) := by
    induction n with
    | zero => simp
    | succ n ih =>
      rw [List.replicate_succ', ← List.append_assoc, Reindenter.split_append_newline, ih,
        List.replicate_succ', List.append_assoc]
  obtain ⟨n, ht⟩ := exists_dropFinalBreaks_append t
  have hbody (hl : l ∈ LogicalLine.split d (dropFinalBreaks t)) : l ∈ LogicalLine.split d t := by
    rw [← ht, hbreaks]
    exact List.mem_append_left _ hl
  obtain ⟨final, rfl | rfl, hclose⟩ := f.exists_closeDocument_eq t
  · rw [hclose, List.append_nil] at h
    exact .inl (hbody h)
  · rw [hclose, Reindenter.split_append_newline, List.mem_append, List.mem_singleton] at h
    rcases h with h | rfl
    · exact .inl (hbody h)
    · exact .inr rfl

theorem formatDocument_eq_ok {t out : Text} (hlf : Text.contains "\r\n".toList t = false)
    (h : f.formatDocument t = .ok out) :
    ∃ formatted, f.formatLf t = .ok formatted ∧ out = f.closeDocument formatted := by
  have hfree : ¬ ['\r', '\n'] <:+: t := by
    intro hin
    have hcontains : Text.contains "\r\n".toList t = true := contains_iff.2 hin
    exact Bool.false_ne_true (hlf.symm.trans hcontains)
  simp only [formatDocument, LineEnding.normalize_eq_self hfree, LineEnding.detect_eq_lf hfree] at h
  cases hformat : f.formatLf t with
  | error fault => simp [hformat] at h
  | ok formatted =>
    rw [hformat] at h
    exact ⟨formatted, rfl, (Except.ok.inj h).symm⟩

/-- No logical line of a document without marked lines ends with a blank. If lines were marked, a line
of the result ends with a blank only in front of a marker that was removed there, or inside a literal
of what was laid out, and with trimmed lines only in front of a marker. -/
theorem endsInBlank_formatDocument {t out : Text} (hlf : Text.contains "\r\n".toList t = false)
    (h : f.formatDocument t = .ok out) :
    ((protect t).changed = false →
      ∀ l ∈ LogicalLine.split (Dialect.detect t) out, trimEnd l.text = l.text) ∧
    ((protect t).changed = true →
      ∀ x rest, out = x ++ rest → BreaksOff rest → EndsInBlank x →
        (∃ w m v, f.markedLayout t = .ok (w ++ m ++ v) ∧ IsMarker m ∧ BreaksOff v ∧
          unprotect w = x) ∨
        (f.beautifier ≠ .trimLines ∧ ∃ u v, f.markedLayout t = .ok (u ++ v) ∧ BreaksOff v ∧
          unprotect u = x ∧
          ∃ p, LogicalLine.InSpan (LogicalLine.split (Dialect.detect t) (u ++ v)) (size u) p)) := by
  obtain ⟨formatted, hformat, rfl⟩ := formatDocument_eq_ok hlf h
  cases hblank : blank t with
  | true =>
    obtain rfl : [] = formatted := by simpa [formatLf, hblank] using hformat
    have hempty : f.closeDocument [] = [] := by simp [closeDocument, dropFinalBreaks]
    rw [hempty]
    refine ⟨fun _ l hl => ?_, fun _ x rest hx _ hend => ?_⟩
    · obtain rfl := List.mem_singleton.1 hl
      rfl
    · obtain ⟨c, hlast, -⟩ := hend
      simp [(List.append_eq_nil_iff.1 hx.symm).1] at hlast
  | false =>
    obtain ⟨layout, hlayout, rfl⟩ := exists_markedLayout hblank hformat
    have hlines := trimEnd_of_mem_markedLayout hlayout
    refine ⟨fun hchanged l hl => ?_, fun hchanged x rest hx hrest hend => ?_⟩
    · rw [hchanged] at hl
      rcases mem_split_closeDocument hl with hl | hnil
      · exact hlines l hl
      · rw [hnil]
        rfl
    · obtain ⟨final, hfinal, hclose⟩ := f.exists_closeDocument_eq (unprotect layout)
      rw [hchanged, if_pos rfl, hclose] at hx
      obtain ⟨rest', hunprotect, hrest'⟩ := exists_of_dropFinalBreaks_eq hfinal hx hrest hend
      -- with its markers the line ends in one of them, or with the same blank
      obtain ⟨u, v, rfl, hv, hu, hlast⟩ := exists_of_unprotect_eq_append hunprotect hrest'
      rcases hlast with ⟨w, m, rfl, hm, hw⟩ | hlast
      · exact .inl ⟨w, m, v, hlayout, hm, hv, hw⟩
      · have hblankEnd : EndsInBlank u := by
          rw [EndsInBlank, hlast]
          exact hend
        refine .inr ⟨fun hb => ?_, u, v, hlayout, hv, hu, ?_⟩
        · exact (endsClean_markedLayout hb hlayout).not_endsInBlank hv hblankEnd
        · refine LogicalLine.exists_inSpan_of_endsInBlank ?_ rfl hv hblankEnd
          exact fun l hl => not_endsInBlank_of_trimEnd_eq (hlines l hl)

/-- A line of a script keeps its last two spaces in front of the marker. -/
theorem endsInBlank_formatDocument_script :
    let t := "<script>\n\x7bx\x7d  \n</script>".toList
    let f : Formatter := { options := {}, beautifier := .trimLines }
    f.formatDocument t = .ok t ∧
      ∃ w m v, f.markedLayout t = .ok (w ++ m ++ v) ∧ IsMarker m ∧ BreaksOff v ∧
        unprotect w = "<script>\n\x7bx\x7d  ".toList := by
  intro t f
  have hformat : f.formatDocument t = .ok t := by decide +kernel
  have hline := (endsInBlank_formatDocument (by decide +kernel) hformat).2 (by decide +kernel)
    "<script>\n\x7bx\x7d  ".toList "\n</script>".toList rfl (.inr rfl) ⟨' ', rfl, rfl, by decide⟩
  exact ⟨hformat, hline.resolve_right fun hliteral => hliteral.1 rfl⟩

/-- Not every document loses the blanks at the ends of its lines. -/
theorem formatDocument_keeps_trailing_blank :
    ¬ ∀ (f : Formatter) (t out : Text),
      f.beautifier = .trimLines ∨ f.beautifier = .builtin Printer.echo →
      Text.contains "\r\n".toList t = false → f.formatDocument t = .ok out →
      ∀ l ∈ LogicalLine.split (Dialect.detect t) out, trimEnd l.text = l.text := by
  intro h
  have htrimmed := h { options := {}, beautifier := .trimLines }
    "<script>\n\x7bx\x7d  \n</script>".toList "<script>\n\x7bx\x7d  \n</script>".toList (.inl rfl)
    (by decide +kernel) (by decide +kernel)
  exact absurd htrimmed (by decide +kernel)

end Formatter

end SmartyLayout
