import SmartyLayout.Proofs.Integrity
import SmartyLayout.Proofs.Positions

/-!
# SmartyLayout.Proofs.RangeEndings — line endings of a selection

Whole lines of a document are formatted as a document of their own. If the document breaks its lines
with CRLF throughout, so does a selection of several lines, and what comes back for it does too. A
selection of one line has no line break from which an ending could be read: a break that formatting
puts into it is a bare LF.

* `returned_append`, `returned_restore`: texts whose breaks are all CRLF;
* `exists_formatLf`: formatting brings in no carriage return;
* `returned_splice_formatRange`: the document keeps its ending exactly if the selection has several
  lines or the line it consists of is not broken. `formatRange_breaks_ending` shows that the exception
  is met.
-/

namespace SmartyLayout

open Text

namespace Text

/-! ## Texts broken by CRLF -/

/-- Every line feed has a carriage return in front of it. -/
def Returned (t : Text) : Prop :=
  ∀ front back, t = front ++ '\n' :: back → front.getLast? = some '\r'

/-- Every carriage return has a line feed behind it. -/
def ReturnsBreak (t : Text) : Prop :=
  ∀ front back, t = front ++ '\r' :: back → back.head? = some '\n'

theorem returned_of_not_mem {t : Text} (h : '\n' ∉ t) : Returned t := by
  intro front back ht
  exact absurd (by rw [ht]; simp) h

theorem returned_append {s t : Text} (hs : Returned s) (ht : Returned t) : Returned (s ++ t) := by
  intro front back heq
  rcases append_eq_append_cons_iff.1 heq with ⟨mid, rfl, hmid⟩ | ⟨mid, hmid, -⟩
  · -- the line feed stands in `t`
    have hlast := ht mid back hmid
    rw [List.getLast?_append, hlast, Option.some_or]
  · exact hs front mid hmid

theorem Returned.left {s t : Text} (h : Returned (s ++ t)) : Returned s := by
  intro front back hs
  exact h front (back ++ t) (by rw [hs, List.append_assoc, List.cons_append])

/-- The part of a text behind a cut that does not fall between the two characters of a break. -/
theorem Returned.right {s t : Text} (h : Returned (s ++ t)) (ht : t.head? ≠ some '\n') :
    Returned t := by
  intro front back heq
  have hlast := h (s ++ front) back (by rw [heq, List.append_assoc])
  cases front with
  | nil => simp [heq] at ht
  | cons c front =>
    rw [List.getLast?_append] at hlast
    simpa using hlast

/-- Behind whole lines no break is left over. -/
theorem Returned.head_ne {front t : Text} (hfront : WholeLines front)
    (h : Returned (front ++ t)) : t.head? ≠ some '\n' := by
  intro hhead
  obtain ⟨rest, rfl⟩ : ∃ rest, t = '\n' :: rest := List.head?_eq_some_iff.1 hhead
  have hlast := h front rest rfl
  rcases hfront with rfl | hbreak
  · simp at hlast
  · rw [hbreak] at hlast
    exact absurd hlast (by decide)

/-- Whole lines in front of a text without carriage returns: all is well only if it has no line feeds
either. -/
theorem returned_between_iff {front new back : Text} (hwhole : WholeLines front)
    (hfront : Returned front) (hback : Returned back) (hnew : '\r' ∉ new) :
    Returned (front ++ new ++ back) ↔ '\n' ∉ new := by
  constructor
  · intro h hmem
    obtain ⟨before, after, rfl⟩ := List.append_of_mem hmem
    have hlast := h (front ++ before) (after ++ back) (by simp)
    cases hbefore : before.getLast? with
    | some c =>
      rw [List.getLast?_append, hbefore, Option.some_or] at hlast
      have hreturn : '\r' ∈ before := List.mem_of_getLast? (hbefore.trans hlast)
      exact hnew (List.mem_append_left _ hreturn)
    | none =>
      -- the line feed is the first character behind the whole lines
      have hnil : before = [] := List.getLast?_eq_none_iff.1 hbefore
      have hhead := Returned.head_ne hwhole (h.left)
      exact hhead (by rw [hnil]; rfl)
  · intro hfree
    exact returned_append (returned_append hfront (returned_of_not_mem hfree)) hback

theorem returnsBreak_append {s t : Text} (hs : ReturnsBreak s) (ht : ReturnsBreak t) :
    ReturnsBreak (s ++ t) := by
  intro front back heq
  rcases append_eq_append_cons_iff.1 heq with ⟨mid, rfl, hmid⟩ | ⟨mid, hmid, rfl⟩
  · exact ht mid back hmid
  · rw [List.head?_append, hs front mid hmid, Option.some_or]

end Text

namespace LineEnding

theorem restore_crlf_cons (c : Char) (t : Text) : LineEnding.crlf.restore (c :: t) =
    (if c = '\n' then ['\r', '\n'] else [c]) ++ LineEnding.crlf.restore t := rfl

/-- A text written with CRLF is broken by CRLF. -/
theorem returned_restore (t : Text) : Returned (LineEnding.crlf.restore t) := by
  induction t with
  | nil => exact returned_of_not_mem (by decide)
  | cons c t ih =>
    rw [restore_crlf_cons]
    refine returned_append ?_ ih
    split
    · intro front back heq
      rcases front with _ | ⟨a, _ | ⟨b, front⟩⟩
      · simp at heq
      · simp only [List.cons_append, List.nil_append, List.cons.injEq] at heq
        rw [← heq.1]
        rfl
      · simp at heq
    · next hc => exact returned_of_not_mem (by simpa using Ne.symm hc)

/-- And if it had no carriage returns, it has no others. -/
theorem returnsBreak_restore {t : Text} (h : '\r' ∉ t) : ReturnsBreak (LineEnding.crlf.restore t) := by
  induction t with
  | nil =>
    intro front back heq
    exact absurd heq (by simp [restore])
  | cons c t ih =>
    rw [List.mem_cons, not_or] at h
    rw [restore_crlf_cons]
    refine returnsBreak_append ?_ (ih h.2)
    intro front back heq
    split at heq
    · rcases front with _ | ⟨a, _ | ⟨b, front⟩⟩
      · simp only [List.nil_append, List.cons.injEq] at heq
        rw [← heq.2]
        rfl
      · simp at heq
      · simp at heq
    · rcases front with _ | ⟨a, front⟩
      · simp only [List.nil_append, List.cons.injEq] at heq
        exact absurd heq.1.symm h.1
      · simp at heq

/-- In a text broken by CRLF, every line feed belongs to a CRLF. -/
theorem countCrlf_eq {t : Text} (h : Returned t) : countCrlf t = t.count '\n' := by
  fun_induction countCrlf t with
  | case1 cs ih =>
    have hwhole : WholeLines ['\r', '\n'] := .inr rfl
    have hcs : Returned cs := Returned.right (s := ['\r', '\n']) h (Returned.head_ne hwhole h)
    rw [ih hcs, List.count_cons_of_ne (by decide), List.count_cons_self]
  | case2 c cs hpair ih =>
    have hc : c ≠ '\n' := by
      rintro rfl
      have hlast := h [] cs rfl
      simp at hlast
    -- a line feed in front of `cs` would make a pair with `c`
    have hhead : cs.head? ≠ some '\n' := by
      intro hhead
      obtain ⟨rest, rfl⟩ : ∃ rest, cs = '\n' :: rest := List.head?_eq_some_iff.1 hhead
      have hlast := h [c] rest rfl
      exact hpair rest (by simpa using hlast) rfl
    rw [ih (Returned.right (s := [c]) h hhead), List.count_cons_of_ne hc]
  | case3 => rfl

/-- Several lines broken by CRLF show their ending, one line does not. -/
theorem detect_eq {t : Text} (h : Returned t) :
    detect t = if t.count '\n' = 0 then .lf else .crlf := by
  rw [detect, countCrlf_eq h, Nat.sub_self]
  split
  · next hpos => rw [if_neg (by omega)]
  · next hzero => rw [if_pos (by omega)]

theorem mem_of_mem_normalize {c : Char} {t : Text} (h : c ∈ normalize t) : c ∈ t := by
  fun_induction normalize t with
  | case1 cs ih =>
    rcases List.mem_cons.1 h with rfl | h
    · simp
    · exact List.mem_cons_of_mem _ (List.mem_cons_of_mem _ (ih h))
  | case2 d cs _ ih =>
    rcases List.mem_cons.1 h with rfl | h
    · exact List.mem_cons_self
    · exact List.mem_cons_of_mem d (ih h)
  | case3 => exact h

end LineEnding

/-! ## Formatting brings in no carriage return -/

namespace Text

theorem mem_of_mem_trimEnd {c : Char} {t : Text} (h : c ∈ trimEnd t) : c ∈ t := by
  obtain ⟨gap, -, hgap⟩ := exists_trimEnd_append t
  rw [← hgap]
  exact List.mem_append_left gap h

theorem mem_of_mem_trim {c : Char} {t : Text} (h : c ∈ trim t) : c ∈ t :=
  (List.dropWhile_suffix _).subset (mem_of_mem_trimEnd h)

theorem mem_of_mem_slice {c : Char} {t : Text} {s : Span} (h : c ∈ slice t s) : c ∈ t := by
  have htake (n : Nat) (u : Text) (hc : c ∈ takeBytes n u) : c ∈ u := by
    rw [← takeBytes_append_dropBytes n u]
    exact List.mem_append_left _ hc
  have hdrop (n : Nat) (u : Text) (hc : c ∈ dropBytes n u) : c ∈ u := by
    rw [← takeBytes_append_dropBytes n u]
    exact List.mem_append_right _ hc
  exact hdrop _ _ (htake _ _ h)

theorem mem_of_mem_unlines {c : Char} {ls : List Text} (h : c ∈ unlines ls) :
    c = '\n' ∨ ∃ l ∈ ls, c ∈ l := by
  induction ls with
  | nil => simp [unlines] at h
  | cons l ls ih =>
    by_cases hls : ls = []
    · rw [hls, unlines_singleton] at h
      exact .inr ⟨l, List.mem_cons_self, h⟩
    · rw [unlines_cons l hls] at h
      rcases List.mem_append.1 h with h | h
      · exact .inr ⟨l, List.mem_cons_self, h⟩
      · rcases List.mem_cons.1 h with h | h
        · exact .inl h
        · rcases ih h with hbreak | ⟨m, hm, hc⟩
          · exact .inl hbreak
          · exact .inr ⟨m, List.mem_cons_of_mem l hm, hc⟩

end Text

namespace Reindenter

variable {r : Reindenter}

theorem mem_of_mem_piecesBetween {c : Char} {l : LogicalLine} {ts : List Transition}
    {bounds : List Nat} {p : Piece} (hp : p ∈ piecesBetween l ts bounds) (hc : c ∈ p.text) :
    c ∈ l.text := by
  fun_induction piecesBetween l ts bounds with
  | case1 start stop bounds ih =>
    rcases List.mem_cons.1 hp with rfl | hp
    · rcases List.mem_append.1 hc with hc | hc
      · exact (List.takeWhile_sublist _).subset hc
      · exact mem_of_mem_slice (mem_of_mem_trim hc)
    · exact ih hp
  | case2 => simp at hp

theorem mem_of_mem_pieces {c : Char} {l : LogicalLine} {ts : List Transition} {p : Piece}
    (hp : p ∈ pieces l ts) (hc : c ∈ p.text) : c ∈ l.text := by
  unfold pieces at hp
  split at hp
  · rw [List.mem_singleton.1 hp] at hc
    exact mem_of_mem_trimEnd hc
  · exact mem_of_mem_piecesBetween hp hc

theorem mem_of_mem_emit {c : Char} {m : Bool} {s : RegionStack} {ps : List Piece} {out : Text}
    (hout : out ∈ (r.emit m s ps).1) (hc : c ∈ out) : c ∈ r.unit ∨ ∃ p ∈ ps, c ∈ p.text := by
  induction ps generalizing s with
  | nil => simp [emit] at hout
  | cons p ps ih =>
    simp only [emit, List.mem_cons] at hout
    rcases hout with rfl | hout
    · rcases List.mem_append.1 hc with hc | hc
      · obtain ⟨u, hu, hc⟩ := List.mem_flatten.1 hc
        rw [List.eq_of_mem_replicate hu] at hc
        exact .inl hc
      · exact .inr ⟨p, List.mem_cons_self, hc⟩
    · rcases ih hout with hunit | ⟨q, hq, hc⟩
      · exact .inl hunit
      · exact .inr ⟨q, List.mem_cons_of_mem p hq, hc⟩

theorem mem_of_mem_run {c : Char} {st : State} {ls : List LogicalLine} {out : Text}
    (hout : out ∈ (r.run st ls).1) (hc : c ∈ out) : c ∈ r.unit ∨ ∃ l ∈ ls, c ∈ l.text := by
  induction ls generalizing st with
  | nil => simp [run] at hout
  | cons l ls ih =>
    simp only [run, List.mem_append] at hout
    rcases hout with hout | hout
    · unfold line at hout
      split at hout
      · rw [List.mem_singleton.1 hout] at hc
        simp at hc
      · rcases mem_of_mem_emit hout hc with hunit | ⟨p, hp, hc⟩
        · exact .inl hunit
        · exact .inr ⟨l, List.mem_cons_self, mem_of_mem_pieces hp hc⟩
    · rcases ih hout with hunit | ⟨m, hm, hc⟩
      · exact .inl hunit
      · exact .inr ⟨m, List.mem_cons_of_mem l hm, hc⟩

/-- Re-indentation writes nothing but the text, line breaks and indent units. -/
theorem mem_of_mem_reindent {c : Char} {d : Dialect} {t : Text}
    (h : c ∈ r.reindent (LogicalLine.split d t)) : c = '\n' ∨ c ∈ r.unit ∨ c ∈ t := by
  rcases mem_of_mem_unlines h with hbreak | ⟨out, hout, hc⟩
  · exact .inl hbreak
  · right
    rcases mem_of_mem_run hout hc with hunit | ⟨l, hl, hc⟩
    · exact .inl hunit
    · exact .inr ((LogicalLine.text_infix_of_mem_split hl).subset hc)

end Reindenter

namespace IgnoreMarker

/-- Removing markers removes characters only. -/
theorem mem_of_mem_unprotect {c : Char} {t : Text} (h : c ∈ unprotect t) : c ∈ t := by
  have hfrom : ∀ n u, c ∈ (segmentsFrom marker? n u).flatMap (Segment.text id) → c ∈ u := by
    intro n u hc
    fun_induction segmentsFrom marker? n u with
    | case1 => simp at hc
    | case2 skip e cs ih => exact List.mem_cons_of_mem e (ih hc)
    | case3 e cs w q hq ih =>
      -- a marker is written as nothing
      have hnil : q = [] := by
        simp only [marker?, Option.bind_eq_bind, Option.bind_eq_some_iff] at hq
        obtain ⟨_, -, _, -, _, -, _, -, _, -, _, -, _, -, _, -, hq⟩ := hq
        simpa using congrArg Prod.snd (Option.some.inj hq).symm
      rw [List.flatMap_cons, hnil] at hc
      exact List.mem_cons_of_mem e (ih (by simpa [Segment.text] using hc))
    | case4 e cs _ ih =>
      rw [List.flatMap_cons] at hc
      rcases List.mem_append.1 hc with hc | hc
      · rw [List.mem_singleton.1 hc]
        exact List.mem_cons_self
      · exact List.mem_cons_of_mem e (ih hc)
  exact hfrom 0 t h

theorem return_mem_of_mem_protect {t : Text} (h : '\r' ∈ (protect t).text) : '\r' ∈ t := by
  have hin : ['\r'] <:+: (protect t).text := (List.singleton_infix_iff _ _).2 h
  rw [← guarded_chunks] at hin
  have hsource : ['\r'] <:+: [] ++ (chunks t).flatMap Chunk.source :=
    infix_source_of_infix_guarded (by decide) (by decide) (by decide) [] _ hin
  rw [List.nil_append, source_chunks] at hsource
  exact (List.singleton_infix_iff _ _).1 hsource

end IgnoreMarker

namespace Beautifier

/-- Trimming lines writes nothing but the text and line breaks. -/
theorem mem_of_mem_trimmed {c : Char} {t : Text} (h : c ∈ trimmed t) : c = '\n' ∨ c ∈ t := by
  rcases mem_of_mem_unlines h with hbreak | ⟨l, hl, hc⟩
  · exact .inl hbreak
  · right
    obtain ⟨m, hm, rfl⟩ := List.mem_map.1 (mem_map_trim_lines hl)
    have hline : m <:+: t := by
      rw [← unlines_lines t]
      exact infix_unlines hm
    exact hline.subset (mem_of_mem_trim hc)

/-- The two beautifiers that know no markup: what they are given comes back, or comes back with its
lines trimmed. -/
def Plain (b : Beautifier) : Prop :=
  b = .passThrough ∨ b = .trimLines

/-- They never fail, and bring in no carriage return. -/
theorem Plain.exists_run {b : Beautifier} (hb : b.Plain) (t : Text) (s : Settings) :
    ∃ out, b.run t s = .ok out ∧ ('\r' ∈ out → '\r' ∈ t) := by
  rcases hb with rfl | rfl
  · exact ⟨t, rfl, id⟩
  · refine ⟨trimmed t, rfl, fun h => ?_⟩
    rcases mem_of_mem_trimmed h with hbreak | h
    · exact absurd hbreak (by decide)
    · exact h

end Beautifier

namespace Formatter

open IgnoreMarker

variable {f : Formatter}

/-- Formatting with a plain beautifier succeeds and brings in no carriage return. -/
theorem exists_formatLf (hb : f.beautifier.Plain) (t : Text) :
    ∃ out, f.formatLf t = .ok out ∧ ('\r' ∈ out → '\r' ∈ t) := by
  unfold formatLf
  split
  · exact ⟨[], rfl, fun h => absurd h (by simp)⟩
  · obtain ⟨beautified, hrun, hreturn⟩ := hb.exists_run (protect t).text f.settings
    refine ⟨f.layOut (Dialect.detect t) (protect t).changed beautified, by simp only [hrun],
      fun h => ?_⟩
    have hlayout : '\r' ∈ f.reindenter.reindent
        (LogicalLine.split (Dialect.detect t) (LineEnding.normalize beautified)) := by
      unfold layOut at h
      simp only at h
      split at h
      · exact mem_of_mem_unprotect h
      · exact h
    rcases Reindenter.mem_of_mem_reindent hlayout with hbreak | hunit | hmem
    · exact absurd hbreak (by decide)
    · rcases Options.eq_of_mem_indentUnit hunit with hspace | htab
      · exact absurd hspace (by decide)
      · exact absurd htab (by decide)
    · exact return_mem_of_mem_protect (hreturn (LineEnding.mem_of_mem_normalize hmem))

/-! ## Selections -/

/-- Without final line breaks a text holds no characters it did not hold. -/
theorem mem_of_mem_dropFinalBreaks {c : Char} {t : Text} (h : c ∈ dropFinalBreaks t) : c ∈ t := by
  obtain ⟨n, hbreaks⟩ := exists_dropFinalBreaks_append t
  rw [← hbreaks]
  exact List.mem_append_left _ h

/-- The line breaks of a document around a selection, if all its breaks are CRLF: no break is cut in
two, and a selection without breaks holds no carriage return. -/
theorem returned_of_covers {t front body ret rest : Text} {r : LineRange}
    (hcovers : Covers t r front body ret rest) (hreturned : Returned t) (hbreak : ReturnsBreak t) :
    Returned front ∧ Returned body ∧ Returned (ret ++ rest) ∧ ('\n' ∉ body → '\r' ∉ body) := by
  rw [hcovers.text_eq] at hreturned hbreak
  have hbody : Returned (front ++ body) := hreturned.left
  refine ⟨hbody.left, hbody.right (Returned.head_ne hcovers.wholeLines hbody), ?_, ?_⟩
  · refine hreturned.right fun hhead => ?_
    rcases hcovers.ret_eq with rfl | ⟨rfl, hlast⟩
    · exact absurd hhead (by simp)
    · -- the line feed behind the selection has its carriage return in the selection
      obtain ⟨more, hmore⟩ : ∃ more, [] ++ rest = '\n' :: more := List.head?_eq_some_iff.1 hhead
      have hreturn := hreturned (front ++ body) more (by rw [hmore])
      rw [List.getLast?_append] at hreturn
      cases hbodyLast : body.getLast? with
      | some c => exact hlast (by rw [hbodyLast, Option.some_or] at hreturn; rw [hbodyLast, hreturn])
      | none =>
        rw [hbodyLast, Option.none_or] at hreturn
        rcases hcovers.wholeLines with rfl | hfront
        · simp at hreturn
        · rw [hfront] at hreturn
          exact absurd hreturn (by decide)
  · intro hfree hmem
    obtain ⟨before, after, rfl⟩ := List.append_of_mem hmem
    have hhead := hbreak (front ++ before) (after ++ (ret ++ rest)) (by simp)
    cases after with
    | cons c after =>
      have hc : c = '\n' := by simpa using hhead
      exact hfree (by rw [hc]; simp)
    | nil =>
      rcases hcovers.ret_eq with rfl | ⟨-, hlast⟩
      · simp at hhead
      · exact hlast (by simp)

/-- Whole lines of a document whose breaks are all CRLF, formatted and put back. With a plain
beautifier formatting succeeds, and the document keeps its line ending exactly if several lines were
selected or the selected line is not broken. -/
theorem returned_splice_formatRange (hb : f.beautifier.Plain) {t : Text} (hreturned : Returned t)
    (hbreak : ReturnsBreak t) {r : LineRange} (hfirst : r.first ≤ r.last)
    (hlast : r.last.toNat < lineCount t) (hcount : lineCount t < UInt64.size) :
    ∃ e, f.formatRange t r = .ok e ∧
      (Returned (splice t e.span e.newText) ↔ r.first < r.last ∨ '\n' ∉ e.newText) := by
  obtain ⟨front, body, ret, rest, hcovers⟩ := exists_covers hfirst hlast hcount
  obtain ⟨hfront, hbody, hback, hfree⟩ := returned_of_covers hcovers hreturned hbreak
  obtain ⟨out, hout, hreturn⟩ := exists_formatLf hb (LineEnding.normalize body)
  have hslice : slice t ⟨size front, size front + size body⟩ = body := by
    rw [hcovers.text_eq]
    exact slice_append front body _
  refine ⟨⟨⟨size front, size front + size body⟩,
    (LineEnding.detect body).restore (dropFinalBreaks out)⟩, ?_, ?_⟩
  · simp only [formatRange, hcovers.span_eq, hslice, hout]
  · have hsplice (new : Text) : splice t ⟨size front, size front + size body⟩ new =
        front ++ new ++ (ret ++ rest) := by
      rw [hcovers.text_eq]
      exact splice_append front body new _
    have hseveral : r.first < r.last ↔ body.count '\n' ≠ 0 := by
      rw [UInt64.lt_iff_toNat_lt, ← hcovers.count_body]
      omega
    simp only [hsplice, hseveral, LineEnding.detect_eq hbody]
    by_cases hzero : body.count '\n' = 0
    · -- one line: its breaks are bare, and it has no carriage returns
      have hnew : '\r' ∉ dropFinalBreaks out := fun hmem =>
        hfree (List.count_eq_zero.1 hzero) (LineEnding.mem_of_mem_normalize
          (hreturn (mem_of_mem_dropFinalBreaks hmem)))
      simp only [hzero, if_true, ne_eq, not_true, false_or]
      exact returned_between_iff hcovers.wholeLines hfront hback hnew
    · simp only [hzero, if_false, ne_eq, not_false_eq_true, true_or, iff_true]
      exact returned_append (returned_append hfront (LineEnding.returned_restore _)) hback

/-- Two lines out of four, the first of which is cut: the new breaks are CRLF as well. -/
theorem returned_splice_formatRange_cut_line :
    let f : Formatter := { options := {}, beautifier := .trimLines }
    let t := LineEnding.crlf.restore
      "<p>\n\x7bif $a\x7d\x7bforeach $b as $c\x7d\nx\n</p>".toList
    let e : RangeEdit := ⟨⟨5, 33⟩, LineEnding.crlf.restore
      "\x7bif $a\x7d\n    \x7bforeach $b as $c\x7d\n        x".toList⟩
    f.beautifier.Plain ∧ Returned t ∧ ReturnsBreak t ∧ f.formatRange t ⟨1, 2⟩ = .ok e ∧
      Returned (splice t e.span e.newText) := by
  intro f t e
  have hplain : f.beautifier.Plain := .inr rfl
  have hreturned : Returned t := LineEnding.returned_restore _
  have hbreak : ReturnsBreak t := LineEnding.returnsBreak_restore (by decide)
  have hformat : f.formatRange t ⟨1, 2⟩ = .ok e := by decide +kernel
  obtain ⟨e', he', hiff⟩ := returned_splice_formatRange hplain hreturned hbreak
    (r := ⟨1, 2⟩) (by decide) (by decide) (by decide)
  have hsame : e' = e := Except.ok.inj (he'.symm.trans hformat)
  rw [hsame] at hiff
  exact ⟨hplain, hreturned, hbreak, hformat, hiff.2 (.inl (by decide))⟩

/-- A document does not always keep its line ending: the break that is put into a line selected on its
own is a bare LF, whatever breaks stand around it. -/
theorem formatRange_breaks_ending :
    ¬ ∀ (f : Formatter) (t : Text) (r : LineRange) (e : RangeEdit), f.beautifier = .passThrough →
      Returned t → ReturnsBreak t → r.first ≤ r.last → r.last.toNat < lineCount t →
      f.formatRange t r = .ok e → Returned (splice t e.span e.newText) := by
  intro h
  have hreturned := h { options := {}, beautifier := .passThrough }
    (LineEnding.crlf.restore "\x7bif $a\x7d\x7bforeach $b as $c\x7d\nx".toList) ⟨0, 0⟩
    ⟨⟨0, 25⟩, "\x7bif $a\x7d\n    \x7bforeach $b as $c\x7d".toList⟩ rfl
    (LineEnding.returned_restore _) (LineEnding.returnsBreak_restore (by decide)) (by decide)
    (by decide) (by decide +kernel)
  -- the first line feed of the new document stands behind a brace
  have hlast := hreturned "\x7bif $a\x7d".toList
    ("    \x7bforeach $b as $c\x7d".toList ++ LineEnding.crlf.restore "\nx".toList) (by decide)
  exact absurd hlast (by decide)

end Formatter

end SmartyLayout
