import SmartyLayout.Editor.Edit
import SmartyLayout.Proofs.Positions

/-!
# SmartyLayout.Proofs.Edits — edits, made by an editor

An editor that is given an edit looks up its two places and puts the new text between them. Lines and
columns are 32-bit words, so this is the replacement that was meant if the text has fewer lines, and
each line fewer columns, than there are words.

* `offset_ofOffset`: an editor finds the byte offset that a place was made from;
* `apply_whole`, `apply_ofRange`: what edits make of the text they were made for;
* `exists_cut_of_formatRange`: the bytes that formatting replaces are a part of the text.
-/

namespace SmartyLayout

namespace Text

/-! ## Texts that an editor can count -/

/-- There are fewer lines than 32-bit words, and fewer columns in each. -/
def Countable (t : Text) : Prop :=
  lineCount t < UInt32.size ∧ ∀ l ∈ lines t, units16 l < UInt32.size

instance (t : Text) : Decidable (Countable t) :=
  inferInstanceAs (Decidable (_ ∧ _))

/-- What stands between two breaks is a line. -/
theorem mem_lines {front line rest : Text} (hfront : WholeLines front) (hline : '\n' ∉ line)
    (hrest : rest = [] ∨ ∃ more, rest = '\n' :: more) : line ∈ lines (front ++ line ++ rest) := by
  have hhere : line ∈ lines (line ++ rest) := by
    rcases hrest with rfl | ⟨more, rfl⟩
    · rw [List.append_nil, lines_of_not_mem hline]
      exact List.mem_singleton_self line
    · rw [lines_append_newline, lines_of_not_mem hline]
      exact List.mem_cons_self
  rw [List.append_assoc]
  rcases hfront with rfl | hlast
  · exact hhere
  · obtain ⟨before, rfl⟩ : ∃ before, front = before ++ ['\n'] :=
      ⟨front.dropLast, (List.dropLast_append_getLast? _ hlast).symm⟩
    rw [List.append_assoc, List.singleton_append, lines_append_newline]
    exact List.mem_append_right _ hhere

/-- The position of a character boundary in a text that can be counted. -/
theorem Countable.position_lt {s rest : Text} (h : Countable (s ++ rest)) :
    (position (s ++ rest) (size s)).line < UInt32.size ∧
      (position (s ++ rest) (size s)).column < UInt32.size := by
  obtain ⟨front, line, rfl, hfront, hline⟩ := exists_lastLine s
  obtain ⟨restOfLine, behind, rfl, hrestOfLine, hbehind⟩ := exists_restOfLine rest
  rw [position_append hfront hline]
  constructor
  · have hcount := h.1
    rw [lineCount_eq, List.count_append, List.count_append] at hcount
    show front.count '\n' < UInt32.size
    omega
  · -- the column is not behind the end of its line
    have hmem : line ++ restOfLine ∈ lines (front ++ line ++ (restOfLine ++ behind)) := by
      have hwhole : '\n' ∉ line ++ restOfLine := by
        rw [List.mem_append, not_or]
        exact ⟨hline, hrestOfLine⟩
      have hlines := mem_lines hfront hwhole hbehind
      simpa only [List.append_assoc] using hlines
    have hunits := h.2 _ hmem
    rw [units16_append] at hunits
    show units16 line < UInt32.size
    omega

end Text

namespace Editor

open Text

/-! ## Making edits -/

/-- The byte offset that an editor finds at a place. -/
def Place.offset (p : Place) (t : Text) : Nat :=
  offsetAt t ⟨p.line.toNat, p.character.toNat⟩

/-- The text with an edit made in it. -/
def Edit.apply (e : Edit) (t : Text) : Text :=
  splice t ⟨e.range.start.offset t, e.range.stop.offset t⟩ e.newText

/-- The text with edits made in it, the last one first, so that the places of the others stay where
they are. -/
def Edit.applyAll (es : List Edit) (t : Text) : Text :=
  es.foldr Edit.apply t

theorem Place.offset_zero (t : Text) : Place.offset ⟨0, 0⟩ t = 0 := by
  have hnone (s : Text) : takeUnits 0 s = [] := by cases s <;> rfl
  show 0 + size (takeUnits 0 _) = 0
  rw [hnone]
  rfl

theorem Place.offset_ofOffset {s rest : Text} (h : Countable (s ++ rest)) :
    (Place.ofOffset (s ++ rest) (size s)).offset (s ++ rest) = size s := by
  have hline := UInt32.toNat_ofNat_of_lt' h.position_lt.1
  have hcolumn := UInt32.toNat_ofNat_of_lt' h.position_lt.2
  unfold Place.offset Place.ofOffset
  rw [hline, hcolumn]
  exact offsetAt_position s rest

theorem Edit.apply_ofRange {before part after : Text} (h : Countable (before ++ part ++ after))
    (new : Text) :
    (Edit.ofRange (before ++ part ++ after) ⟨⟨size before, size before + size part⟩, new⟩).apply
      (before ++ part ++ after) = before ++ new ++ after := by
  have hstop := Place.offset_ofOffset h
  rw [size_append] at hstop
  have hstart : (Place.ofOffset (before ++ part ++ after) (size before)).offset
      (before ++ part ++ after) = size before := by
    rw [List.append_assoc] at h ⊢
    exact Place.offset_ofOffset h
  unfold Edit.apply Edit.ofRange
  rw [hstart, hstop]
  exact splice_append before part new after

theorem Edit.apply_whole {t : Text} (h : Countable t) (new : Text) :
    (Edit.whole t new).apply t = new := by
  have hstop : (Place.ofOffset t (size t)).offset t = size t := by
    have hnil : Countable (t ++ []) := by rwa [List.append_nil]
    have hend := Place.offset_ofOffset hnil
    rwa [List.append_nil] at hend
  unfold Edit.apply Edit.whole
  rw [Place.offset_zero, hstop]
  have hall := splice_append [] t new []
  simpa using hall

end Editor

/-! ## What formatting replaces -/

namespace Text

/-- The range of lines that bytes were found for. -/
theorem bounds_of_lineSpan? {t : Text} {r : LineRange} {s : Span}
    (h : lineSpan? t r = .ok (some s)) : r.first ≤ r.last ∧ r.last.toNat < lineCount t := by
  unfold lineSpan? at h
  split at h
  · simp at h
  · next hle =>
    refine ⟨UInt64.not_lt.1 hle, ?_⟩
    split at h
    · simp at h
    · split at h
      · simp at h
      · next stop hend =>
        unfold lineEnd? at hend
        split at hend
        · simp at hend
        · -- a line without a start has no end
          by_contra hlt
          have hnone : (lineStarts t)[r.last.toNat]? = none :=
            List.getElem?_eq_none (Nat.not_lt.1 hlt)
          simp only [hnone, Except.ok.injEq] at hend
          subst hend
          simp at h

end Text

namespace Formatter

open Text

variable {f : Formatter} {t : Text} {r : LineRange} {e : RangeEdit}

theorem exists_cut_of_formatRange (h : f.formatRange t r = .ok e) (ht : lineCount t < UInt64.size) :
    ∃ before part after, t = before ++ part ++ after ∧
      e.span = ⟨size before, size before + size part⟩ := by
  unfold formatRange at h
  split at h
  · cases h
  · cases h
  · next span hspan =>
    obtain ⟨hfirst, hlast⟩ := bounds_of_lineSpan? hspan
    obtain ⟨front, body, ret, rest, hcovers⟩ := exists_covers hfirst hlast ht
    refine ⟨front, body, ret ++ rest, hcovers.text_eq, ?_⟩
    have hsame : span = ⟨size front, size front + size body⟩ :=
      Option.some.inj (Except.ok.inj (hspan.symm.trans hcovers.span_eq))
    dsimp only at h
    split at h
    · cases h
    · cases h
      exact hsame

end Formatter

end SmartyLayout
