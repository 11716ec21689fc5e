import SmartyLayout.Proofs.Edits

/-!
# SmartyLayout.Proofs.LineRanges — which ranges of lines can be selected

A range of lines is given by two words, and nothing is known about them. `lineSpan?_classified` says
what becomes of each range:

* a range that lies in the text (`LineRange.Within`) is cut out of it (`Covers`);
* a range that begins in the text and ends with the largest word (`LineRange.Overruns`) is a
  fault: the end of a line is found from the number of the next one, and there is none;
* every other range is refused, and formatting refuses exactly these.

The second case is the only one in which a range outside the text is not refused.
-/

namespace SmartyLayout

open Text

namespace LineRange

/-- The lines of the range are lines of the text, in order. -/
def Within (r : LineRange) (t : Text) : Prop :=
  r.first ≤ r.last ∧ r.last.toNat < lineCount t

/-- The range begins in the text and ends with the largest line number. -/
def Overruns (r : LineRange) (t : Text) : Prop :=
  r.first.toNat < lineCount t ∧ r.last.toNat + 1 = UInt64.size

end LineRange

namespace Text

variable {t : Text} {r : LineRange}

/-! ## Single lines -/

theorem lineStart?_eq_none {line : UInt64} (h : lineCount t ≤ line.toNat) : lineStart? t line = none :=
  List.getElem?_eq_none h

theorem exists_lineStart? {line : UInt64} (h : line.toNat < lineCount t) :
    ∃ start, lineStart? t line = some start :=
  ⟨_, List.getElem?_eq_getElem h⟩

/-- A line that the text does not have ends nowhere. -/
theorem lineEnd?_eq_none {line : UInt64} (h : lineCount t ≤ line.toNat)
    (hword : line.toNat + 1 ≠ UInt64.size) : lineEnd? t line = .ok none := by
  have hnone : (lineStarts t)[line.toNat]? = none := List.getElem?_eq_none h
  unfold lineEnd?
  rw [if_neg hword]
  simp only [hnone]

/-! ## Ranges -/

/-- The largest word is in no reversed range. -/
theorem not_last_lt_of_overruns (h : r.Overruns t) : ¬ r.last < r.first := by
  intro hlt
  have hword := r.first.toNat_lt_size
  have hle := UInt64.lt_iff_toNat_lt.1 hlt
  have hlast := h.2
  omega

theorem lineSpan?_of_overruns (h : r.Overruns t) : lineSpan? t r = .error .overflow := by
  obtain ⟨start, hstart⟩ := exists_lineStart? h.1
  have hend : lineEnd? t r.last = .error .overflow := by
    unfold lineEnd?
    rw [if_pos h.2]
  unfold lineSpan?
  rw [if_neg (not_last_lt_of_overruns h)]
  simp only [hstart, hend]

/-- A range that does not lie in the text has no bytes. -/
theorem lineSpan?_of_not_within (hover : ¬ r.Overruns t) (h : ¬ r.Within t) :
    lineSpan? t r = .ok none := by
  unfold lineSpan?
  by_cases hlt : r.last < r.first
  · rw [if_pos hlt]
  · rw [if_neg hlt]
    have hlast : lineCount t ≤ r.last.toNat := by
      by_contra hin
      exact h ⟨UInt64.not_lt.1 hlt, Nat.lt_of_not_le hin⟩
    by_cases hfirst : r.first.toNat < lineCount t
    · -- it begins in the text, so it ends behind it with a line that has a successor
      obtain ⟨start, hstart⟩ := exists_lineStart? hfirst
      have hend := lineEnd?_eq_none hlast fun hword => hover ⟨hfirst, hword⟩
      simp only [hstart, hend]
      rfl
    · rw [lineStart?_eq_none (Nat.le_of_not_lt hfirst)]

theorem exists_covers_of_within (hover : ¬ r.Overruns t) (h : r.Within t) :
    ∃ front body ret rest, Covers t r front body ret rest := by
  obtain ⟨hfirst, hlast⟩ := h
  have hle := UInt64.le_iff_toNat_le.1 hfirst
  have hbound := r.last.toNat_lt_size
  have hword : r.last.toNat + 1 ≠ UInt64.size := by
    intro hword
    exact hover ⟨by omega, hword⟩
  -- so the number of the line behind the last one is a word as well
  exact exists_covers_of_succ_lt hfirst hlast (by omega)

end Text

namespace Formatter

/-- Formatting the text itself fails in the beautifier or not at all. -/
theorem exists_of_formatLf_eq_error {f : Formatter} {t : Text} {fault : FormatFault}
    (h : f.formatLf t = .error fault) : ∃ cause, fault = .beautifier cause := by
  unfold formatLf at h
  split at h
  · cases h
  · dsimp only at h
    split at h
    · next cause _ =>
      cases h
      exact ⟨cause, rfl⟩
    · cases h

theorem formatRange_ne_invalidRange {f : Formatter} {t : Text} {r : LineRange} {span : Span}
    (h : lineSpan? t r = .ok (some span)) (r' : LineRange) (n : Nat) :
    f.formatRange t r ≠ .error (.invalidRange r' n) := by
  intro hfault
  unfold formatRange at hfault
  simp only [h] at hfault
  split at hfault
  · next fault hformat =>
    obtain ⟨cause, rfl⟩ := exists_of_formatLf_eq_error hformat
    cases hfault
  · cases hfault

end Formatter

namespace Text

/-- Every range of lines, and what becomes of it. One that lies in the text is cut out of it: it
begins with the first of its lines and ends in front of the break behind the last. One that begins in
the text and ends with the largest word is a fault. All others are refused, and formatting refuses no
range but these. -/
theorem lineSpan?_classified (f : Formatter) (t : Text) (r : LineRange) :
    (r.Overruns t ∧ lineSpan? t r = .error .overflow ∧ f.formatRange t r = .error .lineOverflow) ∨
    (¬ r.Overruns t ∧ r.Within t ∧ (∃ front body ret rest, Covers t r front body ret rest) ∧
      ∀ r' n, f.formatRange t r ≠ .error (.invalidRange r' n)) ∨
    (¬ r.Overruns t ∧ ¬ r.Within t ∧ lineSpan? t r = .ok none ∧
      f.formatRange t r = .error (.invalidRange r (lineCount t))) := by
  by_cases hover : r.Overruns t
  · left
    have hspan := lineSpan?_of_overruns hover
    refine ⟨hover, hspan, ?_⟩
    unfold Formatter.formatRange
    simp only [hspan]
  · right
    by_cases hin : r.Within t
    · left
      obtain ⟨front, body, ret, rest, hcovers⟩ := exists_covers_of_within hover hin
      exact ⟨hover, hin, ⟨front, body, ret, rest, hcovers⟩,
        Formatter.formatRange_ne_invalidRange hcovers.span_eq⟩
    · right
      have hspan := lineSpan?_of_not_within hover hin
      refine ⟨hover, hin, hspan, ?_⟩
      unfold Formatter.formatRange
      simp only [hspan]

/-- Not every range is answered: the largest word is the number of a line without a successor. -/
theorem lineSpan?_not_total : ¬ ∀ (t : Text) (r : LineRange), ∃ s, lineSpan? t r = .ok s := by
  intro h
  obtain ⟨s, hs⟩ := h ['a'] ⟨0, 18446744073709551615⟩
  have hfault : lineSpan? ['a'] ⟨0, 18446744073709551615⟩ = .error .overflow := by decide
  rw [hfault] at hs
  cases hs

end Text

end SmartyLayout
