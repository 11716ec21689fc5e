import SmartyLayout.Proofs.Edits

/-!
# SmartyLayout.Proofs.Seeking — positions stand for byte offsets

An editor is told positions and never byte offsets. Nothing is lost by this: positions are as fine as
character boundaries and come in the same order, and reading a text from its front leads from a
position back to the boundary.

* `seek` is that way of reading: it passes line breaks, then characters. `offsetAt_eq_seek` says that
  an editor that keeps a table of line starts finds the same places;
* `position_before`: of two boundaries the later one has the later position;
* `position_of_size_le`: there are no positions behind the end of the text.

`positions_faithful` puts them together with what follows for edits.
-/

namespace SmartyLayout

/-- The order in which a text is read: by lines, then by columns. -/
def Position.Before (p q : Position) : Prop :=
  p.line < q.line ∨ p.line = q.line ∧ p.column < q.column

namespace Text

/-! ## Character boundaries -/

/-- A character of the text begins at this byte offset, or the text ends there. -/
def Boundary (t : Text) (n : Nat) : Prop :=
  ∃ s rest, t = s ++ rest ∧ size s = n

/-- What lies between two boundaries. -/
theorem Boundary.exists_between {t : Text} {a b : Nat} (ha : Boundary t a) (hb : Boundary t b)
    (hlt : a < b) :
    ∃ s m rest, t = s ++ m ++ rest ∧ m ≠ [] ∧ size s = a ∧ size (s ++ m) = b := by
  obtain ⟨s, rest, rfl, rfl⟩ := ha
  obtain ⟨s', rest', hcut, rfl⟩ := hb
  rcases List.append_eq_append_iff.1 hcut with ⟨m, rfl, hm⟩ | ⟨m, rfl, -⟩
  · refine ⟨s, m, rest', by rw [hm, List.append_assoc], ?_, rfl, rfl⟩
    rintro rfl
    simp at hlt
  · -- the second boundary would not be behind the first
    rw [size_append] at hlt
    omega

theorem units16_pos {t : Text} (h : t ≠ []) : 0 < units16 t := by
  obtain ⟨c, cs, rfl⟩ := List.exists_cons_of_ne_nil h
  have hc := charUnits16_pos c
  rw [units16]
  omega

theorem position_before (s rest : Text) {m : Text} (hm : m ≠ []) :
    (position (s ++ m ++ rest) (size s)).Before (position (s ++ m ++ rest) (size (s ++ m))) := by
  by_cases hbreak : '\n' ∈ m
  · -- a break lies between them
    left
    have hpos := List.count_pos_iff.2 hbreak
    have hfirst : takeBytes (size s) (s ++ m ++ rest) = s := by
      rw [List.append_assoc, takeBytes_size_append]
    rw [line_position, line_position, hfirst, takeBytes_size_append, List.count_append]
    omega
  · -- they are on one line, and the characters between them have units
    right
    obtain ⟨front, line, rfl, hfront, hline⟩ := exists_lastLine s
    have hlonger : '\n' ∉ line ++ m := by
      rw [List.mem_append, not_or]
      exact ⟨hline, hbreak⟩
    have hfirst := position_append hfront hline (m ++ rest)
    have hsecond := position_append hfront hlonger rest
    simp only [List.append_assoc] at hfirst hsecond ⊢
    rw [hfirst, hsecond, units16_append]
    exact ⟨rfl, Nat.lt_add_of_pos_right (units16_pos hm)⟩

theorem position_of_size_le {t : Text} {n : Nat} (h : size t ≤ n) :
    position t n = position t (size t) := by
  unfold position
  rw [Nat.min_eq_right h, Nat.min_self]

/-! ## Reading up to a position -/

/-- The number of bytes in front of a position. Line breaks are passed until none is left to pass,
then the characters of the line until the units of the column are used up. -/
def seek : (line column : Nat) → Text → Nat
  | _, _, [] => 0
  | line + 1, column, c :: cs => c.utf8Size + seek (if c = '\n' then line else line + 1) column cs
  | 0, 0, _ :: _ => 0
  | 0, column + 1, c :: cs =>
    if c = '\n' then 0 else c.utf8Size + seek 0 (column + 1 - charUnits16 c) cs

theorem seek_zero (column : Nat) (t : Text) :
    seek 0 column t = size (takeUnits column (t.takeWhile (· != '\n'))) := by
  induction t generalizing column with
  | nil => cases column <;> rfl
  | cons c t ih =>
    cases column with
    | zero => cases (c :: t).takeWhile (· != '\n') <;> rfl
    | succ column =>
      rw [seek]
      split
      · next hc =>
        rw [List.takeWhile_cons_of_neg (by simp [hc])]
        rfl
      · next hc => rw [ih, List.takeWhile_cons_of_pos (by simpa using hc), takeUnits, size_cons]

/-- Whole lines are passed by their breaks. -/
theorem WholeLines.seek_append {front : Text} (hfront : WholeLines front) (column : Nat)
    (rest : Text) : seek (front.count '\n') column (front ++ rest) = size front + seek 0 column rest := by
  induction front with
  | nil => simp
  | cons c front ih =>
    by_cases hc : c = '\n'
    · have hlater : WholeLines front := by
        rcases hfront with hnil | hlast
        · cases hnil
        · cases front with
          | nil => exact .inl rfl
          | cons e front => exact .inr (by simpa using hlast)
      rw [hc, List.count_cons_self, List.cons_append, seek, if_pos rfl, ih hlater, size_cons]
      omega
    · -- the line goes on, so its break is still to come
      have hlast : front.getLast? = some '\n' := by
        rcases hfront with hnil | hlast
        · cases hnil
        · cases front with
          | nil => exact absurd (by simpa using hlast) hc
          | cons e front => simpa using hlast
      have hpos := List.count_pos_iff.2 (List.mem_of_getLast? hlast)
      obtain ⟨k, hk⟩ : ∃ k, front.count '\n' = k + 1 := ⟨_, (Nat.succ_pred_eq_of_pos hpos).symm⟩
      have hrest := ih (.inr hlast)
      rw [List.count_cons_of_ne hc, List.cons_append, hk, seek, if_neg hc, ← hk, hrest, size_cons]
      omega

/-- A line that the text does not have is sought up to its end. -/
theorem seek_of_count_lt {t : Text} {line : Nat} (h : t.count '\n' < line) (column : Nat) :
    seek line column t = size t := by
  induction t generalizing line with
  | nil => cases line <;> rfl
  | cons c t ih =>
    obtain ⟨k, rfl⟩ : ∃ k, line = k + 1 := ⟨line - 1, by omega⟩
    rw [seek, size_cons]
    split
    · next hc =>
      rw [hc, List.count_cons_self] at h
      rw [ih (by omega)]
    · next hc =>
      rw [List.count_cons_of_ne hc] at h
      rw [ih h]

theorem offsetAt_eq_seek (t : Text) (p : Position) : offsetAt t p = seek p.line p.column t := by
  unfold offsetAt
  by_cases hline : p.line ≤ t.count '\n'
  · obtain ⟨front, rest, rfl, hfront, hcount⟩ := exists_wholeLines hline
    simp only [← hcount, hfront.getElem?_lineStarts, Option.getD_some, dropBytes_size_append,
      hfront.seek_append, seek_zero]
  · have hnone : (lineStarts t)[p.line]? = none := by
      rw [List.getElem?_eq_none_iff, length_lineStarts]
      omega
    have hend : dropBytes (size t) t = [] := by
      have hdrop := dropBytes_size_append t []
      rwa [List.append_nil] at hdrop
    simp only [hnone, Option.getD_none, hend, seek_of_count_lt (Nat.lt_of_not_le hline)]
    cases p.column <;> rfl

/-- Positions stand for byte offsets. They are in the order of the character boundaries, from the
first to the end of the text, and behind the end there are no others; reading the text up to the
position of a boundary, which is what an editor does, leads to the boundary. So edits, in a text that
an editor can count, replace the bytes that they were made for. -/
theorem positions_faithful (t : Text) :
    (∀ a b, Boundary t a → Boundary t b → a < b → (position t a).Before (position t b)) ∧
    (∀ n, size t ≤ n → position t n = position t (size t)) ∧
    (∀ n, Boundary t n → seek (position t n).line (position t n).column t = n) ∧
    (∀ p, offsetAt t p = seek p.line p.column t) ∧
    (Countable t →
      (∀ new, (Editor.Edit.whole t new).apply t = new) ∧
      ∀ before part after new, t = before ++ part ++ after →
        (Editor.Edit.ofRange t ⟨⟨size before, size (before ++ part)⟩, new⟩).apply t =
          before ++ new ++ after) := by
  refine ⟨?_, fun n => position_of_size_le, ?_, offsetAt_eq_seek t, ?_⟩
  · intro a b ha hb hlt
    obtain ⟨s, m, rest, rfl, hm, rfl, rfl⟩ := ha.exists_between hb hlt
    exact position_before s rest hm
  · rintro n ⟨s, rest, rfl, rfl⟩
    rw [← offsetAt_eq_seek]
    exact offsetAt_position s rest
  · intro ht
    refine ⟨fun new => Editor.Edit.apply_whole ht new, ?_⟩
    rintro before part after new rfl
    rw [size_append]
    exact Editor.Edit.apply_ofRange ht new

/-- A range that begins at the end of a line and ends behind a character of two units. -/
theorem positions_faithful_pair :
    let t := "é\n😀b\n".toList
    (position t 2).Before (position t 7) ∧ seek 1 2 t = 7 ∧
      (Editor.Edit.ofRange t ⟨⟨2, 7⟩, ['x']⟩).apply t = "éxb\n".toList := by
  intro t
  obtain ⟨hbefore, -, hseek, -, hedits⟩ := positions_faithful t
  have hstart : Boundary t 2 := ⟨['é'], "\n😀b\n".toList, rfl, by decide⟩
  have hstop : Boundary t 7 := ⟨"é\n😀".toList, "b\n".toList, rfl, by decide⟩
  have hcount : Countable t := by decide
  refine ⟨hbefore 2 7 hstart hstop (by decide), hseek 7 hstop, ?_⟩
  exact (hedits hcount).2 ['é'] "\n😀".toList "b\n".toList ['x'] rfl

end Text

end SmartyLayout
