import SmartyLayout.Proofs.Division
import SmartyLayout.Proofs.Flush
import SmartyLayout.Text.Position

/-!
# SmartyLayout.Proofs.Positions — lines, offsets and positions of one text

A text is told apart by its line breaks in three ways: as a list of lines, as the byte offsets where
its lines begin, and as editor positions. All three follow from one cut: `front ++ rest` where `front`
consists of whole lines.

* `lineStarts_append`, `WholeLines.getElem?_lineStarts`: the line behind `front` begins at its size, and its
  number is the number of breaks in `front`;
* `line_position`: the line of any byte offset is told by the breaks in front of it;
* `position_append` and `offsetAt_position`: an editor that is told the position of a character
  boundary finds the boundary again;
* `exists_covers_of_succ_lt`: the bytes that `lineSpan?` gives for a range of lines.
-/

namespace SmartyLayout

namespace Text

/-! ## Whole lines -/

/-- The text consists of whole lines: it is empty or ends in a line break. -/
def WholeLines (t : Text) : Prop :=
  t = [] ∨ t.getLast? = some '\n'

theorem WholeLines.append {s t : Text} (hs : WholeLines s) (ht : WholeLines t) :
    WholeLines (s ++ t) := by
  rcases ht with rfl | ht
  · rwa [List.append_nil]
  · right
    rw [List.getLast?_append, ht, Option.some_or]

/-- The first `k` lines of a text that has more of them. -/
theorem exists_wholeLines {t : Text} {k : Nat} (hk : k ≤ t.count '\n') :
    ∃ front rest, t = front ++ rest ∧ WholeLines front ∧ front.count '\n' = k := by
  induction t generalizing k with
  | nil =>
    have hzero : k = 0 := by simpa using hk
    exact ⟨[], [], rfl, .inl rfl, hzero.symm⟩
  | cons c t ih =>
    by_cases hzero : k = 0
    · exact ⟨[], c :: t, rfl, .inl rfl, hzero.symm⟩
    · by_cases hc : c = '\n'
      · -- the break closes the first line, the others follow
        subst hc
        rw [List.count_cons_self] at hk
        obtain ⟨front, rest, rfl, hwhole, hcount⟩ := ih (k := k - 1) (by omega)
        refine ⟨'\n' :: front, rest, rfl, ?_, ?_⟩
        · exact WholeLines.append (s := ['\n']) (.inr rfl) hwhole
        · rw [List.count_cons_self, hcount]
          omega
      · rw [List.count_cons_of_ne hc] at hk
        obtain ⟨front, rest, rfl, hwhole, hcount⟩ := ih hk
        refine ⟨c :: front, rest, rfl, ?_, ?_⟩
        · rcases hwhole with rfl | hlast
          · exact absurd hcount.symm hzero
          · right
            rw [List.getLast?_cons, hlast, Option.getD_some]
        · rw [List.count_cons_of_ne hc, hcount]

/-- A text is its whole lines and the line that has only begun. -/
theorem exists_lastLine (t : Text) :
    ∃ front line, t = front ++ line ∧ WholeLines front ∧ '\n' ∉ line := by
  obtain ⟨front, line, rfl, hwhole, hcount⟩ := exists_wholeLines (Nat.le_refl (t.count '\n'))
  refine ⟨front, line, rfl, hwhole, ?_⟩
  rw [List.count_append] at hcount
  exact List.count_eq_zero.1 (by omega)

/-- What follows a text up to the end of the line. -/
theorem exists_restOfLine (t : Text) :
    ∃ line rest, t = line ++ rest ∧ '\n' ∉ line ∧ (rest = [] ∨ ∃ more, rest = '\n' :: more) := by
  refine ⟨t.takeWhile (· != '\n'), t.dropWhile (· != '\n'),
    List.takeWhile_append_dropWhile.symm, ?_, ?_⟩
  · intro hmem
    simpa using List.mem_takeWhile_imp hmem
  · cases hrest : t.dropWhile (· != '\n') with
    | nil => exact .inl rfl
    | cons c rest =>
      obtain ⟨rfl, -⟩ := eq_of_dropWhile_bne hrest
      exact .inr ⟨rest, rfl⟩

/-! ## Line starts -/

theorem startsFrom_append (pos : Nat) (s t : Text) :
    startsFrom pos (s ++ t) = startsFrom pos s ++ startsFrom (pos + size s) t := by
  induction s generalizing pos with
  | nil => simp [startsFrom]
  | cons c s ih =>
    have hnext : pos + c.utf8Size + size s = pos + size (c :: s) := by
      rw [size_cons]
      omega
    simp only [List.cons_append, startsFrom, ih, hnext]
    split <;> rfl

/-- A line begins behind the offset the text begins at, and not behind the end of the text. -/
theorem bounds_of_mem_startsFrom {pos n : Nat} {t : Text} (h : n ∈ startsFrom pos t) :
    pos < n ∧ n ≤ pos + size t := by
  induction t generalizing pos with
  | nil => simp [startsFrom] at h
  | cons c t ih =>
    have hc : 0 < c.utf8Size := Char.utf8Size_pos c
    have hlater (h : n ∈ startsFrom (pos + c.utf8Size) t) : pos < n ∧ n ≤ pos + size (c :: t) := by
      have hbounds := ih h
      rw [size_cons]
      omega
    simp only [startsFrom] at h
    split at h
    · rcases List.mem_cons.1 h with rfl | h
      · rw [size_cons]
        omega
      · exact hlater h
    · exact hlater h

theorem length_startsFrom (pos : Nat) (t : Text) : (startsFrom pos t).length = t.count '\n' := by
  induction t generalizing pos with
  | nil => rfl
  | cons c t ih =>
    simp only [startsFrom]
    split
    · next hc => rw [List.length_cons, ih, hc, List.count_cons_self]
    · next hc => rw [ih, List.count_cons_of_ne hc]

theorem startsFrom_eq_nil {t : Text} (h : '\n' ∉ t) (pos : Nat) : startsFrom pos t = [] := by
  rw [← List.length_eq_zero_iff, length_startsFrom]
  exact List.count_eq_zero.2 h

theorem lineStarts_append (s t : Text) :
    lineStarts (s ++ t) = lineStarts s ++ startsFrom (size s) t := by
  rw [lineStarts, startsFrom_append, Nat.zero_add]
  rfl

theorem length_lineStarts (t : Text) : (lineStarts t).length = t.count '\n' + 1 := by
  rw [lineStarts, List.length_cons, length_startsFrom]

theorem lineCount_eq (t : Text) : lineCount t = t.count '\n' + 1 :=
  length_lineStarts t

theorem length_lines (t : Text) : (lines t).length = t.count '\n' + 1 := by
  induction t with
  | nil => rfl
  | cons c t ih =>
    obtain ⟨l, ls, hlines⟩ := List.exists_cons_of_ne_nil (lines_ne_nil t)
    by_cases hc : c = '\n'
    · rw [hc, lines_cons_newline, List.length_cons, ih, List.count_cons_self]
    · rw [List.count_cons_of_ne hc, ← ih]
      simp [lines, hc, hlines]

theorem le_size_of_mem_lineStarts {t : Text} {n : Nat} (h : n ∈ lineStarts t) : n ≤ size t := by
  rcases List.mem_cons.1 h with rfl | h
  · exact Nat.zero_le _
  · have hbounds := bounds_of_mem_startsFrom h
    omega

/-- The last line of whole lines is empty and begins at their end. -/
theorem WholeLines.getLast?_lineStarts {t : Text} (h : WholeLines t) :
    (lineStarts t).getLast? = some (size t) := by
  rcases h with rfl | h
  · rfl
  · obtain ⟨front, rfl⟩ : ∃ front, t = front ++ ['\n'] :=
      ⟨t.dropLast, (List.dropLast_append_getLast? _ h).symm⟩
    rw [lineStarts_append, List.getLast?_append]
    simp [startsFrom]

/-- The line behind whole lines begins at their end. -/
theorem WholeLines.getElem?_lineStarts {front : Text} (h : WholeLines front) (rest : Text) :
    (lineStarts (front ++ rest))[front.count '\n']? = some (size front) := by
  have hlast := h.getLast?_lineStarts
  rw [List.getLast?_eq_getElem?, length_lineStarts, Nat.add_sub_cancel] at hlast
  rw [lineStarts_append, List.getElem?_append_left (by rw [length_lineStarts]; omega), hlast]

/-! ## Positions -/

/-- The place of a character boundary: the whole lines in front of it, and its column. -/
theorem position_append {front line : Text} (hfront : WholeLines front) (hline : '\n' ∉ line)
    (rest : Text) :
    position (front ++ line ++ rest) (size (front ++ line)) = ⟨front.count '\n', units16 line⟩ := by
  have hmin : min (size (front ++ line)) (size (front ++ line ++ rest)) = size (front ++ line) := by
    rw [size_append (front ++ line) rest]
    omega
  have hstarts : lineStarts (front ++ line ++ rest) =
      lineStarts front ++ startsFrom (size (front ++ line)) rest := by
    rw [lineStarts_append, lineStarts_append, startsFrom_eq_nil hline, List.append_nil]
  -- the lines of `front` begin in front of the boundary, all others behind it
  have hbefore : (lineStarts (front ++ line ++ rest)).takeWhile (· ≤ size (front ++ line)) =
      lineStarts front := by
    rw [hstarts, List.takeWhile_append_of_pos]
    · have hnone : (startsFrom (size (front ++ line)) rest).takeWhile
          (fun n => decide (n ≤ size (front ++ line))) = [] := by
        rw [List.takeWhile_eq_nil_iff]
        intro hpos
        have hbounds := bounds_of_mem_startsFrom (List.get_mem _ ⟨0, hpos⟩)
        simp only [decide_eq_true_eq]
        omega
      rw [hnone, List.append_nil]
    · intro n hn
      have hle := le_size_of_mem_lineStarts hn
      simp only [decide_eq_true_eq, size_append]
      omega
  have hslice : slice (front ++ line ++ rest) ⟨size front, size (front ++ line)⟩ = line := by
    rw [size_append]
    exact slice_append front line rest
  simp only [position, hmin, hbefore, hfront.getLast?_lineStarts, length_lineStarts,
    Option.getD_some, hslice, Nat.add_sub_cancel]

theorem takeBytes_of_size_le {t : Text} {n : Nat} (h : size t ≤ n) : takeBytes n t = t := by
  induction t generalizing n with
  | nil => rfl
  | cons c t ih =>
    have hc : 0 < c.utf8Size := Char.utf8Size_pos c
    rw [size_cons] at h
    obtain ⟨k, rfl⟩ : ∃ k, n = k + 1 := ⟨n - 1, by omega⟩
    rw [takeBytes, ih (by omega)]

/-- Of the lines that begin behind `pos`, those that begin up to `n` are told by the breaks of the
first bytes. -/
theorem length_takeWhile_startsFrom (pos n : Nat) (t : Text) :
    ((startsFrom pos t).takeWhile (· ≤ n)).length = (takeBytes (n - pos) t).count '\n' := by
  induction t generalizing pos with
  | nil => simp [startsFrom, takeBytes]
  | cons c t ih =>
    by_cases hn : n ≤ pos
    · -- no line begins in front of the offset
      rw [Nat.sub_eq_zero_of_le hn, takeBytes_zero, List.count_nil, List.length_eq_zero_iff,
        List.takeWhile_eq_nil_iff]
      intro hpos
      have hbounds := bounds_of_mem_startsFrom (List.get_mem _ ⟨0, hpos⟩)
      simp only [decide_eq_true_eq]
      omega
    · obtain ⟨k, hk⟩ : ∃ k, n - pos = k + 1 := ⟨n - pos - 1, by omega⟩
      have hnext : k + 1 - c.utf8Size = n - (pos + c.utf8Size) := by omega
      rw [hk, takeBytes, hnext, startsFrom]
      split
      · next hc =>
        have hle : pos + c.utf8Size ≤ n := by
          rw [hc]
          show pos + 1 ≤ n
          omega
        rw [List.takeWhile_cons_of_pos (by simpa using hle), List.length_cons, ih, hc,
          List.count_cons_self]
      · next hc => rw [ih, List.count_cons_of_ne hc]

/-- The line of an offset is told by the breaks among the characters in front of it. -/
theorem line_position (t : Text) (offset : Nat) :
    (position t offset).line = (takeBytes offset t).count '\n' := by
  have hmin : takeBytes (min offset (size t)) t = takeBytes offset t := by
    rcases Nat.le_total offset (size t) with h | h
    · rw [Nat.min_eq_left h]
    · rw [Nat.min_eq_right h, takeBytes_of_size_le h, takeBytes_of_size_le (Nat.le_refl _)]
  have hstarts := length_takeWhile_startsFrom 0 (min offset (size t)) t
  rw [Nat.sub_zero, hmin] at hstarts
  rw [← hstarts]
  simp [position, lineStarts]

/-- The characters at the front of a text that fill its first `n` UTF-16 units. -/
def takeUnits : Nat → Text → Text
  | _, [] => []
  | 0, _ => []
  | n + 1, c :: cs => c :: takeUnits (n + 1 - charUnits16 c) cs

/-- The byte offset that an editor finds at a position: it goes to the start of the line, the end of
the text if there is no such line, and from there on through characters of the line until as many
UTF-16 units are behind it as the column says. -/
def offsetAt (t : Text) (p : Position) : Nat :=
  let start := (lineStarts t)[p.line]?.getD (size t)
  start + size (takeUnits p.column ((dropBytes start t).takeWhile (· != '\n')))

theorem charUnits16_pos (c : Char) : 0 < charUnits16 c := by
  unfold charUnits16
  split <;> decide

theorem takeUnits_append (s t : Text) : takeUnits (units16 s) (s ++ t) = s := by
  induction s with
  | nil => cases t <;> rfl
  | cons c s ih =>
    have hc := charUnits16_pos c
    obtain ⟨k, hk⟩ : ∃ k, units16 (c :: s) = k + 1 :=
      ⟨charUnits16 c + units16 s - 1, by simp only [units16]; omega⟩
    have hrest : k + 1 - charUnits16 c = units16 s := by
      rw [← hk, units16]
      omega
    rw [hk, List.cons_append, takeUnits, hrest, ih]

/-- An editor that is told the position of a character boundary finds the boundary. -/
theorem offsetAt_position (s rest : Text) :
    offsetAt (s ++ rest) (position (s ++ rest) (size s)) = size s := by
  obtain ⟨front, line, rfl, hfront, hline⟩ := exists_lastLine s
  have hstart : (lineStarts (front ++ line ++ rest))[front.count '\n']? = some (size front) := by
    rw [List.append_assoc]
    exact hfront.getElem?_lineStarts _
  have hbehind : dropBytes (size front) (front ++ line ++ rest) = line ++ rest := by
    rw [List.append_assoc]
    exact dropBytes_size_append front _
  have htake : (line ++ rest).takeWhile (· != '\n') = line ++ rest.takeWhile (· != '\n') := by
    refine List.takeWhile_append_of_pos fun c hc => ?_
    have hne : c ≠ '\n' := fun heq => hline (heq ▸ hc)
    simpa using hne
  rw [position_append hfront hline]
  simp only [offsetAt, hstart, Option.getD_some, hbehind, htake, takeUnits_append, size_append]

/-! ## Ranges of bytes and ranges of lines -/

/-- The text with a range of bytes replaced. -/
def splice (t : Text) (s : Span) (new : Text) : Text :=
  takeBytes s.start t ++ new ++ dropBytes s.stop t

theorem splice_append (before part new after : Text) :
    splice (before ++ part ++ after) ⟨size before, size before + size part⟩ new =
      before ++ new ++ after := by
  have htake : takeBytes (size before) (before ++ part ++ after) = before := by
    rw [List.append_assoc, takeBytes_size_append]
  have hdrop : dropBytes (size before + size part) (before ++ part ++ after) = after := by
    rw [← size_append, dropBytes_size_append]
  rw [splice, htake, hdrop]

/-- A text cut around a range of lines: whole lines, the lines of the range, the carriage return of the
break behind them, if there is one, and the rest. -/
structure Covers (t : Text) (r : LineRange) (front body ret rest : Text) : Prop where
  text_eq : t = front ++ body ++ (ret ++ rest)
  wholeLines : WholeLines front
  /-- The range begins with line `r.first`. -/
  count_front : front.count '\n' = r.first.toNat
  /-- It ends with line `r.last`. -/
  count_body : body.count '\n' + r.first.toNat = r.last.toNat
  ret_eq : ret = ['\r'] ∨ ret = [] ∧ body.getLast? ≠ some '\r'
  rest_eq : rest = [] ∨ ∃ more, rest = '\n' :: more
  span_eq : lineSpan? t r = .ok (some ⟨size front, size front + size body⟩)

/-- Where a line ends: at its break, or at the end of the text, in front of a carriage return. -/
theorem lineEnd?_eq {front line rest : Text} {k : UInt64} (hfront : WholeLines front)
    (hcount : front.count '\n' = k.toNat) (hk : k.toNat + 1 < UInt64.size) (hline : '\n' ∉ line)
    (hrest : rest = [] ∨ ∃ more, rest = '\n' :: more) :
    lineEnd? (front ++ line ++ rest) k =
      .ok (some (size front +
        if line.getLast? = some '\r' then size line - 1 else size line)) := by
  have hstart : (lineStarts (front ++ line ++ rest))[k.toNat]? = some (size front) := by
    rw [← hcount, List.append_assoc]
    exact hfront.getElem?_lineStarts _
  have hbefore : beforeReturn (front ++ line ++ rest) (size front) (size front + size line) =
      size front + if line.getLast? = some '\r' then size line - 1 else size line := by
    rw [beforeReturn, slice_append, beforeReturn.endsInReturn]
    split
    · next hret =>
      have hret' : line.getLast? = some '\r' := by simpa using hret
      have hpos : 0 < size line := size_pos_of_ne_nil fun hnil => by simp [hnil] at hret'
      rw [if_pos hret']
      omega
    · next hret =>
      have hret' : line.getLast? ≠ some '\r' := by simpa using hret
      rw [if_neg hret']
  have hword : ¬ k.toNat + 1 = UInt64.size := by omega
  rw [lineEnd?, if_neg hword, ← hbefore]
  rcases hrest with rfl | ⟨more, rfl⟩
  · -- the last line of the text
    have hnone : (lineStarts (front ++ line ++ []))[k.toNat + 1]? = none := by
      rw [List.getElem?_eq_none_iff, length_lineStarts, List.append_nil, List.count_append,
        List.count_eq_zero.2 hline]
      omega
    have hsize : size (front ++ line ++ []) = size front + size line := by simp
    simp only [hstart, hnone, hsize]
  · -- the next line begins behind the break
    have hnext : (lineStarts (front ++ line ++ '\n' :: more))[k.toNat + 1]? =
        some (size front + size line + 1) := by
      have hwhole : WholeLines (front ++ line ++ ['\n']) := by
        right
        simp
      have hbreaks : (front ++ line ++ ['\n']).count '\n' = k.toNat + 1 := by
        rw [List.count_append, List.count_append, List.count_eq_zero.2 hline, hcount]
        simp
      have hlines := hwhole.getElem?_lineStarts more
      rw [hbreaks, List.append_assoc, List.singleton_append] at hlines
      have hbyte : size ['\n'] = 1 := rfl
      rw [hlines, size_append, size_append, hbyte]
    simp only [hstart, hnext, Nat.add_sub_cancel]

/-- The lines of a range can be cut out of every text that has them, and these are the bytes that
`lineSpan?` gives, as long as the line behind the last one has a number. -/
theorem exists_covers_of_succ_lt {t : Text} {r : LineRange} (hfirst : r.first ≤ r.last)
    (hlast : r.last.toNat < lineCount t) (hword : r.last.toNat + 1 < UInt64.size) :
    ∃ front body ret rest, Covers t r front body ret rest := by
  have hle : r.first.toNat ≤ r.last.toNat := UInt64.le_iff_toNat_le.1 hfirst
  rw [lineCount_eq] at hlast
  -- the lines in front of the range, then those of the range but the last
  obtain ⟨front, behind, rfl, hfront, hfrontCount⟩ :=
    exists_wholeLines (t := t) (k := r.first.toNat) (by omega)
  rw [List.count_append] at hlast
  obtain ⟨mid, tail, rfl, hmid, hmidCount⟩ :=
    exists_wholeLines (t := behind) (k := r.last.toNat - r.first.toNat) (by omega)
  obtain ⟨line, rest, rfl, hline, hrest⟩ := exists_restOfLine tail
  have hstart : lineStart? (front ++ (mid ++ (line ++ rest))) r.first = some (size front) := by
    rw [lineStart?, ← hfrontCount]
    exact hfront.getElem?_lineStarts _
  have hbreaks : (front ++ mid).count '\n' = r.last.toNat := by
    rw [List.count_append]
    omega
  have hend := lineEnd?_eq (hfront.append hmid) hbreaks hword hline hrest
  have hassoc : front ++ mid ++ line ++ rest = front ++ (mid ++ (line ++ rest)) := by
    simp only [List.append_assoc]
  have hspan : lineSpan? (front ++ (mid ++ (line ++ rest))) r = .ok (some ⟨size front,
      size (front ++ mid) + if line.getLast? = some '\r' then size line - 1 else size line⟩) := by
    have hnot : ¬ r.last < r.first := UInt64.not_lt.2 hfirst
    rw [hassoc] at hend
    simp only [lineSpan?, if_neg hnot, hstart, hend]
    rfl
  by_cases hret : line.getLast? = some '\r'
  · obtain ⟨body, rfl⟩ : ∃ body, line = body ++ ['\r'] :=
      ⟨line.dropLast, (List.dropLast_append_getLast? _ hret).symm⟩
    refine ⟨front, mid ++ body, ['\r'], rest, ?_, hfront, hfrontCount, ?_, .inl rfl, hrest, ?_⟩
    · simp
    · have hbody : '\n' ∉ body := fun hmem => hline (List.mem_append_left _ hmem)
      rw [List.count_append, List.count_eq_zero.2 hbody]
      omega
    · have hbyte : size ['\r'] = 1 := rfl
      rw [hspan, if_pos hret, size_append body, hbyte, Nat.add_sub_cancel]
      simp [Nat.add_assoc]
  · refine ⟨front, mid ++ line, [], rest, ?_, hfront, hfrontCount, ?_, .inr ⟨rfl, ?_⟩, hrest, ?_⟩
    · simp
    · rw [List.count_append, List.count_eq_zero.2 hline]
      omega
    · -- whole lines in front of an empty last line end in a break
      intro hlastReturn
      rw [List.getLast?_append] at hlastReturn
      cases hlineLast : line.getLast? with
      | some c =>
        rw [hlineLast, Option.some_or] at hlastReturn
        exact hret (hlineLast.trans hlastReturn)
      | none =>
        rw [hlineLast, Option.none_or] at hlastReturn
        rcases hmid with rfl | hmid
        · simp at hlastReturn
        · rw [hmid] at hlastReturn
          exact absurd hlastReturn (by decide)
    · rw [hspan, if_neg hret]
      simp [Nat.add_assoc]

/-- In a text whose lines can be counted this holds of every range. -/
theorem exists_covers {t : Text} {r : LineRange} (hfirst : r.first ≤ r.last)
    (hlast : r.last.toNat < lineCount t) (hcount : lineCount t < UInt64.size) :
    ∃ front body ret rest, Covers t r front body ret rest :=
  exists_covers_of_succ_lt hfirst hlast (by omega)

end Text

end SmartyLayout
