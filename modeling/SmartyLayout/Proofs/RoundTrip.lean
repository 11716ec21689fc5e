import SmartyLayout.Proofs.Protection

/-!
# SmartyLayout.Proofs.RoundTrip — what protecting a text and unprotecting it leaves

Removing markers is blind to who put them there. `unprotect_protect_eq_dedented_iff` says when this
goes well: the round trip changes nothing but the indentation of the marked lines, exactly if no
marker is kept between the inserted ones and no marked line ends in a stub.

That a marker of the source does harm is shown by counting (`removals`). Markers run from slash to
slash, so to remove them from the left is to remove as many as possible
(`removals_cons_bounds`). Hence at least the inserted ones and the one of the source are removed, and
more slashes are lost than were inserted.
-/

namespace SmartyLayout

namespace IgnoreMarker

open Text

/-! ## Dedented lines -/

/-- The element with the tabs and spaces in front of its template lines dropped; a blank body stays as
it is. -/
def Element.dedented (e : Element) : Text :=
  if Text.blank e.body then e.text
  else
    e.opening ++
      unlines ((lines e.body).map fun l =>
        if looksLikeTemplate l then l.dropWhile (fun c => c == '\t' || c == ' ') else l) ++
      e.closing

/-- The text with the tabs and spaces in front of the template lines of its scripts and styles
dropped. -/
def dedented (t : Text) : Text :=
  (segments element? t).flatMap (Segment.text Element.dedented)

theorem Chunk.bare_writes :
    Chunk.Writes Chunk.bare fun l => l.dropWhile fun c => c == '\t' || c == ' ' :=
  ⟨fun _ => rfl, fun _ => rfl⟩

theorem Element.written_dropWhile (e : Element) :
    e.written (fun l => l.dropWhile fun c => c == '\t' || c == ' ') = e.dedented := by
  unfold Element.written Element.dedented
  cases hblank : Text.blank e.body with
  | true => simp [Element.marked, hblank]
  | false =>
    cases hmarked : (lines e.body).any looksLikeTemplate with
    | true => simp [Element.marked, hblank, hmarked]
    | false =>
      -- no line to be marked, so no line loses anything
      have hsame : ((lines e.body).map fun l =>
          if looksLikeTemplate l then l.dropWhile (fun c => c == '\t' || c == ' ') else l) =
          lines e.body := by
        refine (List.map_congr_left fun l hl => ?_).trans (List.map_id _)
        simp [List.any_eq_false.1 hmarked l hl]
      simp [Element.marked, hblank, hmarked, hsame, Element.text]

theorem bare_chunks (t : Text) : (chunks t).flatMap Chunk.bare = dedented t := by
  rw [Chunk.bare_writes.flatMap_chunks, funext Element.written_dropWhile, dedented]

/-! ## Counting markers -/

/-- The number of markers that are removed from a text. -/
def removals (t : Text) : Nat :=
  (segments marker? t).countP fun
    | .hit _ => true
    | .char _ => false

/-- A text from the left, as the search for markers reads it. -/
theorem marker_induction {motive : Text → Prop} (nil : motive [])
    (char : ∀ c t, marker? (c :: t) = none → motive t → motive (c :: t))
    (marker : ∀ m t, IsMarker m → motive t → motive (m ++ t)) (t : Text) : motive t := by
  induction hn : t.length using Nat.strong_induction_on generalizing t with
  | _ n ih =>
    cases t with
    | nil => exact nil
    | cons c t =>
      cases h : marker? (c :: t) with
      | none => exact char c t h (ih t.length (by simp [← hn]) t rfl)
      | some found =>
        obtain ⟨-, m, rest, heq, hm, -⟩ := marker?_eq_some_iff.1 h
        have hlength := congrArg List.length heq
        have hpos := hm.length_pos
        rw [heq]
        rw [List.length_append] at hlength
        exact marker m rest hm (ih rest.length (by omega) rest rfl)

@[simp] theorem removals_nil : removals [] = 0 := rfl

theorem removals_cons_of_none {c : Char} {t : Text} (h : marker? (c :: t) = none) :
    removals (c :: t) = removals t := by
  simp [removals, segments_cons_of_none h]

theorem removals_append_marker {m : Text} (hm : IsMarker m) (t : Text) :
    removals (m ++ t) = removals t + 1 := by
  have hne : m ++ t ≠ [] := by
    obtain ⟨inner, rfl, -⟩ := hm.slashes
    simp
  have hhit := segments_of_hit (marker?_append hm t) hm.length_pos hne
  simp [removals, hhit]

theorem count_slash_of_isMarker {m : Text} (hm : IsMarker m) : m.count '/' = 2 := by
  obtain ⟨inner, rfl, hinner⟩ := hm.slashes
  simp [List.count_eq_zero_of_not_mem hinner]

/-- Every marker takes two slashes with it. -/
theorem count_slash_unprotect (t : Text) :
    (unprotect t).count '/' + 2 * removals t = t.count '/' := by
  induction t using marker_induction with
  | nil => rfl
  | char c t h ih =>
    have hkeep : unprotect (c :: t) = c :: unprotect t := by
      simp [unprotect, substitute, segments_cons_of_none h, Segment.text]
    rw [hkeep, removals_cons_of_none h, List.count_cons, List.count_cons, ← ih]
    omega
  | marker m t hm ih =>
    rw [unprotect_append_marker hm, removals_append_marker hm, List.count_append,
      count_slash_of_isMarker hm, ← ih]
    omega

/-- Nothing is removed in front of the first slash. -/
theorem removals_append_of_no_slash {w : Text} (hw : '/' ∉ w) (t : Text) :
    removals (w ++ t) = removals t := by
  induction w with
  | nil => rfl
  | cons c w ih =>
    rw [List.mem_cons, not_or] at hw
    have hnone : marker? (c :: (w ++ t)) = none := marker?_cons_of_ne (Ne.symm hw.1) _
    rw [List.cons_append, removals_cons_of_none hnone, ih hw.2]

/-- A character in front of a text may complete a marker, and then break up the next one, but no
more. -/
theorem removals_cons_bounds (c : Char) (t : Text) :
    removals t ≤ removals (c :: t) ∧ removals (c :: t) ≤ removals t + 1 := by
  induction hn : t.length using Nat.strong_induction_on generalizing c t with
  | _ n ih =>
    cases h : marker? (c :: t) with
    | none =>
      rw [removals_cons_of_none h]
      exact ⟨Nat.le_refl _, Nat.le_succ _⟩
    | some found =>
      -- the next marker begins at the last slash of this one, or behind it
      obtain ⟨-, m, rest, heq, hm, -⟩ := marker?_eq_some_iff.1 h
      have hwhole : removals (c :: t) = removals rest + 1 := by rw [heq, removals_append_marker hm]
      obtain ⟨inner, rfl, hinner⟩ := hm.slashes
      rw [List.cons_append, List.cons.injEq] at heq
      obtain ⟨rfl, rfl⟩ := heq
      have hinside : removals (inner ++ ['*', '/'] ++ rest) = removals ('/' :: rest) := by
        have hstar : '/' ∉ inner ++ ['*'] := by simp [hinner]
        have hsplit : inner ++ ['*', '/'] ++ rest = (inner ++ ['*']) ++ '/' :: rest := by simp
        rw [hsplit, removals_append_of_no_slash hstar]
      have hrest := ih rest.length (by rw [← hn]; simp; omega) '/' rest rfl
      rw [hwhole, hinside]
      omega

/-- What stands in front of a text saves none of its markers. -/
theorem removals_le_append (w t : Text) : removals t ≤ removals (w ++ t) := by
  induction w with
  | nil => exact Nat.le_refl _
  | cons c w ih => exact ih.trans (removals_cons_bounds c (w ++ t)).1

/-! ## Markers of the source -/

/-- The number of marked lines. -/
def lineCount (cs : List Chunk) : Nat :=
  (cs.filterMap Chunk.line?).length

/-- At least the inserted markers are removed. -/
theorem removals_guarded_append (cs : List Chunk) (t : Text) :
    2 * lineCount cs + removals t ≤ removals (cs.flatMap Chunk.guarded ++ t) := by
  induction cs with
  | nil => simp [lineCount]
  | cons x cs ih =>
    rw [List.flatMap_cons, List.append_assoc]
    cases x with
    -- a kept character may complete further markers, but none is lost by it
    | char c => exact ih.trans (removals_cons_bounds c _).1
    | line indent text =>
      have hline : lineCount (.line indent text :: cs) = lineCount cs + 1 := rfl
      have htext := removals_le_append text (closing ++ (cs.flatMap Chunk.guarded ++ t))
      rw [removals_append_marker isMarker_closing] at htext
      rw [Chunk.guarded, List.append_assoc, List.append_assoc, removals_append_marker isMarker_opening,
        hline]
      omega

theorem count_slash_guarded (cs : List Chunk) :
    (cs.flatMap Chunk.guarded).count '/' = (cs.flatMap Chunk.bare).count '/' + 4 * lineCount cs := by
  induction cs with
  | nil => rfl
  | cons x cs ih =>
    rw [List.flatMap_cons, List.flatMap_cons, List.count_append, List.count_append, ih]
    cases x with
    | char c =>
      have hline : lineCount (.char c :: cs) = lineCount cs := rfl
      rw [Chunk.guarded, Chunk.bare, hline]
      omega
    | line indent text =>
      have hline : lineCount (.line indent text :: cs) = lineCount cs + 1 := rfl
      rw [Chunk.guarded, Chunk.bare, List.count_append, List.count_append,
        count_slash_of_isMarker isMarker_opening, count_slash_of_isMarker isMarker_closing, hline]
      omega

/-- If just the inserted markers' slashes are lost, just as many markers are removed as were
inserted. -/
theorem removals_of_unprotect_eq {cs : List Chunk}
    (h : unprotect (cs.flatMap Chunk.guarded) = cs.flatMap Chunk.bare) :
    removals (cs.flatMap Chunk.guarded) = 2 * lineCount cs := by
  have hcount := count_slash_unprotect (cs.flatMap Chunk.guarded)
  rw [h, count_slash_guarded] at hcount
  omega

theorem lineCount_append (xs ys : List Chunk) : lineCount (xs ++ ys) = lineCount xs + lineCount ys := by
  simp [lineCount]

/-- A marker among the kept characters is removed too. -/
theorem marker?_run_eq_none {cs : List Chunk}
    (h : removals (cs.flatMap Chunk.guarded) = 2 * lineCount cs) :
    ∀ s, s <:+ cs → marker? (Chunk.run s) = none := by
  rintro s ⟨front, rfl⟩
  cases hsome : marker? (Chunk.run s) with
  | none => rfl
  | some found =>
    exfalso
    obtain ⟨-, m, rest, heq, hm, -⟩ := marker?_eq_some_iff.1 hsome
    obtain ⟨ys, rfl⟩ := Chunk.exists_of_run_eq_append heq
    -- `m` would be removed besides the inserted markers behind it
    have hm' : 2 * lineCount ys + 1 ≤ removals ((m.map Chunk.char ++ ys).flatMap Chunk.guarded) := by
      have hys := removals_guarded_append ys []
      rw [List.append_nil, removals_nil] at hys
      rw [List.flatMap_append, Chunk.guarded_writes.flatMap_map_char, removals_append_marker hm]
      omega
    have hall := removals_guarded_append front ((m.map Chunk.char ++ ys).flatMap Chunk.guarded)
    have hnone : lineCount (m.map Chunk.char) = 0 := by simp [lineCount]
    rw [← List.flatMap_append, h, lineCount_append, lineCount_append, hnone] at hall
    omega

/-- A marker in a marked line is removed too. -/
theorem marker?_line_eq_none {cs : List Chunk}
    (h : removals (cs.flatMap Chunk.guarded) = 2 * lineCount cs) :
    ∀ l ∈ cs.filterMap Chunk.line?, ∀ s, s <:+ l → marker? s = none := by
  rintro l hl s ⟨front, rfl⟩
  obtain ⟨before, indent, after, rfl⟩ := Chunk.exists_of_mem_line? hl
  cases hsome : marker? s with
  | none => rfl
  | some found =>
    exfalso
    obtain ⟨-, m, rest, rfl, hm, -⟩ := marker?_eq_some_iff.1 hsome
    have hafter := removals_guarded_append after []
    -- read from the end of the text, each part adds at least its own markers
    have hclose := removals_le_append rest (closing ++ after.flatMap Chunk.guarded)
    have hfront := removals_le_append front
      (m ++ (rest ++ (closing ++ after.flatMap Chunk.guarded)))
    have hall := removals_guarded_append before
      (opening ++ (front ++ (m ++ (rest ++ (closing ++ after.flatMap Chunk.guarded)))))
    have hguarded : (before ++ .line indent (front ++ (m ++ rest)) :: after).flatMap Chunk.guarded =
        before.flatMap Chunk.guarded ++
          (opening ++ (front ++ (m ++ (rest ++ (closing ++ after.flatMap Chunk.guarded))))) := by
      simp [Chunk.guarded]
    have hlines : lineCount (before ++ .line indent (front ++ (m ++ rest)) :: after) =
        lineCount before + (lineCount after + 1) := lineCount_append before _
    rw [removals_append_marker isMarker_closing] at hclose
    rw [removals_append_marker hm] at hfront
    rw [removals_append_marker isMarker_opening] at hall
    rw [List.append_nil, removals_nil] at hafter
    rw [hguarded, hlines] at h
    omega

/-! ## The round trip -/

/-- A text is changed exactly if it has lines to be marked. -/
theorem changed_eq_false_iff {t : Text} : (protect t).changed = false ↔ markedLines t = [] := by
  refine ⟨fun h => (protect_of_not_changed h).2, fun h => ?_⟩
  refine List.any_eq_false.2 fun s hs => ?_
  have hnone := List.flatMap_eq_nil_iff.1 h s hs
  cases s with
  | char c => simp
  | hit e =>
    intro hmarked
    have hany := (Bool.and_eq_true_iff.1 hmarked).2
    obtain ⟨l, hl, hlooks⟩ := List.any_eq_true.1 hany
    simp only [if_pos hmarked, List.map_eq_nil_iff] at hnone
    have hmem : l ∈ (lines e.body).filter looksLikeTemplate := List.mem_filter.2 ⟨hl, hlooks⟩
    simp [hnone] at hmem

/-- Protection adds slashes for every marked line. -/
theorem count_slash_protect (t : Text) :
    (protect t).text.count '/' = t.count '/' + 4 * (markedLines t).length := by
  have hbare : ((chunks t).flatMap Chunk.bare).count '/' = t.count '/' := by
    -- only blanks are dropped, and a slash is none
    have hvisible := visible_source_eq_bare fun _ _ => blank_indent_of_mem_chunks (t := t)
    have hcount (s : Text) : (visible s).count '/' = s.count '/' := List.count_filter (by decide)
    rw [← hcount, ← hvisible, hcount, source_chunks]
  rw [← guarded_chunks, count_slash_guarded, hbare, lineCount, filterMap_line?_chunks]

/-- Protecting a text and unprotecting it drops the tabs and spaces in front of the lines that are
marked and changes nothing else, exactly if no marker is kept between marked lines or in one and no
marked line ends in a stub. And protecting it changes something exactly if it says so. -/
theorem unprotect_protect_eq_dedented_iff (t : Text) :
    ((protect t).changed = false ↔ (protect t).text = t) ∧
    (unprotect (protect t).text = dedented t ↔
      (∀ s ∈ (chunks t).tails, marker? (Chunk.run s) = none) ∧
      ∀ l ∈ markedLines t, (∀ s ∈ l.tails, marker? s = none) ∧ endsInStub l = false) := by
  constructor
  · refine ⟨fun h => (protect_of_not_changed h).1, fun h => changed_eq_false_iff.2 ?_⟩
    have hcount := count_slash_protect t
    rw [h] at hcount
    exact List.length_eq_zero_iff.1 (by omega)
  · simp only [List.mem_tails, forall_and, ← filterMap_line?_chunks, ← guarded_chunks, ← bare_chunks]
    have hall (s : Text) : s.filter (fun _ => true) = s := List.filter_true s
    have hiff (hkept : ∀ s, s <:+ chunks t → marker? (Chunk.run s) = none)
        (hlines : ∀ l ∈ (chunks t).filterMap Chunk.line?, ∀ s, s <:+ l → marker? s = none) :
        (unprotect ((chunks t).flatMap Chunk.guarded)).filter (fun _ => true) =
            ((chunks t).flatMap Chunk.bare).filter (fun _ => true) ↔
          ∀ l ∈ (chunks t).filterMap Chunk.line?, endsInStub l = false :=
      filter_unprotect_guarded_iff rfl rfl (isChain_chunks t) hkept hlines
    rw [hall, hall] at hiff
    constructor
    · intro h
      have hremovals := removals_of_unprotect_eq h
      have hkept := marker?_run_eq_none hremovals
      have hlines := marker?_line_eq_none hremovals
      exact ⟨hkept, hlines, (hiff hkept hlines).1 h⟩
    · rintro ⟨hkept, hlines, hstub⟩
      exact (hiff hkept hlines).2 hstub

/-- The markers of a source do not survive the round trip. -/
theorem unprotect_protect_drops_source_markers :
    ¬ ∀ t : Text, unprotect (protect t).text = dedented t := by
  intro h
  have hkept := h
    "<script>\n/* beautify ignore:start */\n\x7bx\x7d\n/* beautify ignore:end */\n</script>".toList
  exact absurd hkept (by decide +kernel)

end IgnoreMarker

end SmartyLayout
