import SmartyLayout.Proofs.Protection

/-!
# SmartyLayout.Proofs.Signs — where markers are put

The chunks of a text, read one sign at a time: a sign is a character of the text, or the place of a
marker. Both the text and its protected form are read off one list of signs (`source_signs`,
`guarded_signs`), and unlike chunks, signs can be cut anywhere.

* `Placed`: the marker in front of a line stands behind a line break or a tag, the marker behind it
  in front of a line break or a closing tag.
* What holds no slash is taken for no part of a marker: a text without slashes at the front of the
  protected text stands at the front of the source (`exists_of_guarded_eq_append`), and so do texts
  further inside (`exists_of_guarded_eq_append_cons`, `exists_of_infix_guarded`).
-/

namespace SmartyLayout

namespace IgnoreMarker

open Text

/-- The side of a line on which a marker stands. -/
inductive Side where
  | start
  | stop
deriving DecidableEq, Repr

def Side.marker : Side → Text
  | .start => opening
  | .stop => closing

/-- A character of a text, or a marker, with the characters that it takes the place of. -/
inductive Sign where
  | char (c : Char)
  | mark (side : Side) (dropped : Text)
deriving DecidableEq, Repr

namespace Sign

def source : Sign → Text
  | .char c => [c]
  | .mark _ dropped => dropped

def guarded : Sign → Text
  | .char c => [c]
  | .mark side _ => side.marker

end Sign

/-- The text that a list of signs stands for. -/
def source (ss : List Sign) : Text :=
  ss.flatMap Sign.source

def guarded (ss : List Sign) : Text :=
  ss.flatMap Sign.guarded

@[simp] theorem source_nil : source [] = [] := rfl

@[simp] theorem guarded_nil : guarded [] = [] := rfl

@[simp] theorem source_char (c : Char) (ss : List Sign) : source (.char c :: ss) = c :: source ss := rfl

@[simp] theorem guarded_char (c : Char) (ss : List Sign) : guarded (.char c :: ss) = c :: guarded ss :=
  rfl

@[simp] theorem source_mark (side : Side) (g : Text) (ss : List Sign) :
    source (.mark side g :: ss) = g ++ source ss := rfl

@[simp] theorem guarded_mark (side : Side) (g : Text) (ss : List Sign) :
    guarded (.mark side g :: ss) = side.marker ++ guarded ss := rfl

@[simp] theorem source_append (xs ys : List Sign) : source (xs ++ ys) = source xs ++ source ys :=
  List.flatMap_append

@[simp] theorem guarded_append (xs ys : List Sign) : guarded (xs ++ ys) = guarded xs ++ guarded ys :=
  List.flatMap_append

@[simp] theorem source_map (t : Text) : source (t.map .char) = t := by
  simp [source, List.flatMap_map, Sign.source]

@[simp] theorem guarded_map (t : Text) : guarded (t.map .char) = t := by
  simp [guarded, List.flatMap_map, Sign.guarded]

/-! ## Markers -/

/-- A marker is a comment: slashes and stars at its ends, and nothing inside that could end or begin
anything else. -/
theorem Side.marker_eq (side : Side) :
    ∃ inner, side.marker = '/' :: '*' :: (inner ++ ['*', '/']) ∧
      ∀ c ∈ inner, c = ' ' ∨ c = ':' ∨ c.isAlpha = true := by
  cases side with
  | start => exact ⟨" beautify ignore:start ".toList, by decide, forall_mem_of_all (by decide)⟩
  | stop => exact ⟨" beautify ignore:end ".toList, by decide, forall_mem_of_all (by decide)⟩

/-- The characters of markers. -/
theorem Side.mem_marker {side : Side} {c : Char} (hc : c ∈ side.marker) :
    c = '/' ∨ c = '*' ∨ c = ' ' ∨ c = ':' ∨ c.isAlpha = true := by
  obtain ⟨inner, heq, hinner⟩ := side.marker_eq
  rw [heq] at hc
  simp only [List.mem_cons, List.mem_append, List.not_mem_nil, or_false] at hc
  rcases hc with hc | hc | hc | hc | hc
  · exact .inl hc
  · exact .inr (.inl hc)
  · exact .inr (.inr (hinner c hc))
  · exact .inr (.inl hc)
  · exact .inl hc

/-! ## Texts without slashes -/

/-- What stands in front of the first slash of a protected text are characters of the text. -/
theorem exists_of_guarded_eq_append {ss : List Sign} {w rest : Text} (hw : '/' ∉ w)
    (h : guarded ss = w ++ rest) : ∃ ss', ss = w.map .char ++ ss' ∧ guarded ss' = rest := by
  induction w generalizing ss with
  | nil => exact ⟨ss, rfl, h⟩
  | cons c w ih =>
    rw [List.mem_cons, not_or] at hw
    cases ss with
    | nil => simp at h
    | cons s ss =>
      cases s with
      | char e =>
        rw [guarded_char, List.cons_append, List.cons.injEq] at h
        obtain ⟨rfl, h⟩ := h
        obtain ⟨ss', rfl, hrest⟩ := ih hw.2 h
        exact ⟨ss', rfl, hrest⟩
      | mark side g =>
        -- a marker begins with a slash
        obtain ⟨inner, heq, -⟩ := side.marker_eq
        rw [guarded_mark, heq] at h
        exact absurd (List.cons.inj h).1 hw.1

/-- However marks are written, what is written can be divided at a character that none of them
holds. -/
theorem exists_of_flatMap_eq_append_cons {write : Sign → Text} (hchar : ∀ e, write (.char e) = [e])
    {ss : List Sign} {c : Char} {u v : Text}
    (hc : ∀ side g, .mark side g ∈ ss → c ∉ write (.mark side g))
    (h : ss.flatMap write = u ++ c :: v) :
    ∃ xs ys, ss = xs ++ .char c :: ys ∧ xs.flatMap write = u ∧ ys.flatMap write = v := by
  induction ss generalizing u with
  | nil => simp at h
  | cons s ss ih =>
    rw [List.flatMap_cons, append_eq_append_cons_iff] at h
    rcases h with ⟨mid, rfl, h⟩ | ⟨mid, hs, rfl⟩
    · obtain ⟨xs, ys, rfl, rfl, hys⟩ :=
        ih (fun side g hmem => hc side g (List.mem_cons_of_mem s hmem)) h
      exact ⟨s :: xs, ys, rfl, rfl, hys⟩
    -- the character falls into the sign, which is no mark
    cases s with
    | mark side g => exact absurd (by simp [hs]) (hc side g List.mem_cons_self)
    | char e =>
      rw [hchar, List.singleton_eq_append_iff] at hs
      obtain ⟨rfl, hs⟩ | ⟨-, hs⟩ := hs
      · obtain ⟨rfl, rfl⟩ := List.cons.inj hs
        exact ⟨[], ss, rfl, rfl, rfl⟩
      · cases hs

/-- A protected text can be divided at a character that no marker holds. -/
theorem exists_of_guarded_eq_append_cons {ss : List Sign} {c : Char} {u v : Text}
    (hc : ∀ side : Side, c ∉ side.marker) (h : guarded ss = u ++ c :: v) :
    ∃ xs ys, ss = xs ++ .char c :: ys ∧ guarded xs = u ∧ guarded ys = v :=
  exists_of_flatMap_eq_append_cons (fun _ => rfl) (fun side _ _ => hc side) h

/-- A text without slashes that no marker holds occurs in a protected text as characters of the
text. -/
theorem exists_of_infix_guarded {ss : List Sign} {w : Text} (hw : '/' ∉ w)
    (hmarker : ∀ side : Side, ¬ w <:+: side.marker) (h : w <:+: guarded ss) :
    ∃ xs ys, ss = xs ++ (w.map .char ++ ys) := by
  induction ss with
  | nil => exact ⟨[], [], by simp [List.infix_nil.1 h]⟩
  | cons s ss ih =>
    cases s with
    | char c =>
      rcases List.infix_cons_iff.1 h with hpre | h
      · obtain ⟨rest, hrest⟩ := hpre
        have hguarded : guarded (.char c :: ss) = w ++ rest := hrest.symm
        obtain ⟨ys, hys, -⟩ := exists_of_guarded_eq_append hw hguarded
        exact ⟨[], ys, hys⟩
      · obtain ⟨xs, ys, rfl⟩ := ih h
        exact ⟨.char c :: xs, ys, rfl⟩
    | mark side g =>
      obtain ⟨inner, heq, -⟩ := side.marker_eq
      -- the last slash of the marker keeps what is in it from what follows
      have hsplit : guarded (.mark side g :: ss) =
          ('/' :: '*' :: (inner ++ ['*'])) ++ '/' :: guarded ss := by
        rw [guarded_mark, heq]
        simp
      rw [hsplit, infix_append_cons_iff hw] at h
      rcases h with h | h
      · refine absurd (h.trans ?_) (hmarker side)
        exact ⟨[], ['/'], by rw [heq]; simp⟩
      · obtain ⟨xs, ys, rfl⟩ := ih h
        exact ⟨.mark side g :: xs, ys, rfl⟩

/-! ## Places of markers -/

/-- A line break or the closing tag of a script or style comes next. -/
def AtLineEnd (ss : List Sign) : Prop :=
  (∃ rest, ss = .char '\n' :: rest) ∨
    ∃ word rest, IsElementName word ∧ ss = ('<' :: '/' :: (word ++ ['>'])).map .char ++ rest

/-- A line break or the front of a tag comes next, if anything does. -/
def AtBreak (ss : List Sign) : Prop :=
  ss = [] ∨ ∃ c rest, ss = .char c :: rest ∧ (c = '\n' ∨ c = '<')

/-- The marker in front of a line stands behind a line break or a tag and takes the place of tabs and
spaces; what is said of the end of a line holds behind the marker there. `p` is the character in
front of the signs. -/
def Placed (atEnd : List Sign → Prop) : (p : Char) → List Sign → Prop
  | _, [] => True
  | _, .char c :: ss => Placed atEnd c ss
  | p, .mark .start g :: ss =>
    (p = '\n' ∨ p = '>') ∧ (∀ c ∈ g, c = '\t' ∨ c = ' ') ∧ Placed atEnd p ss
  | p, .mark .stop g :: ss => g = [] ∧ atEnd ss ∧ Placed atEnd p ss

section Placed

variable {atEnd : List Sign → Prop} {p c : Char} {ss : List Sign}

@[simp] theorem placed_char : Placed atEnd p (.char c :: ss) ↔ Placed atEnd c ss :=
  Iff.rfl

/-- In front of a character it does not matter what stands in front. -/
theorem placed_map_append_char {t : Text} :
    Placed atEnd p (t.map .char ++ .char c :: ss) ↔ Placed atEnd c ss := by
  induction t generalizing p with
  | nil => rfl
  | cons e t ih => exact ih

theorem placed_map_append (t : Text) (h : ∀ p, Placed atEnd p ss) (p : Char) :
    Placed atEnd p (t.map .char ++ ss) := by
  induction t generalizing p with
  | nil => exact h p
  | cons c t ih => exact ih c

/-- What is left behind some characters. -/
theorem Placed.of_map_append {t : Text} (h : Placed atEnd p (t.map .char ++ ss)) :
    Placed atEnd (t.getLastD p) ss := by
  induction t generalizing p with
  | nil => exact h
  | cons c t ih =>
    rw [List.getLastD_cons]
    exact ih h

/-- What is left behind some signs. -/
theorem Placed.right {xs : List Sign} (h : Placed atEnd p (xs ++ ss)) : ∃ q, Placed atEnd q ss := by
  induction xs generalizing p with
  | nil => exact ⟨p, h⟩
  | cons s xs ih =>
    cases s with
    | char e => exact ih h
    | mark side g =>
      cases side with
      | start => exact ih h.2.2
      | stop => exact ih h.2.2

/-- What is left behind a character. -/
theorem Placed.of_append_char {xs : List Sign} (h : Placed atEnd p (xs ++ .char c :: ss)) :
    Placed atEnd c ss := by
  obtain ⟨q, hq⟩ := h.right
  exact hq

/-- What markers take the place of. -/
theorem Placed.dropped {xs ys : List Sign} {side : Side} {g : Text}
    (h : Placed atEnd p (xs ++ .mark side g :: ys)) : ∀ c ∈ g, c = '\t' ∨ c = ' ' := by
  obtain ⟨q, hq⟩ := h.right
  cases side with
  | start => exact hq.2.1
  | stop =>
    obtain ⟨rfl, -⟩ := hq
    simp

theorem AtLineEnd.atBreak (h : AtLineEnd ss) : AtBreak ss := by
  right
  rcases h with ⟨rest, rfl⟩ | ⟨word, rest, -, rfl⟩
  · exact ⟨'\n', rest, rfl, .inl rfl⟩
  · exact ⟨'<', _, rfl, .inr rfl⟩

theorem AtBreak.left {xs ys : List Sign} (h : AtBreak (xs ++ ys)) : AtBreak xs := by
  cases xs with
  | nil => exact .inl rfl
  | cons s xs =>
    right
    rcases h with h | ⟨c, rest, h, hc⟩
    · simp at h
    · exact ⟨c, xs, by rw [(List.cons.inj h).1], hc⟩

theorem Placed.atBreak (h : Placed AtLineEnd p ss) : Placed AtBreak p ss := by
  induction ss generalizing p with
  | nil => trivial
  | cons s ss ih =>
    cases s with
    | char e => exact ih h
    | mark side g =>
      cases side with
      | start => exact ⟨h.1, h.2.1, ih h.2.2⟩
      | stop => exact ⟨h.1, h.2.1.atBreak, ih h.2.2⟩

/-- The front part of well placed signs. -/
theorem Placed.left {xs ys : List Sign} (h : Placed AtBreak p (xs ++ ys)) : Placed AtBreak p xs := by
  induction xs generalizing p with
  | nil => trivial
  | cons s xs ih =>
    cases s with
    | char e => exact ih h
    | mark side g =>
      cases side with
      | start => exact ⟨h.1, h.2.1, ih h.2.2⟩
      | stop => exact ⟨h.1, h.2.1.left, ih h.2.2⟩

end Placed

/-! ## The signs of a part of the text -/

/-- A text can be divided at a character that is no tab or space. -/
theorem exists_of_source_eq_append_cons {atEnd : List Sign → Prop} {p c : Char} {ss : List Sign}
    {u v : Text} (hss : Placed atEnd p ss) (hc : c ≠ '\t' ∧ c ≠ ' ') (h : source ss = u ++ c :: v) :
    ∃ xs ys, ss = xs ++ .char c :: ys ∧ source xs = u ∧ source ys = v := by
  refine exists_of_flatMap_eq_append_cons (fun _ => rfl) (fun side g hmem hg => ?_) h
  obtain ⟨xs, ys, rfl⟩ := List.append_of_mem hmem
  rcases hss.dropped c hg with rfl | rfl
  · exact hc.1 rfl
  · exact hc.2 rfl

/-- No marker stands between characters that lines neither begin behind nor end in front of. -/
theorem exists_of_source_eq_append {p : Char} {ss : List Sign} {w rest : Text}
    (hss : Placed AtBreak p ss) (hbehind : ∀ c ∈ (p :: w).dropLast, c ≠ '\n' ∧ c ≠ '>')
    (hfront : ∀ c ∈ w, c ≠ '\n' ∧ c ≠ '<') (h : source ss = w ++ rest) :
    ∃ ss', ss = w.map .char ++ ss' ∧ source ss' = rest := by
  induction w generalizing p ss with
  | nil => exact ⟨ss, rfl, h⟩
  | cons c w ih =>
    rw [List.dropLast_cons_of_ne_nil (List.cons_ne_nil c w), List.forall_mem_cons] at hbehind
    rw [List.forall_mem_cons] at hfront
    cases ss with
    | nil => simp at h
    | cons s ss =>
      cases s with
      | char e =>
        rw [source_char, List.cons_append, List.cons.injEq] at h
        obtain ⟨rfl, h⟩ := h
        obtain ⟨ss', rfl, hrest⟩ := ih (placed_char.1 hss) hbehind.2 hfront.2 h
        exact ⟨ss', rfl, hrest⟩
      | mark side g =>
        cases side with
        | start =>
          -- the marker stands behind `p`, where no line begins
          rcases hss.1 with hp | hp
          · exact absurd hp hbehind.1.1
          · exact absurd hp hbehind.1.2
        | stop =>
          obtain ⟨rfl, hend, -⟩ := hss
          -- the marker stands in front of `c`, where no line ends
          rcases hend with rfl | ⟨e, ss', rfl, he⟩
          · simp at h
          · rw [source_mark, List.nil_append, source_char, List.cons_append, List.cons.injEq] at h
            obtain ⟨rfl, -⟩ := h
            rcases he with he | he
            · exact absurd he hfront.1.1
            · exact absurd he hfront.1.2

/-- Signs without markers are characters. -/
theorem eq_map_of_no_mark {ss : List Sign} (h : ∀ side g, Sign.mark side g ∉ ss) :
    ss = (source ss).map .char := by
  induction ss with
  | nil => rfl
  | cons s ss ih =>
    cases s with
    | char c =>
      rw [source_char, List.map_cons, ← ih fun side g hmem => h side g (List.mem_cons_of_mem _ hmem)]
    | mark side g => exact absurd List.mem_cons_self (h side g)

/-! ## The signs of a text -/

def Chunk.signs : Chunk → List Sign
  | .char c => [.char c]
  | .line indent text => .mark .start indent :: (text.map .char ++ [.mark .stop []])

def signs (t : Text) : List Sign :=
  (chunks t).flatMap Chunk.signs

theorem source_signs (t : Text) : source (signs t) = t := by
  rw [signs, source, List.flatMap_assoc]
  refine Eq.trans (List.flatMap_congr fun x _ => ?_) (source_chunks t)
  cases x with
  | char c => rfl
  | line indent text =>
    show source (.mark .start indent :: (text.map .char ++ [.mark .stop []])) = indent ++ text
    simp

theorem guarded_flatMap_signs (cs : List Chunk) :
    guarded (cs.flatMap Chunk.signs) = cs.flatMap Chunk.guarded := by
  rw [guarded, List.flatMap_assoc]
  refine List.flatMap_congr fun x _ => ?_
  cases x with
  | char c => rfl
  | line indent text =>
    show guarded (.mark .start indent :: (text.map .char ++ [.mark .stop []])) = _
    simp [Chunk.guarded, Side.marker]

theorem guarded_signs (t : Text) : guarded (signs t) = (protect t).text := by
  rw [signs, guarded_flatMap_signs, guarded_chunks]

/-! ## Markers are put where they belong -/

theorem signs_map_char (t : Text) : (t.map Chunk.char).flatMap Chunk.signs = t.map .char := by
  rw [List.flatMap_map]
  exact List.map_eq_flatMap.symm

/-- The signs of the lines of a body. -/
theorem placed_lines {p : Char} (hp : p = '\n' ∨ p = '>') {ss : List Sign} (hend : AtLineEnd ss)
    (hss : ∀ p, Placed AtLineEnd p ss) (ls : List Text) :
    Placed AtLineEnd p (([Chunk.char '\n'].intercalate (ls.map lineChunks)).flatMap Chunk.signs ++ ss) := by
  have hline {p : Char} (hp : p = '\n' ∨ p = '>') (l : Text) {more : List Sign} (hend : AtLineEnd more)
      (hmore : ∀ p, Placed AtLineEnd p more) :
      Placed AtLineEnd p ((lineChunks l).flatMap Chunk.signs ++ more) := by
    unfold lineChunks
    split
    · have hstop (q : Char) : Placed AtLineEnd q (.mark .stop [] :: more) := ⟨rfl, hend, hmore q⟩
      have htext := placed_map_append (l.dropWhile fun c => c == '\t' || c == ' ') hstop p
      simp only [List.flatMap_cons, List.flatMap_nil, List.append_nil, Chunk.signs, List.cons_append,
        List.append_assoc, List.nil_append]
      refine ⟨hp, fun c hc => ?_, htext⟩
      simpa using List.mem_takeWhile_imp hc
    · rw [signs_map_char]
      exact placed_map_append l hmore p
  induction ls generalizing p with
  | nil => exact hss p
  | cons l ls ih =>
    cases ls with
    | nil => simpa using hline hp l hend hss
    | cons next ls =>
      rw [List.map_cons, List.map_cons, List.intercalate_cons_cons, List.flatMap_append,
        List.flatMap_append, List.append_assoc, List.append_assoc]
      -- the break between two lines ends the one and begins the other
      refine hline hp l (.inl ⟨_, rfl⟩) fun q => ?_
      exact ih (.inl rfl)

theorem Element.placed_chunks {e : Element} (he : e.Shaped) {ss : List Sign}
    (hss : ∀ p, Placed AtLineEnd p ss) (p : Char) :
    Placed AtLineEnd p (e.chunks.flatMap Chunk.signs ++ ss) := by
  obtain ⟨tag, htag⟩ := he.opening
  obtain ⟨word, hword, hclosing⟩ := he.closing
  unfold Element.chunks
  split
  · rw [List.flatMap_append, List.flatMap_append, signs_map_char, signs_map_char, List.append_assoc,
      List.append_assoc]
    have hend : AtLineEnd (e.closing.map .char ++ ss) := .inr ⟨word, ss, hword, by rw [hclosing]⟩
    have hbody := placed_lines (.inr rfl) hend (placed_map_append e.closing hss) (lines e.body)
    -- the first line begins behind the `>` of the opening tag
    have hopening : e.opening.map Sign.char = ('<' :: tag).map .char ++ [.char '>'] := by simp [htag]
    rw [hopening, List.append_assoc]
    exact placed_map_append_char.2 hbody
  · rw [signs_map_char]
    exact placed_map_append e.text hss p

/-- Markers are put in front of lines and behind them. -/
theorem placed_signs (t : Text) (p : Char) : Placed AtLineEnd p (signs t) := by
  have hall : ∀ xs : List (Segment Element), (∀ e, .hit e ∈ xs → e.Shaped) →
      ∀ p, Placed AtLineEnd p ((xs.flatMap segmentChunks).flatMap Chunk.signs) := by
    intro xs
    induction xs with
    | nil => exact fun _ _ => trivial
    | cons x xs ih =>
      intro hshaped p
      have hlater := ih fun e he => hshaped e (List.mem_cons_of_mem x he)
      rw [List.flatMap_cons, List.flatMap_append]
      cases x with
      | char c => exact hlater c
      | hit e => exact Element.placed_chunks (hshaped e (by simp)) hlater p
  refine hall _ (fun e he => ?_) p
  obtain ⟨s, w, hs⟩ := exists_of_mem_segmentsFrom he
  exact (exists_of_element? hs).2.2

end IgnoreMarker

end SmartyLayout
