import SmartyLayout.Proofs.Marker

/-!
# SmartyLayout.Proofs.Protection — which lines of a text are marked

`IgnoreMarker.chunks` reads a text as kept characters and marked lines. Whatever is written in place
of the marked lines, the rest of the text stays as it is (`Chunk.Writes`); the protected text and the
text itself are two cases (`guarded_chunks`, `source_chunks`). The marked lines are `markedLines`, and
the chunks have the form that removing the markers again relies on (`isChain_chunks`).
-/

namespace SmartyLayout

namespace IgnoreMarker

open Text

/-! ## Script and style elements -/

/-- The name of a script or style, letter case aside. -/
def IsElementName (word : Text) : Prop :=
  word.map foldCase = "script".toList ∨ word.map foldCase = "style".toList

theorem isElementName_of_afterElementName? {t rest : Text} (h : afterElementName? t = some rest) :
    ∃ word, IsElementName word ∧ t = word ++ rest := by
  rcases (Option.orElse_eq_some _ _ _).1 h with h | ⟨-, h⟩
  · obtain ⟨word, heq, hword⟩ := afterFolded?_eq_some_iff.1 h
    exact ⟨word, .inl hword, heq⟩
  · obtain ⟨word, heq, hword⟩ := afterFolded?_eq_some_iff.1 h
    exact ⟨word, .inr hword, heq⟩

theorem exists_of_closeTag? {t : Text} {n : Nat} (h : closeTag? t = some n) :
    ∃ word, IsElementName word ∧ t.take n = '<' :: '/' :: (word ++ ['>']) := by
  simp only [closeTag?, Option.bind_eq_bind, Option.bind_eq_some_iff, after?_eq_some_iff,
    Option.some.injEq] at h
  obtain ⟨_, rfl, afterName, hname, rest, rfl, rfl⟩ := h
  obtain ⟨word, hword, rfl⟩ := isElementName_of_afterElementName? hname
  refine ⟨word, hword, ?_⟩
  -- the width that is reported is the length of the tag
  have hsplit : "</".toList ++ (word ++ (['>'] ++ rest)) = ('<' :: '/' :: (word ++ ['>'])) ++ rest := by
    simp
  rw [hsplit, List.length_append, Nat.add_sub_cancel, List.take_left]

/-- An element begins with `<`, its opening tag ends with `>`, and its closing tag is one of a script
or style. -/
structure Element.Shaped (e : Element) : Prop where
  opening : ∃ tag, e.opening = '<' :: (tag ++ ['>'])
  closing : ∃ word, IsElementName word ∧ e.closing = '<' :: '/' :: (word ++ ['>'])

/-- A body ends at a closing tag. -/
theorem exists_of_body? {t body close : Text} (h : body? t = some (body, close)) :
    (∃ rest, t = body ++ close ++ rest) ∧
      ∃ word, IsElementName word ∧ close = '<' :: '/' :: (word ++ ['>']) := by
  induction t generalizing body with
  | nil => simp [body?] at h
  | cons c cs ih =>
    cases hclose : closeTag? (c :: cs) with
    | some n =>
      simp only [body?, hclose, Option.some.injEq, Prod.mk.injEq] at h
      obtain ⟨rfl, rfl⟩ := h
      exact ⟨⟨(c :: cs).drop n, (List.take_append_drop n (c :: cs)).symm⟩, exists_of_closeTag? hclose⟩
    | none =>
      simp only [body?, hclose, Option.map_eq_some_iff, Prod.mk.injEq] at h
      obtain ⟨⟨body', close'⟩, hbody, rfl, rfl⟩ := h
      obtain ⟨⟨rest, hrest⟩, hword⟩ := ih hbody
      exact ⟨⟨rest, by rw [hrest]; rfl⟩, hword⟩

/-- An element is a part of the text. -/
theorem exists_of_element? {t : Text} {w : Nat} {e : Element} (h : element? t = some (w, e)) :
    w = e.text.length ∧ (∃ rest, t = e.text ++ rest) ∧ e.Shaped := by
  simp only [element?, Option.bind_eq_bind, Option.bind_eq_some_iff, after?_eq_some_iff] at h
  obtain ⟨_, rfl, rest, hname, h⟩ := h
  obtain ⟨word, -, rfl⟩ := isElementName_of_afterElementName? hname
  split at h
  · simp at h
  · next c content hdrop =>
    obtain ⟨rfl, hrest⟩ := eq_of_dropWhile_bne hdrop
    obtain ⟨⟨body, closing⟩, hbody, h⟩ := Option.bind_eq_some_iff.1 h
    simp only [Option.some.injEq, Prod.mk.injEq] at h
    obtain ⟨rfl, rfl⟩ := h
    obtain ⟨⟨tail, rfl⟩, hclosing⟩ := exists_of_body? hbody
    -- the opening tag is all in front of the body, and is cut off by its length
    have htext : ['<'] ++ (word ++ rest) =
        ('<' :: (word ++ rest.takeWhile (· != '>') ++ ['>'])) ++ (body ++ closing ++ tail) := by
      conv_lhs => rw [hrest]
      simp
    have hopening : (['<'] ++ (word ++ rest)).take ((['<'] ++ (word ++ rest)).length -
        (body ++ closing ++ tail).length) = '<' :: (word ++ rest.takeWhile (· != '>') ++ ['>']) := by
      rw [htext, List.length_append, Nat.add_sub_cancel, List.take_left]
    refine ⟨rfl, ⟨tail, ?_⟩, ⟨word ++ rest.takeWhile (· != '>'), hopening⟩, hclosing⟩
    simp only [Element.text, hopening]
    rw [htext]
    simp

/-! ## The chunks of a text -/

/-- A line of an element's body: marked, without the tabs and spaces in front of it, or kept. -/
def lineChunks (l : Text) : List Chunk :=
  if looksLikeTemplate l then
    [.line (l.takeWhile fun c => c == '\t' || c == ' ') (l.dropWhile fun c => c == '\t' || c == ' ')]
  else l.map .char

/-- The chunks of an element: its lines are marked one by one, or it is kept as it is. -/
def Element.chunks (e : Element) : List Chunk :=
  if e.marked then
    e.opening.map .char ++ [.char '\n'].intercalate ((lines e.body).map lineChunks) ++
      e.closing.map .char
  else e.text.map .char

/-- The chunks of a stretch between elements, or of an element. -/
def segmentChunks : Segment Element → List Chunk
  | .char c => [.char c]
  | .hit e => e.chunks

/-- The chunks of a text. -/
def chunks (t : Text) : List Chunk :=
  (segments element? t).flatMap segmentChunks

/-! ## Writing chunks -/

/-- The element with its template lines changed, unless it is kept as it is. -/
def Element.written (change : Text → Text) (e : Element) : Text :=
  if e.marked then
    e.opening ++ unlines ((lines e.body).map fun l => if looksLikeTemplate l then change l else l) ++
      e.closing
  else e.text

/-- A way to write chunks that keeps characters, and changes the lines that are marked. -/
structure Chunk.Writes (write : Chunk → Text) (change : Text → Text) : Prop where
  char : ∀ c, write (.char c) = [c]
  line : ∀ l : Text, write (.line (l.takeWhile fun c => c == '\t' || c == ' ')
    (l.dropWhile fun c => c == '\t' || c == ' ')) = change l

namespace Chunk.Writes

variable {write : Chunk → Text} {change : Text → Text} (hw : Chunk.Writes write change)
include hw

theorem flatMap_map_char (t : Text) : (t.map Chunk.char).flatMap write = t := by
  simp [List.flatMap_map, hw.char]

theorem flatMap_lineChunks (l : Text) :
    (lineChunks l).flatMap write = if looksLikeTemplate l then change l else l := by
  unfold lineChunks
  split
  · rw [List.flatMap_singleton, hw.line]
  · exact hw.flatMap_map_char l

theorem flatMap_element (e : Element) : e.chunks.flatMap write = e.written change := by
  unfold Element.chunks Element.written
  split
  · have hbody := flatMap_intercalate (hw.char '\n') ((lines e.body).map lineChunks)
    simp only [List.map_map, Function.comp_def, hw.flatMap_lineChunks] at hbody
    rw [List.flatMap_append, List.flatMap_append, hw.flatMap_map_char, hbody, hw.flatMap_map_char]
  · exact hw.flatMap_map_char _

theorem flatMap_chunks (t : Text) :
    (chunks t).flatMap write = (segments element? t).flatMap (Segment.text (Element.written change)) := by
  rw [chunks, List.flatMap_assoc]
  refine List.flatMap_congr fun s _ => ?_
  cases s with
  | char c => exact (List.flatMap_singleton write (.char c)).trans (hw.char c)
  | hit e => exact hw.flatMap_element e

end Chunk.Writes

theorem Chunk.guarded_writes : Chunk.Writes Chunk.guarded mark :=
  ⟨fun _ => rfl, fun _ => rfl⟩

theorem Chunk.source_writes : Chunk.Writes Chunk.source id :=
  ⟨fun _ => rfl, fun _ => List.takeWhile_append_dropWhile⟩

/-- The chunks of a text write it with its template lines marked. -/
theorem guarded_chunks (t : Text) : (chunks t).flatMap Chunk.guarded = (protect t).text :=
  Chunk.guarded_writes.flatMap_chunks t

/-- The stretches between elements and the elements make up the text. -/
theorem flatMap_segments_element? (t : Text) :
    (segments element? t).flatMap (Segment.text Element.text) = t := by
  refine flatMap_segments (fun {t w e} h => ?_) t
  obtain ⟨rfl, ⟨rest, rfl⟩, ⟨tag, hopening⟩, -⟩ := exists_of_element? h
  exact ⟨by simp [Element.text, hopening], List.take_left⟩

theorem Element.written_id (e : Element) : e.written id = e.text := by
  unfold Element.written Element.text
  split
  · simp [unlines_lines]
  · rfl

/-- The chunks of a text write it. -/
theorem source_chunks (t : Text) : (chunks t).flatMap Chunk.source = t := by
  rw [Chunk.source_writes.flatMap_chunks, funext Element.written_id]
  exact flatMap_segments_element? t

/-! ## Marked lines -/

/-- The lines of a text that are put between markers, as they stand there. -/
def markedLines (t : Text) : List Text :=
  (segments element? t).flatMap fun
    | .char _ => []
    | .hit e =>
      if e.marked then
        ((lines e.body).filter looksLikeTemplate).map (·.dropWhile fun c => c == '\t' || c == ' ')
      else []

theorem filterMap_line?_map_char (t : Text) : (t.map Chunk.char).filterMap Chunk.line? = [] := by
  simp

/-- The marked lines among lines joined by kept line breaks. -/
theorem filterMap_line?_intercalate (ls : List Text) :
    ([.char '\n'].intercalate (ls.map lineChunks)).filterMap Chunk.line? =
      (ls.filter looksLikeTemplate).map (·.dropWhile fun c => c == '\t' || c == ' ') := by
  have hline (l : Text) : (lineChunks l).filterMap Chunk.line? =
      ([l].filter looksLikeTemplate).map (·.dropWhile fun c => c == '\t' || c == ' ') := by
    cases h : looksLikeTemplate l with
    | true => simp [lineChunks, h]
    | false => simp [lineChunks, h]
  induction ls with
  | nil => rfl
  | cons l ls ih =>
    have hfirst := hline l
    cases ls with
    | nil => simpa using hfirst
    | cons next ls =>
      rw [List.map_cons, List.map_cons, List.intercalate_cons_cons, List.filterMap_append,
        List.filterMap_append, hfirst, ← List.map_cons, ih, List.filterMap_cons_none rfl,
        List.filterMap_nil, List.append_nil, ← List.map_append, ← List.filter_append]
      rfl

theorem filterMap_line?_chunks (t : Text) : (chunks t).filterMap Chunk.line? = markedLines t := by
  rw [chunks, markedLines, List.filterMap_flatMap]
  refine List.flatMap_congr fun s _ => ?_
  cases s with
  | char c => rfl
  | hit e =>
    simp only [segmentChunks, Element.chunks]
    split
    · rw [List.filterMap_append, List.filterMap_append, filterMap_line?_map_char,
        filterMap_line?_map_char, filterMap_line?_intercalate]
      simp
    · exact filterMap_line?_map_char _

/-- Without anything to mark, protection changes nothing. -/
theorem protect_of_not_changed {t : Text} (h : (protect t).changed = false) :
    (protect t).text = t ∧ markedLines t = [] := by
  -- nothing changed means that no element is marked
  have hmarked : ∀ e, .hit e ∈ segments element? t → e.marked = false := by
    intro e he
    simpa using List.any_eq_false.1 h _ he
  constructor
  · refine Eq.trans (List.flatMap_congr fun s hs => ?_) (flatMap_segments_element? t)
    cases s with
    | char c => rfl
    | hit e => simp [Segment.text, Element.protect, hmarked e hs]
  · rw [markedLines, List.flatMap_eq_nil_iff]
    intro s hs
    cases s with
    | char c => rfl
    | hit e => simp [hmarked e hs]

/-! ## The form of the chunks -/

theorem blank_indent_of_mem_lineChunks {l indent text : Text} (h : .line indent text ∈ lineChunks l) :
    blank indent = true := by
  unfold lineChunks at h
  split at h
  · obtain ⟨rfl, -⟩ : indent = _ ∧ text = _ := by simpa using h
    rw [blank_iff]
    intro c hc
    have hindent := List.mem_takeWhile_imp hc
    rcases Bool.or_eq_true_iff.1 hindent with h | h
    · rw [beq_iff_eq.1 h]; rfl
    · rw [beq_iff_eq.1 h]; rfl
  · simp at h

theorem blank_indent_of_mem_chunks {t indent text : Text} (h : .line indent text ∈ chunks t) :
    blank indent = true := by
  have hchars (s : Text) : Chunk.line indent text ∉ s.map Chunk.char := by simp
  have hlines (ls : List Text)
      (h : Chunk.line indent text ∈ [.char '\n'].intercalate (ls.map lineChunks)) :
      blank indent = true := by
    induction ls with
    | nil => simp at h
    | cons l ls ih =>
      cases ls with
      | nil => exact blank_indent_of_mem_lineChunks (l := l) (by simpa using h)
      | cons next ls =>
        rw [List.map_cons, List.map_cons, List.intercalate_cons_cons, List.mem_append,
          List.mem_append] at h
        rcases h with (h | h) | h
        · exact blank_indent_of_mem_lineChunks h
        · simp at h
        · exact ih h
  obtain ⟨s, -, hs⟩ := List.mem_flatMap.1 h
  cases s with
  | char c => simp [segmentChunks] at hs
  | hit e =>
    simp only [segmentChunks, Element.chunks] at hs
    split at hs
    · rw [List.mem_append, List.mem_append] at hs
      rcases hs with (hs | hs) | hs
      · exact absurd hs (hchars _)
      · exact hlines _ hs
      · exact absurd hs (hchars _)
    · exact absurd hs (hchars _)

theorem isChain_map_char (t : Text) : (t.map Chunk.char).IsChain Chunk.Apart := by
  induction t with
  | nil => simp
  | cons c t ih =>
    cases t with
    | nil => simp
    | cons c' t => exact List.isChain_cons_cons.2 ⟨trivial, ih⟩

/-- Chunks may follow others if the first of them is a kept character. -/
theorem isChain_append_char {cs : List Chunk} (hcs : cs.IsChain Chunk.Apart) {ds : List Chunk}
    (hds : ds.IsChain Chunk.Apart) (hfirst : ∀ x ∈ ds.head?, ∃ c, x = Chunk.char c) :
    (cs ++ ds).IsChain Chunk.Apart := by
  refine List.isChain_append.2 ⟨hcs, hds, fun x _ y hy => ?_⟩
  obtain ⟨c, rfl⟩ := hfirst y hy
  cases x <;> trivial

/-- Anything may follow a kept character other than a star. -/
theorem isChain_char_append {cs ds : List Chunk} {c : Char} (hc : c ≠ '*')
    (hcs : (cs ++ [Chunk.char c]).IsChain Chunk.Apart) (hds : ds.IsChain Chunk.Apart) :
    (cs ++ [Chunk.char c] ++ ds).IsChain Chunk.Apart := by
  refine List.isChain_append.2 ⟨hcs, hds, fun x hx y _ => ?_⟩
  rw [List.getLast?_concat, Option.mem_some_iff] at hx
  subst hx
  cases y with
  | char _ => trivial
  | line _ _ => exact hc

theorem isChain_lineChunks (l : Text) : (lineChunks l).IsChain Chunk.Apart := by
  unfold lineChunks
  split
  · simp
  · exact isChain_map_char l

theorem isChain_intercalate (ls : List Text) :
    ([.char '\n'].intercalate (ls.map lineChunks)).IsChain Chunk.Apart := by
  induction ls with
  | nil => simp
  | cons l ls ih =>
    cases ls with
    | nil => simpa using isChain_lineChunks l
    | cons next ls =>
      rw [List.map_cons, List.map_cons, List.intercalate_cons_cons]
      refine isChain_char_append (by decide) ?_ ih
      exact isChain_append_char (isChain_lineChunks l) (by simp) (by simp)

/-- The chunks of an element begin with a kept character, and keep stars away from marked lines. -/
theorem Element.isChain_chunks {e : Element} {tag : Text} (h : e.opening = '<' :: (tag ++ ['>'])) :
    e.chunks.IsChain Chunk.Apart ∧ ∃ cs, e.chunks = .char '<' :: cs := by
  unfold Element.chunks
  split
  · refine ⟨?_, by simp [h]⟩
    refine isChain_append_char ?_ (isChain_map_char _) (by simp)
    -- the body stands behind the last character of the tag, which is no star
    have hopening : e.opening.map Chunk.char = ('<' :: tag).map Chunk.char ++ [.char '>'] := by
      simp [h]
    rw [hopening]
    refine isChain_char_append (by decide) ?_ (isChain_intercalate _)
    rw [← hopening]
    exact isChain_map_char _
  · exact ⟨isChain_map_char _, by simp [Element.text, h]⟩

/-- No star stands right in front of a marked line. -/
theorem isChain_chunks (t : Text) : (chunks t).IsChain Chunk.Apart := by
  have hall : ∀ ss : List (Segment Element), (∀ e, .hit e ∈ ss → ∃ tag, e.opening = '<' :: (tag ++ ['>'])) →
      (ss.flatMap segmentChunks).IsChain Chunk.Apart ∧
        ∀ x ∈ (ss.flatMap segmentChunks).head?, ∃ c, x = Chunk.char c := by
    intro ss
    induction ss with
    | nil => simp
    | cons s ss ih =>
      intro hopening
      obtain ⟨hrest, hhead⟩ := ih fun e he => hopening e (List.mem_cons_of_mem s he)
      rw [List.flatMap_cons]
      cases s with
      | char c => exact ⟨isChain_append_char (by simp [segmentChunks]) hrest hhead, by simp [segmentChunks]⟩
      | hit e =>
        obtain ⟨tag, htag⟩ := hopening e (by simp)
        obtain ⟨hchunks, cs, hcs⟩ := Element.isChain_chunks htag
        refine ⟨isChain_append_char hchunks hrest hhead, ?_⟩
        simp [segmentChunks, hcs]
  refine (hall _ fun e he => ?_).1
  obtain ⟨s, w, hs⟩ := exists_of_mem_segmentsFrom he
  exact (exists_of_element? hs).2.2.opening

/-! ## Texts that markers do not hold -/

/-- A text without slashes that no marker holds occurs in the protected text only where it occurs in
the source. -/
theorem infix_source_of_infix_guarded {p : Text} (hslash : '/' ∉ p)
    (hopening : ¬ p <:+: "* beautify ignore:start *".toList)
    (hclosing : ¬ p <:+: "* beautify ignore:end *".toList) (front : Text) (cs : List Chunk)
    (h : p <:+: front ++ cs.flatMap Chunk.guarded) : p <:+: front ++ cs.flatMap Chunk.source := by
  induction cs generalizing front with
  | nil => exact h
  | cons x cs ih =>
    cases x with
    | char c =>
      have hkeep : p <:+: (front ++ [c]) ++ cs.flatMap Chunk.guarded := by
        simpa [Chunk.guarded] using h
      simpa [Chunk.source] using ih (front ++ [c]) hkeep
    | line indent text =>
      have hmarks : front ++ (Chunk.line indent text :: cs).flatMap Chunk.guarded =
          front ++ '/' :: ("* beautify ignore:start *".toList ++ '/' :: (text ++
            '/' :: ("* beautify ignore:end *".toList ++ '/' :: cs.flatMap Chunk.guarded))) := by
        have hopen : opening = '/' :: ("* beautify ignore:start *".toList ++ ['/']) := by decide
        have hclose : closing = '/' :: ("* beautify ignore:end *".toList ++ ['/']) := by decide
        rw [List.flatMap_cons, Chunk.guarded, hopen, hclose]
        simp only [List.cons_append, List.append_assoc, List.nil_append]
      -- the text has no slash, so it cannot reach across one: it stands between two of them
      rw [hmarks] at h
      simp only [infix_append_cons_iff hslash, hopening, hclosing, false_or] at h
      have hsource : front ++ (Chunk.line indent text :: cs).flatMap Chunk.source =
          front ++ (indent ++ (text ++ cs.flatMap Chunk.source)) := by
        simp [Chunk.source]
      rw [hsource]
      rcases h with h | h | h
      · exact h.trans (List.prefix_append front _).isInfix
      · refine h.trans ⟨front ++ indent, cs.flatMap Chunk.source, by simp⟩
      · have hrest : p <:+: cs.flatMap Chunk.source := ih [] h
        exact hrest.trans ⟨front ++ indent ++ text, [], by simp⟩

end IgnoreMarker

end SmartyLayout
