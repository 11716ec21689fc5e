import Mathlib.Data.List.Chain
import Mathlib.Data.List.Infix
import Mathlib.Data.Option.Basic
import SmartyLayout.IgnoreMarker
import SmartyLayout.Proofs.Coverage
import SmartyLayout.Proofs.Trimming

/-!
# SmartyLayout.Proofs.Marker — inserting and removing ignore markers

* `IsMarker`: the texts that `marker?` recognises, as words between blanks.
* `Chunk`: a text whose template lines are marked is a list of kept characters and marked lines;
  `guarded_chunks` and `source_chunks` read the protected text and its source off one such list.
* `filter_unprotect_guarded_iff`: if no marker is kept between the inserted ones, removing all markers
  from the protected text removes exactly the inserted ones, provided no marked line ends in a *stub*,
  a marker that lacks its final slash. The slash of the marker behind such a line would complete it:
  the characters survive exactly if there is no stub.
-/

namespace SmartyLayout

namespace IgnoreMarker

open Text

/-! ## The texts that are markers -/

/-- The words of a marker with the given blanks between them. -/
def markerText (g₁ g₂ word g₃ : Text) : Text :=
  "/*".toList ++ (g₁ ++ ("beautify".toList ++ (g₂ ++ ("ignore:".toList ++ (word ++ (g₃ ++
    "*/".toList))))))

/-- A text is a marker: blanks, at least one in each place, separate its words. -/
inductive IsMarker : Text → Prop
  | mk {g₁ g₂ word g₃ : Text} (hg₁ : blank g₁ = true) (hne₁ : g₁ ≠ []) (hg₂ : blank g₂ = true)
      (hne₂ : g₂ ≠ []) (hword : word = "start".toList ∨ word = "end".toList)
      (hg₃ : blank g₃ = true) (hne₃ : g₃ ≠ []) : IsMarker (markerText g₁ g₂ word g₃)

theorem markerText_append (g₁ g₂ word g₃ rest : Text) : markerText g₁ g₂ word g₃ ++ rest =
    "/*".toList ++ (g₁ ++ ("beautify".toList ++ (g₂ ++ ("ignore:".toList ++ (word ++ (g₃ ++
      ("*/".toList ++ rest))))))) := by
  simp only [markerText, List.append_assoc]

theorem exists_of_afterBlanks? {t rest : Text} (h : afterBlanks? t = some rest) :
    ∃ g, blank g = true ∧ g ≠ [] ∧ t = g ++ rest := by
  cases t with
  | nil => simp [afterBlanks?] at h
  | cons c cs =>
    simp only [afterBlanks?, Option.ite_none_right_eq_some, Option.some.injEq] at h
    obtain ⟨hc, rfl⟩ := h
    refine ⟨c :: leading cs, ?_, by simp, ?_⟩
    · simp [hc, blank_leading]
    · rw [List.cons_append]
      exact congrArg _ (leading_append_trimStart cs).symm

theorem afterBlanks?_append {g : Text} (hg : blank g = true) (hne : g ≠ []) {c : Char}
    (hc : isBlank c = false) (rest : Text) : afterBlanks? (g ++ c :: rest) = some (c :: rest) := by
  obtain ⟨b, g, rfl⟩ := List.exists_cons_of_ne_nil hne
  rw [blank_cons, Bool.and_eq_true] at hg
  have hdrop : (g ++ c :: rest).dropWhile isBlank = c :: rest :=
    (trimStart_blank_append hg.2 _).trans (trimStart_cons hc rest)
  simp [afterBlanks?, hg.1, hdrop]

theorem marker?_eq_some_iff {t q : Text} {w : Nat} :
    marker? t = some (w, q) ↔ q = [] ∧ ∃ m rest, t = m ++ rest ∧ IsMarker m ∧ w = m.length := by
  simp only [marker?, Option.bind_eq_bind, Option.bind_eq_some_iff]
  constructor
  · intro h
    simp only [after?_eq_some_iff] at h
    obtain ⟨_, rfl, _, h₁, _, rfl, _, h₂, afterColon, rfl, _, hafter, _, h₃, rest, rfl, hw⟩ := h
    obtain ⟨g₁, hg₁, hne₁, rfl⟩ := exists_of_afterBlanks? h₁
    obtain ⟨g₂, hg₂, hne₂, rfl⟩ := exists_of_afterBlanks? h₂
    obtain ⟨g₃, hg₃, hne₃, rfl⟩ := exists_of_afterBlanks? h₃
    obtain ⟨word, hword, rfl⟩ : ∃ word, (word = "start".toList ∨ word = "end".toList) ∧
        afterColon = word ++ (g₃ ++ ("*/".toList ++ rest)) := by
      rcases (Option.orElse_eq_some _ _ _).1 hafter with h | ⟨-, h⟩
      · exact ⟨_, .inl rfl, after?_eq_some_iff.1 h⟩
      · exact ⟨_, .inr rfl, after?_eq_some_iff.1 h⟩
    obtain ⟨hw, hq⟩ := Prod.mk.inj (Option.some.inj hw)
    refine ⟨hq.symm, markerText g₁ g₂ word g₃, rest, ?_, ⟨hg₁, hne₁, hg₂, hne₂, hword, hg₃, hne₃⟩, ?_⟩
    · exact (markerText_append ..).symm
    · rw [← hw]
      simp only [markerText, List.length_append]
      omega
  · rintro ⟨rfl, m, rest, rfl, @⟨g₁, g₂, word, g₃, hg₁, hne₁, hg₂, hne₂, hword, hg₃, hne₃⟩, rfl⟩
    have hstart : after? "/*".toList (markerText g₁ g₂ word g₃ ++ rest) =
        some (g₁ ++ ("beautify".toList ++ (g₂ ++ ("ignore:".toList ++ (word ++
          (g₃ ++ ("*/".toList ++ rest))))))) :=
      after?_eq_some_iff.2 (markerText_append ..)
    have hafter (p t : Text) : after? p (p ++ t) = some t := after?_eq_some_iff.2 rfl
    have hword' (t : Text) : (after? "start".toList (word ++ t) <|> after? "end".toList (word ++ t)) =
        some t := by
      rcases hword with rfl | rfl
      · rw [hafter]; rfl
      · rw [hafter]; rfl
    have hb := afterBlanks?_append hg₁ hne₁ (by decide : isBlank 'b' = false)
    have hi := afterBlanks?_append hg₂ hne₂ (by decide : isBlank 'i' = false)
    have hs := afterBlanks?_append hg₃ hne₃ (by decide : isBlank '*' = false)
    have hb' (t : Text) : afterBlanks? (g₁ ++ ("beautify".toList ++ t)) = some ("beautify".toList ++ t) :=
      hb _
    have hi' (t : Text) : afterBlanks? (g₂ ++ ("ignore:".toList ++ t)) = some ("ignore:".toList ++ t) :=
      hi _
    have hs' (t : Text) : afterBlanks? (g₃ ++ ("*/".toList ++ t)) = some ("*/".toList ++ t) := hs _
    refine ⟨_, hstart, _, hb' _, _, hafter _ _, _, hi' _, _, hafter _ _, _, hword' _, _, hs' _, _,
      hafter _ _, ?_⟩
    rw [List.length_append, Nat.add_sub_cancel]

/-- A marker begins and ends with a slash and holds no other; a star precedes the last one. -/
theorem IsMarker.slashes {m : Text} (h : IsMarker m) :
    ∃ inner, m = '/' :: (inner ++ ['*', '/']) ∧ '/' ∉ inner := by
  obtain @⟨g₁, g₂, word, g₃, hg₁, -, hg₂, -, hword, hg₃, -⟩ := h
  have hblank {g : Text} (hg : blank g = true) : '/' ∉ g := by
    intro hmem
    exact absurd (blank_iff.1 hg _ hmem) (by decide)
  have hfree : '/' ∉ word := by
    rcases hword with rfl | rfl <;> decide
  refine ⟨'*' :: (g₁ ++ ("beautify".toList ++ (g₂ ++ ("ignore:".toList ++ (word ++ g₃))))), ?_, ?_⟩
  · rw [List.cons_append]
    simp only [markerText, List.append_assoc]
    rfl
  · have hbeautify : '/' ∉ "beautify".toList := by decide
    have hignore : '/' ∉ "ignore:".toList := by decide
    refine List.not_mem_cons_of_ne_of_not_mem (by decide) ?_
    refine List.not_mem_append (hblank hg₁) (List.not_mem_append hbeautify ?_)
    refine List.not_mem_append (hblank hg₂) (List.not_mem_append hignore ?_)
    exact List.not_mem_append hfree (hblank hg₃)

theorem IsMarker.length_pos {m : Text} (h : IsMarker m) : 0 < m.length := by
  obtain ⟨inner, rfl, -⟩ := h.slashes
  simp

theorem marker?_append {m : Text} (h : IsMarker m) (rest : Text) :
    marker? (m ++ rest) = some (m.length, []) :=
  marker?_eq_some_iff.2 ⟨rfl, m, rest, rfl, h, rfl⟩

theorem marker?_local : Local Prod.fst marker? := by
  rintro t ⟨w, q⟩ h
  obtain ⟨rfl, m, rest, rfl, hm, rfl⟩ := marker?_eq_some_iff.1 h
  refine ⟨by simp, fun more => ?_⟩
  rw [List.take_left]
  exact marker?_append hm more

/-- A marker begins with a slash. -/
theorem marker?_cons_of_ne {c : Char} (hc : c ≠ '/') (t : Text) : marker? (c :: t) = none := by
  cases hsome : marker? (c :: t) with
  | none => rfl
  | some found =>
    obtain ⟨-, m, rest, heq, hm, -⟩ := marker?_eq_some_iff.1 hsome
    obtain ⟨inner, rfl, -⟩ := hm.slashes
    exact absurd (List.cons.inj heq).1 hc

theorem marker?_eq_none_of_isPrefix {s t : Text} (hs : s <+: t) (ht : marker? t = none) :
    marker? s = none := by
  obtain ⟨rest, rfl⟩ := hs
  exact marker?_local.find_eq_none_of_append ht

/-- The markers that protection inserts. -/
theorem isMarker_single_spaces {word : Text} (hword : word = "start".toList ∨ word = "end".toList) :
    IsMarker (markerText [' '] [' '] word [' ']) :=
  .mk rfl (by simp) rfl (by simp) hword rfl (by simp)

theorem isMarker_opening : IsMarker opening := by
  have hopening : opening = markerText [' '] [' '] "start".toList [' '] := by decide +kernel
  rw [hopening]
  exact isMarker_single_spaces (.inl rfl)

theorem isMarker_closing : IsMarker closing := by
  have hclosing : closing = markerText [' '] [' '] "end".toList [' '] := by decide +kernel
  rw [hclosing]
  exact isMarker_single_spaces (.inr rfl)

/-- The front of a closing marker. -/
theorem closing_eq : closing = '/' :: '*' :: " beautify ignore:end */".toList := by
  decide +kernel

/-- A marker that runs on into a text that begins with a slash lacks just that slash. -/
theorem IsMarker.eq_append_slash {m s rest tail : Text} (hm : IsMarker m) (hs : s ≠ [])
    (heq : s ++ '/' :: rest = m ++ tail) (hlong : s.length < m.length) : m = s ++ ['/'] := by
  obtain ⟨inner, rfl, hinner⟩ := hm.slashes
  obtain ⟨c, s, rfl⟩ := List.exists_cons_of_ne_nil hs
  have hstar : '/' ∉ inner ++ ['*'] := by simp [hinner]
  have heq' : s ++ '/' :: rest = (inner ++ ['*']) ++ '/' :: tail ∧ c = '/' := by
    simpa [and_comm] using heq
  obtain ⟨heq', rfl⟩ := heq'
  -- the slash behind `s` is no slash inside the marker, so it is the last one
  rcases append_eq_append_cons_iff.1 heq' with ⟨mid, hmid, htail⟩ | ⟨mid, rfl, -⟩
  · cases mid with
    | nil => rw [List.append_nil] at hmid; simp [← hmid]
    | cons e mid =>
      rw [List.cons_append, List.cons.injEq] at htail
      exact absurd (by rw [hmid, ← htail.1]; simp) hstar
  · simp only [List.length_cons, List.length_append, List.length_nil] at hlong
    omega

/-! ## Marked lines and kept characters -/

/-- A marker without its final slash ends the line. -/
def endsInStub (l : Text) : Bool :=
  l.tails.any fun s => marker? (s ++ ['/']) == some (s.length + 1, [])

theorem endsInStub_iff {l : Text} : endsInStub l = true ↔ ∃ s, s <:+ l ∧ IsMarker (s ++ ['/']) := by
  simp only [endsInStub, List.any_eq_true, List.mem_tails, beq_iff_eq]
  constructor
  · rintro ⟨s, hs, h⟩
    obtain ⟨-, m, rest, heq, hm, hlen⟩ := marker?_eq_some_iff.1 h
    have hrest : rest = [] := by
      have := congrArg List.length heq
      simp only [List.length_append, List.length_singleton] at this
      exact List.length_eq_zero_iff.1 (by omega)
    rw [hrest, List.append_nil] at heq
    exact ⟨s, hs, heq ▸ hm⟩
  · rintro ⟨s, hs, hm⟩
    refine ⟨s, hs, ?_⟩
    simpa using marker?_append hm []

/-- A stretch of a text: a character that is kept, or a line that is marked and loses the
indentation in front of it. -/
inductive Chunk where
  | char (c : Char)
  | line (indent text : Text)
deriving DecidableEq, Repr

namespace Chunk

def source : Chunk → Text
  | .char c => [c]
  | .line indent text => indent ++ text

/-- The characters of a stretch once its line is marked. -/
def guarded : Chunk → Text
  | .char c => [c]
  | .line _ text => opening ++ text ++ closing

/-- The characters of a stretch, without the indentation of its line. -/
def bare : Chunk → Text
  | .char c => [c]
  | .line _ text => text

/-- The kept characters in front of the first marked line. -/
def run : List Chunk → Text
  | .char c :: cs => c :: run cs
  | _ => []

/-- The line of a stretch that is marked. -/
def line? : Chunk → Option Text
  | .char _ => none
  | .line _ text => some text

@[simp] theorem line?_char (c : Char) : (char c).line? = none := rfl

@[simp] theorem line?_line (indent text : Text) : (line indent text).line? = some text := rfl

theorem run_map_char_append (t : Text) (cs : List Chunk) : run (t.map .char ++ cs) = t ++ run cs := by
  induction t with
  | nil => rfl
  | cons c t ih => rw [List.map_cons, List.cons_append, run, ih, List.cons_append]

/-- Characters that are kept in front of the first marked line are chunks of their own. -/
theorem exists_of_run_eq_append {cs : List Chunk} {s t : Text} (h : run cs = s ++ t) :
    ∃ ds, cs = s.map .char ++ ds := by
  induction s generalizing cs with
  | nil => exact ⟨cs, rfl⟩
  | cons c s ih =>
    cases cs with
    | nil => simp [run] at h
    | cons x cs =>
      cases x with
      | char e =>
        rw [run, List.cons_append, List.cons.injEq] at h
        obtain ⟨ds, rfl⟩ := ih h.2
        exact ⟨ds, by rw [h.1]; rfl⟩
      | line indent text => simp [run] at h

theorem run_isPrefix_source (cs : List Chunk) : run cs <+: cs.flatMap source := by
  induction cs with
  | nil => exact List.nil_prefix
  | cons x cs ih =>
    cases x with
    | char c => exact (List.prefix_cons_inj c).2 ih
    | line indent text => exact List.nil_prefix

/-- No star stands right in front of a marked line. -/
def Apart : Chunk → Chunk → Prop
  | .char c, .line _ _ => c ≠ '*'
  | _, _ => True

end Chunk

/-- What stands in front of the first slash of a protected text are kept characters. -/
theorem chunks_eq_of_append {cs : List Chunk} {front rest : Text} (hfront : '/' ∉ front)
    (h : cs.flatMap Chunk.guarded = front ++ rest) :
    ∃ cs', cs = front.map .char ++ cs' ∧ cs'.flatMap Chunk.guarded = rest := by
  induction front generalizing cs with
  | nil => exact ⟨cs, rfl, h⟩
  | cons c front ih =>
    simp only [List.mem_cons, not_or] at hfront
    cases cs with
    | nil => simp at h
    | cons x cs =>
      cases x with
      | char e =>
        simp only [List.flatMap_cons, Chunk.guarded, List.cons_append, List.nil_append,
          List.cons.injEq] at h
        obtain ⟨cs', rfl, hrest⟩ := ih hfront.2 h.2
        exact ⟨cs', by rw [h.1]; rfl, hrest⟩
      | line indent text =>
        -- a marker begins with a slash
        have hslash : '/' = c := (List.cons.inj h).1
        exact absurd hslash hfront.1

/-! ## Removing markers from a protected text -/

/-- No marker starts at a kept character, if none stands there in front of the next marked line. -/
theorem marker?_guarded_char {c : Char} {cs : List Chunk}
    (hapart : (.char c :: cs).IsChain Chunk.Apart) (hfree : marker? (c :: Chunk.run cs) = none) :
    marker? (c :: cs.flatMap Chunk.guarded) = none := by
  cases h : marker? (c :: cs.flatMap Chunk.guarded) with
  | none => rfl
  | some found =>
    obtain ⟨-, m, rest, heq, hm, -⟩ := marker?_eq_some_iff.1 h
    obtain ⟨inner, rfl, hinner⟩ := hm.slashes
    simp only [List.cons_append, List.cons.injEq] at heq
    obtain ⟨rfl, heq⟩ := heq
    have hstar : '/' ∉ inner ++ ['*'] := by simp [hinner]
    have heq' : cs.flatMap Chunk.guarded = (inner ++ ['*']) ++ '/' :: rest := by
      rw [heq]; simp
    obtain ⟨cs, rfl, hrest⟩ := chunks_eq_of_append hstar heq'
    cases cs with
    | nil => simp at hrest
    | cons x cs =>
      cases x with
      | char e =>
        -- the whole marker is kept
        obtain ⟨rfl, -⟩ := List.cons.inj hrest
        have hkept : '/' :: Chunk.run ((inner ++ ['*']).map .char ++ .char '/' :: cs) =
            ('/' :: (inner ++ ['*', '/'])) ++ Chunk.run cs := by
          rw [Chunk.run_map_char_append, Chunk.run]
          simp
        rw [hkept, marker?_append hm] at hfree
        exact absurd hfree (by simp)
      | line indent text =>
        have hpair : [Chunk.char '*', .line indent text] <:+:
            .char '/' :: ((inner ++ ['*']).map Chunk.char ++ .line indent text :: cs) :=
          ⟨.char '/' :: inner.map .char, cs, by simp⟩
        have hne : Chunk.Apart (.char '*') (.line indent text) := by
          simpa using hapart.infix hpair
        exact absurd rfl hne

theorem unprotect_append_marker {m : Text} (hm : IsMarker m) (rest : Text) :
    unprotect (m ++ rest) = unprotect rest := by
  have hne : m ++ rest ≠ [] := by
    have := hm.length_pos
    intro hnil
    simp [(List.append_eq_nil_iff.1 hnil).1] at this
  have hhit := substitute_of_hit (marker?_append hm rest) hm.length_pos hne
  simpa [unprotect] using hhit

/-- A marker in a marked line or behind it: in the line, or a stub that the slash behind the line
completes. -/
theorem isMarker_of_marker?_closing {s rest : Text} (hs : s ≠ []) (hfree : marker? s = none)
    (h : marker? (s ++ (closing ++ rest)) ≠ none) : IsMarker (s ++ ['/']) := by
  obtain ⟨⟨w, q⟩, hw⟩ := Option.ne_none_iff_exists'.1 h
  have hfits := marker?_local hw
  obtain ⟨rfl, m, tail, heq, hm, rfl⟩ := marker?_eq_some_iff.1 hw
  have hlong : s.length < m.length := by
    by_contra hle
    have hinside := marker?_local.find_of_append hw (Nat.not_lt.1 hle)
    rw [hfree] at hinside
    exact absurd hinside (by simp)
  rw [← hm.eq_append_slash hs heq hlong]
  exact hm

theorem unprotect_line_of_no_stub {text : Text} (hfree : ∀ s, s <:+ text → marker? s = none)
    (hstub : endsInStub text = false) (rest : Text) :
    unprotect (text ++ (closing ++ rest)) = text ++ unprotect rest := by
  have hnone : ∀ s, s ≠ [] → s <:+ text → marker? (s ++ (closing ++ rest)) = none := by
    intro s hs hsuffix
    by_contra h
    have hm := isMarker_of_marker?_closing hs (hfree s hsuffix) h
    rw [endsInStub_iff.2 ⟨s, hsuffix, hm⟩] at hstub
    exact absurd hstub (by decide)
  have hkept := substitute_append_of_none hnone
  rw [← unprotect_append_marker isMarker_closing rest]
  exact hkept

/-- Behind a stub the rest of the closing marker is left. -/
theorem unprotect_line_of_stub {text : Text} (hfree : ∀ s, s <:+ text → marker? s = none)
    (hstub : endsInStub text = true) (rest : Text) :
    ∃ front stub tail, text = front ++ '/' :: stub ∧
      unprotect (text ++ (closing ++ rest)) = front ++ '*' :: tail := by
  obtain ⟨s, ⟨front, rfl⟩, hm⟩ := endsInStub_iff.1 hstub
  obtain ⟨inner, hinner, hslash⟩ := hm.slashes
  have hs : s = '/' :: (inner ++ ['*']) := by
    have hsplit : s ++ ['/'] = '/' :: (inner ++ ['*']) ++ ['/'] := by rw [hinner]; simp
    exact List.append_cancel_right hsplit
  -- a longer stub would hold the first slash of `s` inside
  have hnone : ∀ u, u ≠ [] → u <:+ front → marker? (u ++ (s ++ (closing ++ rest))) = none := by
    rintro u hu ⟨front', rfl⟩
    by_contra h
    rw [← List.append_assoc] at h
    have hsuffix : u ++ s <:+ front' ++ u ++ s := ⟨front', by simp⟩
    have hne : u ++ s ≠ [] := by simp [hu]
    obtain ⟨inner', hinner', hslash'⟩ := (isMarker_of_marker?_closing hne (hfree _ hsuffix) h).slashes
    obtain ⟨c, u, rfl⟩ := List.exists_cons_of_ne_nil hu
    have hin : u ++ s ++ ['/'] = inner' ++ ['*', '/'] := by
      simpa using (List.cons.inj hinner').2
    have hin' : u ++ s = inner' ++ ['*'] := by
      have : u ++ s ++ ['/'] = inner' ++ ['*'] ++ ['/'] := by rw [hin]; simp
      exact List.append_cancel_right this
    have hmem : '/' ∈ inner' ++ ['*'] := by rw [← hin', hs]; simp
    simp [hslash'] at hmem
  have hkept := substitute_append_of_none hnone
  have hhit : unprotect (s ++ (closing ++ rest)) =
      unprotect ('*' :: (" beautify ignore:end */".toList ++ rest)) := by
    have hclosing : s ++ (closing ++ rest) =
        (s ++ ['/']) ++ '*' :: (" beautify ignore:end */".toList ++ rest) := by
      rw [closing_eq, List.append_assoc, List.cons_append, List.cons_append, List.singleton_append]
    rw [hclosing, unprotect_append_marker hm]
  have hstar (t : Text) : unprotect ('*' :: t) = '*' :: unprotect t := by
    have hnone : marker? ('*' :: t) = none := by
      simp [marker?, after?, List.isPrefixOf?]
    simp [unprotect, substitute, segments_cons_of_none hnone, Segment.text]
  refine ⟨front, inner ++ ['*'], unprotect (" beautify ignore:end */".toList ++ rest), by rw [hs], ?_⟩
  rw [List.append_assoc, ← hstar, ← hhit]
  exact hkept

/-- If neither the characters between marked lines nor the marked lines hold a marker, removing all
markers from the protected text removes the inserted ones, exactly if no marked line ends in a stub.
It makes no difference if only some characters are looked at, slashes and stars among them. -/
theorem filter_unprotect_guarded_iff {keep : Char → Bool} (hslash : keep '/' = true)
    (hstar : keep '*' = true) {cs : List Chunk} (hapart : cs.IsChain Chunk.Apart)
    (hkept : ∀ s, s <:+ cs → marker? (Chunk.run s) = none)
    (hlines : ∀ l ∈ cs.filterMap Chunk.line?, ∀ s, s <:+ l → marker? s = none) :
    (unprotect (cs.flatMap Chunk.guarded)).filter keep = (cs.flatMap Chunk.bare).filter keep ↔
      ∀ l ∈ cs.filterMap Chunk.line?, endsInStub l = false := by
  induction cs with
  | nil => simp [unprotect, substitute, segments, segmentsFrom]
  | cons x cs ih =>
    have hkept' : ∀ s, s <:+ cs → marker? (Chunk.run s) = none :=
      fun s hs => hkept s (hs.trans (List.suffix_cons x cs))
    cases x with
    | char c =>
      rw [List.filterMap_cons_none (Chunk.line?_char c)] at hlines ⊢
      have hnone := marker?_guarded_char hapart (hkept _ List.suffix_rfl)
      have hkeep : unprotect (c :: cs.flatMap Chunk.guarded) =
          c :: unprotect (cs.flatMap Chunk.guarded) := by
        simp [unprotect, substitute, segments_cons_of_none hnone, Segment.text]
      rw [List.flatMap_cons, List.flatMap_cons, Chunk.guarded, Chunk.bare, List.singleton_append,
        hkeep, ← List.singleton_append, List.filter_append, List.filter_append,
        List.append_cancel_left_eq]
      exact ih hapart.tail hkept' hlines
    | line indent text =>
      rw [List.filterMap_cons_some (Chunk.line?_line indent text), List.forall_mem_cons] at hlines ⊢
      have ih := ih hapart.tail hkept' hlines.2
      have hopen : unprotect ((Chunk.line indent text :: cs).flatMap Chunk.guarded) =
          unprotect (text ++ (closing ++ cs.flatMap Chunk.guarded)) := by
        rw [List.flatMap_cons, Chunk.guarded, List.append_assoc, List.append_assoc,
          unprotect_append_marker isMarker_opening]
      rw [hopen, List.flatMap_cons, Chunk.bare]
      cases hstub : endsInStub text with
      | false =>
        rw [unprotect_line_of_no_stub hlines.1 hstub, List.filter_append, List.filter_append,
          List.append_cancel_left_eq, ih]
        simp
      | true =>
        -- the stub takes the first slash of the marker behind it, and the rest of that marker stays
        obtain ⟨front, stub, tail, rfl, hout⟩ :=
          unprotect_line_of_stub hlines.1 hstub (cs.flatMap Chunk.guarded)
        rw [hout]
        simp [hslash, hstar]

theorem visible_source_eq_bare {cs : List Chunk}
    (hindent : ∀ indent text, .line indent text ∈ cs → blank indent = true) :
    visible (cs.flatMap Chunk.source) = visible (cs.flatMap Chunk.bare) := by
  induction cs with
  | nil => rfl
  | cons x cs ih =>
    rw [List.flatMap_cons, List.flatMap_cons, visible_append, visible_append,
      ih fun i l h => hindent i l (List.mem_cons_of_mem x h)]
    cases x with
    | char c => rfl
    | line indent text =>
      rw [Chunk.source, Chunk.bare, visible_append, visible_of_blank (hindent indent text (by simp)),
        List.nil_append]

theorem Chunk.exists_of_mem_line? {cs : List Chunk} {l : Text} (h : l ∈ cs.filterMap Chunk.line?) :
    ∃ before indent after, cs = before ++ .line indent l :: after := by
  obtain ⟨x, hx, hline⟩ := List.mem_filterMap.1 h
  obtain ⟨before, after, rfl⟩ := List.append_of_mem hx
  cases x with
  | char c => simp at hline
  | line indent text =>
    cases hline
    exact ⟨before, indent, after, rfl⟩

/-- If the source holds no marker, removing all markers from the protected text gives the visible
characters of the source back, exactly if no marked line ends in a stub. -/
theorem visible_unprotect_guarded_iff {cs : List Chunk} (hapart : cs.IsChain Chunk.Apart)
    (hindent : ∀ indent text, .line indent text ∈ cs → blank indent = true)
    (hfree : ∀ s, s <:+ cs.flatMap Chunk.source → marker? s = none) :
    visible (unprotect (cs.flatMap Chunk.guarded)) = visible (cs.flatMap Chunk.source) ↔
      ∀ l ∈ cs.filterMap Chunk.line?, endsInStub l = false := by
  have hkept : ∀ s, s <:+ cs → marker? (Chunk.run s) = none := by
    rintro s ⟨front, rfl⟩
    exact marker?_eq_none_of_isPrefix (Chunk.run_isPrefix_source s) (hfree _ (by simp))
  have hlines : ∀ l ∈ cs.filterMap Chunk.line?, ∀ s, s <:+ l → marker? s = none := by
    rintro l hl s ⟨front, rfl⟩
    obtain ⟨before, indent, after, rfl⟩ := Chunk.exists_of_mem_line? hl
    exact marker?_eq_none_of_isPrefix (List.prefix_append s (after.flatMap Chunk.source))
      (hfree _ ⟨before.flatMap Chunk.source ++ indent ++ front, by simp [Chunk.source]⟩)
  rw [visible_source_eq_bare hindent]
  exact filter_unprotect_guarded_iff (by decide) (by decide) hapart hkept hlines

end IgnoreMarker

end SmartyLayout
