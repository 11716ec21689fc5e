import Mathlib.Data.List.Chain
import SmartyLayout.Beautifier
import SmartyLayout.Proofs.Trimming

/-!
# SmartyLayout.Proofs.Flush — texts whose lines are trimmed

A text is *flush* if no line of it begins or ends with a blank. Trimming the lines of a text makes it
flush (`flush_trimmed`) and leaves a flush text alone (`Flush.map_trim_lines`). The property is stated
on neighbouring characters, so that it goes over to any part of the text that begins and ends with
a visible character (`Flush.of_infix`), wherever its line breaks are.

Trimming does not see blanks put in front of a text (`map_trim_lines_blank_append`), and it treats
line breaks behind the text apart from it (`trimEach_append_breaks`).
-/

namespace SmartyLayout

namespace Text

/-! ## Flush texts -/

/-- No blank other than a line break stands next to a line break. -/
def Meet (c e : Char) : Prop :=
  (c = '\n' → isBlank e = true → e = '\n') ∧ (e = '\n' → isBlank c = true → c = '\n')

/-- No line of the text begins or ends with a blank. -/
def Flush (t : Text) : Prop :=
  ('\n' :: (t ++ ['\n'])).IsChain Meet

theorem meet_newline_of_visible {c : Char} (hc : isBlank c = false) : Meet '\n' c ∧ Meet c '\n' := by
  simp [Meet, hc]

theorem meet_of_ne {c e : Char} (hc : c ≠ '\n') (he : e ≠ '\n') : Meet c e :=
  ⟨fun h => absurd h hc, fun h => absurd h he⟩

theorem flush_nil : Flush [] :=
  List.isChain_pair.2 ⟨fun _ _ => rfl, fun _ _ => rfl⟩

/-- A text that is solid is flush if it is so inside. -/
theorem Solid.flush {t : Text} (ht : Solid t) (hinside : t.IsChain Meet) : Flush t := by
  obtain ⟨c, rest, hfirst, hc⟩ := ht.first
  obtain ⟨front, e, hlast, he⟩ := ht.last
  -- the chain is cut on both sides of the text, so only the two frames remain to be met
  rw [Flush, ← List.singleton_append, List.isChain_append, List.isChain_append]
  refine ⟨List.isChain_singleton _, ⟨hinside, List.isChain_singleton _, ?_⟩, ?_⟩
  · intro x hx y hy
    obtain rfl : e = x := by simpa [hlast] using hx
    obtain rfl : '\n' = y := by simpa using hy
    exact (meet_newline_of_visible he).2
  · intro x hx y hy
    obtain rfl : '\n' = x := by simpa using hx
    obtain rfl : c = y := by simpa [hfirst] using hy
    exact (meet_newline_of_visible hc).1

namespace Flush

variable {t : Text}

theorem of_infix (h : Flush t) {s : Text} (hs : Solid s) (hpart : s <:+: t) : Flush s := by
  have hwide : s <:+: '\n' :: (t ++ ['\n']) :=
    hpart.trans ((List.prefix_append t _).isInfix.trans (List.suffix_cons '\n' _).isInfix)
  have hinside : s.IsChain Meet := List.IsChain.infix h hwide
  exact hs.flush hinside

end Flush

theorem flush_append_newline_iff {s t : Text} : Flush (s ++ '\n' :: t) ↔ Flush s ∧ Flush t := by
  have hframe : '\n' :: (s ++ '\n' :: t ++ ['\n']) = ('\n' :: s) ++ '\n' :: (t ++ ['\n']) := by simp
  rw [Flush, hframe, List.isChain_split]
  rfl

/-- A text is flush if its lines are, however long they are. -/
theorem flush_unlines_iff {ls : List Text} : Flush (unlines ls) ↔ ∀ l ∈ ls, Flush l := by
  induction ls with
  | nil => simpa [unlines] using flush_nil
  | cons l ls ih =>
    by_cases hls : ls = []
    · simp [hls]
    · rw [unlines_cons l hls, flush_append_newline_iff, ih, List.forall_mem_cons]

theorem newline_not_mem_of_mem_lines {t l : Text} (h : l ∈ lines t) : '\n' ∉ l := by
  intro hmem
  rw [lines_eq_splitOn] at h
  exact (mem_of_mem_splitOn h hmem).2 rfl

/-- A flush text that neither begins nor ends with a line break is empty or solid. -/
theorem Flush.eq_nil_or_solid {t : Text} (h : Flush t) (hfirst : t.head? ≠ some '\n')
    (hlast : t.getLast? ≠ some '\n') : t = [] ∨ Solid t := by
  rcases List.eq_nil_or_concat' t with rfl | ⟨front, e, rfl⟩
  · exact .inl rfl
  · right
    obtain ⟨c, rest, hcons⟩ := List.exists_cons_of_ne_nil (List.append_ne_nil_of_right_ne_nil front
      (List.cons_ne_nil e []))
    constructor
    · refine ⟨c, rest, hcons, ?_⟩
      rw [Flush, hcons, List.cons_append, List.isChain_cons_cons] at h
      by_contra hc
      -- a blank next to the frame would be a break, and the text begins with none
      have hbreak : c = '\n' := h.1.1 rfl (by simpa using hc)
      simp [hcons, hbreak] at hfirst
    · refine ⟨front, e, rfl, ?_⟩
      have hframe : '\n' :: (front ++ [e] ++ ['\n']) = ('\n' :: front) ++ e :: ['\n'] := by simp
      rw [Flush, hframe, List.isChain_split, List.isChain_pair] at h
      by_contra he
      have hbreak : e = '\n' := h.2.2 rfl (by simpa using he)
      simp [hbreak] at hlast

/-- Trimming leaves the lines of a flush text alone. -/
theorem Flush.map_trim_lines {t : Text} (h : Flush t) : (lines t).map trim = lines t := by
  rw [← unlines_lines t, flush_unlines_iff] at h
  rw [← List.map_id (lines t), List.map_map]
  refine List.map_congr_left fun l hl => ?_
  have hfree := newline_not_mem_of_mem_lines hl
  have hfirst : l.head? ≠ some '\n' := fun heq => hfree (List.mem_of_mem_head? heq)
  have hlast : l.getLast? ≠ some '\n' := fun heq => hfree (List.mem_of_mem_getLast? heq)
  rcases (h l hl).eq_nil_or_solid hfirst hlast with rfl | hsolid
  · rfl
  · exact hsolid.trim_eq

theorem flush_trim {l : Text} (hl : '\n' ∉ l) : Flush (trim l) := by
  cases hblank : blank l with
  | true =>
    rw [trim_of_blank hblank]
    exact flush_nil
  | false =>
    obtain ⟨g, -, hcore, hsolid⟩ := exists_solid_core hblank
    -- a line without breaks meets them only in the frame
    have hsub : ∀ c ∈ trim l, c ≠ '\n' := by
      rintro c hc rfl
      rw [hcore] at hl
      simp [hc] at hl
    refine hsolid.flush ?_
    refine List.Pairwise.isChain (List.pairwise_of_forall_mem_list ?_)
    exact fun c hc e he => meet_of_ne (hsub c hc) (hsub e he)

/-! ## Lines of lines -/

theorem lines_cons_newline (t : Text) : lines ('\n' :: t) = [] :: lines t := rfl

theorem lines_of_not_mem {t : Text} (h : '\n' ∉ t) : lines t = [t] := by
  rw [lines_eq_splitOn]
  exact List.splitOn_eq_singleton h

theorem lines_append_newline (s t : Text) : lines (s ++ '\n' :: t) = lines s ++ lines t := by
  rw [lines_eq_splitOn, lines_eq_splitOn, lines_eq_splitOn, List.splitOn_append_cons_self]

theorem lines_unlines {ls : List Text} (hls : ls ≠ []) : lines (unlines ls) = ls.flatMap lines := by
  induction ls with
  | nil => exact absurd rfl hls
  | cons l ls ih =>
    by_cases hnil : ls = []
    · simp [hnil]
    · rw [unlines_cons l hnil, lines_append_newline, ih hnil, List.flatMap_cons]

/-- Trimming the lines of a text does not see blanks in front of it. -/
theorem map_trim_lines_blank_append {g : Text} (hg : blank g = true) (hbreak : '\n' ∉ g) (t : Text) :
    (lines (g ++ t)).map trim = (lines t).map trim := by
  -- the blanks hold no break, so all of them go to the first line
  have hlines : lines (g ++ t) = (lines t).modifyHead (g ++ ·) := by
    induction g with
    | nil =>
      obtain ⟨l, ls, hl⟩ := List.exists_cons_of_ne_nil (lines_ne_nil t)
      simp [hl]
    | cons c g ih =>
      rw [List.mem_cons, not_or] at hbreak
      rw [blank_cons, Bool.and_eq_true] at hg
      rw [List.cons_append, lines_eq_splitOn, List.splitOn_cons_eq_if_modifyHead, ← lines_eq_splitOn,
        ih hg.2 hbreak.2]
      simp [Ne.symm hbreak.1, Function.comp_def]
  obtain ⟨l, ls, hl⟩ := List.exists_cons_of_ne_nil (lines_ne_nil t)
  rw [hlines, hl, List.modifyHead_cons, List.map_cons, List.map_cons, trim,
    trimStart_blank_append hg]
  rfl

/-! ## Trimmed lines -/

theorem dropFinalBreaks_concat_newline (t : Text) :
    dropFinalBreaks (t ++ ['\n']) = dropFinalBreaks t := by
  simp [dropFinalBreaks]

theorem exists_dropFinalBreaks_append (t : Text) :
    ∃ n, dropFinalBreaks t ++ List.replicate n '\n' = t := by
  refine ⟨(t.rtakeWhile (· == '\n')).length, ?_⟩
  have hbreaks : t.rtakeWhile (· == '\n') =
      List.replicate (t.rtakeWhile (· == '\n')).length '\n' := by
    refine List.eq_replicate_of_mem fun c hc => ?_
    exact beq_iff_eq.1 (List.mem_rtakeWhile_imp (p := (· == '\n')) hc)
  rw [← hbreaks]
  exact List.rdropWhile_append_rtakeWhile

/-- The text with every line trimmed, whether a line follows the last break or not. -/
def trimEach (t : Text) : Text :=
  unlines ((lines t).map trim)

/-- Line breaks behind a text are left to it. -/
theorem trimEach_append_breaks (t : Text) (n : Nat) :
    trimEach (t ++ List.replicate n '\n') = trimEach t ++ List.replicate n '\n' := by
  induction n with
  | zero => simp
  | succ n ih =>
    have hlast : lines [] = [[]] := rfl
    have hne : (lines (t ++ List.replicate n '\n')).map trim ≠ [] := by simp [lines_ne_nil]
    rw [List.replicate_succ', ← List.append_assoc, ← List.append_assoc, ← ih, trimEach,
      lines_append_newline, List.map_append, hlast, List.map_singleton, unlines_append hne (by simp)]
    rfl

end Text

namespace Beautifier

open Text

/-- What `trimLines` returns. -/
def trimmed (t : Text) : Text :=
  unlines ((readLines t).map trim)

theorem run_trimLines (t : Text) (s : Settings) : trimLines.run t s = .ok (trimmed t) := rfl

/-- Reading lines loses the empty line behind a final break, and carriage returns that trimming
would lose. -/
theorem map_trim_readLines (t : Text) :
    (readLines t).map trim = (lines t).map trim ∨
      (readLines t).map trim ++ [[]] = (lines t).map trim := by
  -- a carriage return is blank, so trimming drops it whether reading does or not
  have hreturn (l : Text) : trim (if l.getLast? = some '\r' then l.dropLast else l) = trim l := by
    split
    · next h =>
      have hl : l.dropLast ++ ['\r'] = l := List.dropLast_append_getLast? _ h
      conv_rhs => rw [← hl, trim_append_blank _ (by decide : blank ['\r'] = true)]
    · rfl
  obtain ⟨front, last, hfront⟩ : ∃ front last, lines t = front ++ [last] :=
    ⟨_, _, (List.dropLast_append_getLast (lines_ne_nil t)).symm⟩
  cases last with
  | nil =>
    right
    simp [readLines, hfront, hreturn, trim_of_blank blank_nil]
  | cons c last =>
    left
    simp [readLines, hfront, hreturn]

theorem mem_map_trim_lines {t l : Text} (h : l ∈ (readLines t).map trim) : l ∈ (lines t).map trim := by
  rcases map_trim_readLines t with heq | heq
  · rwa [← heq]
  · rw [← heq]
    exact List.mem_append_left _ h

theorem exists_trimmed_append (t : Text) : ∃ n, trimmed t ++ List.replicate n '\n' = trimEach t := by
  rcases map_trim_readLines t with heq | heq
  · exact ⟨0, by rw [trimmed, heq, List.replicate_zero, List.append_nil, trimEach]⟩
  · rw [trimmed, trimEach, ← heq]
    -- the empty line that reading loses is one break, unless it is the only line
    by_cases hnil : (readLines t).map trim = []
    · exact ⟨0, by simp [hnil, unlines]⟩
    · exact ⟨1, by rw [unlines_append hnil (by simp)]; rfl⟩

/-- Trimmed lines make a flush text. -/
theorem flush_trimmed (t : Text) : Flush (trimmed t) := by
  rw [trimmed, flush_unlines_iff]
  intro l hl
  obtain ⟨m, hm, rfl⟩ := List.mem_map.1 (mem_map_trim_lines hl)
  exact flush_trim (newline_not_mem_of_mem_lines hm)

end Beautifier

end SmartyLayout
