import SmartyLayout.Proofs.Occurrence
import SmartyLayout.Proofs.TagWindow

/-!
# SmartyLayout.Proofs.Reflow — layout opens no literal

Layout changes the blanks around line breaks, and puts line breaks in front of braces. `Reflow` is
this relation between a text and its new form. Literals are kept by it since they are kept as they
are (`Literal.at?_local`). What has to be shown is that no new one opens:

* `Reflowed.at?_eq_none`: if a literal begins at a character of the new text, then one begins at the
  same character of the old text. Comments need their marks, which are not moved apart or together;
  a string in single quotes cannot cross the new break; other strings and elements do not see the
  difference;
* `Atom.Reads.reflowed`: so the units of the old text, with its blanks changed, are those of the new
  text.
-/

namespace SmartyLayout

/-- The second list is the first with other blanks: `gap` replaces a run of them by one that holds a
line break, where there was a line break before or a brace follows. -/
inductive Reflow {α : Type} (isGap : α → Prop) (nl brace : α) : List α → List α → Prop
  | done {g g' : List α} (hg : ∀ a ∈ g, isGap a) (hg' : ∀ a ∈ g', isGap a) :
      Reflow isGap nl brace g g'
  | keep (a : α) {x x' : List α} (h : Reflow isGap nl brace x x') :
      Reflow isGap nl brace (a :: x) (a :: x')
  | gap {g g' x x' : List α} (hg : ∀ a ∈ g, isGap a) (hg' : ∀ a ∈ g', isGap a) (hbreak : nl ∈ g')
      (hnear : nl ∈ g ∨ x.head? = some brace) (h : Reflow isGap nl brace x x') :
      Reflow isGap nl brace (g ++ x) (g' ++ x')

namespace Reflow

variable {α : Type} {isGap : α → Prop} {nl brace : α} {x x' y y' : List α}

theorem keepAll (s : List α) (h : Reflow isGap nl brace x x') :
    Reflow isGap nl brace (s ++ x) (s ++ x') := by
  induction s with
  | nil => exact h
  | cons a s ih => exact .keep a ih

theorem refl (x : List α) : Reflow isGap nl brace x x := by
  have hnil : Reflow isGap nl brace [] [] := .done (by simp) (by simp)
  simpa using hnil.keepAll x

/-- What is no gap was there before. -/
theorem mem_of_mem {a : α} (h : Reflow isGap nl brace x x') (ha : ¬ isGap a) (hx : a ∈ x) :
    a ∈ x' := by
  induction h with
  | done hg hg' => exact absurd (hg a hx) ha
  | keep b h ih =>
    rcases List.mem_cons.1 hx with rfl | hx
    · exact List.mem_cons_self
    · exact List.mem_cons_of_mem b (ih hx)
  | gap hg hg' hbreak hnear h ih =>
    rcases List.mem_append.1 hx with hx | hx
    · exact absurd (hg a hx) ha
    · exact List.mem_append_right _ (ih hx)

/-- Where the new list begins with what is no gap, so does the old one. -/
theorem of_cons {a : α} (h : Reflow isGap nl brace x (a :: x')) (ha : ¬ isGap a) :
    ∃ y, x = a :: y ∧ Reflow isGap nl brace y x' := by
  generalize hnew : a :: x' = new at h
  cases h with
  | done hg hg' => exact absurd (hg' a (by simp [← hnew])) ha
  | keep b h =>
    obtain ⟨rfl, rfl⟩ := List.cons.inj hnew
    exact ⟨_, rfl, h⟩
  | @gap g g' y y' hg hg' hbreak hnear h =>
    cases g' with
    | nil => simp at hbreak
    | cons b g' =>
      -- a gap of the new list would begin with `a`
      rw [List.cons_append] at hnew
      rw [(List.cons.inj hnew).1] at ha
      exact absurd (hg' b (by simp)) ha

theorem of_append {w : List α} (hw : ∀ a ∈ w, ¬ isGap a) (h : Reflow isGap nl brace x (w ++ x')) :
    ∃ y, x = w ++ y ∧ Reflow isGap nl brace y x' := by
  induction w generalizing x with
  | nil => exact ⟨x, rfl, h⟩
  | cons a w ih =>
    obtain ⟨y, rfl, hy⟩ := of_cons h (hw a (by simp))
    obtain ⟨z, rfl, hz⟩ := ih (fun b hb => hw b (by simp [hb])) hy
    exact ⟨z, rfl, hz⟩

/-- The two lists can be divided at anything but gaps and braces. -/
theorem divide {a : α} {u' v' : List α} (ha : ¬ isGap a) (hbrace : a ≠ brace)
    (h : Reflow isGap nl brace x (u' ++ a :: v')) :
    ∃ u v, x = u ++ a :: v ∧ Reflow isGap nl brace u u' ∧ Reflow isGap nl brace v v' := by
  generalize hnew : u' ++ a :: v' = new at h
  induction h generalizing u' with
  | done hg hg' => exact absurd (hg' a (by simp [← hnew])) ha
  | @keep b y y' h ih =>
    cases u' with
    | nil =>
      obtain ⟨rfl, rfl⟩ := List.cons.inj hnew
      exact ⟨[], y, rfl, .refl [], h⟩
    | cons c u' =>
      obtain ⟨rfl, hrest⟩ := List.cons.inj hnew
      obtain ⟨u, v, rfl, hu, hv⟩ := ih hrest
      exact ⟨c :: u, v, rfl, .keep c hu, hv⟩
  | @gap g g' y y' hg hg' hbreak hnear h ih =>
    -- the division point lies behind the gap
    obtain ⟨u'', rfl, hrest⟩ : ∃ u'', u' = g' ++ u'' ∧ u'' ++ a :: v' = y' := by
      rcases Text.append_eq_append_cons_iff.1 hnew.symm with ⟨m, hm, hrest⟩ | ⟨m, rfl, -⟩
      · exact ⟨m, hm, hrest.symm⟩
      · exact absurd (hg' a (by simp)) ha
    obtain ⟨u, v, rfl, hu, hv⟩ := ih hrest
    refine ⟨g ++ u, v, (List.append_assoc ..).symm, .gap hg hg' hbreak ?_ hu, hv⟩
    rcases hnear with hnear | hnear
    · exact .inl hnear
    · right
      cases u with
      | nil => exact absurd (Option.some.inj hnear) hbrace
      | cons b u => exact hnear

end Reflow

namespace Text

open Literal

/-- Texts that differ in the blanks around line breaks, and in line breaks put in front of braces. -/
abbrev Reflowed : Text → Text → Prop :=
  Reflow (fun c => isBlank c = true) '\n' '{'

theorem isWord_eq_false_of_isBlank {c : Char} (hc : isBlank c = true) : isWord c = false :=
  forall_of_isBlank (P := fun c => isWord c = false) (by decide +kernel) hc

namespace Reflowed

variable {x x' : Text}

theorem of_append {w : Text} (hw : ∀ c ∈ w, isBlank c = false) (h : Reflowed x (w ++ x')) :
    ∃ y, x = w ++ y ∧ Reflowed y x' :=
  Reflow.of_append (fun c hc => by simp [hw c hc]) h

theorem divide {c : Char} {u' v' : Text} (hc : isBlank c = false) (hbrace : c ≠ '{')
    (h : Reflowed x (u' ++ c :: v')) : ∃ u v, x = u ++ c :: v ∧ Reflowed u u' ∧ Reflowed v v' :=
  Reflow.divide (by simp [hc]) hbrace h

/-- What was visible before is visible, so what is blank was blank. -/
theorem blank_of_blank (h : Reflowed x x') (hx' : blank x' = true) : blank x = true := by
  rw [blank_iff]
  intro c hc
  by_contra hvisible
  exact hvisible (blank_iff.1 hx' c (h.mem_of_mem hvisible hc))

/-- A word that does not begin with a brace stands in the old text if it stands in the new one. -/
theorem infix_of_infix {w : Text} (hw : ∀ c ∈ w, isBlank c = false) (hbrace : w.head? ≠ some '{')
    (h : Reflowed x x') (hin : w <:+: x') : w <:+: x := by
  obtain ⟨before, after, rfl⟩ := hin
  cases w with
  | nil => exact List.nil_infix
  | cons c w =>
    rw [List.append_assoc, List.cons_append] at h
    -- the first letter divides the texts, and the others follow it at once
    obtain ⟨u, v, rfl, -, hv⟩ := h.divide (hw c (by simp)) (by simpa using hbrace)
    obtain ⟨y, rfl, -⟩ := hv.of_append fun e he => hw e (List.mem_cons_of_mem c he)
    exact ⟨u, y, by simp⟩

/-- A word that ends in front of the new text ends in front of the old one. -/
theorem atWordEnd_of_atWordEnd (h : Reflowed x x') (hend : atWordEnd x' = true) :
    atWordEnd x = true := by
  have hblank {c : Char} (hc : isBlank c = true) (cs : Text) : atWordEnd (c :: cs) = true := by
    rw [atWordEnd, isWord_eq_false_of_isBlank hc]
    rfl
  cases h with
  | done hg hg' =>
    cases x with
    | nil => rfl
    | cons c x => exact hblank (hg c (by simp)) x
  | keep c h => exact hend
  | @gap g g' y y' hg hg' hbreak hnear h =>
    cases g with
    | nil =>
      rcases hnear with hnear | hnear
      · simp at hnear
      · cases y with
        | nil => rfl
        | cons c y =>
          obtain rfl : c = '{' := by simpa using hnear
          rfl
    -- a blank ends every word
    | cons c g => exact hblank (hg c (by simp)) _

/-! ### Comments -/

theorem isSome_enclosed? {d : Dialect} {p : Text × Text} (hp : p ∈ commentPairs d)
    (h : Reflowed x x') (c : Char) (hnew : (enclosed? p.1 p.2 (c :: x')).isSome = true) :
    (enclosed? p.1 p.2 (c :: x)).isSome = true := by
  have hpair : ∃ e opener, p.1 = e :: opener ∧ (∀ c ∈ opener, isBlank c = false) ∧
      (∀ c ∈ p.2, isBlank c = false) ∧ p.2.head? ≠ some '{' := by
    simp only [commentPairs, List.mem_cons, List.not_mem_nil, or_false] at hp
    rcases hp with rfl | rfl | rfl
    · cases d
      · exact ⟨'{', ['*'], rfl, forall_mem_of_all (by decide), forall_mem_of_all (by decide), by decide⟩
      · exact ⟨'{', ['{', '*'], rfl, forall_mem_of_all (by decide), forall_mem_of_all (by decide), by decide⟩
    · exact ⟨'/', ['*'], rfl, forall_mem_of_all (by decide), forall_mem_of_all (by decide), by decide⟩
    · exact ⟨'<', ['!', '-', '-'], rfl, forall_mem_of_all (by decide), forall_mem_of_all (by decide), by decide⟩
  obtain ⟨e, opener, hopener, hvisible, hcloser, hbrace⟩ := hpair
  obtain ⟨rest, heq, hin⟩ := isSome_enclosed?_iff.1 hnew
  rw [hopener, List.cons_append] at heq
  obtain ⟨rfl, rfl⟩ := List.cons.inj heq
  obtain ⟨y, rfl, hy⟩ := h.of_append hvisible
  exact isSome_enclosed?_iff.2 ⟨y, by rw [hopener]; rfl, hy.infix_of_infix hcloser hbrace hin⟩

/-! ### Strings -/

/-- If a string closes in the new text, it closes in the old one, also if the first character is
escaped. -/
def Closes (q : Quote) (x x' : Text) : Prop :=
  ((q.closing? x').isSome = true → (q.closing? x).isSome = true) ∧
    ((q.closing? ('\\' :: x')).isSome = true → (q.closing? ('\\' :: x)).isSome = true)

theorem closes_cons {q : Quote} (c : Char) (h : Closes q x x') :
    Closes q (c :: x) (c :: x') := by
  constructor
  · by_cases hc : c = '\\'
    · rw [hc]
      exact h.2
    · rw [q.closing?_cons hc, q.closing?_cons hc]
      split
      · exact id
      · split
        · exact id
        · simpa using h.1
  · simp only [Quote.closing?]
    split
    · simpa using h.1
    · exact id

theorem closing?_cons_of_blank {q : Quote} (hmark : isBlank q.mark = false) {c : Char}
    (hc : isBlank c = true) (t : Text) :
    q.closing? (c :: t) = if q.bars c then none else (q.closing? t).map (· + 1) := by
  have hslash : c ≠ '\\' := by
    rintro rfl
    exact absurd hc (by decide)
  have hne : c ≠ q.mark := by
    rintro rfl
    rw [hmark] at hc
    exact absurd hc (by decide)
  rw [q.closing?_cons hslash, if_neg hne]

/-- A quote that holds any blank, escaped or not, does not see other blanks. -/
theorem closes_of_holdsBlanks {q : Quote} (hslash : q.mark ≠ '\\') (hmark : isBlank q.mark = false)
    (hbars : ∀ c, isBlank c = true → q.bars c = false) (hescapes : ∀ c, q.escapes c = true)
    (hbrace : q.mark ≠ '{' ∧ q.bars '{' = false) (h : Reflowed x x') : Closes q x x' := by
  have hblanks {g : Text} (hg : ∀ c ∈ g, isBlank c = true) (t : Text) :
      (q.closing? (g ++ t)).isSome = (q.closing? t).isSome := by
    induction g with
    | nil => rfl
    | cons c g ih =>
      have hc := hg c (by simp)
      rw [List.cons_append, closing?_cons_of_blank hmark hc, hbars c hc, if_neg (by decide),
        Option.isSome_map, ih fun e he => hg e (List.mem_cons_of_mem c he)]
  have hescaped (c : Char) (t : Text) : (q.closing? ('\\' :: c :: t)).isSome = (q.closing? t).isSome := by
    simp [Quote.closing?, hescapes]
  induction h with
  | @done g g' hg hg' =>
    have hnone : (q.closing? g').isSome = false := by
      have := hblanks hg' []
      rwa [List.append_nil] at this
    refine ⟨by simp [hnone], ?_⟩
    cases g' with
    | nil => simp [Quote.closing?, hslash.symm]
    | cons c g' =>
      have := hblanks (fun e he => hg' e (List.mem_cons_of_mem c he)) []
      rw [List.append_nil] at this
      rw [hescaped, this]
      simp [Quote.closing?]
  | keep c _ ih => exact closes_cons c ih
  | @gap g g' y y' hg hg' hbreak hnear _ ih =>
    refine ⟨by rw [hblanks hg', hblanks hg]; exact ih.1, ?_⟩
    -- the first blank of the gap is escaped, or a brace was
    obtain ⟨c, g', rfl⟩ := List.exists_cons_of_ne_nil (List.ne_nil_of_mem hbreak)
    rw [List.cons_append, hescaped, hblanks fun e he => hg' e (List.mem_cons_of_mem c he)]
    intro hnew
    have hold := ih.1 hnew
    cases g with
    | cons e g =>
      rw [List.cons_append, hescaped, hblanks fun a ha => hg a (List.mem_cons_of_mem e ha)]
      exact hold
    | nil =>
      rcases hnear with hnear | hnear
      · simp at hnear
      · obtain ⟨y, rfl⟩ : ∃ z, y = '{' :: z := by
          cases y with
          | nil => simp at hnear
          | cons e y => exact ⟨y, by rw [Option.some.inj hnear]⟩
        rw [List.nil_append, hescaped]
        rw [q.closing?_cons (by decide), if_neg hbrace.1.symm, hbrace.2, if_neg (by decide),
          Option.isSome_map] at hold
        exact hold

/-- A string in single quotes does not run across a line break. -/
theorem isSome_closing?_gap {g t : Text} (hg : ∀ c ∈ g, isBlank c = true)
    (ht : '\n' ∈ g ∨ (singleQuote.closing? t).isSome = false) :
    (singleQuote.closing? (g ++ t)).isSome = false := by
  induction g with
  | nil => simpa using ht
  | cons c g ih =>
    rw [List.cons_append, closing?_cons_of_blank (by decide) (hg c (by simp))]
    split
    · rfl
    · next hbar =>
      have hc : '\n' ≠ c := by
        rintro rfl
        exact hbar (by decide)
      rw [Option.isSome_map]
      refine ih (fun e he => hg e (List.mem_cons_of_mem c he)) ?_
      simpa [hc] using ht

theorem isSome_closing?_escaped_gap {g t : Text} (hg : ∀ c ∈ g, isBlank c = true)
    (ht : '\n' ∈ g ∨ t = []) : (singleQuote.closing? ('\\' :: (g ++ t))).isSome = false := by
  cases g with
  | nil =>
    obtain rfl : t = [] := by simpa using ht
    decide
  | cons c g =>
    rw [List.cons_append, Quote.closing?]
    split
    · next hesc =>
      have hc : '\n' ≠ c := by
        rintro rfl
        exact absurd hesc (by decide)
      rw [Option.isSome_map]
      refine isSome_closing?_gap (fun e he => hg e (List.mem_cons_of_mem c he)) ?_
      rcases ht with ht | rfl
      · exact .inl (by simpa [hc] using ht)
      · exact .inr rfl
    · rfl

theorem closes_singleQuote (h : Reflowed x x') : Closes singleQuote x x' := by
  induction h with
  | @done g g' hg hg' =>
    have hplain := isSome_closing?_gap (t := []) hg' (.inr rfl)
    have hafter := isSome_closing?_escaped_gap (t := []) hg' (.inr rfl)
    rw [List.append_nil] at hplain hafter
    exact ⟨by simp [hplain], by simp [hafter]⟩
  | keep c _ ih => exact closes_cons c ih
  | @gap g g' y y' hg hg' hbreak hnear _ ih =>
    exact ⟨by simp [isSome_closing?_gap hg' (.inl hbreak)],
      by simp [isSome_closing?_escaped_gap hg' (.inl hbreak)]⟩

theorem isSome_closing? {q : Quote} (hq : q ∈ [doubleQuote, backQuote, singleQuote])
    (h : Reflowed x x') (hnew : (q.closing? x').isSome = true) : (q.closing? x).isSome = true := by
  simp only [List.mem_cons, List.not_mem_nil, or_false] at hq
  rcases hq with rfl | rfl | rfl
  · have hbars : ∀ c, isBlank c = true → doubleQuote.bars c = false := fun c hc =>
      forall_of_isBlank (P := fun c => doubleQuote.bars c = false) (by decide) hc
    exact (closes_of_holdsBlanks (by decide) (by decide) hbars (fun _ => rfl) (by decide) h).1 hnew
  · exact (closes_of_holdsBlanks (by decide) (by decide) (fun _ _ => rfl) (fun _ => rfl) (by decide)
      h).1 hnew
  · exact (closes_singleQuote h).1 hnew

/-! ### Elements -/

/-- A closing tag stands in the old text if it stands in the new one. -/
theorem exists_isCloseTag {name : Text} (hname : ∀ c ∈ name, c.isAlpha = true ∨ c = '/' ∨ c = '-')
    (h : Reflowed x x') (hnew : ∃ close, IsCloseTag name close ∧ close <:+: x') :
    ∃ close, IsCloseTag name close ∧ close <:+: x := by
  obtain ⟨_, ⟨word, blanks, rfl, hword, hblanks⟩, before, after, rfl⟩ := hnew
  have hsplit : before ++ '<' :: '/' :: (word ++ (blanks ++ ['>'])) ++ after =
      before ++ '<' :: (('/' :: word) ++ (blanks ++ '>' :: after)) := by simp
  rw [hsplit] at h
  have hvisible : ∀ c ∈ '/' :: word, isBlank c = false :=
    List.forall_mem_cons.2 ⟨by decide, fun c hc => (fold_facts hword hname c hc).1⟩
  obtain ⟨u, v, rfl, -, hv⟩ := h.divide (by decide) (by decide)
  obtain ⟨y, rfl, hy⟩ := hv.of_append hvisible
  obtain ⟨blanks', tail, rfl, hblanks', -⟩ := hy.divide (by decide) (by decide)
  exact ⟨_, ⟨word, blanks', rfl, hword, hblanks'.blank_of_blank hblanks⟩, u, tail, by simp⟩

theorem templateTypeAt_of_templateTypeAt (h : Reflowed x x') (hnew : templateTypeAt x' = true) :
    templateTypeAt x = true := by
  obtain ⟨key, blanks, blanks', quote, value, kind, rest, rfl, hkey, hblanks, hblanks', hquote, hvalue,
    hkind, hend⟩ := templateTypeAt_iff.1 hnew
  have hvisible {word name : Text} (hword : word.map foldCase = name)
      (hname : ∀ c ∈ name, c.isAlpha = true ∨ c = '/' ∨ c = '-') : ∀ c ∈ word, isBlank c = false :=
    fun c hc => (fold_facts hword hname c hc).1
  have hletters : ∀ c ∈ templateTypes.flatten, c.isAlpha = true ∨ c = '/' ∨ c = '-' :=
    forall_mem_of_all (by decide)
  have hkindName (name : Text) (hname : name ∈ templateTypes) :
      ∀ c ∈ name, c.isAlpha = true ∨ c = '/' ∨ c = '-' :=
    fun c hc => hletters c (List.mem_flatten_of_mem hname hc)
  obtain ⟨y, rfl, hy⟩ := h.of_append (hvisible hkey (forall_mem_of_all (by decide)))
  obtain ⟨blanks₂, z, rfl, hgap, hz⟩ := hy.divide (by decide) (by decide)
  -- the quote, or the first letter of the value, ends the blanks behind the sign
  obtain ⟨c, value', rfl⟩ : ∃ c value', value = c :: value' :=
    List.exists_cons_of_ne_nil (by rintro rfl; simp at hvalue)
  have hc := fold_facts hvalue (forall_mem_of_all (by decide)) c (by simp)
  obtain ⟨blanks₂', u, rfl, hgap', hu⟩ : ∃ blanks₂' u, z = blanks₂' ++ (quote ++ u) ∧
      Reflowed blanks₂' blanks' ∧ Reflowed u (c :: value' ++ (kind ++ rest)) := by
    simp only [typeQuotes, List.mem_cons, List.not_mem_nil, or_false] at hquote
    rcases hquote with rfl | rfl | rfl
    · obtain ⟨b, u, rfl, hb, hu⟩ := hz.divide hc.1 hc.2.2.2.2.1
      exact ⟨b, c :: u, rfl, hb, .keep c hu⟩
    · obtain ⟨b, u, rfl, hb, hu⟩ := hz.divide (by decide) (by decide)
      exact ⟨b, u, rfl, hb, hu⟩
    · obtain ⟨b, u, rfl, hb, hu⟩ := hz.divide (by decide) (by decide)
      exact ⟨b, u, rfl, hb, hu⟩
  obtain ⟨w, rfl, hw⟩ := hu.of_append (hvisible hvalue (forall_mem_of_all (by decide)))
  obtain ⟨rest', rfl, hrest⟩ := hw.of_append (hvisible rfl (hkindName _ hkind))
  exact templateTypeAt_iff.2 ⟨key, blanks₂, blanks₂', quote, c :: value', kind, rest', rfl, hkey,
    hgap.blank_of_blank hblanks, hgap'.blank_of_blank hblanks', hquote, hvalue, hkind,
    hrest.atWordEnd_of_atWordEnd hend⟩

theorem templateTypeAt_cons_of_blank {c : Char} (hc : isBlank c = true) (t : Text) :
    templateTypeAt (c :: t) = false := by
  by_contra h
  obtain ⟨key, blanks, blanks', quote, value, kind, rest, heq, hkey, -⟩ :=
    templateTypeAt_iff.1 (by simpa using h)
  obtain ⟨e, key', rfl⟩ := List.exists_cons_of_ne_nil (l := key) (by rintro rfl; simp at hkey)
  rw [List.cons_append] at heq
  have hvisible := (fold_facts hkey (forall_mem_of_all (by decide)) e (by simp)).1
  rw [← (List.cons.inj heq).1, hc] at hvisible
  exact absurd hvisible (by decide)

/-- Blanks end a word and hold no attribute. -/
theorem namesTemplateType_blank_append {g : Text} (hg : ∀ c ∈ g, isBlank c = true) (inWord : Bool)
    (t : Text) : namesTemplateType inWord (g ++ t) =
      namesTemplateType (if g = [] then inWord else false) t := by
  induction g generalizing inWord with
  | nil => rfl
  | cons c g ih =>
    have hc := hg c (by simp)
    rw [List.cons_append, namesTemplateType, templateTypeAt_cons_of_blank hc,
      isWord_eq_false_of_isBlank hc, ih fun e he => hg e (List.mem_cons_of_mem c he)]
    simp

theorem namesTemplateType_of_namesTemplateType {inWord : Bool} (h : Reflowed x x')
    (hnew : namesTemplateType inWord x' = true) : namesTemplateType inWord x = true := by
  induction h generalizing inWord with
  | @done g g' hg hg' =>
    have hnone := namesTemplateType_blank_append hg' inWord []
    rw [List.append_nil, hnew] at hnone
    exact absurd hnone.symm (by simp [namesTemplateType])
  | @keep c y y' h ih =>
    rw [namesTemplateType, Bool.or_eq_true, Bool.and_eq_true] at hnew ⊢
    rcases hnew with ⟨hword, hhere⟩ | hlater
    · exact .inl ⟨hword, templateTypeAt_of_templateTypeAt (.keep c h) hhere⟩
    · exact .inr (ih hlater)
  | @gap g g' y y' hg hg' hbreak hnear h ih =>
    -- the new gap ends a word; the old one may be empty
    rw [namesTemplateType_blank_append hg', if_neg (List.ne_nil_of_mem hbreak)] at hnew
    have hold := ih hnew
    rw [namesTemplateType_blank_append hg]
    split
    · next hnil =>
      -- a brace follows, which is no letter of the attribute
      obtain ⟨z, rfl⟩ : ∃ z, y = '{' :: z := by
        cases y with
        | nil => simp [hnil] at hnear
        | cons e y => exact ⟨y, by simpa [hnil] using hnear⟩
      have hbrace : templateTypeAt ('{' :: z) = false := by
        simp [templateTypeAt, afterFolded?, foldCase]
      rw [namesTemplateType, hbrace, Bool.and_false, Bool.false_or] at hold ⊢
      exact hold
    · exact hold

theorem isSome_element? {p : Text × (Text → Bool)} (hp : p ∈ verbatimNames) (h : Reflowed x x')
    (c : Char) (hnew : (element? p.1 p.2 (c :: x')).isSome = true) :
    (element? p.1 p.2 (c :: x)).isSome = true := by
  have hfacts : (∀ c ∈ p.1, c.isAlpha = true ∨ c = '/' ∨ c = '-') ∧
      ∀ y y', Reflowed y y' → p.2 y' = true → p.2 y = true := by
    simp only [verbatimNames, List.mem_cons, List.not_mem_nil, or_false] at hp
    rcases hp with rfl | rfl | rfl
    · exact ⟨forall_mem_of_all (by decide), fun y y' hy => namesTemplateType_of_namesTemplateType hy⟩
    · exact ⟨forall_mem_of_all (by decide), fun _ _ _ => id⟩
    · exact ⟨forall_mem_of_all (by decide), fun _ _ _ => id⟩
  obtain ⟨hname, haccepts⟩ := hfacts
  obtain ⟨word, attrs, content, heq, hword, hattrs, hend, haccept, hclose⟩ :=
    isSome_element?_iff.1 hnew
  obtain ⟨rfl, rfl⟩ := List.cons.inj heq
  obtain ⟨y, rfl, hy⟩ := h.of_append fun c hc => (fold_facts hword hname c hc).1
  obtain ⟨attrs', content', rfl, hgap, hcontent⟩ := hy.divide (by decide) (by decide)
  refine isSome_element?_iff.2 ⟨word, attrs', content', rfl, hword, ?_, ?_, haccepts _ _ hgap haccept,
    hcontent.exists_isCloseTag hname hclose⟩
  · intro hmem
    exact hattrs (hgap.mem_of_mem (by decide) hmem)
  · -- what follows the name is what followed it, or `>`
    cases attrs' with
    | nil => rfl
    | cons e attrs' =>
      have hend' : atWordEnd attrs = true := by
        cases attrs with
        | nil => rfl
        | cons _ _ => exact hend
      exact hgap.atWordEnd_of_atWordEnd hend'

/-! ### All literals -/

/-- Reflowing a text opens no literal. -/
theorem at?_eq_none {d : Dialect} {c : Char} (h : Reflowed x x') (hold : at? d (c :: x) = none) :
    at? d (c :: x') = none := by
  by_contra hnew
  have hsome : (at? d (c :: x)).isSome = true :=
    isSome_at?_mono (fun p hp => h.isSome_enclosed? hp c) (fun q hq => h.isSome_closing? hq)
      (fun p hp => h.isSome_element? hp c) (Option.isSome_iff_ne_none.2 hnew)
  rw [hold] at hsome
  exact absurd hsome (by decide)

end Reflowed

end Text

namespace Atom

open Text

/-- Streams that differ in plain blanks around plain line breaks, and in plain line breaks put in
front of plain braces. -/
abbrev Reflowed : List Atom → List Atom → Prop :=
  Reflow (fun a => ∃ c, a = plain c ∧ isBlank c = true) (plain '\n') (plain '{')

theorem exists_map_plain_of_gap {g : List Atom} (hg : ∀ a ∈ g, ∃ c, a = plain c ∧ isBlank c = true) :
    ∃ t : Text, g = t.map plain ∧ ∀ c ∈ t, isBlank c = true := by
  induction g with
  | nil => exact ⟨[], rfl, by simp⟩
  | cons a g ih =>
    obtain ⟨c, rfl, hc⟩ := hg a (by simp)
    obtain ⟨t, rfl, ht⟩ := ih fun b hb => hg b (List.mem_cons_of_mem _ hb)
    exact ⟨c :: t, rfl, List.forall_mem_cons.2 ⟨hc, ht⟩⟩

/-- The texts of reflowed streams are reflowed. -/
theorem Reflowed.written {us us' : List Atom} (h : Reflowed us us') :
    Text.Reflowed (written us) (written us') := by
  induction h with
  | done hg hg' =>
    obtain ⟨t, rfl, ht⟩ := exists_map_plain_of_gap hg
    obtain ⟨t', rfl, ht'⟩ := exists_map_plain_of_gap hg'
    rw [written_map_plain, written_map_plain]
    exact .done ht ht'
  | keep a _ ih => exact ih.keepAll a.text
  | @gap g g' y y' hg hg' hbreak hnear _ ih =>
    obtain ⟨t, rfl, ht⟩ := exists_map_plain_of_gap hg
    obtain ⟨t', rfl, ht'⟩ := exists_map_plain_of_gap hg'
    rw [written_append, written_append, written_map_plain, written_map_plain]
    refine .gap ht ht' (by simpa using hbreak) ?_ ih
    rcases hnear with hnear | hnear
    · exact .inl (by simpa using hnear)
    · right
      cases y with
      | nil => simp at hnear
      | cons a y =>
        obtain rfl : a = plain '{' := by simpa using hnear
        rfl

theorem reads_map_plain_append {d : Dialect} {t : Text} (ht : ∀ c ∈ t, isBlank c = true)
    {us : List Atom} (h : Reads d us) : Reads d (t.map plain ++ us) := by
  induction t with
  | nil => exact h
  | cons c t ih =>
    exact ⟨Literal.at?_eq_none_of_blank (ht c (by simp)) _,
      ih fun e he => ht e (List.mem_cons_of_mem c he)⟩

/-- A stream that a text can be read as stays one when it is reflowed. -/
theorem Reads.reflowed {d : Dialect} {us us' : List Atom} (hus : Reads d us) (h : Reflowed us us') :
    Reads d us' := by
  induction h with
  | done hg hg' =>
    obtain ⟨t', rfl, ht'⟩ := exists_map_plain_of_gap hg'
    have hnil : Reads d [] := trivial
    simpa using reads_map_plain_append ht' hnil
  | @keep a y y' h ih =>
    refine ⟨?_, ih hus.2⟩
    cases a with
    | plain c => exact (Reflowed.written h).at?_eq_none hus.1
    | literal kind lexeme =>
      have hlocal := Literal.at?_local d
      exact (hlocal.find_append_iff rfl _).2 ((hlocal.find_append_iff rfl _).1 hus.1)
  | @gap g g' y y' hg hg' hbreak hnear h ih =>
    obtain ⟨t, rfl, ht⟩ := exists_map_plain_of_gap hg
    obtain ⟨t', rfl, ht'⟩ := exists_map_plain_of_gap hg'
    refine reads_map_plain_append ht' (ih ?_)
    -- the old gap is dropped unit by unit
    clear hnear ih h hg
    induction t with
    | nil => exact hus
    | cons c t iht => exact iht (fun e he => ht e (List.mem_cons_of_mem c he)) hus.2

end Atom

end SmartyLayout
