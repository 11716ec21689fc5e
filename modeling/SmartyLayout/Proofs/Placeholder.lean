import SmartyLayout.Markup.Shield
import SmartyLayout.Proofs.Coverage
import SmartyLayout.Proofs.Trimming

/-!
# SmartyLayout.Proofs.Placeholder — shielded lines come back

A placeholder holds the attribute `data-smartyfmt`, so a text without that attribute holds no
placeholder and none runs into it (`stored?_eq_none`). It is read with its number however a printer
has spaced it (`Spacing.placeholder?_print`). Putting the template lines back into the text handed to
the printer therefore replaces exactly the placeholders: `restore_text`.
-/

namespace SmartyLayout

namespace Shield

open Text

def keyAttribute : Text := "data-smartyfmt".toList

theorem visible_keyAttribute : ∀ c ∈ keyAttribute, isBlank c = false :=
  forall_mem_of_all (by decide)

/-! ## Reading placeholders -/

theorem isDigit_of_mem_toString {n : Nat} {c : Char} (h : c ∈ (toString n).toList) :
    c.isDigit = true := by
  rw [Nat.toString_eq_ofList_toDigits, String.toList_ofList] at h
  exact Nat.isDigit_of_mem_toDigits (by decide) (by decide) h

theorem number?_toString (n : Nat) {c : Char} (hc : c.isDigit = false) (rest : Text) :
    number? ((toString n).toList ++ c :: rest) = some (n, c :: rest) := by
  have hdigits : (toString n).toList = Nat.toDigits 10 n := by
    rw [Nat.toString_eq_ofList_toDigits, String.toList_ofList]
  have hall : ∀ e ∈ Nat.toDigits 10 n, e.isDigit = true := by
    intro e he
    rw [← hdigits] at he
    exact isDigit_of_mem_toString he
  have htake : (Nat.toDigits 10 n ++ c :: rest).takeWhile Char.isDigit = Nat.toDigits 10 n := by
    rw [List.takeWhile_append_of_pos hall]
    simp [hc]
  have hdrop : (Nat.toDigits 10 n ++ c :: rest).dropWhile Char.isDigit = c :: rest := by
    rw [List.dropWhile_append_of_pos hall]
    simp [hc]
  have hvalue : (Nat.toDigits 10 n).foldl (fun n c => n * 10 + (c.toNat - '0'.toNat)) 0 = n := by
    have hfold : Nat.ofDigitChars 10 (Nat.toDigits 10 n) 0 = n := Nat.ofDigitChars_ten_toDigits
    rw [Nat.ofDigitChars_eq_foldl] at hfold
    simpa only [Nat.mul_comm] using hfold
  have hne : (Nat.toDigits 10 n).isEmpty = false :=
    List.isEmpty_eq_false_iff.2 Nat.toDigits_ne_nil
  unfold number?
  rw [hdigits]
  simp only [htake, hdrop, hvalue, hne, Bool.false_eq_true, if_false]

/-- The blanks that a printer may put inside a placeholder: at least one in front of the attribute,
any number in front of the closing bracket and between the two tags. -/
structure Spacing where
  lead : Text
  close : Text
  inner : Text
  lead_ne_nil : lead ≠ []
  blank_lead : blank lead = true
  blank_close : blank close = true
  blank_inner : blank inner = true

/-- The placeholder with a number, as a printer may have written it. -/
def Spacing.print (g : Spacing) (n : Nat) : Text :=
  "<div".toList ++ (g.lead ++ ("data-smartyfmt=\"".toList ++ ((toString n).toList ++
    '"' :: (g.close ++ '>' :: (g.inner ++ "</div>".toList)))))

/-- No blanks but the one that is needed. -/
def Spacing.tight : Spacing :=
  ⟨[' '], [], [], by simp, rfl, rfl, rfl⟩

/-- Placeholders are handed out with tight spacing. -/
theorem Spacing.print_tight (n : Nat) : tight.print n = placeholder n := by
  have hfront : "<div data-smartyfmt=\"".toList =
      "<div".toList ++ ([' '] ++ "data-smartyfmt=\"".toList) := rfl
  have hback : "\"></div>".toList = '"' :: ('>' :: "</div>".toList) := rfl
  unfold print placeholder
  rw [hfront, hback, List.append_assoc, List.append_assoc, List.append_assoc]
  rfl

/-- A placeholder begins with `<`. -/
theorem Spacing.exists_print_append (g : Spacing) (n : Nat) (rest : Text) :
    ∃ more, g.print n ++ rest = '<' :: more :=
  ⟨_, rfl⟩

/-- A placeholder is read with its number, however it is spaced and whatever follows it. -/
theorem Spacing.placeholder?_print (g : Spacing) (n : Nat) (rest : Text) :
    placeholder? (g.print n ++ rest) = some ((g.print n).length, n) := by
  have hafter (p t : Text) : after? p (p ++ t) = some t := after?_eq_some_iff.2 rfl
  have hquote (t : Text) : after? ['"'] ('"' :: t) = some t := hafter ['"'] t
  have hclose (t : Text) : after? ['>'] ('>' :: t) = some t := hafter ['>'] t
  -- behind each run of blanks stands a visible character
  have hlead (t : Text) : (g.lead ++ ("data-smartyfmt=\"".toList ++ t)).dropWhile isBlank =
      "data-smartyfmt=\"".toList ++ t :=
    (trimStart_blank_append g.blank_lead _).trans (trimStart_cons (by decide : isBlank 'd' = false) _)
  have hangle (t : Text) : (g.close ++ '>' :: t).dropWhile isBlank = '>' :: t :=
    (trimStart_blank_append g.blank_close _).trans (trimStart_cons (by decide) t)
  have hend (t : Text) : (g.inner ++ ("</div>".toList ++ t)).dropWhile isBlank =
      "</div>".toList ++ t :=
    (trimStart_blank_append g.blank_inner _).trans (trimStart_cons (by decide : isBlank '<' = false) _)
  have hlonger (t : Text) : t.length ≠ (g.lead ++ t).length := by
    have hpos : 0 < g.lead.length := List.length_pos_iff.2 g.lead_ne_nil
    rw [List.length_append]
    omega
  have hdigit : '"'.isDigit = false := by decide
  have hwidth : (g.print n ++ rest).length - rest.length = (g.print n).length := by simp
  have hparts : g.print n ++ rest = "<div".toList ++ (g.lead ++ ("data-smartyfmt=\"".toList ++
      ((toString n).toList ++ '"' :: (g.close ++ '>' :: (g.inner ++ ("</div>".toList ++ rest)))))) := by
    simp only [print, List.append_assoc, List.cons_append]
  rw [hparts] at hwidth ⊢
  unfold placeholder?
  simp only [hafter, hlead, hangle, hend, hquote, hclose, hlonger, number?_toString n hdigit,
    Option.bind_eq_bind, Option.bind_some, if_false, hwidth]

/-- What is read as a placeholder holds the attribute, and no `<` in front of it but its own. -/
theorem exists_of_placeholder? {t : Text} {found : Nat × Nat} (h : placeholder? t = some found) :
    ∃ front rest, t = '<' :: (front ++ keyAttribute ++ rest) ∧ '<' ∉ front ++ keyAttribute := by
  simp only [placeholder?, Option.bind_eq_bind, Option.bind_eq_some_iff, after?_eq_some_iff] at h
  obtain ⟨rest, rfl, h⟩ := h
  split at h
  · simp at h
  · obtain ⟨tail, htail, -⟩ := Option.bind_eq_some_iff.1 h
    rw [after?_eq_some_iff] at htail
    refine ⟨"div".toList ++ leading rest, '=' :: '"' :: tail, ?_, ?_⟩
    · have hrest : rest = leading rest ++ ("data-smartyfmt=\"".toList ++ tail) := by
        rw [← htail]
        exact (leading_append_trimStart rest).symm
      have hkey : "data-smartyfmt=\"".toList ++ tail = keyAttribute ++ '=' :: '"' :: tail := rfl
      conv_lhs => rw [hrest, hkey, ← List.append_assoc, ← List.append_assoc]
      rfl
    · have hfree : '<' ∉ leading rest := fun hmem =>
        absurd (blank_iff.1 (blank_leading rest) _ hmem) (by decide)
      have hdiv : '<' ∉ "div".toList := by decide
      have hkey : '<' ∉ keyAttribute := by decide
      rw [List.mem_append, List.mem_append]
      rintro ((h | h) | h)
      · exact hdiv h
      · exact hfree h
      · exact hkey h

/-- In a text without the attribute no placeholder starts, even if one follows it. -/
theorem stored?_eq_none {ls : List Text} {s rest : Text} (hs : s ≠ []) (hattr : ¬ keyAttribute <:+: s)
    (hrest : rest = [] ∨ ∃ more, rest = '<' :: more) : stored? ls (s ++ rest) = none := by
  cases h : placeholder? (s ++ rest) with
  | none => simp [stored?, h]
  | some found =>
    exfalso
    obtain ⟨front, tail, heq, hfree⟩ := exists_of_placeholder? h
    obtain ⟨c, s, rfl⟩ := List.exists_cons_of_ne_nil hs
    rw [List.cons_append, List.cons.injEq] at heq
    obtain ⟨rfl, heq⟩ := heq
    rcases List.append_eq_append_iff.1 heq with ⟨mid, hmid, htail⟩ | ⟨mid, hmid, htail⟩
    · cases mid with
      | nil =>
        rw [List.append_nil] at hmid
        exact hattr ⟨'<' :: front, [], by rw [← hmid]; simp⟩
      | cons e mid =>
        -- the part that follows begins inside the attribute or in front of it
        rcases hrest with rfl | ⟨more, rfl⟩
        · simp at htail
        · rw [List.cons_append, List.cons.injEq] at htail
          exact hfree (by rw [hmid, ← htail.1]; simp)
    · exact hattr ⟨'<' :: front, mid, by rw [hmid]; simp⟩

/-! ## Putting the lines back -/

def Item.source : Item → Text
  | .markup _ t => t
  | .template _ line => line

@[simp] theorem Item.source_markup (origin : Nat) (t : Text) : (Item.markup origin t).source = t :=
  rfl

@[simp] theorem Item.source_template (origin : Nat) (line : Text) :
    (Item.template origin line).source = line := rfl

/-- The markup of an item does not hold the attribute. -/
def Item.Clean : Item → Prop
  | .markup _ t => ¬ keyAttribute <:+: t
  | .template _ _ => True

theorem restore_of_clean {ls : List Text} {front rest : Text} (hfront : ¬ keyAttribute <:+: front)
    (hrest : rest = [] ∨ ∃ more, rest = '<' :: more) :
    substitute (stored? ls) (front ++ rest) = front ++ substitute (stored? ls) rest := by
  refine substitute_append_of_none fun s hs hsuffix => ?_
  exact stored?_eq_none hs (fun h => hfront (h.trans hsuffix.isInfix)) hrest

/-- A placeholder whose number is that of a line gives way to the line. -/
theorem restore_print {ls : List Text} {n : Nat} {line : Text} (h : ls[n]? = some line)
    (g : Spacing) (rest : Text) :
    substitute (stored? ls) (g.print n ++ rest) = line ++ substitute (stored? ls) rest := by
  have hstored : stored? ls (g.print n ++ rest) = some ((g.print n).length, line) := by
    simp [stored?, g.placeholder?_print, h]
  have hne (t : Text) : g.print n ++ t ≠ [] := by
    obtain ⟨more, hmore⟩ := g.exists_print_append n t
    rw [hmore]
    exact List.cons_ne_nil _ _
  have hpos : 0 < (g.print n).length := List.length_pos_iff.2 (by simpa using hne [])
  rw [substitute_of_hit hstored hpos (hne rest), List.drop_left]

theorem textsFrom_ne_nil (n : Nat) {items : List Item} (h : items ≠ []) : textsFrom n items ≠ [] := by
  obtain ⟨i, is, rfl⟩ := List.exists_cons_of_ne_nil h
  cases i <;> simp [textsFrom]

/-- The attribute does not run across a line break. -/
theorem clean_append {front t : Text} (hfront : ¬ keyAttribute <:+: front)
    (hbreak : front = [] ∨ ∃ s, front = s ++ ['\n']) (ht : ¬ keyAttribute <:+: t) :
    ¬ keyAttribute <:+: front ++ t := by
  rcases hbreak with rfl | ⟨s, rfl⟩
  · simpa using ht
  · rw [List.append_assoc, List.singleton_append, infix_append_cons_iff (by decide)]
    rintro (h | h)
    · exact hfront (h.trans (List.prefix_append s _).isInfix)
    · exact ht h

/-- Lines are put back one after the other; `front` is what stands since the last placeholder, and
the next placeholder is number `n`. -/
theorem substitute_textsFrom {ls : List Text} {items : List Item} {front : Text} {n : Nat}
    (hclean : ∀ i ∈ items, i.Clean) (hfront : ¬ keyAttribute <:+: front)
    (hbreak : front = [] ∨ ∃ s, front = s ++ ['\n'])
    (hls : ls.drop n = items.filterMap Item.line?) :
    substitute (stored? ls) (front ++ unlines (textsFrom n items)) =
      front ++ unlines (items.map Item.source) := by
  have hnil (t : Text) (ht : ¬ keyAttribute <:+: t) : substitute (stored? ls) t = t := by
    have hkept : substitute (stored? ls) (t ++ []) = t ++ substitute (stored? ls) [] :=
      restore_of_clean ht (.inl rfl)
    simpa [substitute, segments, segmentsFrom] using hkept
  have hnewline : ¬ keyAttribute <:+: ['\n'] := by decide
  induction items generalizing front n with
  | nil => simpa [textsFrom, unlines] using hnil front hfront
  | cons i is ih =>
    have hclean' : ∀ i ∈ is, i.Clean := fun j hj => hclean j (List.mem_cons_of_mem i hj)
    cases i with
    | markup origin t =>
      have ht : ¬ keyAttribute <:+: t := hclean (.markup origin t) (by simp)
      have hboth := clean_append hfront hbreak ht
      have hls' : ls.drop n = is.filterMap Item.line? := hls
      -- the markup joins what stands since the last placeholder
      by_cases his : is = []
      · simpa [his, textsFrom] using hnil _ hboth
      · have hlater : substitute (stored? ls) ((front ++ t ++ ['\n']) ++ unlines (textsFrom n is)) =
            (front ++ t ++ ['\n']) ++ unlines (is.map Item.source) := by
          refine ih hclean' ?_ (.inr ⟨_, rfl⟩) hls'
          rw [infix_append_cons_iff (by decide)]
          rintro (h | h)
          · exact hboth h
          · exact hnewline (h.trans List.nil_infix)
        have htexts := unlines_cons t (textsFrom_ne_nil n his)
        have hsources : unlines (t :: is.map Item.source) = t ++ '\n' :: unlines (is.map Item.source) :=
          unlines_cons t (by simpa using his)
        rw [textsFrom, htexts, List.map_cons, Item.source_markup, hsources]
        simpa using hlater
    | template origin line =>
      have hcons : ls.drop n = line :: is.filterMap Item.line? := hls
      have hline : ls[n]? = some line := by
        have hhead := congrArg List.head? hcons
        rwa [List.head?_drop, List.head?_cons] at hhead
      have hls' : ls.drop (n + 1) = is.filterMap Item.line? := by
        rw [← List.drop_drop, hcons]
        rfl
      -- the line comes back, and `front` starts anew at the break behind it
      have hput (rest : Text) : substitute (stored? ls) (front ++ (placeholder n ++ rest)) =
          front ++ (line ++ substitute (stored? ls) rest) := by
        rw [← Spacing.print_tight,
          restore_of_clean hfront (.inr (Spacing.tight.exists_print_append n rest)),
          restore_print hline]
      by_cases his : is = []
      · have hdone := hput []
        rw [List.append_nil, hnil [] (by decide), List.append_nil] at hdone
        simpa [his, textsFrom] using hdone
      · have hlater := ih hclean' hnewline (.inr ⟨[], rfl⟩) hls'
        have htexts := unlines_cons (placeholder n) (textsFrom_ne_nil (n + 1) his)
        have hsources : unlines (line :: is.map Item.source) =
            line ++ '\n' :: unlines (is.map Item.source) :=
          unlines_cons line (by simpa using his)
        rw [textsFrom, htexts, hput, List.map_cons, Item.source_template, hsources]
        exact congrArg (fun t => front ++ (line ++ t)) hlater

/-- The text handed to the printer, with its lines put back. -/
theorem restore_text {s : Shield} (hclean : ∀ i ∈ s.items, i.Clean) :
    s.restore s.text = unlines (s.items.map Item.source) := by
  have hkey : ¬ keyAttribute <:+: [] := by decide
  have hall := substitute_textsFrom hclean hkey (.inl rfl) (List.drop_zero (l := s.lines))
  exact hall

end Shield

end SmartyLayout
