import SmartyLayout.Proofs.Lexeme
import SmartyLayout.Proofs.TagScan

/-!
# SmartyLayout.Proofs.TagText — tags are self-contained

A tag is its opener, an optional slash, its name and what follows through its closer:
`TagShape.read_eq_some_iff`. So whether a text begins with a tag shows in the characters of that tag
(`TagShape.read_local`), the last of which is a brace, and blanks behind the text do not matter
(`TagShape.read_append_blank`).
-/

namespace SmartyLayout

theorem isNameRest_eq_false_of_isBlank {c : Char} (hc : isBlank c = true) : isNameRest c = false :=
  forall_of_isBlank (P := fun c => isNameRest c = false) (by decide) hc

namespace TagShape

open Text

/-! ## A tag shows in its own characters -/

/-- What a character does to the body of a tag: it ends the attempt, or the body goes on behind it, or
it goes on unless the closer stands here. -/
theorem bodyWidth_step (closer : Text) (depth : Nat) (q : Option OpenQuote) (c : Char) :
    (∀ cs, bodyWidth closer depth q (c :: cs) = none) ∨
    c ≠ '\n' ∧
      ((∃ depth' q', ∀ cs, bodyWidth closer depth q (c :: cs) =
          (bodyWidth closer depth' q' cs).map (· + 1)) ∨
        ∀ cs, bodyWidth closer depth q (c :: cs) =
          if startsWith closer (c :: cs) then some closer.length
          else (bodyWidth closer depth none cs).map (· + 1)) := by
  by_cases hc : c = '\n'
  · left
    intro cs
    cases q <;> rw [bodyWidth, if_pos hc]
  · refine .inr ⟨hc, ?_⟩
    cases q with
    | some q => exact .inl ⟨depth, _, fun cs => by rw [bodyWidth, if_neg hc]⟩
    | none =>
      by_cases hquote : c = '"' ∨ c = '\x27'
      · exact .inl ⟨depth, _, fun cs => by rw [bodyWidth, if_neg hc, if_pos hquote]⟩
      by_cases hopen : c = '{'
      · exact .inl ⟨depth + 1, none, fun cs => by
          rw [bodyWidth, if_neg hc, if_neg hquote, if_pos hopen]⟩
      by_cases hclose : c = '}' ∧ 0 < depth
      · exact .inl ⟨depth - 1, none, fun cs => by
          rw [bodyWidth, if_neg hc, if_neg hquote, if_neg hopen, if_pos hclose]⟩
      · exact .inr fun cs => by
          rw [bodyWidth, if_neg hc, if_neg hquote, if_neg hopen, if_neg hclose]

/-- A body that is closed is closed here or goes on. -/
theorem of_bodyWidth_cons {closer cs : Text} {depth n : Nat} {q : Option OpenQuote} {c : Char}
    (h : bodyWidth closer depth q (c :: cs) = some n) :
    c ≠ '\n' ∧ ((startsWith closer (c :: cs) = true ∧ n = closer.length) ∨
      ∃ depth' q' m, bodyWidth closer depth' q' cs = some m ∧ n = m + 1) := by
  rcases bodyWidth_step closer depth q c with hnone | ⟨hc, ⟨depth', q', hon⟩ | hstop⟩
  · rw [hnone] at h
    cases h
  · rw [hon] at h
    obtain ⟨m, hm, rfl⟩ := Option.map_eq_some_iff.1 h
    exact ⟨hc, .inr ⟨depth', q', m, hm, rfl⟩⟩
  · rw [hstop] at h
    split at h
    · next hstart => exact ⟨hc, .inl ⟨hstart, (Option.some.inj h).symm⟩⟩
    · obtain ⟨m, hm, rfl⟩ := Option.map_eq_some_iff.1 h
      exact ⟨hc, .inr ⟨depth, none, m, hm, rfl⟩⟩

/-- The body of a tag ends with its closer. -/
theorem suffix_of_bodyWidth {closer t : Text} {depth n : Nat} {q : Option OpenQuote}
    (h : bodyWidth closer depth q t = some n) : n ≤ t.length ∧ closer <:+ t.take n := by
  induction t generalizing depth q n with
  | nil => simp [bodyWidth] at h
  | cons c cs ih =>
    rcases (of_bodyWidth_cons h).2 with ⟨hstart, rfl⟩ | ⟨depth', q', m, hm, rfl⟩
    · obtain ⟨rest, hrest⟩ := startsWith_iff.1 hstart
      rw [← hrest]
      simp
    · obtain ⟨hle, hsuffix⟩ := ih hm
      exact ⟨Nat.succ_le_succ hle, hsuffix.trans (List.suffix_cons c _)⟩

theorem bodyWidth_local {closer : Text} (hcloser : closer ≠ []) (depth : Nat)
    (q : Option OpenQuote) : Local id (bodyWidth closer depth q) := by
  intro t n h
  refine ⟨(suffix_of_bodyWidth h).1, fun more => ?_⟩
  induction t generalizing depth q n with
  | nil => simp [bodyWidth] at h
  | cons c cs ih =>
    rcases bodyWidth_step closer depth q c with hnone | ⟨-, ⟨depth', q', hon⟩ | hstop⟩
    · rw [hnone] at h
      cases h
    · rw [hon] at h
      obtain ⟨m, hm, rfl⟩ := Option.map_eq_some_iff.1 h
      rw [id, List.take_succ_cons, List.cons_append, hon]
      exact Option.map_eq_some_iff.2 ⟨m, ih _ _ hm, rfl⟩
    · rw [hstop] at h
      split at h
      · next hstart =>
        cases h
        obtain ⟨rest, hrest⟩ := startsWith_iff.1 hstart
        obtain ⟨e, tail, rfl⟩ := List.exists_cons_of_ne_nil hcloser
        rw [List.cons_append] at hrest
        obtain ⟨rfl, rfl⟩ := List.cons.inj hrest
        -- the body ends here, and its closer is all that is covered
        have hagain : startsWith (e :: tail) (e :: (tail ++ more)) = true :=
          startsWith_iff.2 ⟨more, rfl⟩
        rw [id, List.length_cons, List.take_succ_cons, List.take_left, List.cons_append, hstop,
          if_pos hagain, List.length_cons]
      · next hstart =>
        obtain ⟨m, hm, rfl⟩ := Option.map_eq_some_iff.1 h
        rw [id, List.take_succ_cons, List.cons_append, hstop, if_neg]
        · exact Option.map_eq_some_iff.2 ⟨m, ih _ _ hm, rfl⟩
        · -- the later closer is long enough to decide the test at `c`
          intro hstart'
          obtain ⟨hle, hsuffix⟩ := suffix_of_bodyWidth hm
          have hlen : closer.length ≤ (c :: cs.take m).length :=
            hsuffix.length_le.trans (Nat.le_succ _)
          exact hstart (startsWith_of_take_append (m := m + 1) hlen hstart')

/-- The two openers with their closers. -/
def delimiters : List (Text × Text) :=
  [(['{'], ['}']), (['{', '{'], ['}', '}'])]

/-- The front of a tag: its opener, a slash if it closes a block, and its name. -/
def front (opener : Text) (shape : TagShape) : Text :=
  opener ++ ((if shape.closing then ['/'] else []) ++ shape.name)

/-- The test on names knows the same characters as the scanner of tags. -/
theorem isTagName_cons {c : Char} {cs : Text} :
    isTagName (c :: cs) = true ↔ isNameStart c = true ∧ ∀ e ∈ cs, isNameRest e = true := by
  simp [isTagName, isNameStart, isNameRest]

/-- A tag name begins with a name character, so neither with a brace nor with a slash. -/
theorem exists_cons_of_isTagName {name : Text} (h : isTagName name = true) :
    ∃ c cs, name = c :: cs ∧ isNameStart c = true := by
  cases name with
  | nil => simp [isTagName] at h
  | cons c cs => exact ⟨c, cs, rfl, (isTagName_cons.1 h).1⟩

/-- A tag name is read up to the first character that cannot belong to it. -/
theorem leadingName_append {name rest : Text} (hname : isTagName name = true)
    (hrest : ∀ c ∈ rest.head?, isNameRest c = false) : leadingName (name ++ rest) = name := by
  obtain ⟨c, cs, rfl, hc⟩ := exists_cons_of_isTagName hname
  have hall := (isTagName_cons.1 hname).2
  have hstop : rest.takeWhile isNameRest = [] := by
    cases rest with
    | nil => rfl
    | cons e rest => simp [hrest e (by simp)]
  rw [List.cons_append, leadingName, if_pos hc, List.takeWhile_append_of_pos hall, hstop,
    List.append_nil]

theorem isTagName_leadingName {t : Text} (h : leadingName t ≠ []) :
    isTagName (leadingName t) = true := by
  cases t with
  | nil => exact absurd rfl h
  | cons c cs =>
    by_cases hc : isNameStart c = true
    · rw [leadingName, if_pos hc]
      exact isTagName_cons.2 ⟨hc, fun e he => List.mem_takeWhile_imp he⟩
    · simp [leadingName, hc] at h

theorem leadingName_append_drop (t : Text) :
    leadingName t ++ t.drop (leadingName t).length = t := by
  cases t with
  | nil => rfl
  | cons c cs =>
    by_cases hc : isNameStart c = true
    · have hsplit : cs.takeWhile isNameRest ++ cs.drop (cs.takeWhile isNameRest).length = cs := by
        refine List.prefix_iff_eq_append.1 ?_
        exact List.takeWhile_prefix isNameRest
      simpa [leadingName, hc] using hsplit
    · simp [leadingName, hc]

theorem append_of_opener? {t closer rest : Text} (h : opener? t = some (closer, rest)) :
    ∃ opener, (opener, closer) ∈ delimiters ∧ t = opener ++ rest := by
  unfold opener? at h
  split at h
  · cases h
    exact ⟨['{', '{'], by simp [delimiters], rfl⟩
  · cases h
    exact ⟨['{'], by simp [delimiters], rfl⟩
  · simp at h

theorem opener?_append {opener closer rest : Text} (h : (opener, closer) ∈ delimiters)
    (hrest : rest.head? ≠ some '{') : opener? (opener ++ rest) = some (closer, rest) := by
  simp only [delimiters, List.mem_cons, Prod.mk.injEq, List.not_mem_nil, or_false] at h
  rcases h with ⟨rfl, rfl⟩ | ⟨rfl, rfl⟩
  · rw [List.singleton_append, opener?]
    rintro t rfl
    exact hrest rfl
  · rfl

theorem append_of_slash {t rest : Text} {closing : Bool} (h : slash t = (closing, rest)) :
    t = (if closing then ['/'] else []) ++ rest := by
  unfold slash at h
  split at h
  · cases h
    rfl
  · cases h
    rfl

theorem slash_append {closing : Bool} {rest : Text} (hrest : rest.head? ≠ some '/') :
    slash ((if closing then ['/'] else []) ++ rest) = (closing, rest) := by
  cases closing with
  | true => rfl
  | false =>
    rw [if_neg (by decide), List.nil_append, slash]
    rintro t rfl
    exact hrest rfl

/-- A name ends where its tag goes on. -/
theorem isNameRest_head {opener closer rest : Text} (hpair : (opener, closer) ∈ delimiters)
    (hend : (startsWith closer rest || (rest.head?.map isBlank).getD false) = true) :
    ∀ c ∈ rest.head?, isNameRest c = false := by
  cases rest with
  | nil => simp
  | cons e rest =>
    rintro c hc
    obtain rfl : e = c := by simpa using hc
    rcases Bool.or_eq_true_iff.1 hend with hclose | hblank
    · obtain ⟨tail, htail⟩ := startsWith_iff.1 hclose
      simp only [delimiters, List.mem_cons, Prod.mk.injEq, List.not_mem_nil, or_false] at hpair
      rcases hpair with ⟨-, rfl⟩ | ⟨-, rfl⟩
      · rw [← (List.cons.inj htail).1]
        decide
      · rw [← (List.cons.inj htail).1]
        decide
    · exact isNameRest_eq_false_of_isBlank (by simpa using hblank)

theorem read_eq_some_iff {t : Text} {shape : TagShape} :
    read t = some shape ↔
      ∃ p ∈ delimiters, ∃ rest body, t = front p.1 shape ++ rest ∧ isTagName shape.name = true ∧
        (startsWith p.2 rest || (rest.head?.map isBlank).getD false) = true ∧
        bodyWidth p.2 0 none rest = some body ∧ shape.width = (front p.1 shape).length + body := by
  constructor
  · intro h
    simp only [read, Option.bind_eq_bind, Option.bind_eq_some_iff] at h
    obtain ⟨⟨closer, afterOpener⟩, hopener, h⟩ := h
    obtain ⟨opener, hpair, rfl⟩ := append_of_opener? hopener
    obtain ⟨closing, afterSlash, hslash⟩ : ∃ closing afterSlash,
        slash afterOpener = (closing, afterSlash) := ⟨_, _, rfl⟩
    obtain rfl := append_of_slash hslash
    simp only [hslash, Option.ite_none_left_eq_some, Option.ite_none_right_eq_some] at h
    obtain ⟨hne, hend, h⟩ := h
    obtain ⟨body, hbody, h⟩ := Option.bind_eq_some_iff.1 h
    cases h
    have hname : isTagName (leadingName afterSlash) = true :=
      isTagName_leadingName (by simpa using hne)
    have hsplit : leadingName afterSlash ++ afterSlash.drop (leadingName afterSlash).length =
        afterSlash := leadingName_append_drop afterSlash
    refine ⟨(opener, closer), hpair, afterSlash.drop (leadingName afterSlash).length, body, ?_, hname,
      ?_, hbody, ?_⟩
    · simp [front, hsplit]
    · exact hend
    · have hlen := congrArg List.length hsplit
      simp only [front, List.length_append] at hlen ⊢
      omega
  · rintro ⟨⟨opener, closer⟩, hpair, rest, body, rfl, hname, hend, hbody, hwidth⟩
    obtain ⟨c, cs, hcons, hc⟩ := exists_cons_of_isTagName hname
    -- what follows the opener and the slash is a letter, so neither is read on
    have hbrace : c ≠ '{' := by rintro rfl; exact absurd hc (by decide)
    have hslash : c ≠ '/' := by rintro rfl; exact absurd hc (by decide)
    have hopener : opener? (opener ++ ((if shape.closing then ['/'] else []) ++ (shape.name ++ rest))) =
        some (closer, (if shape.closing then ['/'] else []) ++ (shape.name ++ rest)) := by
      refine opener?_append hpair ?_
      cases shape.closing <;> simp [hcons, hbrace]
    have hslash' : slash ((if shape.closing then ['/'] else []) ++ (shape.name ++ rest)) =
        (shape.closing, shape.name ++ rest) :=
      slash_append (by simp [hcons, hslash])
    -- the name is read to its end, since what follows cannot go on with it
    have hlead := leadingName_append hname (isNameRest_head hpair hend)
    have hne : shape.name.isEmpty = false := by simp [hcons]
    have hdrop : (shape.name ++ rest).drop shape.name.length = rest := List.drop_left
    have hlen : (front opener shape ++ rest).length - rest.length = (front opener shape).length := by
      rw [List.length_append, Nat.add_sub_cancel]
    have htext : front opener shape ++ rest =
        opener ++ ((if shape.closing then ['/'] else []) ++ (shape.name ++ rest)) := by
      simp [front]
    simp only [read, htext, hopener, Option.bind_eq_bind, Option.bind_some, hslash', hlead, hdrop]
    rw [hne, if_neg (by decide), if_pos hend, hbody, Option.bind_some, ← htext, hlen, ← hwidth]

theorem closer_ne_nil {opener closer : Text} (h : (opener, closer) ∈ delimiters) : closer ≠ [] := by
  simp only [delimiters, List.mem_cons, Prod.mk.injEq, List.not_mem_nil, or_false] at h
  rcases h with ⟨-, rfl⟩ | ⟨-, rfl⟩ <;> simp

theorem read_local : Local width read := by
  intro t shape h
  obtain ⟨⟨opener, closer⟩, hpair, rest, body, rfl, hname, hend, hbody, hwidth⟩ :=
    read_eq_some_iff.1 h
  have hlocal := bodyWidth_local (closer_ne_nil hpair) 0 none hbody
  obtain ⟨hle, hsuffix⟩ := suffix_of_bodyWidth hbody
  have hlong : closer.length ≤ body := by simpa [Nat.min_eq_left hle] using hsuffix.length_le
  have hpos : 0 < closer.length := List.length_pos_iff.2 (closer_ne_nil hpair)
  refine ⟨by rw [hwidth, List.length_append]; omega, fun more => ?_⟩
  rw [hwidth, List.take_length_add_append, List.append_assoc]
  refine read_eq_some_iff.2 ⟨(opener, closer), hpair, rest.take body ++ more, body, rfl, hname, ?_,
    hlocal.2 more, hwidth⟩
  rcases Bool.or_eq_true_iff.1 hend with hclose | hblank
  · -- the test behind the name looks no further than the closer
    have hfront : closer <+: rest.take body :=
      List.prefix_take_iff.2 ⟨startsWith_iff.1 hclose, hlong⟩
    rw [startsWith_iff.2 (hfront.trans (List.prefix_append _ more)), Bool.true_or]
  · obtain ⟨k, rfl⟩ : ∃ k, body = k + 1 := ⟨body - 1, by omega⟩
    cases rest with
    | nil => simp at hblank
    | cons c rest =>
      rw [Bool.or_eq_true]
      exact .inr hblank

/-- A tag ends with a brace. -/
theorem exists_concat_of_read {t : Text} {shape : TagShape} (h : read t = some shape) :
    ∃ front c, t.take shape.width = front ++ [c] ∧ isBlank c = false := by
  obtain ⟨⟨opener, closer⟩, hpair, rest, body, rfl, -, -, hbody, hwidth⟩ := read_eq_some_iff.1 h
  obtain ⟨-, before, hbefore⟩ := suffix_of_bodyWidth hbody
  obtain ⟨closer', rfl⟩ : ∃ closer', closer = closer' ++ ['}'] := by
    simp only [delimiters, List.mem_cons, Prod.mk.injEq, List.not_mem_nil, or_false] at hpair
    rcases hpair with ⟨-, rfl⟩ | ⟨-, rfl⟩
    · exact ⟨[], rfl⟩
    · exact ⟨['}'], rfl⟩
  refine ⟨front opener shape ++ (before ++ closer'), '}', ?_, by decide⟩
  rw [hwidth, List.take_length_add_append, ← hbefore]
  simp

/-- Blanks behind a text change nothing about a tag at its front. -/
theorem read_append_blank (t : Text) {g : Text} (hg : blank g = true) : read (t ++ g) = read t :=
  read_local.find_append_blank exists_concat_of_read t hg

end TagShape

end SmartyLayout
