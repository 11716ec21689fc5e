import Mathlib.Data.List.Chain
import SmartyLayout.Proofs.TagStream

/-!
# SmartyLayout.Proofs.Tokenization — the tokens of a line

The scanner of a line goes on by one character, or by a whole brace construct, whose name the taxonomy
may know or not. `Token.scan_induction` is induction along these steps. By it:

* `tiles_scanFrom`: the tokens tile the line, and `isChain_scanFrom`: plain text is never cut;
* `tag_mem_scanFrom_iff`: the tags are exactly those that start at *open* places, which are those
  outside the masks and outside the constructs that start at earlier open places;
* `TagShape.isWritten_of_read`: what a tag token covers is written as a tag.

`Token.scan_tiles` puts them together.
-/

namespace SmartyLayout

namespace TagShape

open Text

/-! ## How a tag is written -/

/-- A tag as it is written on one line: its opener, a slash if it closes a block, its name, and the
closer that is as wide as the opener, at once or behind a blank and whatever follows the blank. -/
def IsWritten (name : Text) (closing : Bool) (t : Text) : Prop :=
  isTagName name = true ∧ '\n' ∉ t ∧
    ∃ p ∈ delimiters, ∃ body,
      t = p.1 ++ (if closing then ['/'] else []) ++ name ++ body ++ p.2 ∧
      ∀ c ∈ body.head?, isBlank c = true

/-- A closer behind the name ends the tag. -/
theorem bodyWidth_of_startsWith {opener closer rest : Text} (hpair : (opener, closer) ∈ delimiters)
    (h : startsWith closer rest = true) : bodyWidth closer 0 none rest = some closer.length := by
  obtain ⟨more, rfl⟩ := startsWith_iff.1 h
  obtain ⟨w, rfl, -⟩ := exists_closer_eq hpair
  rw [List.cons_append] at h ⊢
  rw [bodyWidth, if_neg (by decide), if_neg (by decide), if_neg (by decide), if_neg (by decide),
    if_pos h]

theorem width_pos_of_read {t : Text} {shape : TagShape} (h : read t = some shape) :
    0 < shape.width := by
  obtain ⟨⟨opener, closer⟩, hpair, rest, body, -, -, -, -, hwidth⟩ := read_eq_some_iff.1 h
  obtain ⟨w, hw⟩ := exists_front_eq hpair shape
  rw [hwidth, hw, List.length_cons]
  omega

/-- What is read as a tag is written as one. -/
theorem isWritten_of_read {t : Text} {shape : TagShape} (h : read t = some shape) :
    IsWritten shape.name shape.closing (t.take shape.width) := by
  refine ⟨?_, newline_not_mem_of_read h, ?_⟩
  · obtain ⟨_, -, _, _, -, hname, -⟩ := read_eq_some_iff.1 h
    exact hname
  · obtain ⟨⟨opener, closer⟩, hpair, rest, width, rfl, -, hend, hbody, hwidth⟩ :=
      read_eq_some_iff.1 h
    obtain ⟨-, body, hsuffix⟩ := suffix_of_bodyWidth hbody
    refine ⟨(opener, closer), hpair, body, ?_, ?_⟩
    · rw [hwidth, List.take_length_add_append, ← hsuffix, front]
      simp only [List.append_assoc]
    · intro c hc
      obtain ⟨body, rfl⟩ := List.head?_eq_some_iff.1 hc
      rcases Bool.or_eq_true_iff.1 hend with hclose | hblank
      · -- the tag would end with its name, and have no body
        rw [bodyWidth_of_startsWith hpair hclose] at hbody
        have hle := (suffix_of_bodyWidth (bodyWidth_of_startsWith hpair hclose)).1
        have hlen : (c :: body ++ closer).length = (rest.take closer.length).length := by
          rw [hsuffix, ← Option.some.inj hbody]
        rw [List.length_append, List.length_take, List.length_cons, Nat.min_eq_left hle] at hlen
        omega
      · cases rest with
        | nil => simp at hblank
        | cons e rest =>
          have hfirst := congrArg List.head? hsuffix
          have hpos : 0 < width := by
            cases width with
            | zero => simp at hsuffix
            | succ n => exact Nat.succ_pos n
          rw [List.cons_append, List.head?_cons, List.head?_take, if_neg (by omega)] at hfirst
          rw [Option.some.inj hfirst]
          simpa using hblank

end TagShape

namespace Token

open Text

/-! ## One step of the scanner -/

variable {tax : Taxonomy} {masks : List Span}

/-- What may be skipped is the rest of a construct. -/
theorem scanFrom_skip (pos textStart skip : Nat) (t : Text) :
    scanFrom tax masks pos textStart skip t =
      scanFrom tax masks (pos + size (t.take skip)) textStart 0 (t.drop skip) := by
  induction skip generalizing pos t with
  | zero => simp
  | succ skip ih =>
    cases t with
    | nil => simp [scanFrom]
    | cons c cs => simp [scanFrom, ih, Nat.add_assoc]

/-- A character at which no construct starts. -/
theorem scanFrom_pass {pos : Nat} (textStart : Nat) {c : Char} {cs : Text}
    (h : masks.any (·.contains pos) = true ∨ TagShape.read (c :: cs) = none) :
    scanFrom tax masks pos textStart 0 (c :: cs) =
      scanFrom tax masks (pos + c.utf8Size) textStart 0 cs := by
  rw [scanFrom]
  split
  · rfl
  · next hmask =>
    rw [h.resolve_left hmask]

/-- A construct of which the taxonomy knows nothing. -/
theorem scanFrom_unknown {pos : Nat} (textStart : Nat) {piece rest : Text} {shape : TagShape}
    (hmask : masks.any (·.contains pos) = false) (hread : TagShape.read (piece ++ rest) = some shape)
    (hwidth : shape.width = piece.length) (hclass : tax.classify shape.name shape.closing = none) :
    scanFrom tax masks pos textStart 0 (piece ++ rest) =
      scanFrom tax masks (pos + size piece) textStart 0 rest := by
  have hpos := TagShape.width_pos_of_read hread
  cases piece with
  | nil => simp at hwidth; omega
  | cons c piece =>
    rw [List.cons_append] at hread ⊢
    rw [scanFrom, hmask, if_neg (by decide)]
    simp only [hread, hclass]
    rw [scanFrom_skip, hwidth, List.length_cons, Nat.add_sub_cancel, List.take_left, List.drop_left,
      size_cons, Nat.add_assoc]

/-- A construct with a name of the taxonomy ends the plain text in front of it. -/
theorem scanFrom_tag {pos : Nat} (textStart : Nat) {piece rest : Text} {shape : TagShape} {role : Role}
    (hmask : masks.any (·.contains pos) = false) (hread : TagShape.read (piece ++ rest) = some shape)
    (hwidth : shape.width = piece.length)
    (hclass : tax.classify shape.name shape.closing = some role) :
    scanFrom tax masks pos textStart 0 (piece ++ rest) =
      plainBetween textStart pos ++ .tag role shape.name ⟨pos, pos + size piece⟩ ::
        scanFrom tax masks (pos + size piece) (pos + size piece) 0 rest := by
  have hpos := TagShape.width_pos_of_read hread
  cases piece with
  | nil => simp at hwidth; omega
  | cons c piece =>
    have htake : (c :: (piece ++ rest)).take shape.width = c :: piece := by
      rw [hwidth, ← List.cons_append, List.take_left]
    rw [List.cons_append] at hread ⊢
    rw [scanFrom, hmask, if_neg (by decide)]
    simp only [hread, hclass, htake]
    rw [scanFrom_skip, hwidth, List.length_cons, Nat.add_sub_cancel, List.take_left, List.drop_left,
      size_cons, Nat.add_assoc]

/-- Induction along the steps of the scanner: a property of what has been read and what is left holds
at the end of the line, and goes back over a character and over a whole construct. -/
theorem scan_induction (masks : List Span) {motive : Text → Text → Prop}
    (done : ∀ before, motive before [])
    (pass : ∀ before c rest,
      masks.any (·.contains (size before)) = true ∨ TagShape.read (c :: rest) = none →
      motive (before ++ [c]) rest → motive before (c :: rest))
    (construct : ∀ before piece rest shape, masks.any (·.contains (size before)) = false →
      TagShape.read (piece ++ rest) = some shape → shape.width = piece.length →
      motive (before ++ piece) rest → motive before (piece ++ rest))
    (before rest : Text) : motive before rest := by
  -- on the length of the rest, since a construct takes several characters at once
  induction hn : rest.length using Nat.strong_induction_on generalizing before rest with
  | _ n ih =>
    cases rest with
    | nil => exact done before
    | cons c cs =>
      have hpass (h : masks.any (·.contains (size before)) = true ∨ TagShape.read (c :: cs) = none) :
          motive before (c :: cs) :=
        pass before c cs h (ih cs.length (by simp [← hn]) _ cs rfl)
      cases hmask : masks.any (·.contains (size before)) with
      | true => exact hpass (.inl hmask)
      | false =>
        cases hread : TagShape.read (c :: cs) with
        | none => exact hpass (.inr hread)
        | some shape =>
          have hle := TagShape.read_local.width_le hread
          have hpos := TagShape.width_pos_of_read hread
          have hlater := ih ((c :: cs).drop shape.width).length (by rw [List.length_drop]; omega)
            (before ++ (c :: cs).take shape.width) _ rfl
          have hstep := construct before ((c :: cs).take shape.width) ((c :: cs).drop shape.width) shape
            hmask (by rw [List.take_append_drop, hread]) (by rw [List.length_take]; omega) hlater
          rwa [List.take_append_drop] at hstep

/-! ## Tiles -/

/-- The tokens tile a text that begins at byte `pos`: in order, without gap or overlap, each covers
some characters, and all of them together cover every character. -/
inductive Tiles : Nat → Text → List Token → Prop
  | nil (pos : Nat) : Tiles pos [] []
  | cons {pos : Nat} {piece rest : Text} {x : Token} {ts : List Token} (hne : piece ≠ [])
      (hspan : x.span = ⟨pos, pos + size piece⟩) (h : Tiles (pos + size piece) rest ts) :
      Tiles pos (piece ++ rest) (x :: ts)

/-- Plain text that is left, if any, in front of tiles. -/
theorem Tiles.plainBetween_append {pos : Nat} {pending rest : Text} {ts : List Token}
    (h : Tiles (pos + size pending) rest ts) :
    Tiles pos (pending ++ rest) (plainBetween pos (pos + size pending) ++ ts) := by
  by_cases hnil : pending = []
  · simpa [hnil, plainBetween] using h
  · have hpos := size_pos_of_ne_nil hnil
    rw [plainBetween, if_pos (by omega)]
    exact .cons hnil rfl h

/-- The tokens of the rest of a line tile it, together with the plain text that is pending. -/
theorem tiles_scanFrom (tax : Taxonomy) (masks : List Span) (before rest : Text) :
    ∀ front pending, before = front ++ pending →
      Tiles (size front) (pending ++ rest) (scanFrom tax masks (size before) (size front) 0 rest) := by
  induction before, rest using scan_induction masks with
  | done before =>
    rintro front pending rfl
    have hend : Tiles (size front + size pending) [] [] := .nil _
    simpa [scanFrom] using hend.plainBetween_append
  | pass before c rest hnone ih =>
    rintro front pending rfl
    have hlater := ih front (pending ++ [c]) (by simp)
    rw [scanFrom_pass _ hnone]
    simpa [Nat.add_assoc] using hlater
  | construct before piece rest shape hmask hread hwidth ih =>
    rintro front pending rfl
    cases hclass : tax.classify shape.name shape.closing with
    | none =>
      -- an unknown construct joins the pending text
      have hlater := ih front (pending ++ piece) (by simp)
      rw [scanFrom_unknown _ hmask hread hwidth hclass]
      simpa [Nat.add_assoc] using hlater
    | some role =>
      have hne : piece ≠ [] := by
        have hpos := TagShape.width_pos_of_read hread
        rintro rfl
        simp only [List.length_nil] at hwidth
        omega
      -- behind a tag nothing is pending
      have hlater := ih (front ++ pending ++ piece) [] (by simp)
      rw [List.nil_append] at hlater
      rw [scanFrom_tag _ hmask hread hwidth hclass]
      rw [size_append (front ++ pending) piece] at hlater
      rw [size_append front pending] at hlater ⊢
      exact (Tiles.cons hne rfl hlater).plainBetween_append

theorem Tiles.le_start {pos : Nat} {t : Text} {ts : List Token} (h : Tiles pos t ts) :
    ∀ x ∈ ts, pos ≤ x.span.start := by
  induction h with
  | nil => simp
  | cons _ hspan _ ih =>
    refine List.forall_mem_cons.2 ⟨by rw [hspan], fun x hx => ?_⟩
    have hle := ih x hx
    omega

theorem Tiles.pairwise_start {pos : Nat} {t : Text} {ts : List Token} (h : Tiles pos t ts) :
    ts.Pairwise fun x y => x.span.start ≠ y.span.start := by
  induction h with
  | nil => exact .nil
  | cons hne hspan h ih =>
    refine List.pairwise_cons.2 ⟨fun y hy => ?_, ih⟩
    have hpos := size_pos_of_ne_nil hne
    have hle := h.le_start y hy
    rw [hspan]
    dsimp only
    omega

/-- No two tokens of a line start at one place. -/
theorem pairwise_start_scan (tax : Taxonomy) (masks : List Span) (line : Text) :
    (scan tax masks line).Pairwise fun x y => x.span.start ≠ y.span.start :=
  (tiles_scanFrom tax masks [] line [] [] rfl).pairwise_start

def isPlain : Token → Bool
  | .tag .. => false
  | .plain _ => true

/-- Between two stretches of plain text stands a tag. -/
theorem isChain_scanFrom (tax : Taxonomy) (masks : List Span) (before rest : Text) :
    ∀ textStart, (scanFrom tax masks (size before) textStart 0 rest).IsChain
      fun x y => x.isPlain = false ∨ y.isPlain = false := by
  have hfront (start stop : Nat) {role : Role} {name : Text} {s : Span} {ts : List Token}
      (h : (Token.tag role name s :: ts).IsChain fun x y => x.isPlain = false ∨ y.isPlain = false) :
      (plainBetween start stop ++ .tag role name s :: ts).IsChain
        fun x y => x.isPlain = false ∨ y.isPlain = false := by
    unfold plainBetween
    split
    · exact List.isChain_cons_cons.2 ⟨.inr rfl, h⟩
    · exact h
  induction before, rest using scan_induction masks with
  | done before =>
    intro textStart
    rw [scanFrom, plainBetween]
    split
    · exact List.isChain_singleton _
    · exact List.isChain_nil
  | pass before c rest hnone ih =>
    intro textStart
    rw [scanFrom_pass _ hnone]
    simpa using ih textStart
  | construct before piece rest shape hmask hread hwidth ih =>
    intro textStart
    cases hclass : tax.classify shape.name shape.closing with
    | none =>
      rw [scanFrom_unknown _ hmask hread hwidth hclass]
      simpa using ih textStart
    | some role =>
      rw [scanFrom_tag _ hmask hread hwidth hclass]
      refine hfront _ _ (List.isChain_cons.2 ⟨fun _ _ => .inl rfl, ?_⟩)
      simpa using ih (size before + size piece)

/-! ## Open places -/

/-- A construct may start at character `i` of the line: no mask covers the place, and no construct that
starts at an earlier open place goes on behind it. -/
def Open (masks : List Span) (line : Text) (i : Nat) : Prop :=
  masks.any (·.contains (size (line.take i))) = false ∧
    ∀ j < i, Open masks line j → ∀ shape, TagShape.read (line.drop j) = some shape →
      j + shape.width ≤ i
termination_by i

/-- No construct that starts at an open place in front of character `i` goes on behind it. -/
def Clear (masks : List Span) (line : Text) (i : Nat) : Prop :=
  ∀ j < i, Open masks line j → ∀ shape, TagShape.read (line.drop j) = some shape →
    j + shape.width ≤ i

variable {line : Text} {i : Nat}

theorem open_iff :
    Open masks line i ↔
      masks.any (·.contains (size (line.take i))) = false ∧ Clear masks line i := by
  rw [Open, Clear]

theorem clear_zero (masks : List Span) (line : Text) : Clear masks line 0 :=
  fun j hj => absurd hj (Nat.not_lt_zero j)

theorem Clear.pass (h : Clear masks line i)
    (hnone : masks.any (·.contains (size (line.take i))) = true ∨ TagShape.read (line.drop i) = none) :
    Clear masks line (i + 1) := by
  intro j hj hopen shape hread
  rcases Nat.lt_succ_iff_lt_or_eq.1 hj with hj | rfl
  · exact Nat.le_succ_of_le (h j hj hopen shape hread)
  · -- no construct starts at `j` itself
    rcases hnone with hmask | hnone
    · rw [(open_iff.1 hopen).1] at hmask
      exact absurd hmask (by decide)
    · rw [hnone] at hread
      exact absurd hread (by simp)

/-- A construct at an open place covers the places behind it. -/
theorem Open.le_of_lt {j : Nat} {shape : TagShape} (hi : Open masks line i)
    (hread : TagShape.read (line.drop i) = some shape) (hj : Open masks line j) (hij : i < j) :
    i + shape.width ≤ j :=
  (open_iff.1 hj).2 i hij hi shape hread

theorem Clear.construct {shape : TagShape} (h : Clear masks line i) (hi : Open masks line i)
    (hread : TagShape.read (line.drop i) = some shape) : Clear masks line (i + shape.width) := by
  intro j hj hopen shape' hread'
  rcases Nat.lt_trichotomy j i with hlt | rfl | hlt
  · exact Nat.le_add_right_of_le (h j hlt hopen shape' hread')
  · rw [Option.some.inj (hread.symm.trans hread')]
  · have hle := hi.le_of_lt hread hopen hlt
    omega

/-- The tag that starts at character `i` of the line, as a token. -/
def StartsTag (tax : Taxonomy) (masks : List Span) (line : Text) (i : Nat) (x : Token) : Prop :=
  Open masks line i ∧ ∃ shape role, TagShape.read (line.drop i) = some shape ∧
    tax.classify shape.name shape.closing = some role ∧
    x = .tag role shape.name ⟨size (line.take i), size (line.take (i + shape.width))⟩

/-- At an open place the construct there tells which tag starts. -/
theorem startsTag_iff {shape : TagShape} (hopen : Open masks line i)
    (hread : TagShape.read (line.drop i) = some shape) {x : Token} :
    StartsTag tax masks line i x ↔ ∃ role, tax.classify shape.name shape.closing = some role ∧
      x = .tag role shape.name ⟨size (line.take i), size (line.take (i + shape.width))⟩ := by
  constructor
  · rintro ⟨-, shape', role, hread', hclass, hx⟩
    obtain rfl := Option.some.inj (hread.symm.trans hread')
    exact ⟨role, hclass, hx⟩
  · rintro ⟨role, hclass, hx⟩
    exact ⟨hopen, shape, role, hread, hclass, hx⟩

/-- No tag starts inside a construct. -/
theorem exists_le_startsTag_iff {shape : TagShape} (hopen : Open masks line i)
    (hread : TagShape.read (line.drop i) = some shape) {x : Token} :
    (∃ j, i ≤ j ∧ StartsTag tax masks line j x) ↔
      StartsTag tax masks line i x ∨ ∃ j, i + shape.width ≤ j ∧ StartsTag tax masks line j x := by
  constructor
  · rintro ⟨j, hle, hj⟩
    rcases Nat.eq_or_lt_of_le hle with rfl | hlt
    · exact .inl hj
    · exact .inr ⟨j, hopen.le_of_lt hread hj.1 hlt, hj⟩
  · rintro (hi | ⟨j, hle, hj⟩)
    · exact ⟨i, Nat.le_refl i, hi⟩
    · exact ⟨j, by omega, hj⟩

/-- The tags in the rest of a line are those that start at its open places. -/
theorem tag_mem_scanFrom_iff (tax : Taxonomy) {masks : List Span} {before rest line : Text}
    (hline : line = before ++ rest) (hclear : Clear masks line before.length) {role : Role}
    {name : Text} {s : Span} (textStart : Nat) :
    .tag role name s ∈ scanFrom tax masks (size before) textStart 0 rest ↔
      ∃ i, before.length ≤ i ∧ StartsTag tax masks line i (.tag role name s) := by
  have hplain (start stop : Nat) : Token.tag role name s ∉ plainBetween start stop := by
    unfold plainBetween
    split <;> simp
  induction before, rest using scan_induction masks generalizing textStart with
  | done before =>
    have hnone : TagShape.read [] = none := rfl
    constructor
    · intro hmem
      exact absurd hmem (hplain _ _)
    · rintro ⟨i, hi, -, shape, _, hread, -⟩
      rw [hline, List.append_nil, List.drop_of_length_le hi, hnone] at hread
      exact absurd hread (by simp)
  | pass before c rest hnone ih =>
    have htake : line.take before.length = before := by rw [hline, List.take_left]
    have hdrop : line.drop before.length = c :: rest := by rw [hline, List.drop_left]
    have hlater : _ ↔ _ := ih (by rw [hline]; simp)
      (by simpa using hclear.pass (by rwa [htake, hdrop])) textStart
    have hsize : size before + c.utf8Size = size (before ++ [c]) := by simp
    rw [scanFrom_pass _ hnone, hsize, hlater, List.length_append, List.length_singleton]
    refine exists_congr fun i => and_congr_left fun hi => ?_
    -- nothing starts at the character that is passed
    have hne : i ≠ before.length := by
      rintro rfl
      obtain ⟨hopen, shape, _, hread, -⟩ := hi
      rw [open_iff, htake] at hopen
      rw [hdrop] at hread
      rcases hnone with hmask | hnone
      · rw [hopen.1] at hmask
        exact absurd hmask (by decide)
      · rw [hnone] at hread
        exact absurd hread (by simp)
    omega
  | construct before piece rest shape hmask hread hwidth ih =>
    have htake : line.take before.length = before := by rw [hline, List.take_left]
    have hdrop : line.drop before.length = piece ++ rest := by rw [hline, List.drop_left]
    have hopen : Open masks line before.length := open_iff.2 ⟨by rwa [htake], hclear⟩
    have hhere : TagShape.read (line.drop before.length) = some shape := by rwa [hdrop]
    have hlater (textStart : Nat) : _ ↔ _ := ih (by rw [hline]; simp)
      (by simpa [hwidth] using hclear.construct hopen hhere) textStart
    have hsize : size before + size piece = size (before ++ piece) := by simp
    have hstop : line.take (before.length + shape.width) = before ++ piece := by
      rw [hline, hwidth, ← List.append_assoc, ← List.length_append, List.take_left]
    rw [List.length_append, ← hwidth] at hlater
    rw [exists_le_startsTag_iff hopen hhere, startsTag_iff hopen hhere, htake, hstop]
    cases hclass : tax.classify shape.name shape.closing with
    | none =>
      rw [scanFrom_unknown _ hmask hread hwidth hclass, hsize, hlater]
      simp
    | some known =>
      rw [scanFrom_tag _ hmask hread hwidth hclass, List.mem_append, List.mem_cons, hsize, hlater,
        or_iff_right (hplain _ _)]
      simp

/-- The tokens of a line. They tile it; plain text is never cut in two; a tag token starts outside the
masks, is written as a tag and has the role that the taxonomy gives to its name; and at every open
place at which a tag with a known name can be read a tag token starts. -/
theorem scan_tiles (tax : Taxonomy) (masks : List Span) (line : Text) :
    Tiles 0 line (scan tax masks line) ∧
    ((scan tax masks line).IsChain fun x y => x.isPlain = false ∨ y.isPlain = false) ∧
    (∀ role name s, .tag role name s ∈ scan tax masks line →
      (∀ m ∈ masks, m.contains s.start = false) ∧
      ∃ closing, tax.classify name closing = some role ∧
        TagShape.IsWritten name closing (slice line s)) ∧
    ∀ i shape role, Open masks line i → TagShape.read (line.drop i) = some shape →
      tax.classify shape.name shape.closing = some role →
      .tag role shape.name ⟨size (line.take i), size (line.take (i + shape.width))⟩ ∈
        scan tax masks line := by
  have hmem {role : Role} {name : Text} {s : Span} : .tag role name s ∈ scan tax masks line ↔
      ∃ i, StartsTag tax masks line i (.tag role name s) :=
    (tag_mem_scanFrom_iff tax (List.nil_append line).symm (clear_zero masks line) 0).trans (by simp)
  refine ⟨tiles_scanFrom tax masks [] line [] [] rfl, isChain_scanFrom tax masks [] line 0, ?_, ?_⟩
  · intro role name s htag
    obtain ⟨i, hopen, shape, role', hread, hclass, hx⟩ := hmem.1 htag
    cases hx
    have hmask := (open_iff.1 hopen).1
    refine ⟨by simpa using hmask, shape.closing, hclass, ?_⟩
    -- the span counts bytes, the construct was read by characters
    have hslice : slice line ⟨size (line.take i), size (line.take (i + shape.width))⟩ =
        (line.drop i).take shape.width := by
      have hpart := slice_append (line.take i) ((line.drop i).take shape.width)
        ((line.drop i).drop shape.width)
      rw [List.append_assoc, List.take_append_drop, List.take_append_drop] at hpart
      rwa [List.take_add, size_append]
    rw [hslice]
    exact TagShape.isWritten_of_read hread
  · intro i shape role hopen hread hclass
    exact hmem.2 ⟨i, hopen, shape, role, hread, hclass, rfl⟩

end Token

end SmartyLayout
