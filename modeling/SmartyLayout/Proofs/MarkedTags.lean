import SmartyLayout.Proofs.MarkedReading
import SmartyLayout.Proofs.TagStream

/-!
# SmartyLayout.Proofs.MarkedTags — markers are transparent to tags

A marker holds no brace, no quote and no line break, so a tag that a marker falls into is read as if
it were not there. Read on a list of signs, the search for the end of a tag fails in the text with
markers just if it fails in the text, or both end behind the same signs (`Alike`).
-/

namespace SmartyLayout

namespace IgnoreMarker

open Text Literal TagShape

/-! ## Searches that end behind the same signs -/

/-- Two searches, one in a text and one in the text with markers, both fail or end behind the same
signs. -/
inductive Alike (ss : List Sign) : Option Nat → Option Nat → Prop
  | fail : Alike ss none none
  | found {xs ys : List Sign} (h : ss = xs ++ ys) :
      Alike ss (some (source xs).length) (some (guarded xs).length)

theorem Alike.char {ss : List Sign} {a b : Option Nat} (h : Alike ss a b) (c : Char) :
    Alike (.char c :: ss) (a.map (· + 1)) (b.map (· + 1)) := by
  cases h with
  | fail => exact .fail
  | @found xs ys hss =>
    have hnext : Alike (.char c :: ss) (some (source (.char c :: xs)).length)
        (some (guarded (.char c :: xs)).length) := .found (by rw [hss]; rfl)
    simpa using hnext

theorem Alike.mark {ss : List Sign} {a b : Option Nat} (h : Alike ss a b) (side : Side) (g : Text) :
    Alike (.mark side g :: ss) (a.map (· + g.length)) (b.map (· + side.marker.length)) := by
  cases h with
  | fail => exact .fail
  | @found xs ys hss =>
    have hnext : Alike (.mark side g :: ss) (some (source (.mark side g :: xs)).length)
        (some (guarded (.mark side g :: xs)).length) := .found (by rw [hss]; rfl)
    simpa [Nat.add_comm] using hnext

/-! ## The bodies of tags -/

/-- The quote that is open behind a character, if any. -/
def quoteAfter (o : OpenQuote) (c : Char) : Option OpenQuote :=
  if o.escaped then some { o with escaped := false }
  else if c = '\\' then some { o with escaped := true }
  else if c = o.mark then none
  else some o

theorem bodyWidth_quoted (closer : Text) (depth : Nat) (o : OpenQuote) (c : Char) (cs : Text) :
    bodyWidth closer depth (some o) (c :: cs) =
      if c = '\n' then none else (bodyWidth closer depth (quoteAfter o c) cs).map (· + 1) := rfl

/-- The quote that is open is a quote, and a backslash stands in front if the next character is
escaped. -/
def QuoteBehind (p : Char) (q : Option OpenQuote) : Prop :=
  ∀ o ∈ q, (o.mark = '"' ∨ o.mark = '\x27') ∧ (o.escaped = true → p = '\\')

/-- The body of a tag does not see what means nothing. -/
theorem bodyWidth_inert_append {opener closer : Text} (hpair : (opener, closer) ∈ delimiters) {m : Text}
    (hm : ∀ c ∈ m, inert c = true) {q : Option OpenQuote}
    (hq : ∀ o ∈ q, (o.mark = '"' ∨ o.mark = '\x27') ∧ o.escaped = false) (depth : Nat) (t : Text) :
    bodyWidth closer depth q (m ++ t) = (bodyWidth closer depth q t).map (· + m.length) := by
  induction m with
  | nil => simp
  | cons c m ih =>
    have hc := hm c (by simp)
    have hne {e : Char} (he : inert e = false) : c ≠ e := by
      rintro rfl
      rw [hc] at he
      exact absurd he (by decide)
    have hrest := ih fun e he => hm e (List.mem_cons_of_mem c he)
    have hlen : ∀ a : Option Nat, (a.map (· + m.length)).map (· + 1) = a.map (· + (c :: m).length) := by
      intro a
      rw [Option.map_map, List.length_cons]
      rfl
    cases q with
    | none =>
      have hclose : startsWith closer (c :: (m ++ t)) = false := by
        by_contra hclose
        obtain ⟨tail, htail⟩ := startsWith_iff.1 (by simpa using hclose)
        obtain ⟨w, rfl, -⟩ := exists_closer_eq hpair
        exact hne (by decide) (List.cons.inj htail).1.symm
      rw [List.cons_append, bodyWidth, if_neg (hne (by decide)),
        if_neg (not_or.2 ⟨hne (by decide), hne (by decide)⟩), if_neg (hne (by decide)),
        if_neg (fun h => hne (by decide) h.1), hclose, if_neg (by decide), hrest, hlen]
    | some o =>
      obtain ⟨hmark, hescaped⟩ := hq o rfl
      have hquote : c ≠ o.mark := by
        rcases hmark with hmark | hmark
        · rw [hmark]
          exact hne (by decide)
        · rw [hmark]
          exact hne (by decide)
      have hsame : quoteAfter o c = some o := by
        rw [quoteAfter, hescaped, if_neg (by decide), if_neg (hne (by decide)), if_neg hquote]
      rw [List.cons_append, bodyWidth_quoted, if_neg (hne (by decide)), hsame, hrest, hlen]

/-- Where a line ends it does not matter whether the break is escaped. -/
theorem bodyWidth_escaped_break (closer : Text) (depth : Nat) {o : OpenQuote}
    (ho : o.mark = '"' ∨ o.mark = '\x27') {ss : List Sign} (hend : AtBreak ss) :
    bodyWidth closer depth (some { o with escaped := true }) (source ss) =
      bodyWidth closer depth (some { o with escaped := false }) (source ss) := by
  rcases hend with rfl | ⟨c, rest, rfl, rfl | rfl⟩
  · rfl
  · rfl
  · have hmark : '<' ≠ o.mark := by
      rcases ho with ho | ho
      · rw [ho]
        decide
      · rw [ho]
        decide
    simp [bodyWidth, hmark]

/-- A closer is not divided by markers. -/
theorem startsWith_closer_iff {opener closer : Text} (hpair : (opener, closer) ∈ delimiters) {c : Char}
    {ss : List Sign} (hss : Placed AtBreak c ss) :
    (startsWith closer (c :: source ss) = true ↔ closer.map .char <+: .char c :: ss) ∧
      (startsWith closer (c :: guarded ss) = true ↔ closer.map .char <+: .char c :: ss) := by
  simp only [startsWith_iff]
  obtain ⟨w, rfl, hw⟩ := exists_closer_eq hpair
  have hmarks : ∀ e ∈ '}' :: w, e ≠ '\n' ∧ e ≠ '<' ∧ e ≠ '>' ∧ e ≠ '/' := by
    intro e he
    obtain rfl : e = '}' := by simpa using List.mem_cons.1 he |>.imp id (hw e)
    decide
  refine ⟨⟨?_, ?_⟩, ?_, ?_⟩
  · rintro ⟨rest, hrest⟩
    rw [List.cons_append, List.cons.injEq] at hrest
    obtain ⟨rfl, hrest⟩ := hrest
    obtain ⟨ys, rfl, -⟩ := exists_of_source_eq_append hss
      (fun e he => ⟨(hmarks e (List.mem_of_mem_dropLast he)).1, (hmarks e (List.mem_of_mem_dropLast he)).2.2.1⟩)
      (fun e he => ⟨(hmarks e (List.mem_cons_of_mem _ he)).1, (hmarks e (List.mem_cons_of_mem _ he)).2.1⟩)
      hrest.symm
    exact ⟨ys, rfl⟩
  · rintro ⟨ys, hys⟩
    rw [List.map_cons, List.cons_append, List.cons.injEq, Sign.char.injEq] at hys
    obtain ⟨rfl, rfl⟩ := hys
    exact ⟨source ys, by simp⟩
  · rintro ⟨rest, hrest⟩
    rw [List.cons_append, List.cons.injEq] at hrest
    obtain ⟨rfl, hrest⟩ := hrest
    have hslash : '/' ∉ w := fun hmem => (hmarks _ (List.mem_cons_of_mem _ hmem)).2.2.2 rfl
    obtain ⟨ys, rfl, -⟩ := exists_of_guarded_eq_append hslash hrest.symm
    exact ⟨ys, rfl⟩
  · rintro ⟨ys, hys⟩
    rw [List.map_cons, List.cons_append, List.cons.injEq, Sign.char.injEq] at hys
    obtain ⟨rfl, rfl⟩ := hys
    exact ⟨guarded ys, by simp⟩

theorem quoteBehind_quoteAfter {p c : Char} {o : OpenQuote} (h : QuoteBehind p (some o)) :
    QuoteBehind c (quoteAfter o c) := by
  obtain ⟨hmark, -⟩ := h o rfl
  intro o' ho'
  unfold quoteAfter at ho'
  split at ho'
  · cases ho'
    exact ⟨hmark, by simp⟩
  · split at ho'
    · next hc =>
      cases ho'
      exact ⟨hmark, fun _ => hc⟩
    · split at ho'
      · simp at ho'
      · next hescaped _ _ =>
        cases ho'
        exact ⟨hmark, fun h => absurd h hescaped⟩

/-- A character is read alike in both texts, if what follows it is. -/
theorem alike_bodyWidth_char {opener closer : Text} (hpair : (opener, closer) ∈ delimiters)
    {p c : Char} {ss : List Sign} (hss : Placed AtBreak c ss)
    (hrest : ∀ q, QuoteBehind c q → ∀ depth,
      Alike ss (bodyWidth closer depth q (source ss)) (bodyWidth closer depth q (guarded ss)))
    {q : Option OpenQuote} (hq : QuoteBehind p q) (depth : Nat) :
    Alike (.char c :: ss) (bodyWidth closer depth q (c :: source ss))
      (bodyWidth closer depth q (c :: guarded ss)) := by
  have hlater {q : Option OpenQuote} (hq : QuoteBehind c q) (depth : Nat) := (hrest q hq depth).char c
  cases q with
  | none =>
    have hnone : QuoteBehind c none := by simp [QuoteBehind]
    obtain ⟨hsource, hguarded⟩ := startsWith_closer_iff hpair hss
    rw [bodyWidth, bodyWidth]
    by_cases hbreak : c = '\n'
    · rw [if_pos hbreak, if_pos hbreak]
      exact .fail
    rw [if_neg hbreak, if_neg hbreak]
    by_cases hquote : c = '"' ∨ c = '\x27'
    · rw [if_pos hquote, if_pos hquote]
      refine hlater (fun o ho => ?_) depth
      cases ho
      exact ⟨hquote, by simp⟩
    rw [if_neg hquote, if_neg hquote]
    by_cases hopen : c = '{'
    · rw [if_pos hopen, if_pos hopen]
      exact hlater hnone (depth + 1)
    rw [if_neg hopen, if_neg hopen]
    by_cases hclose : c = '}' ∧ 0 < depth
    · rw [if_pos hclose, if_pos hclose]
      exact hlater hnone (depth - 1)
    rw [if_neg hclose, if_neg hclose]
    -- no marker divides the closer, so both searches end here or neither does
    by_cases hend : closer.map .char <+: .char c :: ss
    · rw [if_pos (hsource.2 hend), if_pos (hguarded.2 hend)]
      obtain ⟨ys, hys⟩ := hend
      have hfound : Alike (.char c :: ss) (some (source (closer.map .char)).length)
        (some (guarded (closer.map .char)).length) := .found hys.symm
      simpa using hfound
    · rw [if_neg (fun h => hend (hsource.1 h)), if_neg (fun h => hend (hguarded.1 h))]
      exact hlater hnone depth
  | some o =>
    rw [bodyWidth_quoted, bodyWidth_quoted]
    by_cases hbreak : c = '\n'
    · rw [if_pos hbreak, if_pos hbreak]
      exact .fail
    rw [if_neg hbreak, if_neg hbreak]
    exact hlater (quoteBehind_quoteAfter hq) depth

/-- An escape falls on the slash of a marker, instead of on the break behind it. -/
theorem bodyWidth_escaped_marker {opener closer : Text} (hpair : (opener, closer) ∈ delimiters)
    {o : OpenQuote} (ho : o.mark = '"' ∨ o.mark = '\x27') (hescaped : o.escaped = true) (depth : Nat)
    (t : Text) :
    bodyWidth closer depth (some o) (Side.stop.marker ++ t) =
      (bodyWidth closer depth (some { o with escaped := false }) t).map
        (· + Side.stop.marker.length) := by
  obtain ⟨tail, heq, hinert⟩ := Side.stop.exists_marker_eq
  have hafter : quoteAfter o '/' = some { o with escaped := false } := by
    rw [quoteAfter, if_pos hescaped]
  rw [heq, List.cons_append, bodyWidth_quoted, if_neg (by decide), hafter,
    bodyWidth_inert_append hpair hinert (by simp [ho]), Option.map_map]
  rfl

/-- The bodies of a tag in the text and in the text with markers end behind the same signs. -/
theorem alike_bodyWidth {opener closer : Text} (hpair : (opener, closer) ∈ delimiters) {p : Char}
    {ss : List Sign} (hss : Placed AtBreak p ss) {q : Option OpenQuote} (hq : QuoteBehind p q)
    (depth : Nat) :
    Alike ss (bodyWidth closer depth q (source ss)) (bodyWidth closer depth q (guarded ss)) := by
  induction ss generalizing p q depth with
  | nil => cases q <;> exact .fail
  | cons s ss ih =>
    cases s with
    | char c =>
      have hchar := placed_char.1 hss
      exact alike_bodyWidth_char hpair hchar (fun q hq depth => ih hchar hq depth) hq depth
    | mark side g =>
      -- nothing escaped: the marker and what it takes the place of mean nothing
      have hplain (hg : ∀ c ∈ g, c = '\t' ∨ c = ' ') (hss : Placed AtBreak p ss)
          (hescaped : ∀ o ∈ q, o.escaped = false) :
          Alike (.mark side g :: ss) (bodyWidth closer depth q (source (.mark side g :: ss)))
            (bodyWidth closer depth q (guarded (.mark side g :: ss))) := by
        have hq' : ∀ o ∈ q, (o.mark = '"' ∨ o.mark = '\x27') ∧ o.escaped = false := by
          intro o ho
          exact ⟨(hq o ho).1, hescaped o ho⟩
        rw [source_mark, guarded_mark, bodyWidth_inert_append hpair (inert_of_indent hg) hq',
          bodyWidth_inert_append hpair side.inert_of_mem hq']
        exact (ih hss hq depth).mark side g
      cases side with
      | start =>
        -- lines do not begin behind a backslash
        obtain ⟨hp, hg, hss⟩ := hss
        refine hplain hg hss fun o ho => ?_
        by_contra hescaped
        have hback := (hq o ho).2 (by simpa using hescaped)
        rw [hback] at hp
        exact absurd hp (by decide)
      | stop =>
        obtain ⟨rfl, hend, hss⟩ := hss
        cases q with
        | none => exact hplain (by simp) hss (by simp)
        | some o =>
          cases hescaped : o.escaped with
          | false => exact hplain (by simp) hss (by simpa using hescaped)
          | true =>
            have hmark := (hq o rfl).1
            have hopen : QuoteBehind p (some { o with escaped := false }) := by
              intro o' ho'
              cases ho'
              exact ⟨hmark, by simp⟩
            have hbreak := bodyWidth_escaped_break closer depth hmark hend
            rw [← hescaped] at hbreak
            have hlater := (ih hss hopen depth).mark .stop []
            rw [source_mark, List.nil_append, hbreak, guarded_mark,
              bodyWidth_escaped_marker hpair hmark hescaped]
            simpa using hlater

/-! ## Tags -/

/-- A name ends in the text with markers just if it does in the text, if the tag goes on at all. -/
theorem nameEnds_guarded {opener closer : Text} (hpair : (opener, closer) ∈ delimiters) {p : Char}
    (hp : p ≠ '\n' ∧ p ≠ '>') {ss : List Sign} (hss : Placed AtBreak p ss)
    (hbody : bodyWidth closer 0 none (source ss) ≠ none) :
    (startsWith closer (guarded ss) || ((guarded ss).head?.map isBlank).getD false) =
      (startsWith closer (source ss) || ((source ss).head?.map isBlank).getD false) := by
  cases ss with
  | nil => rfl
  | cons s ss =>
    cases s with
    | char c =>
      obtain ⟨hsource, hguarded⟩ := startsWith_closer_iff hpair (placed_char.1 hss)
      rw [source_char, guarded_char, Bool.eq_iff_iff.2 (hguarded.trans hsource.symm)]
      rfl
    | mark side g =>
      cases side with
      | start =>
        rcases hss.1 with h | h
        · exact absurd h hp.1
        · exact absurd h hp.2
      | stop =>
        obtain ⟨rfl, hend, -⟩ := hss
        -- a tag does not go on behind a break, and no name ends at a marker or at a closing tag
        obtain ⟨w, rfl, -⟩ := exists_closer_eq hpair
        rcases hend with rfl | ⟨c, rest, rfl, rfl | rfl⟩
        · exact absurd rfl hbody
        · exact absurd rfl hbody
        · rfl

/-- The name of a tag is not divided by markers. -/
theorem exists_of_source_eq_front {opener closer : Text} (hpair : (opener, closer) ∈ delimiters)
    {shape : TagShape} (hname : isTagName shape.name = true) {w rest : Text}
    (hw : front opener shape = '{' :: w) {ss : List Sign} (hss : Placed AtBreak '{' ss)
    (h : source ss = w ++ rest) : ∃ ss', ss = w.map .char ++ ss' ∧ source ss' = rest := by
  have hfacts := front_facts hpair hname
  rw [hw] at hfacts
  refine exists_of_source_eq_append hss (fun c hc => ?_) (fun c hc => ?_) h
  · have hc := hfacts c (List.mem_of_mem_dropLast hc)
    exact ⟨hc.1, hc.2.2⟩
  · have hc := hfacts c (List.mem_cons_of_mem _ hc)
    exact ⟨hc.1, hc.2.1⟩

theorem exists_of_guarded_eq_front {opener closer : Text} (hpair : (opener, closer) ∈ delimiters)
    {shape : TagShape} (hname : isTagName shape.name = true) {w rest : Text}
    (hw : front opener shape = '{' :: w) {ss : List Sign}
    (h : guarded ss = w ++ rest) : ∃ ss', ss = w.map .char ++ ss' ∧ guarded ss' = rest := by
  obtain ⟨tail, rfl, htail⟩ : ∃ tail, opener = '{' :: tail ∧ '/' ∉ tail := by
    simp only [delimiters, List.mem_cons, Prod.mk.injEq, List.not_mem_nil, or_false] at hpair
    rcases hpair with ⟨rfl, -⟩ | ⟨rfl, -⟩
    · exact ⟨[], rfl, by decide⟩
    · exact ⟨['{'], rfl, by decide⟩
  rw [front, List.cons_append, List.cons.injEq] at hw
  obtain rfl := hw.2
  obtain ⟨c, name, hcons, hc⟩ := exists_cons_of_isTagName hname
  have hfree : '/' ∉ shape.name := by
    intro hmem
    exact absurd (isNameRest_of_isTagName hname _ hmem) (by decide)
  rw [List.append_assoc] at h
  obtain ⟨ss₁, rfl, hmiddle⟩ := exists_of_guarded_eq_append htail h
  rw [List.append_assoc] at hmiddle
  obtain ⟨ss₂, rfl, hlast⟩ : ∃ ss₂, ss₁ = (if shape.closing then ['/'] else []).map .char ++ ss₂ ∧
      guarded ss₂ = shape.name ++ rest := by
    cases hclosing : shape.closing with
    | false =>
      rw [hclosing, if_neg (by decide)] at hmiddle
      exact ⟨ss₁, rfl, hmiddle⟩
    | true =>
      -- a slash in front of a name is no slash of a marker
      rw [hclosing, if_pos rfl, hcons, List.singleton_append, List.cons_append] at hmiddle
      have hstar : c ≠ '*' := by
        rintro rfl
        exact absurd hc (by decide)
      obtain ⟨ss₂, rfl, hlast⟩ := exists_of_guarded_eq_slash hstar hmiddle
      exact ⟨ss₂, rfl, by rw [hlast, hcons]; rfl⟩
  obtain ⟨ss₃, rfl, hrest⟩ := exists_of_guarded_eq_append hfree hlast
  exact ⟨ss₃, by simp, hrest⟩

/-- Behind the name of a tag stands what is placed behind a character of the name. -/
theorem placed_behind_front {opener closer : Text} (hpair : (opener, closer) ∈ delimiters)
    {shape : TagShape} (hname : isTagName shape.name = true) {w : Text}
    (hw : front opener shape = '{' :: w) {ss : List Sign} (hss : Placed AtBreak '{' (w.map .char ++ ss)) :
    ∃ p, (p ≠ '\n' ∧ p ≠ '>') ∧ Placed AtBreak p ss := by
  have hlast : w.getLastD '{' ∈ '{' :: w := List.getLastD_mem_cons
  rw [← hw] at hlast
  have hfacts := front_facts hpair hname _ hlast
  exact ⟨w.getLastD '{', ⟨hfacts.1, hfacts.2.2⟩, hss.of_map_append⟩

/-- A tag is read in the text with markers as in the text, and ends behind the same signs. -/
theorem read_guarded_of_read {ss : List Sign} (hss : Placed AtBreak '{' ss) {shape : TagShape}
    (h : read ('{' :: source ss) = some shape) :
    ∃ xs ys, ss = xs ++ ys ∧ shape.width = (source xs).length + 1 ∧
      read ('{' :: guarded ss) = some { shape with width := (guarded xs).length + 1 } := by
  obtain ⟨⟨opener, closer⟩, hpair, rest, body, heq, hname, hend, hbody, hwidth⟩ := read_eq_some_iff.1 h
  obtain ⟨w, hw⟩ := exists_front_eq hpair shape
  simp only [hw, List.cons_append, List.cons.injEq, true_and] at heq hwidth
  obtain ⟨ss, rfl, rfl⟩ := exists_of_source_eq_front hpair hname hw hss heq
  obtain ⟨p, hp, hplaced⟩ := placed_behind_front hpair hname hw hss
  have hends := nameEnds_guarded hpair hp hplaced (by simp [hbody])
  have halike := alike_bodyWidth hpair hplaced (q := none) (by simp [QuoteBehind]) 0
  rw [hbody] at halike
  cases hguarded : bodyWidth closer 0 none (guarded ss) with
  | none =>
    rw [hguarded] at halike
    cases halike
  | some body' =>
    rw [hguarded] at halike
    obtain ⟨xs, ys, rfl, rfl, rfl⟩ : ∃ xs ys, ss = xs ++ ys ∧ body = (source xs).length ∧
        body' = (guarded xs).length := by
      cases halike with
      | found hss => exact ⟨_, _, hss, rfl, rfl⟩
    refine ⟨w.map .char ++ xs, ys, by simp, by simp [hwidth]; omega, ?_⟩
    have hw' : front opener { shape with width := (guarded (w.map .char ++ xs)).length + 1 } = '{' :: w := hw
    refine read_eq_some_iff.2 ⟨(opener, closer), hpair, guarded (xs ++ ys), (guarded xs).length, ?_, hname,
      hends.trans hend, hguarded, ?_⟩
    · rw [hw']
      simp
    · rw [hw']
      simp
      omega

/-- A tag that is read in the text with markers is one of the text. -/
theorem isSome_read_of_guarded {ss : List Sign} (hss : Placed AtBreak '{' ss)
    (h : (read ('{' :: guarded ss)).isSome = true) : (read ('{' :: source ss)).isSome = true := by
  obtain ⟨shape, hshape⟩ := Option.isSome_iff_exists.1 h
  obtain ⟨⟨opener, closer⟩, hpair, rest, body, heq, hname, hend, hbody, hwidth⟩ :=
    read_eq_some_iff.1 hshape
  obtain ⟨w, hw⟩ := exists_front_eq hpair shape
  simp only [hw, List.cons_append, List.cons.injEq, true_and] at heq
  obtain ⟨ss, rfl, rfl⟩ := exists_of_guarded_eq_front hpair hname hw heq
  obtain ⟨p, hp, hplaced⟩ := placed_behind_front hpair hname hw hss
  have halike := alike_bodyWidth hpair hplaced (q := none) (by simp [QuoteBehind]) 0
  rw [hbody] at halike
  cases hsource : bodyWidth closer 0 none (source ss) with
  | none =>
    rw [hsource] at halike
    cases halike
  | some body' =>
    have hends := nameEnds_guarded hpair hp hplaced (by simp [hsource])
    have hw' : front opener { shape with width := (front opener shape).length + body' } = '{' :: w := hw
    have hread : read ('{' :: source (w.map .char ++ ss)) =
        some { shape with width := (front opener shape).length + body' } := by
      refine read_eq_some_iff.2 ⟨(opener, closer), hpair, source ss, body', ?_, hname,
        hends.symm.trans hend, hsource, ?_⟩
      · rw [hw']
        simp
      · rw [hw', hw]
    rw [hread]
    rfl

/-! ## The tags of a text -/

/-- The characters of some signs in the text, each with whether a tag may begin there. -/
def exposedSource (zs : List (Sign × Bool)) : List (Char × Bool) :=
  zs.flatMap fun z => z.1.source.map (·, z.2)

/-- The characters of some signs in the text with markers, each with whether a tag may begin there. -/
def exposedGuarded (zs : List (Sign × Bool)) : List (Char × Bool) :=
  zs.flatMap fun z => z.1.guarded.map (·, z.2)

theorem map_fst_exposedSource (zs : List (Sign × Bool)) :
    (exposedSource zs).map Prod.fst = source (zs.map Prod.fst) := by
  simp [exposedSource, source, List.map_flatMap, List.flatMap_map, Function.comp_def]

theorem map_fst_exposedGuarded (zs : List (Sign × Bool)) :
    (exposedGuarded zs).map Prod.fst = guarded (zs.map Prod.fst) := by
  simp [exposedGuarded, guarded, List.map_flatMap, List.flatMap_map, Function.comp_def]

/-- The same tags are found in the text and in the text with markers. -/
theorem namesFrom_exposedGuarded (tax : Taxonomy) {p : Char} {zs : List (Sign × Bool)}
    (hflag : ∀ z ∈ zs, z.2 = true → z.1 = .char '{') (hzs : Placed AtBreak p (zs.map Prod.fst)) :
    Transition.namesFrom tax 0 (exposedGuarded zs) = Transition.namesFrom tax 0 (exposedSource zs) := by
  -- on the number of signs, since a tag takes many
  induction hn : zs.length using Nat.strong_induction_on generalizing p zs with
  | _ n ih =>
    cases zs with
    | nil => rfl
    | cons z zs =>
      obtain ⟨s, e⟩ := z
      rw [List.length_cons] at hn
      rw [List.forall_mem_cons] at hflag
      have hall : Placed AtBreak p ([s] ++ zs.map Prod.fst) := hzs
      obtain ⟨q, hq⟩ := hall.right
      have hrest := ih zs.length (by omega) hflag.2 hq rfl
      have hsource : exposedSource ((s, e) :: zs) = s.source.map (·, e) ++ exposedSource zs := rfl
      have hguarded : exposedGuarded ((s, e) :: zs) = s.guarded.map (·, e) ++ exposedGuarded zs := rfl
      rw [hsource, hguarded]
      cases e with
      | false => rw [Transition.namesFrom_shut_append, Transition.namesFrom_shut_append, hrest]
      | true =>
        obtain rfl : s = .char '{' := hflag.1 rfl
        have hplaced : Placed AtBreak '{' (zs.map Prod.fst) := placed_char.1 hzs
        simp only [Sign.source, Sign.guarded, List.map_cons, List.map_nil, List.singleton_append,
          Transition.namesFrom, if_true, map_fst_exposedSource, map_fst_exposedGuarded]
        cases hread : read ('{' :: source (zs.map Prod.fst)) with
        | none =>
          have hnone : read ('{' :: guarded (zs.map Prod.fst)) = none := by
            by_contra hsome
            have hback := isSome_read_of_guarded hplaced (Option.isSome_iff_ne_none.2 hsome)
            rw [hread] at hback
            exact absurd hback (by decide)
          rw [hnone]
          exact hrest
        | some shape =>
          obtain ⟨xs, ys, hsplit, hwidth, hshape⟩ := read_guarded_of_read hplaced hread
          obtain ⟨zx, zy, rfl, rfl, rfl⟩ := List.map_eq_append_iff.1 hsplit
          rw [List.map_append] at hq
          obtain ⟨q', hq'⟩ := hq.right
          have hlater := ih zy.length (by rw [List.length_append] at hn; omega)
            (fun z hz => hflag.2 z (List.mem_append_right _ hz)) hq' rfl
          have hsource : shape.width - 1 = (exposedSource zx).length := by
            rw [hwidth, ← map_fst_exposedSource, List.length_map, Nat.add_sub_cancel]
          have hguarded : (guarded (zx.map Prod.fst)).length + 1 - 1 = (exposedGuarded zx).length := by
            rw [← map_fst_exposedGuarded, List.length_map, Nat.add_sub_cancel]
          have hzx : exposedSource (zx ++ zy) = exposedSource zx ++ exposedSource zy :=
            List.flatMap_append
          have hzx' : exposedGuarded (zx ++ zy) = exposedGuarded zx ++ exposedGuarded zy :=
            List.flatMap_append
          simp only [hshape]
          rw [hsource, hguarded, hzx, hzx', Transition.namesFrom_length_append,
            Transition.namesFrom_length_append, hlater]

def Sign.isBrace : Sign → Bool
  | .char c => c == '{'
  | .mark _ _ => false

namespace MarkedAtom

/-- The signs of a marked unit, each with whether a tag may begin there. -/
def exposed : MarkedAtom → List (Sign × Bool)
  | .plain c => [(.char c, c == '{')]
  | .literal kind ss => ss.map fun s => (s, s.isBrace && !kind.hidesTags)
  | .mark side g => [(.mark side g, false)]

theorem map_fst_exposed (m : MarkedAtom) : m.exposed.map Prod.fst = m.signs := by
  cases m with
  | plain c => rfl
  | literal kind ss => simp [exposed, Function.comp_def]
  | mark side g => rfl

theorem exposed_brace {m : MarkedAtom} {z : Sign × Bool} (hz : z ∈ m.exposed) (h : z.2 = true) :
    z.1 = .char '{' := by
  cases m with
  | plain c =>
    obtain rfl : z = (.char c, c == '{') := by simpa [exposed] using hz
    simpa using h
  | literal kind ss =>
    obtain ⟨s, -, rfl⟩ := List.mem_map.1 hz
    have hbrace : s.isBrace = true := (Bool.and_eq_true_iff.1 h).1
    cases s with
    | char c => simpa [Sign.isBrace] using hbrace
    | mark side g => exact absurd hbrace Bool.false_ne_true
  | mark side g =>
    obtain rfl : z = (.mark side g, false) := by simpa [exposed] using hz
    exact absurd h Bool.false_ne_true

theorem map_brace_of_not_mem {w : Text} (hw : '{' ∉ w) (b : Bool) :
    w.map (fun c => (c, c == '{' && b)) = w.map (·, false) := by
  refine List.map_congr_left fun c hc => ?_
  have hne : c ≠ '{' := by
    rintro rfl
    exact hw hc
  simp [hne]

/-- What markers take the place of begins no tag. -/
theorem exposedSource_exposed {m : MarkedAtom}
    (h : ∀ side g, .mark side g ∈ m.signs → ∀ c ∈ g, c = '\t' ∨ c = ' ') :
    exposedSource m.exposed = Atom.exposed m.atoms := by
  have hbrace {side : Side} {g : Text} (hmem : .mark side g ∈ m.signs) : '{' ∉ g := by
    intro hc
    exact absurd (h side g hmem _ hc) (by decide)
  cases m with
  | plain c => rfl
  | literal kind ss =>
    rw [atoms_literal, Atom.exposed_literal, exposed, exposedSource, List.flatMap_map, source,
      List.map_flatMap]
    refine Eq.trans (List.flatMap_congr fun s hs => ?_) (List.append_nil _).symm
    cases s with
    | char c => rfl
    | mark side g =>
      rw [Sign.source, map_brace_of_not_mem (hbrace hs)]
      rfl
  | mark side g =>
    have hg := map_brace_of_not_mem (hbrace List.mem_cons_self) true
    simp only [Bool.and_true] at hg
    rw [atoms_mark, Atom.exposed, List.flatMap_map]
    simp only [exposedSource, exposed, List.flatMap_cons, List.flatMap_nil, List.append_nil, Sign.source]
    rw [← hg]
    exact List.map_eq_flatMap

/-- Markers begin no tag. -/
theorem exposedGuarded_exposed (m : MarkedAtom) :
    exposedGuarded m.exposed = Atom.exposed m.guardedAtoms := by
  have hbrace (side : Side) : '{' ∉ side.marker := by
    intro hc
    exact absurd (side.inert_of_mem _ hc) (by decide)
  cases m with
  | plain c => rfl
  | literal kind ss =>
    rw [guardedAtoms_literal, Atom.exposed_literal, exposed, exposedGuarded, List.flatMap_map, guarded,
      List.map_flatMap]
    refine Eq.trans (List.flatMap_congr fun s hs => ?_) (List.append_nil _).symm
    cases s with
    | char c => rfl
    | mark side g =>
      rw [Sign.guarded, map_brace_of_not_mem (hbrace side)]
      rfl
  | mark side g =>
    rw [guardedAtoms_mark, Atom.exposed_literal, map_brace_of_not_mem (hbrace side)]
    rfl

end MarkedAtom

/-- The places at which a marker may change how a text is read. -/
def frailPlaces (d : Dialect) (t : Text) : List Nat :=
  barredPlaces frail 0 (Atom.stream d t)

end IgnoreMarker

namespace Reindenter

open IgnoreMarker

/-- Markers at places that are not frail show and hide no tag. -/
theorem tagNames_protect (r : Reindenter) (d : Dialect) {t : Text}
    (h : ∀ n ∈ markerPlaces t, n ∉ frailPlaces d t) :
    r.tagNames d (protect t).text = r.tagNames d t := by
  have hplaced := placed_signs t '\n'
  obtain ⟨ms, hsigns, hatoms, hstream, -⟩ := exists_clear (fun _ _ _ => id) h
  rw [← hsigns] at hplaced
  have hexposed : exposedSource (ms.flatMap (·.exposed)) = Atom.exposed (ms.flatMap (·.atoms)) := by
    rw [exposedSource, Atom.exposed, List.flatMap_assoc, List.flatMap_assoc]
    refine List.flatMap_congr fun m hm => MarkedAtom.exposedSource_exposed fun side g hmem => ?_
    obtain ⟨xs, ys, hsplit⟩ := List.append_of_mem (List.mem_flatMap.2 ⟨m, hm, hmem⟩)
    rw [hsplit] at hplaced
    exact hplaced.dropped
  have hexposed' : exposedGuarded (ms.flatMap (·.exposed)) = Atom.exposed (ms.flatMap (·.guardedAtoms)) := by
    rw [exposedGuarded, Atom.exposed, List.flatMap_assoc, List.flatMap_assoc]
    exact List.flatMap_congr fun m _ => m.exposedGuarded_exposed
  have hmap : (ms.flatMap (·.exposed)).map Prod.fst = ms.flatMap (·.signs) := by
    rw [List.map_flatMap]
    exact List.flatMap_congr fun m _ => m.map_fst_exposed
  rw [tagNames_eq_namesFrom, tagNames_eq_namesFrom, ← hstream, ← hatoms, ← hexposed, ← hexposed']
  refine namesFrom_exposedGuarded r.taxonomy (fun z hz => ?_) (hmap ▸ hplaced.atBreak)
  obtain ⟨m, -, hz⟩ := List.mem_flatMap.1 hz
  exact MarkedAtom.exposed_brace hz

/-- Markers inside a script that is kept as it is, and around the tags of one that is not. -/
theorem tagNames_protect_scripts :
    let r : Reindenter := { taxonomy := .default, unit := [' ', ' '] }
    let t := ("<script type=\"text/template\">\n  \x7bif $a\x7d\n</script>\n" ++
      "<script>\n  \x7bif $b\x7dx\x7b/if\x7d\n</script>").toList
    (protect t).changed = true ∧ (∀ n ∈ markerPlaces t, n ∉ frailPlaces .single t) ∧
      r.tagNames .single (protect t).text = r.tagNames .single t := by
  intro r t
  have hplaces : ∀ n ∈ markerPlaces t, n ∉ frailPlaces .single t := by decide +kernel
  exact ⟨by decide +kernel, hplaces, tagNames_protect r .single hplaces⟩

/-- Not every text without markers keeps its tags: here the marker in front of the second line of the
comment ends it, so that the tag in the comment counts. -/
theorem tagNames_protect_shows_tag :
    ¬ ∀ (r : Reindenter) (d : Dialect) (t : Text), (∀ s ∈ t.tails, marker? s = none) →
      r.tagNames d (protect t).text = r.tagNames d t := by
  intro h
  have hsame := h { taxonomy := .default, unit := [] } .single
    "<script>\n/* c\n\x7bif $a\x7d\n*/\n</script>\nx".toList (by decide +kernel)
  exact absurd hsame (by decide +kernel)

end Reindenter

end SmartyLayout
