import SmartyLayout.Proofs.Grammar
import SmartyLayout.Proofs.Reflow
import SmartyLayout.Proofs.Signs

/-!
# SmartyLayout.Proofs.MarkedLiterals — markers open no literals

Markers are put into a text before its literals are read. No literal opens at a character of the text
because of the markers behind it, unless it is a style comment (`at?_guarded_eq_none`): comments,
strings and elements need marks that no marker holds. Each search is followed on a list of signs, on
which the text and the text with markers can be cut at the same places.
-/

namespace SmartyLayout

namespace IgnoreMarker

open Text Literal

/-! ## Characters that mean nothing -/

/-- The character is no mark of a string, of a tag or of an element, and ends no line. -/
def inert (c : Char) : Bool :=
  !(['"', '\x60', '\x27', '\\', '<', '>', '\n', '{', '}', '='].contains c)

theorem Side.inert_of_mem {side : Side} : ∀ c ∈ side.marker, inert c = true := by
  cases side with
  | start => exact forall_mem_of_all (by decide)
  | stop => exact forall_mem_of_all (by decide)

/-- A marker is a slash and inert characters. -/
theorem Side.exists_marker_eq (side : Side) :
    ∃ tail, side.marker = '/' :: tail ∧ ∀ c ∈ tail, inert c = true := by
  obtain ⟨inner, heq, -⟩ := side.marker_eq
  refine ⟨_, heq, fun c hc => side.inert_of_mem c ?_⟩
  rw [heq]
  exact List.mem_cons_of_mem _ hc

theorem inert_of_indent {g : Text} (hg : ∀ c ∈ g, c = '\t' ∨ c = ' ') : ∀ c ∈ g, inert c = true := by
  intro c hc
  rcases hg c hc with rfl | rfl <;> decide

theorem isBlank_of_indent {g : Text} (hg : ∀ c ∈ g, c = '\t' ∨ c = ' ') :
    ∀ c ∈ g, isBlank c = true := by
  intro c hc
  rcases hg c hc with rfl | rfl <;> decide

/-- The text before a character that is neither blank nor of a marker. -/
theorem mem_guarded_of_mem_source {atEnd : List Sign → Prop} {p c : Char} {ss : List Sign}
    (hss : Placed atEnd p ss) (hc : c ≠ '\t' ∧ c ≠ ' ') (h : c ∈ source ss) : c ∈ guarded ss := by
  obtain ⟨u, v, huv⟩ := List.append_of_mem h
  obtain ⟨xs, ys, rfl, -, -⟩ := exists_of_source_eq_append_cons hss hc huv
  simp

/-! ## Comments -/

/-- The opener and the closer of a comment other than a style comment. -/
def IsMarkPair (d : Dialect) (p : Text × Text) : Prop :=
  p = d.commentPair ∨ p = ("<!--".toList, "-->".toList)

theorem IsMarkPair.facts {d : Dialect} {p : Text × Text} (hp : IsMarkPair d p) :
    ∃ e opener, p.1 = e :: opener ∧ '/' ∉ opener ∧ '/' ∉ p.2 ∧ ∀ side : Side, ¬ p.2 <:+: side.marker := by
  have hmarker {w : Text} {c : Char} (hc : c ∈ w) (hside : ∀ side : Side, c ∉ side.marker) (side : Side) :
      ¬ w <:+: side.marker := fun h => hside side (h.subset hc)
  have hbrace : ∀ side : Side, '}' ∉ side.marker := by
    intro side hmem
    exact absurd (side.inert_of_mem _ hmem) (by decide)
  have hangle : ∀ side : Side, '>' ∉ side.marker := by
    intro side hmem
    exact absurd (side.inert_of_mem _ hmem) (by decide)
  rcases hp with rfl | rfl
  · cases d
    · exact ⟨'{', ['*'], rfl, by decide, by decide, hmarker (by decide) hbrace⟩
    · exact ⟨'{', ['{', '*'], rfl, by decide, by decide, hmarker (by decide) hbrace⟩
  · exact ⟨'<', ['!', '-', '-'], rfl, by decide, by decide, hmarker (by decide) hangle⟩

theorem isSome_enclosed?_source {d : Dialect} {p : Text × Text} (hp : IsMarkPair d p) {c : Char}
    {ss : List Sign} (h : (enclosed? p.1 p.2 (c :: guarded ss)).isSome = true) :
    (enclosed? p.1 p.2 (c :: source ss)).isSome = true := by
  obtain ⟨e, opener, hopener, hslash, hcloser, hmarker⟩ := hp.facts
  obtain ⟨rest, heq, hin⟩ := isSome_enclosed?_iff.1 h
  rw [hopener, List.cons_append, List.cons.injEq] at heq
  obtain ⟨rfl, heq⟩ := heq
  obtain ⟨ss', rfl, rfl⟩ := exists_of_guarded_eq_append hslash heq
  obtain ⟨xs, ys, rfl⟩ := exists_of_infix_guarded hcloser hmarker hin
  refine isSome_enclosed?_iff.2 ⟨source (xs ++ (p.2.map .char ++ ys)), by simp [hopener], ?_⟩
  exact ⟨source xs, source ys, by simp⟩

/-! ## Strings -/

theorem inert_facts {q : Quote} (hq : q ∈ [doubleQuote, backQuote, singleQuote]) {c : Char}
    (hc : inert c = true) : c ≠ q.mark ∧ c ≠ '\\' ∧ q.bars c = false ∧ q.escapes c = true := by
  have hne : ∀ e, inert e = false → c ≠ e := by
    rintro e he rfl
    rw [hc] at he
    exact absurd he (by decide)
  simp only [List.mem_cons, List.not_mem_nil, or_false] at hq
  rcases hq with rfl | rfl | rfl
  · exact ⟨hne _ (by decide), hne _ (by decide),
      by simp [doubleQuote, hne '<' (by decide), hne '>' (by decide)], rfl⟩
  · exact ⟨hne _ (by decide), hne _ (by decide), rfl, rfl⟩
  · exact ⟨hne _ (by decide), hne _ (by decide), by simp [singleQuote, hne '\n' (by decide)],
      by simp [singleQuote, hne '\n' (by decide)]⟩

/-- A string does not see what means nothing. -/
theorem isSome_closing?_append {q : Quote} (hq : q ∈ [doubleQuote, backQuote, singleQuote]) {g : Text}
    (hg : ∀ c ∈ g, inert c = true) (t : Text) :
    (q.closing? (g ++ t)).isSome = (q.closing? t).isSome := by
  induction g with
  | nil => rfl
  | cons c g ih =>
    obtain ⟨hmark, hslash, hbar, -⟩ := inert_facts hq (hg c (by simp))
    rw [List.cons_append, q.closing?_cons hslash, if_neg hmark, hbar, if_neg (by decide),
      Option.isSome_map, ih fun e he => hg e (List.mem_cons_of_mem c he)]

theorem isSome_closing?_escaped {q : Quote} (c : Char) (t : Text) :
    (q.closing? ('\\' :: c :: t)).isSome = (q.escapes c && (q.closing? t).isSome) := by
  simp only [Quote.closing?]
  split
  · next h => simp [h]
  · next h => simp [h]

/-- A closing tag ends the search for a double quote. -/
theorem isSome_closing?_closeTag {word : Text} (rest : Text) (hword : IsElementName word) :
    (doubleQuote.closing? ('/' :: (word ++ '>' :: rest))).isSome = false := by
  have hletters : ∀ c ∈ word, inert c = true := by
    intro c hc
    have hfold : foldCase c ∈ "script".toList ∨ foldCase c ∈ "style".toList := by
      have hmem := List.mem_map_of_mem (f := foldCase) hc
      rcases hword with hword | hword
      · rw [hword] at hmem
        exact .inl hmem
      · rw [hword] at hmem
        exact .inr hmem
    have hmarks : ∀ e, inert e = false → foldCase e ∉ "script".toList ∧ foldCase e ∉ "style".toList := by
      intro e he
      simp only [inert, Bool.not_eq_false', List.contains_iff_mem, List.mem_cons, List.not_mem_nil,
        or_false] at he
      rcases he with rfl | rfl | rfl | rfl | rfl | rfl | rfl | rfl | rfl | rfl <;> decide
    by_contra hc
    have hnot := hmarks c (by simpa using hc)
    rcases hfold with hfold | hfold
    · exact hnot.1 hfold
    · exact hnot.2 hfold
  have hinert : ∀ c ∈ '/' :: word, inert c = true := by
    intro c hc
    rcases List.mem_cons.1 hc with rfl | hc
    · decide
    · exact hletters c hc
  have hskip := isSome_closing?_append (q := doubleQuote) (by simp) hinert ('>' :: rest)
  rw [List.cons_append] at hskip
  rw [hskip, doubleQuote.closing?_cons (by decide), if_neg (by decide), if_pos (by decide)]
  rfl

/-- Where a line ends it does not matter whether the break is escaped. -/
theorem isSome_closing?_escaped_break {q : Quote} (hq : q ∈ [doubleQuote, backQuote, singleQuote])
    {c : Char} {t : Text} (hc : c = '\n' ∨ c = '<')
    (htag : c = '<' → (doubleQuote.closing? t).isSome = false) :
    (q.closing? ('\\' :: c :: t)).isSome = (q.closing? (c :: t)).isSome := by
  have hbare : c ≠ '\\' ∧ c ≠ q.mark := by
    simp only [List.mem_cons, List.not_mem_nil, or_false] at hq
    rcases hq with rfl | rfl | rfl <;> rcases hc with rfl | rfl <;> decide
  rw [isSome_closing?_escaped, q.closing?_cons hbare.1, if_neg hbare.2]
  simp only [List.mem_cons, List.not_mem_nil, or_false] at hq
  rcases hc with rfl | rfl
  · rcases hq with rfl | rfl | rfl
    · simp [doubleQuote]
    · simp [backQuote]
    · simp [singleQuote]
  · rcases hq with rfl | rfl | rfl
    · rw [htag rfl]
      simp [doubleQuote]
    · simp [backQuote]
    · simp [singleQuote]

/-- A string closes in the text with markers just if it closes in the text, also if its first character
is escaped. `rest` is what stands behind the part that is looked at. -/
theorem isSome_closing?_guarded {q : Quote} (hq : q ∈ [doubleQuote, backQuote, singleQuote])
    {p : Char} {ss rest : List Sign} (hss : Placed AtLineEnd p (ss ++ rest)) :
    (q.closing? (guarded ss)).isSome = (q.closing? (source ss)).isSome ∧
      (p = '\\' → (q.closing? ('\\' :: guarded ss)).isSome = (q.closing? ('\\' :: source ss)).isSome) := by
  induction ss generalizing p with
  | nil => exact ⟨rfl, fun _ => rfl⟩
  | cons s ss ih =>
    cases s with
    | char c =>
      obtain ⟨hplain, hescaped⟩ := ih (placed_char.1 hss)
      constructor
      · rw [guarded_char, source_char]
        by_cases hc : c = '\\'
        · subst hc
          exact hescaped rfl
        · rw [q.closing?_cons hc, q.closing?_cons hc]
          split
          · rfl
          · split
            · rfl
            · simpa using hplain
      · intro _
        rw [guarded_char, source_char, isSome_closing?_escaped, isSome_closing?_escaped, hplain]
    | mark side g =>
      have hmarker := isSome_closing?_append hq side.inert_of_mem (guarded ss)
      cases side with
      | start =>
        obtain ⟨hp, hg, hss⟩ := hss
        constructor
        · rw [guarded_mark, hmarker, source_mark, isSome_closing?_append hq (inert_of_indent hg)]
          exact (ih hss).1
        · -- a line begins behind a break or a tag, so no escape stands in front
          rintro rfl
          rcases hp with hp | hp
          · exact absurd hp (by decide)
          · exact absurd hp (by decide)
      | stop =>
        obtain ⟨rfl, hend, hss⟩ := hss
        refine ⟨by rw [guarded_mark, hmarker]; exact (ih hss).1, ?_⟩
        intro _
        -- the escape falls on the slash of the marker, instead of on the break behind it
        obtain ⟨tail, heq, hinert⟩ := Side.stop.exists_marker_eq
        have hslash : q.escapes '/' = true := (inert_facts hq (by decide)).2.2.2
        rw [guarded_mark, heq, List.cons_append, isSome_closing?_escaped, hslash, Bool.true_and,
          isSome_closing?_append hq hinert, (ih hss).1, source_mark, List.nil_append]
        cases ss with
        | nil => simp [Quote.closing?, Ne.symm (mark_facts q hq).1]
        | cons s ss =>
          rcases hend with ⟨later, hend⟩ | ⟨word, later, hword, hend⟩
          · obtain rfl : s = .char '\n' := (List.cons.inj hend).1
            exact (isSome_closing?_escaped_break hq (.inl rfl) (fun h => absurd h (by decide))).symm
          · obtain rfl : s = .char '<' := (List.cons.inj hend).1
            rw [source_char]
            refine (isSome_closing?_escaped_break hq (.inr rfl) fun _ => ?_).symm
            -- if a double quote closed behind the tag, it would also do so with the rest at hand
            have hall : source ss ++ source rest = '/' :: (word ++ '>' :: source later) := by
              have hsource := congrArg source (List.cons.inj hend).2
              simpa using hsource
            by_contra hsome
            rw [Bool.not_eq_false] at hsome
            obtain ⟨n, hn⟩ := Option.isSome_iff_exists.1 hsome
            have hlong := (Quote.closing?_local (q := doubleQuote) (by decide)).find_append hn (source rest)
            rw [hall] at hlong
            have hnone := isSome_closing?_closeTag (source later) hword
            rw [hlong] at hnone
            simp at hnone

/-! ## Elements -/

/-- The letters of a word that is read letter case aside are no marks of a comment. -/
theorem comment_free_of_fold {word name : Text} (h : word.map foldCase = name)
    (hname : ∀ c ∈ name, c.isAlpha = true ∨ c = '-') : ∀ c ∈ word, c ≠ '/' ∧ c ≠ '*' := by
  intro c hc
  have hfold := hname (foldCase c) (h ▸ List.mem_map_of_mem hc)
  constructor
  · rintro rfl
    exact absurd hfold (by decide)
  · rintro rfl
    exact absurd hfold (by decide)

/-- A slash that a letter follows is no slash of a marker. -/
theorem exists_of_guarded_eq_slash {ss : List Sign} {c : Char} {rest : Text} (hc : c ≠ '*')
    (h : guarded ss = '/' :: c :: rest) : ∃ ss', ss = .char '/' :: ss' ∧ guarded ss' = c :: rest := by
  cases ss with
  | nil => simp at h
  | cons s ss =>
    cases s with
    | char e =>
      rw [guarded_char, List.cons.injEq] at h
      exact ⟨ss, by rw [h.1], h.2⟩
    | mark side g =>
      obtain ⟨inner, heq, -⟩ := side.marker_eq
      rw [guarded_mark, heq, List.cons_append, List.cons_append, List.cons.injEq, List.cons.injEq] at h
      exact absurd h.2.1.symm hc

/-- A closing tag in the text with markers stands in the text. -/
theorem exists_isCloseTag_source {name : Text} (hne : name ≠ [])
    (hname : ∀ c ∈ name, c.isAlpha = true ∨ c = '-') {ss : List Sign}
    (h : ∃ close, IsCloseTag name close ∧ close <:+: guarded ss) :
    ∃ close, IsCloseTag name close ∧ close <:+: source ss := by
  obtain ⟨_, ⟨word, blanks, rfl, hword, hblanks⟩, before, after, heq⟩ := h
  have hletters := comment_free_of_fold hword hname
  obtain ⟨c, word, rfl⟩ : ∃ c word', word = c :: word' :=
    List.exists_cons_of_ne_nil (by rintro rfl; exact hne hword.symm)
  have hsplit : guarded ss =
      before ++ '<' :: '/' :: c :: (word ++ (blanks ++ '>' :: after)) := by
    rw [← heq]
    simp
  obtain ⟨xs, ys, rfl, -, hys⟩ := exists_of_guarded_eq_append_cons
    (fun side hmem => absurd (side.inert_of_mem _ hmem) (by decide)) hsplit
  -- a letter follows the slash, and a star would follow that of a marker
  obtain ⟨zs, rfl, hzs⟩ := exists_of_guarded_eq_slash (hletters c (by simp)).2 hys
  have hslash : '/' ∉ c :: word ++ (blanks ++ ['>']) := by
    intro hmem
    simp only [List.cons_append, List.mem_cons, List.mem_append, List.not_mem_nil, or_false] at hmem
    rcases hmem with hmem | hmem | hmem | hmem
    · exact (hletters c (by simp)).1 hmem.symm
    · exact (hletters '/' (by simp [hmem])).1 rfl
    · exact absurd (blank_iff.1 hblanks _ hmem) (by decide)
    · exact absurd hmem (by decide)
  have hrest : guarded zs = (c :: word ++ (blanks ++ ['>'])) ++ after := by
    rw [hzs]
    simp
  obtain ⟨tail, rfl, -⟩ := exists_of_guarded_eq_append hslash hrest
  refine ⟨_, ⟨c :: word, blanks, rfl, hword, hblanks⟩, source xs, source tail, ?_⟩
  simp

/-- What ends a word in the text with markers ends it in the text. -/
theorem atWordEnd_source {p : Char} (hp : p ≠ '\n' ∧ p ≠ '>') {ss : List Sign}
    (hss : Placed AtBreak p ss) (h : atWordEnd (guarded ss) = true) : atWordEnd (source ss) = true := by
  cases ss with
  | nil => rfl
  | cons s ss =>
    cases s with
    | char c => exact h
    | mark side g =>
      cases side with
      | start =>
        rcases hss.1 with heq | heq
        · exact absurd heq hp.1
        · exact absurd heq hp.2
      | stop =>
        obtain ⟨rfl, hend, -⟩ := hss
        rcases hend with rfl | ⟨c, rest, rfl, rfl | rfl⟩
        · rfl
        · rfl
        · rfl

/-- An attribute that names a template type in the text with markers names it in the text. -/
theorem templateTypeAt_source {p : Char} {ss : List Sign} (hss : Placed AtBreak p ss)
    (h : templateTypeAt (guarded ss) = true) : templateTypeAt (source ss) = true := by
  obtain ⟨key, blanks, blanks', quote, value, kind, rest, heq, hkey, hblanks, hblanks', hquote, hvalue,
    hkind, hend⟩ := templateTypeAt_iff.1 h
  have hkinds : ∀ name ∈ templateTypes, name ≠ [] := by decide
  have hkindLetters : ∀ c ∈ templateTypes.flatten, c.isAlpha = true ∨ c = '-' :=
    forall_mem_of_all (by decide)
  have hkindName : ∀ c ∈ kind.map foldCase, c.isAlpha = true ∨ c = '-' :=
    fun c hc => hkindLetters c (List.mem_flatten_of_mem hkind hc)
  have hletters := comment_free_of_fold rfl hkindName
  obtain ⟨front, slash, rfl, hfront, hslash⟩ : ∃ front slash, value = front ++ [slash] ∧
      front.map foldCase = "text".toList ∧ foldCase slash = '/' := by
    have htext : "text/".toList = "text".toList ++ ['/'] := by decide
    rw [htext] at hvalue
    obtain ⟨front, last, rfl, hfront, hlast⟩ := List.map_eq_append_iff.1 hvalue
    obtain ⟨slash, rfl, hslash⟩ := List.map_eq_singleton_iff.1 hlast
    exact ⟨front, slash, rfl, hfront, hslash⟩
  obtain ⟨k, kind', rfl⟩ : ∃ k kind', kind = k :: kind' := by
    refine List.exists_cons_of_ne_nil ?_
    rintro rfl
    exact hkinds _ hkind rfl
  -- everything in front of the slash holds no slash
  have hw : '/' ∉ key ++ (blanks ++ '=' :: (blanks' ++ (quote ++ front))) := by
    intro hmem
    simp only [List.mem_append, List.mem_cons] at hmem
    rcases hmem with hmem | hmem | hmem | hmem | hmem | hmem
    · exact (comment_free_of_fold hkey (forall_mem_of_all (by decide)) _ hmem).1 rfl
    · exact absurd (blank_iff.1 hblanks _ hmem) (by decide)
    · exact absurd hmem (by decide)
    · exact absurd (blank_iff.1 hblanks' _ hmem) (by decide)
    · simp only [typeQuotes, List.mem_cons, List.not_mem_nil, or_false] at hquote
      rcases hquote with rfl | rfl | rfl <;> simp at hmem
    · exact (comment_free_of_fold hfront (forall_mem_of_all (by decide)) _ hmem).1 rfl
  have hsplit : guarded ss = (key ++ (blanks ++ '=' :: (blanks' ++ (quote ++ front)))) ++
      slash :: k :: (kind' ++ rest) := by
    rw [heq]
    simp
  -- up to the slash, the slash itself, and the name of the type behind it
  obtain ⟨ss₁, rfl, hss₁⟩ := exists_of_guarded_eq_append hw hsplit
  obtain ⟨ss₂, rfl, hss₂⟩ : ∃ ss₂, ss₁ = .char slash :: ss₂ ∧ guarded ss₂ = k :: (kind' ++ rest) := by
    by_cases hs : slash = '/'
    · subst hs
      exact exists_of_guarded_eq_slash (hletters k (by simp)).2 hss₁
    · have hone : '/' ∉ [slash] := by simpa using Ne.symm hs
      obtain ⟨ss₂, rfl, hss₂⟩ := exists_of_guarded_eq_append hone hss₁
      exact ⟨ss₂, rfl, hss₂⟩
  have hkindFree : '/' ∉ k :: kind' := fun hmem => (hletters _ hmem).1 rfl
  obtain ⟨ss₃, rfl, rfl⟩ := exists_of_guarded_eq_append hkindFree hss₂
  refine templateTypeAt_iff.2 ⟨key, blanks, blanks', quote, front ++ [slash], k :: kind', source ss₃,
    by simp, hkey, hblanks, hblanks', hquote, hvalue, hkind, ?_⟩
  have hplaced := (hss.of_append_char).of_map_append
  refine atWordEnd_source ?_ hplaced hend
  have hlast : (k :: kind').getLastD slash ∈ k :: kind' := by
    rw [List.getLastD_cons]
    exact List.getLastD_mem_cons
  have hfacts := fold_facts rfl (fun c hc => (hkindName c hc).imp id .inr) _ hlast
  refine ⟨?_, hfacts.2.2.2.2.2.2⟩
  intro hbreak
  rw [hbreak] at hfacts
  exact absurd hfacts.1 (by decide)

/-- An attribute that names a type begins with the letters `ty`. -/
theorem head_of_templateTypeAt {c : Char} {t : Text} (h : templateTypeAt (c :: t) = true) :
    foldCase c = 't' ∧ ∃ e t', t = e :: t' ∧ foldCase e = 'y' := by
  obtain ⟨key, blanks, blanks', quote, value, kind, rest, heq, hkey, -⟩ := templateTypeAt_iff.1 h
  have htype : "type".toList = ['t', 'y', 'p', 'e'] := by decide
  rw [htype] at hkey
  cases key with
  | nil => simp at hkey
  | cons c' key =>
    rw [List.cons_append, List.cons.injEq] at heq
    obtain ⟨rfl, rfl⟩ := heq
    cases key with
    | nil => simp at hkey
    | cons e key =>
      simp only [List.map_cons, List.cons.injEq] at hkey
      exact ⟨hkey.1, e, _, rfl, hkey.2.1⟩

/-- No attribute begins in a marker, and a marker ends with no letter. -/
theorem namesTemplateType_marker_append (side : Side) (inWord : Bool) (t : Text) :
    namesTemplateType inWord (side.marker ++ t) = namesTemplateType false t := by
  have hskip {m : Text} (hm : m.IsChain fun c e => ¬ (foldCase c = 't' ∧ foldCase e = 'y'))
      (hlast : ∀ c ∈ m.getLast?, foldCase c ≠ 't' ∧ isWord c = false) (hne : m ≠ []) (inWord : Bool) :
      namesTemplateType inWord (m ++ t) = namesTemplateType false t := by
    induction m generalizing inWord with
    | nil => exact absurd rfl hne
    | cons c m ih =>
      have hnone : templateTypeAt (c :: (m ++ t)) = false := by
        by_contra hsome
        obtain ⟨hc, e, t', heq, he⟩ := head_of_templateTypeAt (by simpa using hsome)
        cases m with
        | nil => exact (hlast c (by simp)).1 hc
        | cons e' m =>
          rw [List.cons_append, List.cons.injEq] at heq
          rw [← heq.1] at he
          exact (List.isChain_cons_cons.1 hm).1 ⟨hc, he⟩
      rw [List.cons_append, namesTemplateType, hnone, Bool.and_false, Bool.false_or]
      cases m with
      | nil => rw [(hlast c (by simp)).2, List.nil_append]
      | cons e m =>
        refine ih (List.isChain_cons_cons.1 hm).2 ?_ (by simp) _
        simpa using hlast
  have hlast : ∀ c ∈ side.marker.getLast?, foldCase c ≠ 't' ∧ isWord c = false := by
    obtain ⟨inner, hmarker, -⟩ := side.marker_eq
    have hslash : side.marker = ('/' :: '*' :: (inner ++ ['*'])) ++ ['/'] := by simp [hmarker]
    rw [hslash, List.getLast?_concat]
    rintro c ⟨⟩
    decide
  cases side with
  | start => exact hskip (by decide) hlast (by decide) inWord
  | stop => exact hskip (by decide) hlast (by decide) inWord

/-- The attributes that make a script a template in the text with markers do so in the text. -/
theorem namesTemplateType_source {p : Char} {inWord : Bool} (hword : p = '\n' ∨ p = '>' → inWord = false)
    {ss : List Sign} (hss : Placed AtBreak p ss) (h : namesTemplateType inWord (guarded ss) = true) :
    namesTemplateType inWord (source ss) = true := by
  induction ss generalizing p inWord with
  | nil => exact h
  | cons s ss ih =>
    cases s with
    | char c =>
      rw [source_char, namesTemplateType, Bool.or_eq_true, Bool.and_eq_true]
      rw [guarded_char, namesTemplateType, Bool.or_eq_true, Bool.and_eq_true] at h
      rcases h with ⟨hflag, hhere⟩ | hlater
      · exact .inl ⟨hflag, templateTypeAt_source hss hhere⟩
      · refine .inr (ih ?_ (placed_char.1 hss) hlater)
        rintro (rfl | rfl) <;> rfl
    | mark side g =>
      rw [guarded_mark, namesTemplateType_marker_append] at h
      cases side with
      | start =>
        obtain ⟨hp, hg, hss⟩ := hss
        have hfalse : inWord = false := hword hp
        subst hfalse
        rw [source_mark, Reflowed.namesTemplateType_blank_append (isBlank_of_indent hg), ite_self]
        exact ih hword hss h
      | stop =>
        obtain ⟨rfl, hend, hss⟩ := hss
        have hrest := ih (fun _ => rfl) hss h
        -- the break behind the line ends a word in any case
        rcases hend with rfl | ⟨c, rest, rfl, hc⟩
        · simp [namesTemplateType] at hrest
        · have hnone : templateTypeAt (c :: source rest) = false := by
            by_contra hsome
            obtain ⟨hfold, -⟩ := head_of_templateTypeAt (by simpa using hsome)
            rcases hc with rfl | rfl
            · exact absurd hfold (by decide)
            · exact absurd hfold (by decide)
          rw [source_char, namesTemplateType, hnone, Bool.and_false, Bool.false_or] at hrest
          rw [source_mark, List.nil_append, source_char, namesTemplateType, hnone, Bool.and_false,
            Bool.false_or]
          exact hrest

theorem verbatimNames_facts {p : Text × (Text → Bool)} (hp : p ∈ verbatimNames) :
    p.1 ≠ [] ∧ (∀ c ∈ p.1, c.isAlpha = true ∨ c = '-') ∧
      (p.2 = namesTemplateType true ∨ p.2 = fun _ => true) := by
  simp only [verbatimNames, List.mem_cons, List.not_mem_nil, or_false] at hp
  rcases hp with rfl | rfl | rfl
  · exact ⟨by decide, forall_mem_of_all (by decide), .inl rfl⟩
  · exact ⟨by decide, forall_mem_of_all (by decide), .inr rfl⟩
  · exact ⟨by decide, forall_mem_of_all (by decide), .inr rfl⟩

theorem isSome_element?_source {p : Text × (Text → Bool)} (hp : p ∈ verbatimNames) {c : Char}
    {ss : List Sign} (hss : Placed AtBreak c ss)
    (h : (Literal.element? p.1 p.2 (c :: guarded ss)).isSome = true) :
    (Literal.element? p.1 p.2 (c :: source ss)).isSome = true := by
  obtain ⟨hne, hname, haccepts⟩ := verbatimNames_facts hp
  obtain ⟨word, attrs, content, heq, hword, hattrs, hend, haccept, hclose⟩ := isSome_element?_iff.1 h
  rw [List.cons.injEq] at heq
  obtain ⟨rfl, heq⟩ := heq
  have hletters := comment_free_of_fold hword hname
  obtain ⟨ss, rfl, hrest⟩ := exists_of_guarded_eq_append (fun hmem => (hletters _ hmem).1 rfl) heq
  obtain ⟨xs, ys, rfl, rfl, rfl⟩ := exists_of_guarded_eq_append_cons
    (fun side hmem => absurd (side.inert_of_mem _ hmem) (by decide)) hrest
  -- the tag is read behind the name, where no line begins
  have hbehind : word.getLastD '<' ≠ '\n' ∧ word.getLastD '<' ≠ '>' := by
    have hlast : word.getLastD '<' ∈ '<' :: word := List.getLastD_mem_cons
    rcases List.mem_cons.1 hlast with hlast | hlast
    · rw [hlast]
      decide
    · have hfacts := fold_facts hword (fun c hc => (hname c hc).imp id .inr) _ hlast
      refine ⟨?_, hfacts.2.2.2.2.2.2⟩
      intro hbreak
      rw [hbreak] at hfacts
      exact absurd hfacts.1 (by decide)
  have htag : Placed AtBreak (word.getLastD '<') (xs ++ [.char '>']) := by
    have hall : Placed AtBreak (word.getLastD '<') ((xs ++ [.char '>']) ++ ys) := by
      simpa using hss.of_map_append
    exact hall.left
  refine isSome_element?_iff.2 ⟨word, source xs, source ys, by simp, hword, ?_, ?_, ?_,
    exists_isCloseTag_source hne hname hclose⟩
  · intro hmem
    exact hattrs (mem_guarded_of_mem_source htag.left (by decide) hmem)
  · have hsource := atWordEnd_source hbehind htag (by simpa using hend)
    simpa using hsource
  · rcases haccepts with haccepts | haccepts
    · rw [haccepts] at haccept ⊢
      refine namesTemplateType_source ?_ htag.left haccept
      rintro (hbreak | hbreak)
      · exact absurd hbreak hbehind.1
      · exact absurd hbreak hbehind.2
    · rw [haccepts]

/-! ## All literals -/

/-- Markers open no literal at a character of the text, unless it is a style comment. -/
theorem at?_guarded_eq_none {d : Dialect} {c : Char} {ss rest : List Sign}
    (hss : Placed AtLineEnd c (ss ++ rest))
    (hstyle : c = '/' → ∀ more, ss = .char '*' :: more → ∀ side g, .mark side g ∉ ss)
    (h : at? d (c :: source ss) = none) : at? d (c :: guarded ss) = none := by
  have hbreak : Placed AtBreak c ss := hss.atBreak.left
  by_contra hnew
  have hsome : (at? d (c :: source ss)).isSome = true := by
    refine isSome_at?_mono (fun p hp hopen => ?_) (fun q hq hclose => ?_)
      (fun p hp => isSome_element?_source hp hbreak) (Option.isSome_iff_ne_none.2 hnew)
    · simp only [commentPairs, List.mem_cons, List.not_mem_nil, or_false] at hp
      rcases hp with hp | rfl | hp
      · exact isSome_enclosed?_source (.inl hp) hopen
      · obtain ⟨rest, heq, -⟩ := isSome_enclosed?_iff.1 hopen
        have hopener : "/*".toList = ['/', '*'] := by decide
        rw [hopener, List.cons_append, List.cons.injEq] at heq
        obtain ⟨more, hmore, -⟩ := exists_of_guarded_eq_append (by decide) heq.2
        have hnone := hstyle heq.1 more hmore
        -- a style comment that is opened here has no marker in it
        rw [eq_map_of_no_mark hnone, guarded_map] at hopen
        exact hopen
      · exact isSome_enclosed?_source (d := d) (.inr hp) hopen
    · rw [← (isSome_closing?_guarded hq hss).1]
      exact hclose
  rw [h] at hsome
  exact absurd hsome (by decide)

end IgnoreMarker

end SmartyLayout
