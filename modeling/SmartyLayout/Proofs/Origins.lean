import SmartyLayout.Proofs.Positions
import SmartyLayout.Proofs.Restoring
import SmartyLayout.Proofs.Signs

/-!
# SmartyLayout.Proofs.Origins — where the lines a printer sees come from

A printer complains about the text it was given, and the complaint has to be told in lines of the
source. Three things move lines about: logical lines of any height shrink to one placeholder, markup
keeps its height, and markers were put into the text before.

* `Shielded.shows`, by induction on how the items are made: every physical line the printer sees shows
  the source line that is kept for it;
* `lines_rows`: markers are put inside lines, so a text and its protected form have the same lines in
  the same order.
-/

namespace SmartyLayout

open Text

/-! ## Lines of logical lines -/

namespace LogicalLine

/-- The text above the line that follows the given ones. -/
def above (before : List LogicalLine) : Text :=
  before.flatMap fun l => l.text ++ ['\n']

/-- The physical line, from 1, on which the line that follows the given ones begins. -/
def firstLine (before : List LogicalLine) : Nat :=
  (above before).count '\n' + 1

theorem firstLine_pos (before : List LogicalLine) : 0 < firstLine before :=
  Nat.succ_pos _

theorem above_concat (before : List LogicalLine) (l : LogicalLine) :
    above (before ++ [l]) = above before ++ (l.text ++ ['\n']) := by
  rw [above, List.flatMap_append, List.flatMap_singleton]
  rfl

theorem firstLine_concat (before : List LogicalLine) (l : LogicalLine) :
    firstLine (before ++ [l]) = firstLine before + l.breaks + 1 := by
  rw [firstLine, above_concat, List.count_append, List.count_append, firstLine, breaks]
  simp only [List.count_cons_self, List.count_nil]
  omega

theorem lines_eq_flatMap_split (d : Dialect) (t : Text) :
    lines t = (split d t).flatMap fun l => lines l.text := by
  have hne : (split d t).map (·.text) ≠ [] := by
    simp [split, Atom.read]
  conv_lhs => rw [← unlines_split d t, lines_unlines hne, List.flatMap_map]

theorem length_flatMap_lines (before : List LogicalLine) :
    (before.flatMap fun l => lines l.text).length + 1 = firstLine before := by
  induction before using List.reverseRecOn with
  | nil => rfl
  | append_singleton before l ih =>
    rw [List.flatMap_append, List.flatMap_singleton, List.length_append, length_lines,
      firstLine_concat, ← ih, breaks]
    omega

/-- The physical lines of a logical line stand in the text from the line on which it begins. -/
theorem getElem?_lines_of_split {d : Dialect} {t : Text} {before after : List LogicalLine}
    {l : LogicalLine} (h : split d t = before ++ l :: after) {k : Nat}
    (hk : k < (lines l.text).length) :
    (lines t)[firstLine before - 1 + k]? = (lines l.text)[k]? := by
  have hlength := length_flatMap_lines before
  -- look past the lines above, and not beyond those of this logical line
  rw [lines_eq_flatMap_split d t, h, List.flatMap_append, List.flatMap_cons,
    List.getElem?_append_right (by omega), List.getElem?_append_left (by omega)]
  congr 1
  omega

end LogicalLine

open LogicalLine

/-! ## Shielded lines and where they come from -/

namespace Shield

theorem mem_origins_markup {line o : Nat} {t : Text} :
    o ∈ (Item.markup line t).origins ↔ line ≤ o ∧ o ≤ line + t.count '\n' := by
  simp only [Item.origins, List.mem_map, List.mem_range]
  constructor
  · rintro ⟨k, hk, rfl⟩
    omega
  · intro h
    exact ⟨o - line, by omega, by omega⟩

namespace Shielded

variable {line : Nat} {ls : List LogicalLine} {items : List Item}

theorem le_of_mem_origins (h : Shielded line ls items) :
    ∀ o ∈ items.flatMap Item.origins, line ≤ o := by
  induction h with
  | nil line => simp
  | markup h ih =>
    intro o ho
    rw [List.flatMap_cons, List.mem_append] at ho
    rcases ho with ho | ho
    · exact (mem_origins_markup.1 ho).1
    · have hle := ih o ho
      omega
  | template honly h ih =>
    intro o ho
    rw [List.flatMap_cons, List.mem_append, Item.origins, List.mem_singleton] at ho
    rcases ho with rfl | ho
    · exact Nat.le_refl _
    · have hle := ih o ho
      omega

theorem pairwise_origins (h : Shielded line ls items) :
    (items.flatMap Item.origins).Pairwise (· < ·) := by
  induction h with
  | nil line => exact .nil
  | @markup line l ls items h ih =>
    rw [List.flatMap_cons, List.pairwise_append]
    refine ⟨?_, ih, ?_⟩
    · rw [Item.origins, List.pairwise_map]
      exact List.pairwise_lt_range.imp fun hlt => Nat.add_lt_add_left hlt line
    · intro o ho later hlater
      -- the next item begins below the last line of this one
      have hhere := (mem_origins_markup.1 ho).2
      have hnext := h.le_of_mem_origins later hlater
      rw [breaks] at hnext
      omega
  | template honly h ih =>
    rw [List.flatMap_cons, Item.origins, List.singleton_append, List.pairwise_cons]
    refine ⟨?_, ih⟩
    intro later hlater
    have hnext := h.le_of_mem_origins later hlater
    omega

end Shielded

theorem newline_not_mem_placeholder (n : Nat) : '\n' ∉ placeholder n := by
  intro hmem
  unfold placeholder at hmem
  rw [List.mem_append, List.mem_append] at hmem
  rcases hmem with (hmem | hmem) | hmem
  · exact absurd hmem (by decide)
  · exact absurd (isDigit_of_mem_toString hmem) (by decide)
  · exact absurd hmem (by decide)

/-- What a physical line that the printer sees has to do with a line of the source: it is that line,
or the placeholder of a stored line, which is the trimmed logical line that begins there. -/
inductive Shows (d : Dialect) (t : Text) (stored : List Text) : Text → Nat → Prop where
  | kept {k : Nat} {line : Text} (h : (Text.lines t)[k]? = some line) : Shows d t stored line (k + 1)
  | placeholder {n : Nat} {before after : List LogicalLine} {l : LogicalLine}
    (hsplit : split d t = before ++ l :: after) (hstored : stored[n]? = some (trim l.text)) :
    Shows d t stored (placeholder n) (firstLine before)

section Shows

variable {d : Dialect} {t : Text} {stored : List Text}

theorem Shows.bounds {line : Text} {o : Nat} (h : Shows d t stored line o) :
    1 ≤ o ∧ o ≤ lineCount t := by
  rw [lineCount_eq, ← length_lines]
  cases h with
  | kept h =>
    have hk := (List.getElem?_eq_some_iff.1 h).1
    omega
  | @placeholder n before after l hsplit hstored =>
    -- the logical line has a first physical line
    have hpos : 0 < (Text.lines l.text).length := by rw [length_lines]; omega
    have hfirst := getElem?_lines_of_split hsplit hpos
    rw [List.getElem?_eq_getElem hpos, List.getElem?_eq_some_iff] at hfirst
    obtain ⟨hlt, -⟩ := hfirst
    have hbefore := firstLine_pos before
    omega

/-- The lines of a logical line that is kept. -/
theorem shows_lines {before after : List LogicalLine} {l : LogicalLine}
    (hsplit : split d t = before ++ l :: after) :
    List.Forall₂ (Shows d t stored) (Text.lines l.text) (Item.markup (firstLine before) l.text).origins := by
  rw [Item.origins, ← length_lines, List.forall₂_iff_get]
  refine ⟨by simp, ?_⟩
  intro k hk hk'
  have hline := getElem?_lines_of_split hsplit hk
  rw [List.getElem?_eq_getElem hk] at hline
  -- physical lines are counted from 1, and those of a list from 0
  have hnumber : firstLine before - 1 + k + 1 = firstLine before + k := by
    have hbefore := firstLine_pos before
    omega
  have hkept : Shows d t stored (Text.lines l.text)[k] (firstLine before - 1 + k + 1) := .kept hline
  rw [hnumber] at hkept
  simpa using hkept

/-- Every line the printer sees shows the source line that is kept for it; `n` lines have been stored
for the items above. -/
theorem Shielded.shows {line : Nat} {ls : List LogicalLine} {items : List Item}
    (h : Shielded line ls items) (before : List LogicalLine) (hsplit : split d t = before ++ ls)
    (hline : line = firstLine before) {n : Nat} (hstored : stored.drop n = items.filterMap Item.line?) :
    List.Forall₂ (Shows d t stored) ((textsFrom n items).flatMap Text.lines)
      (items.flatMap Item.origins) := by
  induction h generalizing before n with
  | nil line => exact .nil
  | @markup line l ls items h ih =>
    subst hline
    have hnext := ih (before ++ [l]) (by rw [hsplit, List.append_cons])
      (firstLine_concat before l).symm hstored
    exact List.rel_append (shows_lines hsplit) hnext
  | @template line l ls items honly h ih =>
    subst hline
    -- the line is the first that has not been used for an item above
    have hhere : stored[n]? = some (trim l.text) := by
      rw [← List.head?_drop, hstored]
      rfl
    have hlater : stored.drop (n + 1) = items.filterMap Item.line? := by
      rw [← List.drop_drop, hstored]
      rfl
    have hnext := ih (before ++ [l]) (by rw [hsplit, List.append_cons])
      (firstLine_concat before l).symm hlater
    rw [textsFrom, List.flatMap_cons, lines_of_not_mem (newline_not_mem_placeholder n)]
    exact .cons (.placeholder hsplit hhere) hnext

end Shows

end Shield

/-! ## Lines and markers -/

namespace IgnoreMarker

def rows (t : Text) : List (List Sign) :=
  (signs t).splitOn (.char '\n')

theorem dropped_of_mem_signs {t g : Text} {side : Side} (h : .mark side g ∈ signs t) :
    ∀ c ∈ g, c = '\t' ∨ c = ' ' := by
  obtain ⟨xs, ys, hsigns⟩ := List.append_of_mem h
  have hplaced := placed_signs t '\n'
  rw [hsigns] at hplaced
  exact hplaced.dropped

/-- Runs of signs between breaks are lines, whether they are read as source or as protected text. -/
theorem lines_flatMap_splitOn {write : Sign → Text} (hbreak : write (.char '\n') = ['\n'])
    {ss : List Sign} (hother : ∀ s ∈ ss, s ≠ .char '\n' → '\n' ∉ write s) :
    lines (ss.flatMap write) = (ss.splitOn (.char '\n')).map (·.flatMap write) := by
  -- no sign but the break writes one
  have hrows : ∀ row ∈ (ss.splitOn (.char '\n')).map (·.flatMap write), lines row = [row] := by
    intro line hline
    obtain ⟨row, hrow, rfl⟩ := List.mem_map.1 hline
    refine lines_of_not_mem fun hmem => ?_
    obtain ⟨s, hs, hmem⟩ := List.mem_flatMap.1 hmem
    obtain ⟨hs, hne⟩ := mem_of_mem_splitOn hrow hs
    exact hother s hs hne hmem
  have hjoin : [Sign.char '\n'].intercalate (ss.splitOn (.char '\n')) = ss :=
    List.intercalate_splitOn (Sign.char '\n')
  conv_lhs => rw [← hjoin, flatMap_intercalate hbreak]
  rw [lines_unlines (by simp), List.flatMap_congr hrows, List.flatMap_singleton']

/-- Markers are put inside lines. -/
theorem lines_rows (t : Text) :
    lines t = (rows t).map source ∧ lines (protect t).text = (rows t).map guarded := by
  constructor
  · conv_lhs => rw [← source_signs t]
    refine lines_flatMap_splitOn rfl fun s hs hne hmem => ?_
    cases s with
    | char c => exact hne (by rw [List.mem_singleton.1 hmem])
    | mark side g =>
      rcases dropped_of_mem_signs hs '\n' hmem with h | h
      · exact absurd h (by decide)
      · exact absurd h (by decide)
  · rw [← guarded_signs]
    refine lines_flatMap_splitOn rfl fun s hs hne hmem => ?_
    cases s with
    | char c => exact hne (by rw [List.mem_singleton.1 hmem])
    -- markers hold no break
    | mark side g => exact absurd (Side.mem_marker hmem) (by decide)

end IgnoreMarker

/-! ## Complaints of a printer -/

namespace Shield

/-- An offset is looked up in the line that it lies on; there always is one. -/
theorem getElem?_origins {s : Shield} (h : s.origins.length = (Text.lines s.text).length)
    (offset : Nat) :
    s.origins[(takeBytes offset s.text).count '\n']? = some (s.sourceLine offset) := by
  -- as many breaks stand in front of an offset as there are in the text, at most
  have hcount : (takeBytes offset s.text).count '\n' ≤ s.text.count '\n' := by
    conv_rhs => rw [← takeBytes_append_dropBytes offset s.text, List.count_append]
    omega
  have hlt : (takeBytes offset s.text).count '\n' < s.origins.length := by
    rw [h, length_lines]
    omega
  rw [sourceLine, line_position, List.getElem?_eq_getElem hlt, Option.getD_some]

/-- Complaints of a printer point at the right line of the source. Of a shielded text one source line
is kept for each physical line that the printer sees, in increasing order; the printer sees that line
itself, or the placeholder of the template line that begins there. A complaint about any offset is
told in the source line of the line it is about, and where the source is the protected form of a
document, in the line of the document that is the same but for markers and the tabs and spaces they
replace. -/
theorem origins_shown {d : Dialect} {t : Text} {s : Shield} (h : build d t = .ok s) :
    List.Forall₂ (Shows d t s.lines) (Text.lines s.text) s.origins ∧
    s.origins.Pairwise (· < ·) ∧
    (∀ offset message, ∃ line, s.fault (.malformed offset message) = .unparseable line message ∧
      s.origins[(takeBytes offset s.text).count '\n']? = some line ∧
      1 ≤ line ∧ line ≤ lineCount t) ∧
    ∀ u, (IgnoreMarker.protect u).text = t →
      Text.lines u = (IgnoreMarker.rows u).map IgnoreMarker.source ∧
      Text.lines t = (IgnoreMarker.rows u).map IgnoreMarker.guarded ∧
      ∀ row ∈ IgnoreMarker.rows u, ∀ side dropped, .mark side dropped ∈ row →
        ∀ c ∈ dropped, c = '\t' ∨ c = ' ' := by
  obtain ⟨items, hitems, rfl⟩ := exists_of_map_eq_ok h
  have hshielded := shielded_of_itemsFrom hitems
  -- a text has at least one line, so the printer sees at least one
  have hne : textsFrom 0 items ≠ [] := by
    refine textsFrom_ne_nil 0 ?_
    rintro rfl
    have hsplit := standsFor_itemsFrom hitems
    simp [split, Atom.read] at hsplit
  have hshows : List.Forall₂ (Shows d t (Shield.mk items).lines) (Text.lines (Shield.mk items).text)
      (Shield.mk items).origins := by
    rw [text, lines_unlines hne]
    exact hshielded.shows [] rfl rfl rfl
  refine ⟨hshows, hshielded.pairwise_origins, ?_, ?_⟩
  · intro offset message
    have horigin := getElem?_origins hshows.length_eq.symm offset
    obtain ⟨hlt, hline⟩ := List.getElem?_eq_some_iff.1 horigin
    have hshown := hshows.get (hshows.length_eq ▸ hlt) hlt
    rw [List.get_eq_getElem, List.get_eq_getElem, hline] at hshown
    exact ⟨_, rfl, horigin, hshown.bounds⟩
  · rintro u rfl
    obtain ⟨hsource, hguarded⟩ := IgnoreMarker.lines_rows u
    refine ⟨hsource, hguarded, ?_⟩
    intro row hrow side dropped hmark
    exact IgnoreMarker.dropped_of_mem_signs (mem_of_mem_splitOn hrow hmark).1

/-- A comment over two lines shrinks to a placeholder above a script, in which a line is marked. The
printer complains about the first bracket of the marked line, its third line, which is the fourth one
of the document. -/
theorem origins_shown_script :
    let u := "\x7b* x\n y *\x7d\n<script>\n  \x7b$a\x7d\n</script>".toList
    let t := (IgnoreMarker.protect u).text
    let marked := "/* beautify ignore:start */\x7b$a\x7d/* beautify ignore:end */".toList
    let s : Shield := ⟨[.template 1 "\x7b* x\n y *\x7d".toList, .markup 3 "<script>".toList,
      .markup 4 marked, .markup 5 "</script>".toList]⟩
    build .single t = .ok s ∧ s.origins = [1, 3, 4, 5] ∧
      s.fault (.malformed 67 "unexpected bracket") = .unparseable 4 "unexpected bracket" ∧
      (Text.lines s.text)[2]? = some marked ∧
      Text.lines u = (IgnoreMarker.rows u).map IgnoreMarker.source ∧
      (Text.lines u)[3]? = some "  \x7b$a\x7d".toList := by
  intro u t marked s
  have hbuild : build .single t = .ok s := by decide +kernel
  obtain ⟨-, -, hfaults, hrows⟩ := origins_shown hbuild
  obtain ⟨line, hfault, horigin, -⟩ := hfaults 67 "unexpected bracket"
  have hline : line = 4 := by
    have hlookup : s.origins[(takeBytes 67 s.text).count '\n']? = some 4 := by decide +kernel
    exact Option.some.inj (horigin.symm.trans hlookup)
  subst hline
  exact ⟨hbuild, by decide, hfault, by decide +kernel, (hrows u rfl).1, by decide⟩

end Shield

end SmartyLayout
