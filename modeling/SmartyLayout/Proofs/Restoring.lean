import SmartyLayout.Proofs.Stages

/-!
# SmartyLayout.Proofs.Restoring — what a printer may do to placeholders

A printer moves placeholders about, puts blanks into them and changes all that stands between them.
`restore_segments` says that the lines come back all the same: of the printed text nothing is looked
at but the placeholders, and each gives way to the line it was handed out for. With a printer that
does nothing, what comes back is the source with the shielded lines trimmed.
-/

namespace SmartyLayout

namespace Shield

open Text

/-! ## Printed texts -/

/-- Placeholders numbered from `n` on, each spaced in its own way and followed by a text. -/
def printedFrom : Nat → List (Spacing × Text) → Text
  | _, [] => []
  | n, (g, s) :: parts => g.print n ++ (s ++ printedFrom (n + 1) parts)

/-- The same texts, each behind a line. -/
def filled (ls : List Text) (parts : List (Spacing × Text)) : Text :=
  (List.zipWith (fun line part => line ++ part.2) ls parts).flatten

theorem printedFrom_cases (n : Nat) (parts : List (Spacing × Text)) :
    printedFrom n parts = [] ∨ ∃ more, printedFrom n parts = '<' :: more := by
  cases parts with
  | nil => exact .inl rfl
  | cons part parts => exact .inr (part.1.exists_print_append n _)

/-- Placeholders between texts without the attribute give way to the lines in turn; `n` lines have
been put back already. -/
theorem substitute_printedFrom {ls : List Text} {parts : List (Spacing × Text)} {n : Nat}
    (hlength : parts.length = (ls.drop n).length)
    (hparts : ∀ part ∈ parts, ¬ keyAttribute <:+: part.2) :
    substitute (stored? ls) (printedFrom n parts) = filled (ls.drop n) parts := by
  induction parts generalizing n with
  | nil =>
    have hdone : ls.drop n = [] := List.length_eq_zero_iff.1 hlength.symm
    rw [hdone]
    rfl
  | cons part parts ih =>
    obtain ⟨g, s⟩ := part
    -- as many lines are left as placeholders
    obtain ⟨line, later, hdrop⟩ : ∃ line later, ls.drop n = line :: later :=
      List.exists_cons_of_length_pos (by rw [← hlength]; exact Nat.succ_pos _)
    have hline : ls[n]? = some line := by
      rw [← List.head?_drop, hdrop, List.head?_cons]
    have hlater : ls.drop (n + 1) = later := by
      rw [← List.drop_drop, hdrop]
      rfl
    have hs : ¬ keyAttribute <:+: s := hparts (g, s) List.mem_cons_self
    have hrest := ih (n := n + 1) (by rw [hdrop] at hlength; simpa [hlater] using hlength)
      fun part hpart => hparts part (List.mem_cons_of_mem _ hpart)
    -- the placeholder gives way to its line, and the text behind it holds none
    rw [printedFrom, restore_print hline, restore_of_clean hs (printedFrom_cases _ _), hrest,
      hlater, hdrop]
    simp [filled]

/-! ## Shielded lines -/

/-- An item stands for a line: for markup as it is, for a template line without the blanks around
it. -/
inductive StandsFor : Item → LogicalLine → Prop where
  | markup (origin : Nat) (l : LogicalLine) : StandsFor (.markup origin l.text) l
  | template (origin : Nat) {l : LogicalLine} (h : isTemplateOnly l = true) :
    StandsFor (.template origin (trim l.text)) l

/-- There is one item for each line. -/
theorem standsFor_itemsFrom {line : Nat} {open? : Option Embedded.OpenElement}
    {ls : List LogicalLine} {items : List Item} (h : itemsFrom line open? ls = .ok items) :
    List.Forall₂ StandsFor items ls := by
  have hshielded := shielded_of_itemsFrom h
  clear h
  induction hshielded with
  | nil line => exact .nil
  | @markup line l ls items h ih => exact .cons (.markup line l) ih
  | @template line l ls items honly h ih => exact .cons (.template line honly) ih

/-- Shielding and putting back are inverse. Let a text without the attribute be shielded. However a
printer spaces the placeholders and whatever it writes in front of, between and behind them, as long
as that does not hold the attribute, exactly the placeholders are replaced, each by its line. Of the
text handed to the printer, what comes back is the source with the shielded lines trimmed. -/
theorem restore_segments {d : Dialect} {t : Text} {s : Shield} (hkey : ¬ keyAttribute <:+: t)
    (hbuild : build d t = .ok s) :
    (∀ (front : Text) (parts : List (Spacing × Text)), parts.length = s.lines.length →
      ¬ keyAttribute <:+: front → (∀ part ∈ parts, ¬ keyAttribute <:+: part.2) →
        s.restore (front ++ printedFrom 0 parts) = front ++ filled s.lines parts) ∧
    List.Forall₂ StandsFor s.items (LogicalLine.split d t) ∧
    s.restore s.text = unlines (s.items.map Item.source) := by
  obtain ⟨items, hitems, rfl⟩ := exists_of_map_eq_ok hbuild
  refine ⟨?_, standsFor_itemsFrom hitems, ?_⟩
  · intro front parts hlength hfront hparts
    unfold restore
    rw [restore_of_clean hfront (printedFrom_cases 0 parts), substitute_printedFrom hlength hparts]
    rfl
  · -- markup that stands in the text does not hold the attribute either
    have hclean := (itemsFrom_spec hitems).2
    refine restore_text (hclean fun l hl hmem => hkey ?_)
    exact hmem.trans (LogicalLine.text_infix_of_mem_split hl)

/-- A template line and a comment that spans two lines, spread out by a printer that also leaves half
a tag in front of the second placeholder. -/
theorem restore_segments_spread :
    let t := "<p>\n  \x7bif $a\x7d\n\x7b* x\n y *\x7d".toList
    let s : Shield := ⟨[.markup 1 "<p>".toList, .template 2 "\x7bif $a\x7d".toList,
      .template 3 "\x7b* x\n y *\x7d".toList]⟩
    let g : Spacing := ⟨"\n  ".toList, " ".toList, "\n".toList, by decide, rfl, rfl, rfl⟩
    ¬ keyAttribute <:+: t ∧ build .single t = .ok s ∧
      s.restore ("<b>".toList ++ printedFrom 0 [(g, "<div ".toList), (.tight, "</b>".toList)]) =
        "<b>\x7bif $a\x7d<div \x7b* x\n y *\x7d</b>".toList ∧
      s.restore s.text = "<p>\n\x7bif $a\x7d\n\x7b* x\n y *\x7d".toList := by
  intro t s g
  have hkey : ¬ keyAttribute <:+: t := by decide
  have hbuild : build .single t = .ok s := by decide
  obtain ⟨hprinted, -, htext⟩ := restore_segments hkey hbuild
  refine ⟨hkey, hbuild, ?_, ?_⟩
  · exact hprinted "<b>".toList [(g, "<div ".toList), (.tight, "</b>".toList)] (by decide)
      (by decide) (by decide)
  · exact htext.trans (by decide)

end Shield

end SmartyLayout
