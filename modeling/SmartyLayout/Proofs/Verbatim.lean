import SmartyLayout.Proofs.TagMachine

/-!
# SmartyLayout.Proofs.Verbatim — verbatim blocks

That a verbatim block is open is written down twice: as a flag that reading the tags of a line keeps,
and as a name on the stack that writing the pieces of the line keeps. The two never part.

* `Taxonomy.Built` is how taxonomies come about, and `Built.classify` says that in all of them a
  verbatim name opens a block and, behind a slash, closes one;
* `State.Agrees` is the invariant: an open verbatim block is the innermost one. `agrees_readTag` is
  its step for one tag, `agrees_line` for one line, `agrees_run` for a whole run;
* `run_of_quiet` follows the lines up to the end tag: each is written as it stands, one below the
  other, and nothing changes;
* `verbatim_of_closing` reads on behind the end tag as outside of any verbatim block.
-/

namespace SmartyLayout

namespace Taxonomy

/-! ## How taxonomies are built -/

/-- The taxonomies that can be put together: three sets of names to begin with, then any additions. -/
inductive Built : Taxonomy → Prop where
  | new (start middle finish : List Text) : Built { start, middle, finish }
  | addBlocks {tax : Taxonomy} (h : Built tax) (names : List Text) : Built (tax.addBlocks names)
  | addMiddles {tax : Taxonomy} (h : Built tax) (names : List Text) : Built (tax.addMiddles names)
  | setVerbatim {tax : Taxonomy} (h : Built tax) (names : List Text) : Built (tax.setVerbatim names)

/-- A verbatim name is among the names that open blocks and among those that close them. -/
theorem Built.mem_of_mem_verbatim {tax : Taxonomy} (h : tax.Built) {n : Text}
    (hn : n ∈ tax.verbatim) : n ∈ tax.start ∧ n ∈ tax.finish := by
  induction h with
  | new start middle finish => simp at hn
  | addBlocks _ names ih =>
    obtain ⟨hstart, hfinish⟩ := ih hn
    exact ⟨List.mem_append_right names hstart, List.mem_append_right names hfinish⟩
  | addMiddles _ names ih => exact ih hn
  | setVerbatim _ names _ =>
    -- the new verbatim names are added to both sets at once
    exact ⟨List.mem_append_left _ hn, List.mem_append_left _ hn⟩

/-- A verbatim name opens a block, even if it is a middle name as well, and closes one. -/
theorem Built.classify {tax : Taxonomy} (h : tax.Built) {n : Text} (hn : tax.isVerbatim n = true) :
    tax.classify n false = some .start ∧ tax.classify n true = some .finish := by
  obtain ⟨hstart, hfinish⟩ := h.mem_of_mem_verbatim (of_decide_eq_true hn)
  constructor
  · simp [Taxonomy.classify, hstart]
  · simp [Taxonomy.classify, hfinish]

end Taxonomy

namespace Transition

/-! ## The tags of one line -/

variable {tax : Taxonomy}

/-- The tag is the end tag of block `n`. -/
def Closes (n : Text) (t : Transition) : Prop :=
  t.role = .finish ∧ t.name = n

instance (n : Text) (t : Transition) : Decidable (t.Closes n) :=
  inferInstanceAs (Decidable (_ ∧ _))

/-- Only a start tag can be followed by an open verbatim block if it counts. -/
theorem role_of_seen?_open {v : Verbatim} {t : Transition} {n : Text}
    (h : seen? tax v t = some (some n)) : t.role = .start := by
  unfold seen? at h
  cases v with
  | some name =>
    simp only at h
    split at h <;> simp at h
  | none =>
    simp only at h
    split at h
    · next hstart => exact hstart.1
    · simp at h

/-- If a verbatim block is open behind the tags of a line, it was open before and nothing on the line
counted, or the last tag that counted is a start tag. -/
theorem live_open {v : Verbatim} {ts : List Transition} {n : Text}
    (h : (live tax v ts).2 = some n) :
    (v = some n ∧ (live tax v ts).1 = []) ∨
      ∃ front t, (live tax v ts).1 = front ++ [t] ∧ t.role = .start := by
  induction ts generalizing v with
  | nil => exact .inl ⟨h, rfl⟩
  | cons t ts ih =>
    cases hseen : seen? tax v t with
    | none =>
      simp only [live, hseen] at h ⊢
      exact ih h
    | some next =>
      simp only [live, hseen] at h ⊢
      right
      rcases ih h with ⟨hnext, hnil⟩ | ⟨front, last, hlast, hrole⟩
      · -- `t` is the last tag that counted
        rw [hnext] at hseen
        exact ⟨[], t, by simp [hnil], role_of_seen?_open hseen⟩
      · exact ⟨t :: front, last, by simp [hlast], hrole⟩

/-- A start tag at the end of a line has no end on it, so it is left. -/
theorem mem_cancel_concat {ts : List Transition} {t : Transition} (ht : t.role = .start) :
    t ∈ cancel (ts ++ [t]) := by
  unfold cancel
  rw [List.foldl_append, List.foldl_cons, List.foldl_nil]
  generalize ts.foldl Pending.step {} = p
  simp [Pending.step, ht, Pending.result]

/-- Behind a middle line no verbatim block is open. -/
theorem live_of_isMiddleLine {v : Verbatim} {ts : List Transition}
    (h : isMiddleLine (resolve tax v ts).1 = true) : (live tax v ts).2 = none := by
  rw [Option.eq_none_iff_forall_ne_some]
  intro n hopen
  rw [resolve_fst] at h
  rcases live_open hopen with ⟨-, hnil⟩ | ⟨front, t, hlast, hrole⟩
  · rw [hnil] at h
    exact absurd h (by decide)
  · -- the start tag that opened it is left on the line
    have hmem : t ∈ cancel (live tax v ts).1 := by
      rw [hlast]
      exact mem_cancel_concat hrole
    exact role_ne_start_of_isMiddleLine h t hmem hrole

/-- In a verbatim block no tag counts but its end. -/
theorem live_of_quiet {n : Text} {ts : List Transition} (h : ∀ t ∈ ts, ¬ t.Closes n) :
    live tax (some n) ts = ([], some n) := by
  induction ts with
  | nil => rfl
  | cons t ts ih =>
    have hseen : seen? tax (some n) t = none := if_neg (h t List.mem_cons_self)
    simp only [live, hseen]
    exact ih fun t' ht' => h t' (List.mem_cons_of_mem t ht')

/-- From the end tag of a verbatim block on, tags count again. -/
theorem live_of_closing {n : Text} {passed rest : List Transition} {t : Transition}
    (hpassed : ∀ p ∈ passed, ¬ p.Closes n) (ht : t.Closes n) :
    live tax (some n) (passed ++ t :: rest) =
      (t :: (live tax none rest).1, (live tax none rest).2) := by
  have hseen : seen? tax (some n) t = some none := if_pos ht
  rw [live_append, live_of_quiet hpassed]
  simp only [live, hseen, List.nil_append]

end Transition

namespace Reindenter

open Transition

/-! ## The flag and the stack -/

/-- An open verbatim block is a block the taxonomy knows as verbatim, and the innermost one on the
stack. -/
def State.Agrees (tax : Taxonomy) (st : State) : Prop :=
  ∀ n, st.verbatim = some n → tax.isVerbatim n = true ∧ st.stack.innermost? = some n

theorem agrees_init (tax : Taxonomy) : State.Agrees tax {} := by
  intro n hn
  cases hn

/-- One tag keeps flag and stack together. -/
theorem agrees_readTag {tax : Taxonomy} {st : State} (h : st.Agrees tax) (t : Transition) :
    (readTag tax st t).Agrees tax := by
  intro n hn
  unfold readTag at hn ⊢
  cases hverbatim : st.verbatim with
  | some name =>
    simp only [hverbatim] at hn ⊢
    split at hn
    · -- the end tag of the open block: none is open behind it
      cases hn
    · next hnot =>
      rw [if_neg hnot]
      exact h n hn
  | none =>
    simp only [hverbatim] at hn ⊢
    cases hrole : t.role with
    | start =>
      simp only [hrole] at hn ⊢
      split at hn
      · next hopens =>
        cases hn
        exact ⟨hopens, rfl⟩
      · cases hn
    | middle =>
      simp only [hrole] at hn
      rw [hverbatim] at hn
      cases hn
    | finish =>
      simp only [hrole] at hn
      cases hn

theorem agrees_foldl_readTag {tax : Taxonomy} {st : State} (h : st.Agrees tax)
    (ts : List Transition) : (ts.foldl (readTag tax) st).Agrees tax := by
  induction ts generalizing st with
  | nil => exact h
  | cons t ts ih => exact ih (agrees_readTag h t)

/-- One line keeps flag and stack together. -/
theorem agrees_line {r : Reindenter} {st : State} (h : st.Agrees r.taxonomy) (l : LogicalLine) :
    (r.line st l).2.Agrees r.taxonomy := by
  have hread := agrees_foldl_readTag h (r.tags l)
  rw [line_state_eq_readLine, readLine]
  split
  · next hmiddle =>
    -- the stack is put back, but the line leaves no verbatim block open
    intro n hn
    rw [foldl_readTag] at hn
    simp only [live_of_isMiddleLine hmiddle] at hn
    cases hn
  · exact hread

/-- A whole run keeps flag and stack together. -/
theorem agrees_run {r : Reindenter} {st : State} (h : st.Agrees r.taxonomy)
    (ls : List LogicalLine) : (r.run st ls).2.Agrees r.taxonomy := by
  induction ls generalizing st with
  | nil => exact h
  | cons l ls ih => exact ih (agrees_line h l)

/-! ## Inside a verbatim block -/

/-- The line holds an end tag of block `n` that no comment or verbatim element hides. -/
def Closes (r : Reindenter) (n : Text) (l : LogicalLine) : Prop :=
  ∃ t ∈ r.tags l, t.Closes n

instance (r : Reindenter) (n : Text) (l : LogicalLine) : Decidable (r.Closes n l) :=
  inferInstanceAs (Decidable (∃ t ∈ _, _))

/-- A line as it stands, behind one indent unit per open block; a blank line is written empty. -/
def asItStands (r : Reindenter) (depth : Nat) (l : LogicalLine) : Text :=
  if l.blank then [] else Text.times depth r.unit ++ Text.trimEnd l.text

/-- A line of a verbatim block that does not close it is written as it stands, and nothing changes. -/
theorem line_of_quiet {r : Reindenter} {st : State} {n : Text} {l : LogicalLine}
    (hopen : st.verbatim = some n) (hquiet : ¬ r.Closes n l) :
    r.line st l = ([r.asItStands st.stack.depth l], st) := by
  have hresolve : resolve r.taxonomy st.verbatim (r.tags l) = ([], st.verbatim) := by
    have hlive : live r.taxonomy (some n) (r.tags l) = ([], some n) :=
      live_of_quiet fun t ht hcloses => hquiet ⟨t, ht, hcloses⟩
    rw [hopen, resolve, hlive]
    rfl
  cases hblank : l.blank with
  | true => simp [line, asItStands, hblank]
  | false =>
    simp [line, asItStands, hblank, hresolve, isMiddleLine, pieces, cuts, emit, Piece.level,
      Piece.outdented, Piece.after]

/-- So are all lines up to the one that closes the block. -/
theorem run_of_quiet {r : Reindenter} {st : State} {n : Text} {ls : List LogicalLine}
    (hopen : st.verbatim = some n) (hquiet : ∀ l ∈ ls, ¬ r.Closes n l) :
    r.run st ls = (ls.map (r.asItStands st.stack.depth), st) := by
  induction ls with
  | nil => rfl
  | cons l ls ih =>
    have hfirst := line_of_quiet hopen (hquiet l List.mem_cons_self)
    have hlater := ih fun l' hl' => hquiet l' (List.mem_cons_of_mem l hl')
    simp only [run, hfirst, hlater]
    rfl

/-- A line that closes the block: behind the first end tag, tags are read as outside of it. -/
theorem verbatim_of_closing {r : Reindenter} {st : State} {n : Text} {l : LogicalLine}
    {passed rest : List Transition} {t : Transition} (hopen : st.verbatim = some n)
    (htags : r.tags l = passed ++ t :: rest) (hpassed : ∀ p ∈ passed, ¬ p.Closes n)
    (ht : t.Closes n) : (r.line st l).2.verbatim = (live r.taxonomy none rest).2 := by
  rw [line_state, htags, hopen]
  simp only [live_of_closing hpassed ht]

/-- Verbatim blocks are inert and can always be closed. In every taxonomy that can be put together, a
verbatim name opens a block and, behind a slash, closes one. If a verbatim block `n` is open behind
some lines of a document, then

* `n` is the innermost block on the stack, and its end tag is one that the taxonomy knows;
* the lines that follow are written as they stand, uncut and at the depth reached, whatever tags they
  hold, and leave stack and flag alone, up to the first line with an end tag `n`;
* the first end tag `n` on such a line does close the block. -/
theorem verbatim_inert {r : Reindenter} (hbuilt : r.taxonomy.Built) :
    (∀ n, r.taxonomy.isVerbatim n = true →
      r.taxonomy.classify n false = some .start ∧ r.taxonomy.classify n true = some .finish) ∧
    ∀ (before : List LogicalLine) (n : Text), (r.run {} before).2.verbatim = some n →
      (r.run {} before).2.stack.innermost? = some n ∧
      r.taxonomy.classify n true = some .finish ∧
      (∀ quiet : List LogicalLine, (∀ l ∈ quiet, ¬ r.Closes n l) →
        r.run {} (before ++ quiet) =
          ((r.run {} before).1 ++ quiet.map (r.asItStands (r.run {} before).2.stack.depth),
            (r.run {} before).2)) ∧
      ∀ (l : LogicalLine) (passed : List Transition) (t : Transition) (rest : List Transition),
        r.tags l = passed ++ t :: rest → (∀ p ∈ passed, ¬ p.Closes n) → t.Closes n →
          (r.line (r.run {} before).2 l).2.verbatim = (live r.taxonomy none rest).2 := by
  refine ⟨fun n hn => hbuilt.classify hn, ?_⟩
  intro before n hopen
  obtain ⟨hverbatim, hinnermost⟩ := agrees_run (agrees_init r.taxonomy) before n hopen
  refine ⟨hinnermost, (hbuilt.classify hverbatim).2, ?_, ?_⟩
  · intro quiet hquiet
    rw [run_append, run_of_quiet hopen hquiet]
  · intro l passed t rest htags hpassed ht
    exact verbatim_of_closing hopen htags hpassed ht

/-- A verbatim name that splits blocks as well, and an end tag inside a comment: `{raw}` stays open
over tags of both kinds. -/
theorem verbatim_inert_raw :
    let tax : Taxonomy := { start := ["if".toList], middle := ["raw".toList], finish := ["if".toList] }
    let r : Reindenter := ⟨tax.setVerbatim ["raw".toList], "  ".toList⟩
    let before := LogicalLine.split .single "\x7bif $a\x7d\x7braw\x7d".toList
    let quiet := LogicalLine.split .single
      " \x7b/if\x7d \x7bif $b\x7d\n\n\x7braw\x7d\x7b* \x7b/raw\x7d *\x7d".toList
    r.taxonomy.Built ∧ (r.run {} before).2.verbatim = some "raw".toList ∧
      (∀ l ∈ quiet, ¬ r.Closes "raw".toList l) ∧
      (r.run {} before).2.stack.innermost? = some "raw".toList ∧
      r.run {} (before ++ quiet) =
        (["\x7bif $a\x7d", "  \x7braw\x7d", "     \x7b/if\x7d \x7bif $b\x7d", "",
          "    \x7braw\x7d\x7b* \x7b/raw\x7d *\x7d"].map String.toList,
          (r.run {} before).2) := by
  intro tax r before quiet
  have hbuilt : r.taxonomy.Built := .setVerbatim (.new _ _ _) _
  have hopen : (r.run {} before).2.verbatim = some "raw".toList := by decide
  have hquiet : ∀ l ∈ quiet, ¬ r.Closes "raw".toList l := by decide
  obtain ⟨hinnermost, -, hlines, -⟩ := (verbatim_inert hbuilt).2 before "raw".toList hopen
  refine ⟨hbuilt, hopen, hquiet, hinnermost, ?_⟩
  rw [hlines quiet hquiet]
  decide

end Reindenter

end SmartyLayout
