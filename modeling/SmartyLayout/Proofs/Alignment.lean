import SmartyLayout.Proofs.Nesting
import SmartyLayout.Proofs.Parts

/-!
# SmartyLayout.Proofs.Alignment — the tags of a block line up

The opener, the middles and the closer of a block are indented alike, and all else in the block
deeper. They may stand on any lines, so the argument is not about lines but about the sequence of
tags that the document consists of:

* a `Row` is an emitted line with what decided its indentation, and `rows` lists those of a document
  (`map_text_rows`: they are what is written);
* `Laid` says that the rows share out the tags of the document in order, each indented by the stack
  behind the tags in front of it. `laid_rows` shows it of every document without mixed lines;
* `Laid.exists_place` reads a row's place in the sequence of tags off that, and there the stack is as
  deep as blocks are open.

`level_of_block` puts the three together.
-/

namespace SmartyLayout

namespace Transition

/-! ## Blocks -/

/-- A tag with the number of the logical line that it stands on. -/
abbrev Located := Nat × Transition

/-- The blocks open inside some block behind a tag, innermost first; none if the tag is out of place
or closes the outer block itself. A middle tag may belong to the outer block. -/
def inside? (blocks : List Text) (t : Transition) : Option (List Text) :=
  match t.role, blocks with
  | .start, _ => some (t.name :: blocks)
  | .middle, _ => some blocks
  | .finish, [] => none
  | .finish, n :: rest => if n = t.name then some rest else none

/-- Tags that open and close blocks in pairs. -/
def Paired (ts : List Located) : Prop :=
  (ts.map Prod.snd).foldlM inside? [] = some []

instance (ts : List Located) : Decidable (Paired ts) :=
  inferInstanceAs (Decidable (_ = _))

/-- The start tag `s` and the end tag `e` are those of one block, with the tags `inner` between
them. -/
structure IsBlock (tags : List Located) (s : Located) (inner : List Located) (e : Located) : Prop where
  split : ∃ before after, tags = before ++ s :: (inner ++ e :: after)
  opens : s.2.role = .start
  closes : e.2.role = .finish
  paired : Paired inner

/-- A middle tag of the block around `inner`, and not of one inside it. -/
structure IsMiddleOf (inner : List Located) (m : Located) : Prop where
  split : ∃ xs ys, inner = xs ++ m :: ys ∧ Paired xs
  splits : m.2.role = .middle

/-- A tag inside a block does to the open blocks what it does to those inside the block. -/
theorem nest?_of_inside? {us us' : List Text} {t : Transition} (h : inside? us t = some us')
    (b : Text) (bs : List Text) : nest? (us ++ b :: bs) t = some (us' ++ b :: bs) := by
  unfold inside? at h
  unfold nest?
  split at h
  · next hrole =>
    cases h
    simp [hrole]
  · next hrole =>
    cases h
    rw [hrole]
    cases us' <;> rfl
  · simp at h
  · next n rest hrole =>
    split at h
    · next hname =>
      cases h
      simp [hrole, hname]
    · simp at h

theorem foldlM_nest?_of_inside? {ts : List Transition} {us us' : List Text}
    (h : ts.foldlM inside? us = some us') (b : Text) (bs : List Text) :
    ts.foldlM nest? (us ++ b :: bs) = some (us' ++ b :: bs) := by
  induction ts generalizing us with
  | nil =>
    cases h
    rfl
  | cons t ts ih =>
    rw [List.foldlM_cons] at h ⊢
    cases hmid : inside? us t with
    | none => simp [hmid] at h
    | some mid =>
      simp only [hmid, Option.bind_eq_bind, Option.bind_some] at h
      simp only [nest?_of_inside? hmid, Option.bind_eq_bind, Option.bind_some]
      exact ih h

theorem map_snd_located (n : Nat) (ts : List Transition) :
    ((ts.map (n, ·)).map Prod.snd : List Transition) = ts := by
  rw [List.map_map]
  exact List.map_id ts

/-- The stack behind tags. -/
def stackBehind (s : RegionStack) (tags : List Located) : RegionStack :=
  (tags.map Prod.snd).foldl (Piece.move false) s

theorem stackBehind_append (s : RegionStack) (xs ys : List Located) :
    stackBehind s (xs ++ ys) = stackBehind (stackBehind s xs) ys := by
  simp [stackBehind]

theorem stackBehind_map (s : RegionStack) (n : Nat) (ts : List Transition) :
    stackBehind s (ts.map (n, ·)) = ts.foldl (Piece.move false) s := by
  rw [stackBehind, map_snd_located]

/-- Inside a block of a well-nested document the stack is deeper than in front of the block, by one
for the block and one for each block open inside it. -/
theorem depth_inside_block {tags before inside after : List Located} {s : Located} {us : List Text}
    (hnest : (tags.map Prod.snd).foldlM nest? [] = some [])
    (htags : tags = before ++ s :: (inside ++ after)) (hs : s.2.role = .start)
    (hinside : (inside.map Prod.snd).foldlM inside? [] = some us) :
    (stackBehind {} (before ++ s :: inside)).depth =
      (stackBehind {} before).depth + us.length + 1 := by
  subst htags
  rw [List.map_append, List.foldlM_append] at hnest
  cases hbefore : (before.map Prod.snd).foldlM nest? [] with
  | none => simp [hbefore] at hnest
  | some blocks =>
    have hstart : nest? blocks s.2 = some (s.2.name :: blocks) := by simp [nest?, hs]
    have hblock : ((before ++ s :: inside).map Prod.snd).foldlM nest? [] =
        some (us ++ s.2.name :: blocks) := by
      rw [List.map_append, List.foldlM_append, hbefore, List.map_cons]
      simp only [Option.bind_eq_bind, Option.bind_some, List.foldlM_cons, hstart]
      exact foldlM_nest?_of_inside? hinside s.2.name blocks
    have hdepth := (depth_foldl_move_of_nest? hbefore (s := {}) (Nat.zero_le _)).2
    have hdepth' := (depth_foldl_move_of_nest? hblock (s := {}) (Nat.zero_le _)).2
    have hempty : ({} : RegionStack).depth = 0 := rfl
    simp only [stackBehind, List.length_nil, hempty, List.length_append, List.length_cons] at *
    omega

end Transition

open Transition

/-! ## Rows -/

/-- An emitted line: the number of its logical line, its piece of that line and the number of indent
units in front. -/
structure Row where
  line : Nat
  piece : Piece
  level : Nat
deriving DecidableEq, Repr

namespace Row

def blank (n : Nat) : Row := ⟨n, ⟨[], []⟩, 0⟩

def text (unit : Text) (w : Row) : Text :=
  Text.times w.level unit ++ w.piece.text

def first? (w : Row) : Option Located :=
  w.piece.transitions.head?.map (w.line, ·)

theorem level_of_first?_none {w : Row} (h : w.first? = none) (s : RegionStack) :
    w.piece.level false s = s.depth := by
  have hnone : w.piece.transitions.head? = none := Option.map_eq_none_iff.1 h
  simp [Piece.level, Piece.outdented, hnone]

theorem level_of_first? {w : Row} {x : Located} (h : w.first? = some x) (s : RegionStack) :
    w.piece.level false s = if x.2.role = .start then s.depth else s.depth - 1 := by
  obtain ⟨t, ht, rfl⟩ := Option.map_eq_some_iff.1 h
  by_cases hrole : t.role = .start
  · simp [Piece.level, Piece.outdented, ht, hrole]
  · simp [Piece.level, Piece.outdented, ht, hrole]

end Row

namespace Reindenter

def emitRows (n : Nat) (middleLine : Bool) : RegionStack → List Piece → List Row
  | _, [] => []
  | s, p :: ps => ⟨n, p, p.level middleLine s⟩ :: emitRows n middleLine (p.after middleLine s) ps

def lineRows (r : Reindenter) (n : Nat) (st : State) (l : LogicalLine) : List Row :=
  if l.blank then [.blank n]
  else
    let ts := (resolve r.taxonomy st.verbatim (r.tags l)).1
    emitRows n (isMiddleLine ts) st.stack (pieces l ts)

/-- The rows of lines that are numbered from `n` on. -/
def rows (r : Reindenter) : Nat → State → List LogicalLine → List Row
  | _, _, [] => []
  | n, st, l :: ls => r.lineRows n st l ++ r.rows (n + 1) (r.line st l).2 ls

/-- The tags of lines that are numbered from `n` on, those inside verbatim blocks left out. -/
def locatedTags (r : Reindenter) : Nat → Verbatim → List LogicalLine → List Located
  | _, _, [] => []
  | n, v, l :: ls =>
    (live r.taxonomy v (r.tags l)).1.map (n, ·) ++
      r.locatedTags (n + 1) (live r.taxonomy v (r.tags l)).2 ls

variable {r : Reindenter}

theorem map_text_emitRows (n : Nat) (m : Bool) (s : RegionStack) (ps : List Piece) :
    (emitRows n m s ps).map (Row.text r.unit) = (r.emit m s ps).1 := by
  induction ps generalizing s with
  | nil => rfl
  | cons p ps ih => simp [emitRows, emit, ih, Row.text]

/-- The rows are the lines that are written. -/
theorem map_text_rows (n : Nat) (st : State) (ls : List LogicalLine) :
    (r.rows n st ls).map (Row.text r.unit) = (r.run st ls).1 := by
  induction ls generalizing n st with
  | nil => rfl
  | cons l ls ih =>
    have hline : (r.lineRows n st l).map (Row.text r.unit) = (r.line st l).1 := by
      cases hblank : l.blank with
      | true => simp [lineRows, line, hblank, Row.text, Row.blank, Text.times]
      | false => simp [lineRows, line, hblank, map_text_emitRows]
    simp [rows, run, ih, hline]

theorem map_snd_locatedTags (n : Nat) (v : Verbatim) (ls : List LogicalLine) :
    (r.locatedTags n v ls).map Prod.snd = (live r.taxonomy v (ls.flatMap r.tags)).1 := by
  induction ls generalizing n v with
  | nil => rfl
  | cons l ls ih => rw [locatedTags, List.map_append, map_snd_located, ih, List.flatMap_cons, live_append]

theorem le_of_mem_locatedTags {n : Nat} {v : Verbatim} {ls : List LogicalLine} :
    ∀ x ∈ r.locatedTags n v ls, n ≤ x.1 := by
  induction ls generalizing n v with
  | nil => simp [locatedTags]
  | cons l ls ih =>
    intro x hx
    rw [locatedTags, List.mem_append] at hx
    rcases hx with hx | hx
    · obtain ⟨t, -, rfl⟩ := List.mem_map.1 hx
      exact Nat.le_refl n
    · exact Nat.le_of_succ_le (ih x hx)

/-- No tag stands at the place of another. -/
theorem nodup_locatedTags (n : Nat) (v : Verbatim) (ls : List LogicalLine) :
    (r.locatedTags n v ls).Nodup := by
  induction ls generalizing n v with
  | nil => exact List.nodup_nil
  | cons l ls ih =>
    have hseen : (live r.taxonomy v (r.tags l)).1.Sublist (r.tags l) := live_sublist v (r.tags l)
    have hsorted := (r.tags_sorted l).sublist hseen
    rw [locatedTags, List.nodup_append]
    refine ⟨?_, ih _ _, ?_⟩
    · refine List.pairwise_map.2 (hsorted.imp fun hlt heq => ?_)
      have := congrArg (fun x : Located => x.2.offset) heq
      simp only at this
      omega
    · rintro x hx y hy rfl
      obtain ⟨t, -, rfl⟩ := List.mem_map.1 hx
      have := le_of_mem_locatedTags _ hy
      simp only at this
      omega

end Reindenter

/-! ## Rows share out the tags -/

/-- The rows take their shares of the tags in order, from stack `s` on. What is left of its share
after cancellation are the transitions of a row, and the stack in front of its share indents it. -/
inductive Laid : RegionStack → List Row → List Located → Prop
  | nil (s : RegionStack) : Laid s [] []
  | blank {s : RegionStack} {ws : List Row} {tags : List Located} (n : Nat) (h : Laid s ws tags) :
      Laid s (.blank n :: ws) tags
  | row {s : RegionStack} {ws : List Row} {tags : List Located} (n : Nat) (text : Text)
      {share : List Transition} (hshare : share.Nodup)
      (h : Laid (share.foldl (Piece.move false) s) ws tags) :
      Laid s (⟨n, ⟨text, cancel share⟩, (⟨text, cancel share⟩ : Piece).level false s⟩ :: ws)
        (share.map (n, ·) ++ tags)

namespace Laid

variable {s : RegionStack} {ws ws' : List Row} {tags tags' : List Located}

theorem append (h : Laid s ws tags) (h' : Laid (stackBehind s tags) ws' tags') :
    Laid s (ws ++ ws') (tags ++ tags') := by
  induction h with
  | nil => exact h'
  | blank n _ ih => exact .blank n (ih h')
  | row n text hshare _ ih =>
    rw [List.append_assoc]
    refine .row n text hshare (ih ?_)
    rwa [stackBehind_append, stackBehind_map] at h'

/-- The first tag that is left of a share: what stands in front of it cancels out. -/
theorem exists_of_cancel_eq_cons {share rest : List Transition} {x : Transition}
    (hshare : share.Nodup) (h : cancel share = x :: rest) :
    ∃ xs ys, share = xs ++ x :: ys ∧ cancel xs = [] := by
  have hx : x ∈ share := (cancel_sublist share).subset (by simp [h])
  obtain ⟨xs, ys, rfl⟩ := List.append_of_mem hx
  have hnot : x ∉ xs ∧ x ∉ ys := by
    rw [List.nodup_append, List.nodup_cons] at hshare
    exact ⟨fun hmem => hshare.2.2 x hmem x (by simp) rfl, hshare.2.1.1⟩
  refine ⟨xs, ys, rfl, ?_⟩
  rw [cancel_append_of_mem hnot.1 hnot.2 (by simp [h])] at h
  cases hxs : cancel xs with
  | nil => rfl
  | cons y rest' =>
    rw [hxs, List.cons_append, List.cons.injEq] at h
    have hmem : y ∈ xs := (cancel_sublist xs).subset (by simp [hxs])
    exact absurd (h.1 ▸ hmem) hnot.1

theorem mem_share_of_first? {n level : Nat} {text : Text} {share : List Transition} {x : Located}
    (h : (⟨n, ⟨text, cancel share⟩, level⟩ : Row).first? = some x) : x ∈ share.map (n, ·) := by
  obtain ⟨t, ht, rfl⟩ := Option.map_eq_some_iff.1 h
  exact List.mem_map_of_mem ((cancel_sublist share).subset (List.mem_of_head? ht))

theorem mem_of_first? (h : Laid s ws tags) {b : Nat} {w : Row} {x : Located} (hw : ws[b]? = some w)
    (hx : w.first? = some x) : x ∈ tags := by
  induction h generalizing b with
  | nil => simp at hw
  | blank n _ ih =>
    cases b with
    | zero =>
      cases hw
      cases hx
    | succ b => exact ih hw
  | row n text _ _ ih =>
    cases b with
    | zero =>
      cases hw
      exact List.mem_append_left _ (mem_share_of_first? hx)
    | succ b => exact List.mem_append_right _ (ih hw)

/-- The place of a row among the tags, right in front of its first transition: the stack there
indents it, and the first transitions of earlier and of later rows stand on their sides of it. -/
theorem exists_place (h : Laid s ws tags) {c : Nat} {w : Row} (hw : ws[c]? = some w)
    (hblank : w ≠ .blank w.line) :
    ∃ front back, tags = front ++ back ∧ w.level = w.piece.level false (stackBehind s front) ∧
      (∀ x, w.first? = some x → back.head? = some x) ∧
      (∀ a v x, a < c → ws[a]? = some v → v.first? = some x → x ∈ front) ∧
      (∀ b v x, c ≤ b → ws[b]? = some v → v.first? = some x → x ∈ back) := by
  induction h generalizing c with
  | nil => simp at hw
  | blank n _ ih =>
    cases c with
    | zero =>
      cases hw
      exact absurd rfl hblank
    | succ c =>
      obtain ⟨front, back, htags, hlevel, hfirst, hearlier, hlater⟩ := ih hw
      refine ⟨front, back, htags, hlevel, hfirst, ?_, ?_⟩
      · intro a v x hac hv hx
        cases a with
        | zero =>
          cases hv
          cases hx
        | succ a => exact hearlier a v x (by omega) hv hx
      · intro b v x hcb hv hx
        cases b with
        | zero => omega
        | succ b => exact hlater b v x (by omega) hv hx
  | @row s ws tags n text share hshare hlaid ih =>
    cases c with
    | zero =>
      cases hw
      have hbehind : ∀ (b : Nat) (v : Row) (x : Located),
          ws[b]? = some v → v.first? = some x → x ∈ tags :=
        fun b v x hv hx => hlaid.mem_of_first? hv hx
      cases hcancel : cancel share with
      | nil =>
        refine ⟨[], share.map (n, ·) ++ tags, rfl, rfl, by simp [Row.first?], by simp, ?_⟩
        intro b v x _ hv hx
        cases b with
        | zero =>
          cases hv
          simp [Row.first?] at hx
        | succ b => exact List.mem_append_right _ (hbehind b v x hv hx)
      | cons t rest =>
        -- what is cancelled in front of the first transition leaves the stack alone
        obtain ⟨xs, ys, rfl, hxs⟩ := exists_of_cancel_eq_cons hshare hcancel
        have hstack : stackBehind s (xs.map (n, ·)) = s := by
          rw [stackBehind_map, ← foldl_move_cancel, hxs, List.foldl_nil]
        refine ⟨xs.map (n, ·), (n, t) :: (ys.map (n, ·) ++ tags), by simp, by rw [hstack], ?_,
          by simp, ?_⟩
        · intro x hx
          simpa [Row.first?] using hx
        · intro b v x _ hv hx
          cases b with
          | zero =>
            cases hv
            simp only [Row.first?, List.head?_cons, Option.map_some, Option.some.injEq] at hx
            simp [hx]
          | succ b =>
            exact List.mem_cons_of_mem _ (List.mem_append_right _ (hbehind b v x hv hx))
    | succ c =>
      obtain ⟨front, back, rfl, hlevel, hfirst, hearlier, hlater⟩ := ih hw
      refine ⟨share.map (n, ·) ++ front, back, by simp, ?_, hfirst, ?_, ?_⟩
      · rw [stackBehind_append, stackBehind_map]
        exact hlevel
      · intro a v x hac hv hx
        cases a with
        | zero =>
          cases hv
          exact List.mem_append_left _ (mem_share_of_first? hx)
        | succ a => exact List.mem_append_right _ (hearlier a v x (by omega) hv hx)
      · intro b v x hcb hv hx
        cases b with
        | zero => omega
        | succ b => exact hlater b v x (by omega) hv hx

end Laid

namespace Reindenter

variable {r : Reindenter}

/-- A piece of an unmixed line is a row, whether the line is a middle line or not. -/
theorem laid_emitRows_cons {ts share : List Transition} (hunmixed : Unmixed ts)
    (hsorted : share.Pairwise (fun x y => x.offset < y.offset))
    (hline : ∀ t ∈ cancel share, t ∈ ts) (hne : isMiddleLine ts = true → cancel share ≠ [])
    {n : Nat} {text : Text} {ps : List Piece} {tags : List Located} {s : RegionStack}
    (h : Laid (share.foldl (Piece.move false) s)
      (emitRows n (isMiddleLine ts) (share.foldl (Piece.move false) s) ps) tags) :
    Laid s (emitRows n (isMiddleLine ts) s (⟨text, cancel share⟩ :: ps))
      (share.map (n, ·) ++ tags) := by
  have hnodup : share.Nodup := hsorted.imp fun hlt heq => by simp [heq] at hlt
  have hlevel : (⟨text, cancel share⟩ : Piece).level (isMiddleLine ts) s =
      (⟨text, cancel share⟩ : Piece).level false s := by
    cases hcancel : cancel share with
    | nil =>
      have hmid : isMiddleLine ts = false := Bool.eq_false_iff.2 fun hmid => hne hmid hcancel
      rw [hmid]
    | cons t rest =>
      rw [hcancel] at hline
      rw [Piece.level, Piece.level, Piece.outdented_eq hline]
      rfl
  have hafter : (⟨text, cancel share⟩ : Piece).after (isMiddleLine ts) s =
      share.foldl (Piece.move false) s := by
    rw [Piece.after_eq hline hunmixed]
    exact foldl_move_cancel share s
  rw [emitRows, hlevel, hafter]
  exact .row n text hnodup h

/-- In a list of tags that is cut in front of a survivor, the survivors of the two sides are those in
front of it and those from it on. -/
theorem filter_cancel_append {xs ys : List Transition} {x : Transition}
    (hsorted : (xs ++ x :: ys).Pairwise (fun x y => x.offset < y.offset))
    (hx : x ∈ cancel (xs ++ x :: ys)) :
    (cancel (xs ++ x :: ys)).filter (fun t => t.offset < x.offset) = cancel xs ∧
      (cancel (xs ++ x :: ys)).filter (fun t => x.offset ≤ t.offset) = cancel (x :: ys) := by
  obtain ⟨-, hback, hacross⟩ := List.pairwise_append.1 hsorted
  have hlow : ∀ t ∈ cancel xs, t.offset < x.offset := fun t ht =>
    hacross t ((cancel_sublist xs).subset ht) x (by simp)
  have hhigh : ∀ t ∈ cancel (x :: ys), x.offset ≤ t.offset := by
    intro t ht
    rcases List.mem_cons.1 ((cancel_sublist (x :: ys)).subset ht) with rfl | ht
    · exact Nat.le_refl _
    · exact Nat.le_of_lt ((List.pairwise_cons.1 hback).1 t ht)
  have hfront : x ∉ xs := fun hmem => Nat.lt_irrefl _ (hacross x hmem x (by simp))
  have hrest : x ∉ ys := fun hmem => Nat.lt_irrefl _ ((List.pairwise_cons.1 hback).1 x hmem)
  rw [cancel_append_of_mem hfront hrest hx, List.filter_append, List.filter_append]
  constructor
  · rw [List.filter_eq_self.2 fun t ht => by simpa using hlow t ht,
      List.filter_eq_nil_iff.2 fun t ht => by simpa using hhigh t ht, List.append_nil]
  · rw [List.filter_eq_nil_iff.2 fun t ht => by simpa using hlow t ht,
      List.filter_eq_self.2 fun t ht => by simpa using hhigh t ht, List.nil_append]

/-- The rows of a cut line share out its tags. The induction walks from cut to cut; `share` are the
tags from byte `start` on, and some transition stands between `start` and the next cut. -/
theorem laid_emitRows (n : Nat) (l : LogicalLine) {ts : List Transition} (hunmixed : Unmixed ts)
    {stop : Nat} (hstop : ∀ t ∈ ts, t.offset < stop) {cuts : List Nat} {start : Nat}
    (hcuts : (start :: cuts).Pairwise (· < ·)) (htags : ∀ n ∈ cuts, ∃ t ∈ ts, t.offset = n)
    {share : List Transition} (hsorted : share.Pairwise (fun x y => x.offset < y.offset))
    (hshare : cancel share = ts.filter (fun t => start ≤ t.offset))
    (hentry : ∃ t ∈ ts, start ≤ t.offset ∧ ∀ n ∈ cuts, t.offset < n) (s : RegionStack) :
    Laid s (emitRows n (isMiddleLine ts) s (piecesBetween l ts (start :: cuts ++ [stop])))
      (share.map (n, ·)) := by
  obtain ⟨t, ht, hstart, hnext⟩ := hentry
  induction cuts generalizing start share s t with
  | nil =>
    have hwindow : ts.filter (fun t => (⟨start, stop⟩ : Span).contains t.offset) = cancel share := by
      rw [hshare]
      exact List.filter_congr fun u hu => by simp [Span.contains, hstop u hu]
    have hne : cancel share ≠ [] := by
      rw [hshare]
      exact List.ne_nil_of_mem (List.mem_filter.2 ⟨ht, by simpa using hstart⟩)
    have hline : ∀ u ∈ cancel share, u ∈ ts := fun u hu => (List.mem_filter.1 (hshare ▸ hu)).1
    simp only [List.cons_append, List.nil_append, piecesBetween, hwindow]
    rw [← List.append_nil (share.map (n, ·))]
    exact laid_emitRows_cons hunmixed hsorted hline (fun _ => hne) (.nil _)
  | cons cut cuts ih =>
    obtain ⟨hlow, hcuts⟩ := List.pairwise_cons.1 hcuts
    have hcut : start < cut := hlow cut (by simp)
    -- the tag of the cut survives, and so its share is cut there too
    obtain ⟨x, hx, rfl⟩ := htags cut (by simp)
    have hsurvives : x ∈ cancel share := by
      rw [hshare]
      exact List.mem_filter.2 ⟨hx, by simpa using Nat.le_of_lt hcut⟩
    obtain ⟨xs, ys, rfl⟩ := List.append_of_mem ((cancel_sublist share).subset hsurvives)
    obtain ⟨hfront, hback⟩ := filter_cancel_append hsorted hsurvives
    rw [hshare, List.filter_filter] at hfront hback
    have hwindow : ts.filter (fun t => (⟨start, x.offset⟩ : Span).contains t.offset) =
        cancel xs := by
      rw [← hfront]
      exact List.filter_congr fun u _ => Bool.and_comm _ _
    have hlater : cancel (x :: ys) = ts.filter (fun t => x.offset ≤ t.offset) := by
      rw [← hback]
      refine List.filter_congr fun u _ => ?_
      rw [Bool.eq_iff_iff]
      simp only [Bool.and_eq_true, decide_eq_true_eq]
      omega
    have hne : cancel xs ≠ [] := by
      rw [← hwindow]
      refine List.ne_nil_of_mem (List.mem_filter.2 ⟨ht, ?_⟩)
      simp [Span.contains, hstart, hnext x.offset (by simp)]
    have hline : ∀ u ∈ cancel xs, u ∈ ts := by
      intro u hu
      rw [← hwindow] at hu
      exact (List.mem_filter.1 hu).1
    have hrest := ih hcuts (fun n hn => htags n (by simp [hn]))
      (List.pairwise_append.1 hsorted).2.1 hlater (xs.foldl (Piece.move false) s) x hx
      (Nat.le_refl _) (List.pairwise_cons.1 hcuts).1
    simp only [List.cons_append, piecesBetween, hwindow, List.map_append]
    exact laid_emitRows_cons hunmixed (List.pairwise_append.1 hsorted).1 hline (fun _ => hne) hrest

/-- The rows of a line share out its tags. -/
theorem laid_lineRows (n : Nat) {st : State} {l : LogicalLine}
    (hunmixed : Unmixed (resolve r.taxonomy st.verbatim (r.tags l)).1) :
    Laid st.stack (r.lineRows n st l) ((live r.taxonomy st.verbatim (r.tags l)).1.map (n, ·)) := by
  cases hblank : l.blank with
  | true =>
    rw [lineRows, hblank, if_pos rfl, tags_eq_nil_of_blank hblank]
    exact .blank n (.nil _)
  | false =>
    have hseen : (live r.taxonomy st.verbatim (r.tags l)).1.Sublist (r.tags l) :=
      live_sublist st.verbatim (r.tags l)
    have hlive := (r.tags_sorted l).sublist hseen
    have hsorted := r.resolve_sorted st.verbatim l
    have hlt := r.offset_lt_of_mem_resolve (v := st.verbatim) (l := l)
    rw [lineRows, hblank, if_neg (by simp)]
    rw [resolve_fst] at hunmixed hsorted hlt ⊢
    generalize (live r.taxonomy st.verbatim (r.tags l)).1 = share at *
    simp only [pieces]
    split
    · -- a single piece has all that counts on the line
      rw [← List.append_nil (share.map (n, ·))]
      refine laid_emitRows_cons hunmixed hlive (fun _ h => h) ?_ (.nil _)
      intro hmid hnil
      rw [hnil] at hmid
      exact absurd hmid (by decide)
    · next hcuts =>
      -- the first piece begins with the line, and every cut is at a later transition
      obtain ⟨t, rest, hcancel⟩ : ∃ t rest, cancel share = t :: rest := by
        refine List.exists_cons_of_ne_nil fun hnil => hcuts ?_
        rw [hnil]
        rfl
      have hafter : ∀ u ∈ rest, t.offset < u.offset := by
        rw [hcancel] at hsorted
        exact (List.pairwise_cons.1 hsorted).1
      have hsub : (cuts l (cancel share)).Sublist (rest.map (·.offset)) := by
        rw [cuts, hcancel]
        exact List.filter_sublist
      have hmem : ∀ c ∈ cuts l (cancel share), ∃ u ∈ rest, u.offset = c :=
        fun c hc => List.mem_map.1 (hsub.subset hc)
      refine laid_emitRows n l hunmixed hlt ?_ ?_ hlive ?_ ⟨t, by simp [hcancel], Nat.zero_le _, ?_⟩ _
      · rw [List.pairwise_cons]
        constructor
        · intro c hc
          obtain ⟨u, hu, rfl⟩ := hmem c hc
          exact Nat.lt_of_le_of_lt (Nat.zero_le _) (hafter u hu)
        · rw [hcancel] at hsorted
          exact (List.pairwise_map.2 (List.pairwise_cons.1 hsorted).2).sublist hsub
      · intro c hc
        obtain ⟨u, hu, hoff⟩ := hmem c hc
        exact ⟨u, by simp [hcancel, hu], hoff⟩
      · exact (List.filter_eq_self.2 fun u _ => by simp).symm
      · intro c hc
        obtain ⟨u, hu, rfl⟩ := hmem c hc
        exact hafter u hu

/-- An unmixed line moves the stack as its tags do. -/
theorem line_stack {st : State} {l : LogicalLine}
    (hunmixed : Unmixed (resolve r.taxonomy st.verbatim (r.tags l)).1) :
    (r.line st l).2.stack =
      (live r.taxonomy st.verbatim (r.tags l)).1.foldl (Piece.move false) st.stack := by
  rw [line_state]
  split
  · next hmid =>
    have hafter : (⟨[], _⟩ : Piece).after _ st.stack = (⟨[], _⟩ : Piece).after false st.stack :=
      Piece.after_eq (fun _ h => h) hunmixed st.stack
    rw [hmid, Piece.after, foldl_move_middleLine hmid] at hafter
    exact hafter.trans (foldl_move_cancel _ st.stack)
  · rfl

/-- Without mixed lines, the rows of a document share out its tags. -/
theorem laid_rows {ls : List LogicalLine} (n : Nat) (st : State)
    (hunmixed : ∀ ts ∈ r.transitions st.verbatim ls, Unmixed ts) :
    Laid st.stack (r.rows n st ls) (r.locatedTags n st.verbatim ls) := by
  induction ls generalizing n st with
  | nil => exact .nil st.stack
  | cons l ls ih =>
    rw [transitions, List.forall_mem_cons] at hunmixed
    have hverbatim : (r.line st l).2.verbatim = (live r.taxonomy st.verbatim (r.tags l)).2 := by
      rw [line_state]
    have hlater : ∀ ts ∈ r.transitions (r.line st l).2.verbatim ls, Unmixed ts := by
      rw [hverbatim]
      exact hunmixed.2
    have hrest := ih (n + 1) _ hlater
    rw [line_stack hunmixed.1, hverbatim, ← stackBehind_map] at hrest
    exact (laid_lineRows n hunmixed.1).append hrest

end Reindenter

/-! ## Alignment -/

/-- In a list without repetitions, an element has one place. -/
theorem append_cons_inj_of_nodup {α : Type} {x : α} {xs ys xs' ys' : List α}
    (hnodup : (xs ++ x :: ys).Nodup) (h : xs ++ x :: ys = xs' ++ x :: ys') : xs = xs' ∧ ys = ys' := by
  obtain ⟨-, hback, hacross⟩ := List.nodup_append.1 hnodup
  have hfront : x ∉ xs := fun hmem => hacross x hmem x (by simp) rfl
  obtain ⟨hxs, -, hys⟩ := (List.append_cons_inj_of_notMem hfront (List.nodup_cons.1 hback).1).1 h
  exact ⟨hxs, hys⟩

namespace Transition

/-- The blocks open at a place inside a block. -/
theorem Paired.exists_open {xs ys : List Located} (h : Paired (xs ++ ys)) :
    ∃ us, (xs.map Prod.snd).foldlM inside? [] = some us ∧
      (ys.map Prod.snd).foldlM inside? us = some [] := by
  rw [Paired, List.map_append, List.foldlM_append] at h
  exact Option.bind_eq_some_iff.1 h

/-- A place between the two tags of a block cuts the tags inside it in two. -/
theorem exists_inside_of_mem {front back before inner after : List Located} {s e : Located}
    (hnodup : (before ++ s :: (inner ++ e :: after)).Nodup)
    (hplace : before ++ s :: (inner ++ e :: after) = front ++ back) (hs : s ∈ front)
    (he : e ∈ back) :
    ∃ xs ys, inner = xs ++ ys ∧ front = before ++ s :: xs ∧ back = ys ++ e :: after := by
  obtain ⟨front', xs, rfl⟩ := List.append_of_mem hs
  obtain ⟨ys, after', rfl⟩ := List.append_of_mem he
  rw [List.append_assoc, List.cons_append] at hplace
  obtain ⟨rfl, hrest⟩ := append_cons_inj_of_nodup hnodup hplace
  have hnodup' : (inner ++ e :: after).Nodup := by
    rw [List.nodup_append, List.nodup_cons] at hnodup
    exact hnodup.2.1.2
  rw [← List.append_assoc] at hrest
  obtain ⟨rfl, rfl⟩ := append_cons_inj_of_nodup hnodup' hrest
  exact ⟨xs, ys, rfl, rfl, rfl⟩

/-- A row at a place inside a block, `us` the blocks open inside it: one level deeper than the block
for each of them and one for the block itself, unless it begins by splitting or closing one. -/
theorem level_inside_block {w : Row} {xs ys : List Located} {us : List Text} {d : Nat}
    {stack : RegionStack} (hnodup : (xs ++ ys).Nodup)
    (hlevel : w.level = w.piece.level false stack) (hdepth : stack.depth = d + us.length + 1)
    (hfirst : ∀ x, w.first? = some x → ys.head? = some x)
    (hxs : (xs.map Prod.snd).foldlM inside? [] = some us)
    (hys : (ys.map Prod.snd).foldlM inside? us = some []) :
    d ≤ w.level ∧ (w.level = d ↔ ∃ m, w.first? = some m ∧ IsMiddleOf (xs ++ ys) m) := by
  cases hw : w.first? with
  | none =>
    rw [hlevel, Row.level_of_first?_none hw, hdepth]
    simp only [reduceCtorEq, false_and, exists_false, iff_false]
    omega
  | some x =>
    obtain ⟨ys, rfl⟩ := List.head?_eq_some_iff.1 (hfirst x hw)
    have hmiddle : (∃ m, some x = some m ∧ IsMiddleOf (xs ++ x :: ys) m) ↔
        x.2.role = .middle ∧ us = [] := by
      constructor
      · rintro ⟨m, hm, ⟨xs', ys', hsplit, hpaired⟩, hrole⟩
        cases hm
        obtain ⟨rfl, -⟩ := append_cons_inj_of_nodup hnodup hsplit
        rw [Paired, hxs, Option.some.injEq] at hpaired
        exact ⟨hrole, hpaired⟩
      · rintro ⟨hrole, rfl⟩
        exact ⟨x, rfl, ⟨xs, ys, rfl, hxs⟩, hrole⟩
    rw [hmiddle, hlevel, Row.level_of_first? hw, hdepth]
    cases hrole : x.2.role with
    | start =>
      simp only [reduceCtorEq, if_true, false_and, iff_false]
      omega
    | middle =>
      simp only [reduceCtorEq, if_false, true_and, ← List.length_eq_zero_iff]
      omega
    | finish =>
      -- an end tag inside the block closes a block inside it
      cases us with
      | nil => simp [inside?, hrole] at hys
      | cons u us =>
        simp only [reduceCtorEq, if_false, false_and, iff_false, List.length_cons]
        omega

end Transition

namespace Reindenter

variable {r : Reindenter}

/-- The opener and the closer of a block that begin an emitted line are indented alike, and no
emitted line between them is indented less. As far out as they are only the lines that begin with a
middle tag of the block itself. -/
theorem level_of_block {ls : List LogicalLine} (hnest : WellNested r.taxonomy (ls.flatMap r.tags))
    (hunmixed : ∀ ts ∈ r.transitions none ls, Unmixed ts) :
    (r.run {} ls).1 = (r.rows 0 {} ls).map (Row.text r.unit) ∧
    ∀ (s e : Located) (inner : List Located), IsBlock (r.locatedTags 0 none ls) s inner e →
      ∀ (a b : Nat) (wa wb : Row), (r.rows 0 {} ls)[a]? = some wa → wa.first? = some s →
        (r.rows 0 {} ls)[b]? = some wb → wb.first? = some e →
        a < b ∧ wa.level = wb.level ∧
        ∀ (c : Nat) (w : Row), a < c → c < b → (r.rows 0 {} ls)[c]? = some w →
          Text.blank (w.text r.unit) = false →
          wa.level ≤ w.level ∧
            (w.level = wa.level ↔ ∃ m, w.first? = some m ∧ IsMiddleOf inner m) := by
  refine ⟨(map_text_rows 0 {} ls).symm, ?_⟩
  intro s e inner hblock a b wa wb ha hs hb he
  have hlaid : Laid {} (r.rows 0 {} ls) (r.locatedTags 0 none ls) :=
    laid_rows 0 {} hunmixed
  have hnodup := r.nodup_locatedTags 0 none ls
  rw [WellNested, ← map_snd_locatedTags 0] at hnest
  have hnotBlank : ∀ w : Row, Text.blank (w.text r.unit) = false → w ≠ .blank w.line := by
    rintro w hw heq
    rw [heq] at hw
    cases hw
  have hfirstBlank : ∀ (w : Row) (x : Located), w.first? = some x → w ≠ .blank w.line := by
    rintro w x hw heq
    rw [heq] at hw
    cases hw
  generalize r.rows 0 {} ls = ws at *
  generalize r.locatedTags 0 none ls = tags at *
  obtain ⟨⟨before, after, rfl⟩, hopens, hcloses, hpaired⟩ := hblock
  -- the opener stands in front of its row's place, and so does the closer
  obtain ⟨front, back, htags, hlevelA, hheadA, -, -⟩ := hlaid.exists_place ha (hfirstBlank _ _ hs)
  obtain ⟨back, rfl⟩ := List.head?_eq_some_iff.1 (hheadA s hs)
  obtain ⟨rfl, rfl⟩ := append_cons_inj_of_nodup hnodup htags
  obtain ⟨front', back, htags', hlevelB, hheadB, hearlierB, hlaterB⟩ :=
    hlaid.exists_place hb (hfirstBlank _ _ he)
  obtain ⟨back, rfl⟩ := List.head?_eq_some_iff.1 (hheadB e he)
  have hsplit : before ++ s :: (inner ++ e :: after) = (before ++ s :: inner) ++ e :: after := by simp
  obtain ⟨rfl, rfl⟩ := append_cons_inj_of_nodup (hsplit ▸ hnodup) (hsplit.symm.trans htags')
  have hacross := (List.nodup_append.1 (hsplit ▸ hnodup)).2.2
  have hdepthB := depth_inside_block hnest rfl hopens hpaired
  have hA : wa.level = (stackBehind {} before).depth := by
    rw [hlevelA, Row.level_of_first? hs, hopens, if_pos rfl]
  have hB : wb.level = (stackBehind {} before).depth := by
    rw [hlevelB, Row.level_of_first? he, hcloses, if_neg (by decide), hdepthB]
    rfl
  have hlt : a < b := by
    refine Nat.lt_of_not_le fun hba => ?_
    exact hacross s (by simp) s (hlaterB a wa s hba ha hs) rfl
  refine ⟨hlt, hA.trans hB.symm, ?_⟩
  intro c w hac hcb hw hvisible
  obtain ⟨frontC, backC, htagsC, hlevelC, hheadC, hearlierC, hlaterC⟩ :=
    hlaid.exists_place hw (hnotBlank w hvisible)
  obtain ⟨xs, ys, rfl, rfl, rfl⟩ := exists_inside_of_mem hnodup htagsC
    (hearlierC a wa s hac ha hs) (hlaterC b wb e (Nat.le_of_lt hcb) hb he)
  obtain ⟨us, hxs, hys⟩ := hpaired.exists_open
  have hdepthC := depth_inside_block hnest
    (by rw [List.append_assoc xs] : _ = before ++ s :: (xs ++ (ys ++ e :: after))) hopens hxs
  have hnodupC : (xs ++ ys).Nodup :=
    (List.nodup_cons.1 (List.nodup_append.1 (List.nodup_append.1 (hsplit ▸ hnodup)).1).2.1).2
  rw [hA]
  refine level_inside_block hnodupC hlevelC hdepthC ?_ hxs hys
  intro x hx
  -- the row does not begin with the closer, which begins a later one
  have hne := hacross x (hearlierB c w x hcb hw hx) e (by simp)
  cases ys with
  | nil => exact absurd (Option.some.inj (hheadC x hx)).symm hne
  | cons y ys => exact hheadC x hx

/-- A block with a middle, around blocks that are cut and that open in an attribute string. -/
theorem level_of_block_nested :
    let r : Reindenter := ⟨.default, "  ".toList⟩
    let ls := LogicalLine.split .single
      ("\x7bif $a\x7d\n<a b=\"\x7bif $c\x7d\">\x7bforeach $d\x7d\n\n\x7belse\x7d\n".toList ++
        "\x7b/foreach\x7d\x7b/if\x7d\n\x7belse\x7d\n\x7b/if\x7d".toList)
    let inner := (r.locatedTags 0 none ls).tail.dropLast
    let wa : Row := ⟨0, ⟨"\x7bif $a\x7d".toList, [⟨.start, "if".toList, 0⟩]⟩, 0⟩
    let wb : Row := ⟨6, ⟨"\x7b/if\x7d".toList, [⟨.finish, "if".toList, 0⟩]⟩, 0⟩
    WellNested r.taxonomy (ls.flatMap r.tags) ∧ (∀ ts ∈ r.transitions none ls, Unmixed ts) ∧
    IsBlock (r.locatedTags 0 none ls) (0, ⟨.start, "if".toList, 0⟩) inner
      (6, ⟨.finish, "if".toList, 0⟩) ∧
    (r.rows 0 {} ls)[0]? = some wa ∧ (r.rows 0 {} ls)[8]? = some wb ∧
    wa.level = wb.level ∧
    ∀ (c : Nat) (w : Row), 0 < c → c < 8 → (r.rows 0 {} ls)[c]? = some w →
      Text.blank (w.text r.unit) = false →
      wa.level ≤ w.level ∧ (w.level = wa.level ↔ ∃ m, w.first? = some m ∧ IsMiddleOf inner m) := by
  intro r ls inner wa wb
  have hnest : WellNested r.taxonomy (ls.flatMap r.tags) := by decide +kernel
  have hunmixed : ∀ ts ∈ r.transitions none ls, Unmixed ts := by decide +kernel
  have hblock : IsBlock (r.locatedTags 0 none ls) (0, ⟨.start, "if".toList, 0⟩) inner
      (6, ⟨.finish, "if".toList, 0⟩) :=
    ⟨⟨[], [], by decide +kernel⟩, rfl, rfl, by decide +kernel⟩
  have ha : (r.rows 0 {} ls)[0]? = some wa := by decide +kernel
  have hb : (r.rows 0 {} ls)[8]? = some wb := by decide +kernel
  have hlevels := (level_of_block hnest hunmixed).2 _ _ _ hblock 0 8 wa wb ha rfl hb rfl
  exact ⟨hnest, hunmixed, hblock, ha, hb, hlevels.2⟩

end Reindenter

end SmartyLayout
