import SmartyLayout.Proofs.Spacing
import SmartyLayout.Proofs.Survival

/-!
# SmartyLayout.Proofs.Parts — a cut line is laid out like its parts

Where a line is cut, each part becomes a line of its own. `Parts as cs` says that the units `as` of a
line are the runs `cs` one behind the other, with blanks between them that are lost in front of a
brace. The main result, `exists_parts`, is that a line is written as these parts would be written if
each were a logical line: no part is cut again, and the state behind them is the same.

One rule of the layout would break this: a middle line is shown one level out as a whole, end tags
included, and a part that holds only its end tags is no middle line. So no line may both split and
close blocks (`Transition.Unmixed`).
-/

namespace SmartyLayout

open Text

namespace Transition

/-! ## Middle lines -/

/-- The transitions do not both split and close blocks. -/
def Unmixed (ts : List Transition) : Prop :=
  ¬ ((∃ t ∈ ts, t.role = .middle) ∧ ∃ t ∈ ts, t.role = .finish)

instance (ts : List Transition) : Decidable (Unmixed ts) :=
  inferInstanceAs (Decidable (¬ _))

theorem exists_middle_of_isMiddleLine {ts : List Transition} (h : isMiddleLine ts = true) :
    ∃ t ∈ ts, t.role = .middle := by
  simp only [isMiddleLine, Bool.and_eq_true, List.any_eq_true, beq_iff_eq] at h
  exact h.1

end Transition

namespace Piece

open Transition

/-- A piece with transitions is shown one level out exactly if the first of them is no start tag,
whatever else stands on the line. -/
theorem outdented_eq {text : Text} {t : Transition} {ts line : List Transition}
    (hline : ∀ u ∈ t :: ts, u ∈ line) :
    (⟨text, t :: ts⟩ : Piece).outdented (isMiddleLine line) = (t.role != .start) := by
  cases hmid : isMiddleLine line with
  | false => rfl
  | true =>
    have hrole := role_ne_start_of_isMiddleLine hmid t (hline t (by simp))
    simp [outdented, hrole]

/-- On an unmixed line it makes no difference to the stack whether it is a middle line. -/
theorem after_eq {text : Text} {ts line : List Transition} (hline : ∀ t ∈ ts, t ∈ line)
    (hunmixed : Unmixed line) (s : RegionStack) :
    (⟨text, ts⟩ : Piece).after (isMiddleLine line) s = (⟨text, ts⟩ : Piece).after false s := by
  cases hmid : isMiddleLine line with
  | false => rfl
  | true =>
    have hfinish : ∀ t ∈ ts, t.role ≠ .finish := by
      intro t ht hrole
      exact hunmixed ⟨exists_middle_of_isMiddleLine hmid, t, hline t ht, hrole⟩
    unfold after
    induction ts generalizing s with
    | nil => rfl
    | cons t ts ih =>
      have hmove : move true s t = move false s t := by
        unfold move
        cases hrole : t.role with
        | start => rfl
        | middle => rfl
        | finish => exact absurd hrole (hfinish t (by simp))
      rw [List.foldl_cons, List.foldl_cons, hmove]
      exact ih (fun u hu => hline u (List.mem_cons_of_mem t hu)) _
        fun u hu => hfinish u (List.mem_cons_of_mem t hu)

/-- Offsets do not matter to the stack behind a piece. -/
theorem after_shift (text : Text) (ts : List Transition) (n : Nat) (m : Bool) (s : RegionStack) :
    (⟨text, ts.map (shift n)⟩ : Piece).after m s = (⟨text, ts⟩ : Piece).after m s := by
  unfold after
  rw [List.foldl_map]
  rfl

end Piece

/-! ## The parts of a line -/

namespace Atom

/-- The units of a line are those of its parts in order, up to blanks in front of the brace that
begins a later part. -/
inductive Parts : List Atom → List (List Atom) → Prop
  | whole (as : List Atom) : Parts as [as]
  | cut (as : List Atom) {g : Text} {bs : List Atom} {cs : List (List Atom)} (hg : blank g = true)
      (h : Parts (.plain '{' :: bs) cs) : Parts (as ++ (g.map .plain ++ .plain '{' :: bs)) (as :: cs)

/-- A run of units that begins with a visible character, less the blanks at its end, is solid. -/
theorem exists_solid_append {as : List Atom} (hsound : ∀ a ∈ as, a.Sound) {c : Char} {rest : Text}
    (htext : written as = c :: rest) (hc : isBlank c = false) :
    ∃ bs g, as = bs ++ g.map .plain ∧ blank g = true ∧ Solid (written bs) := by
  have hfirst {bs cs : List Atom} (has : as = bs ++ cs) (hne : written bs ≠ []) :
      ∃ c rest, written bs = c :: rest ∧ isBlank c = false := by
    obtain ⟨e, rest', he⟩ := List.exists_cons_of_ne_nil hne
    rw [has, written_append, he, List.cons_append, List.cons.injEq] at htext
    exact ⟨e, rest', he, by rw [htext.1]; exact hc⟩
  -- on the units from the end: a blank is taken off, anything else ends the solid run
  have hcut : ∀ bs g, as = bs ++ g.map .plain → blank g = true →
      ∃ bs g, as = bs ++ g.map .plain ∧ blank g = true ∧ Solid (written bs) := by
    intro bs
    induction bs using List.reverseRecOn with
    | nil =>
      intro g has hg
      rw [has, List.nil_append, written_map_plain] at htext
      rw [htext, blank_cons, hc] at hg
      exact absurd hg (by simp)
    | append_singleton bs a ih =>
      intro g has hg
      have hsolid (front : Text) {e : Char} (hlast : written (bs ++ [a]) = front ++ [e])
          (he : isBlank e = false) : Solid (written (bs ++ [a])) :=
        ⟨hfirst has (by simp [hlast]), front, e, hlast, he⟩
      cases a with
      | plain e =>
        cases he : isBlank e with
        | true => exact ih (e :: g) (by rw [has]; simp) (by simp [he, hg])
        | false => exact ⟨_, g, has, hg, hsolid (written bs) (by simp) he⟩
      | literal kind lexeme =>
        have hmem : literal kind lexeme ∈ as := by rw [has]; simp
        obtain ⟨front, e, hlexeme, he⟩ := (hsound _ hmem).last
        refine ⟨_, g, has, hg, hsolid (written bs ++ front) ?_ he⟩
        rw [written_append, written_cons, text_literal, hlexeme]
        simp
  exact hcut as [] (by simp) rfl

end Atom

namespace Reindenter

open Atom Transition

variable {r : Reindenter}

/-- The transitions of a line given by its units, and the verbatim state behind it. -/
def resolved (r : Reindenter) (v : Verbatim) (as : List Atom) : List Transition × Verbatim :=
  resolve r.taxonomy v (r.tags (.ofAtoms as))

/-- A line that is not blank is written in the pieces that its transitions cut it into. -/
theorem line_ofAtoms {as : List Atom} (hblank : (LogicalLine.ofAtoms as).blank = false) (st : State) :
    r.line st (.ofAtoms as) =
      ((r.emit (isMiddleLine (r.resolved st.verbatim as).1) st.stack
          (pieces (.ofAtoms as) (r.resolved st.verbatim as).1)).1,
        ⟨(r.emit (isMiddleLine (r.resolved st.verbatim as).1) st.stack
          (pieces (.ofAtoms as) (r.resolved st.verbatim as).1)).2, (r.resolved st.verbatim as).2⟩) := by
  unfold resolved
  simp only [line, hblank, Bool.false_eq_true, if_false]

theorem resolved_sorted (v : Verbatim) (as : List Atom) :
    (r.resolved v as).1.Pairwise (fun x y => x.offset < y.offset) :=
  r.resolve_sorted v (.ofAtoms as)

theorem offset_lt_of_mem_resolved {v : Verbatim} {as : List Atom} :
    ∀ t ∈ (r.resolved v as).1, t.offset < size (written as) :=
  r.offset_lt_of_mem_resolve

/-- Blanks at the end of a line change nothing about its transitions. -/
theorem resolved_append_blank (v : Verbatim) (as : List Atom) {g : Text} (hg : blank g = true) :
    r.resolved v (as ++ g.map .plain) = r.resolved v as := by
  rw [resolved, resolved, tags_append_blank as hg]

/-- Blanks at the beginning of a line move its transitions. -/
theorem resolved_blank_append (v : Verbatim) {g : Text} (hg : blank g = true) (as : List Atom) :
    r.resolved v (g.map .plain ++ as) =
      ((r.resolved v as).1.map (shift (size g)), (r.resolved v as).2) := by
  rw [resolved, resolved, tags_blank_append hg, resolve_map_shift]

/-- The transitions of a line that is cut in front of one of them are those of its parts. -/
theorem resolved_append {v : Verbatim} {as bs : List Atom} {x : Transition}
    (hx : x ∈ (r.resolved v (as ++ bs)).1) (hoff : x.offset = size (written as)) :
    r.resolved v (as ++ bs) =
      ((r.resolved v as).1 ++
        (r.resolved (r.resolved v as).2 bs).1.map (shift (size (written as))),
        (r.resolved (r.resolved v as).2 bs).2) := by
  unfold resolved at hx ⊢
  have hmem := (resolve_sublist v _).subset hx
  have htags := tags_append hmem hoff
  have hfront : x ∉ r.tags (.ofAtoms as) := by
    intro hfront
    have hlt := offset_lt_of_mem_tags hfront
    rw [text_ofAtoms] at hlt
    omega
  -- the tag of the cut is the first one of the last part
  obtain ⟨y, ys, hys, rfl⟩ : ∃ y ys, r.tags (.ofAtoms bs) = y :: ys ∧
      x = shift (size (written as)) y := by
    rw [htags] at hmem
    obtain ⟨y, hy, rfl⟩ := List.mem_map.1 ((List.mem_append.1 hmem).resolve_left hfront)
    have hzero : y.offset = 0 := by
      rw [offset_shift] at hoff
      omega
    obtain ⟨z, zs, hzs⟩ := List.exists_cons_of_ne_nil (List.ne_nil_of_mem hy)
    have hsorted := r.tags_sorted (.ofAtoms bs)
    rw [hzs] at hy hsorted
    rcases List.mem_cons.1 hy with rfl | hy
    · exact ⟨y, zs, hzs, rfl⟩
    · have := (List.pairwise_cons.1 hsorted).1 y hy
      omega
  have hback : shift (size (written as)) y ∉ ys.map (shift (size (written as))) := by
    intro hback
    obtain ⟨z, hz, heq⟩ := List.mem_map.1 hback
    have hsorted := r.tags_sorted (.ofAtoms bs)
    rw [hys] at hsorted
    have hlt := (List.pairwise_cons.1 hsorted).1 z hz
    have hoffset := congrArg Transition.offset heq
    simp only [offset_shift] at hoffset
    omega
  rw [htags, hys, List.map_cons] at hx ⊢
  rw [resolve_append_of_mem hfront hback hx, ← List.map_cons, resolve_map_shift]

/-- A part that is not cut is written on one line. Its transitions stand `n` bytes further on the
line that it is a part of. -/
theorem line_of_part {as : List Atom} {v : Verbatim} {ts : List Transition} {n : Nat}
    (hsolid : Solid (written as)) (hunmixed : Unmixed ts)
    (hline : ∀ t ∈ (r.resolved v as).1.map (shift n), t ∈ ts)
    (hne : isMiddleLine ts = true → (r.resolved v as).1 ≠ [])
    (hlit : ∀ t ∈ (r.resolved v as).1.tail, (LogicalLine.ofAtoms as).inLiteral t.offset = true)
    (text : Text) (s : RegionStack) :
    r.line ⟨s, v⟩ (.ofAtoms as) =
      ([times ((⟨text, (r.resolved v as).1.map (shift n)⟩ : Piece).level (isMiddleLine ts) s)
          r.unit ++ written as],
        ⟨(⟨text, (r.resolved v as).1.map (shift n)⟩ : Piece).after (isMiddleLine ts) s,
          (r.resolved v as).2⟩) := by
  have hblank : (LogicalLine.ofAtoms as).blank = false := hsolid.not_blank
  -- on a line of its own the part is not cut again
  have hcuts : cuts (.ofAtoms as) (r.resolved v as).1 = [] := by
    refine List.filter_eq_nil_iff.2 fun offset hoffset => ?_
    obtain ⟨t, ht, rfl⟩ := List.mem_map.1 hoffset
    simp [hlit t ht]
  have hpieces : pieces (.ofAtoms as) (r.resolved v as).1 = [⟨written as, (r.resolved v as).1⟩] := by
    rw [pieces, hcuts, text_ofAtoms, hsolid.trimEnd_eq]
  -- whether the line splits blocks shows in the part's own transitions, if it has any
  have hlevel : (⟨text, (r.resolved v as).1.map (shift n)⟩ : Piece).level (isMiddleLine ts) s =
      (⟨written as, (r.resolved v as).1⟩ : Piece).level (isMiddleLine (r.resolved v as).1) s := by
    cases hts : (r.resolved v as).1 with
    | nil =>
      have hmid : isMiddleLine ts = false := Bool.eq_false_iff.2 fun hmid => hne hmid hts
      rw [hmid]
      rfl
    | cons t rest =>
      rw [hts, List.map_cons] at hline
      rw [List.map_cons, Piece.level, Piece.level, Piece.outdented_eq hline,
        Piece.outdented_eq fun _ h => h, role_shift]
  have hafter : (⟨text, (r.resolved v as).1.map (shift n)⟩ : Piece).after (isMiddleLine ts) s =
      (⟨written as, (r.resolved v as).1⟩ : Piece).after (isMiddleLine (r.resolved v as).1) s := by
    have hown : Unmixed (r.resolved v as).1 := by
      rintro ⟨⟨t, ht, hmiddle⟩, u, hu, hfinish⟩
      exact hunmixed ⟨⟨_, hline _ (List.mem_map_of_mem ht), hmiddle⟩,
        _, hline _ (List.mem_map_of_mem hu), hfinish⟩
    rw [Piece.after_eq hline hunmixed, Piece.after_shift, Piece.after_eq (fun _ h => h) hown]
    rfl
  rw [hlevel, hafter]
  unfold resolved at hpieces ⊢
  simp only [line, hblank, Bool.false_eq_true, if_false, hpieces, emit]

/-- Of the part between two bounds of a cut line, all transitions but the first stand in literals. -/
theorem inLiteral_of_window {l : LogicalLine} {ts : List Transition} {start stop : Nat}
    {as : List Atom} {v : Verbatim}
    (hwindow : ts.filter (fun t => (⟨start, stop⟩ : Span).contains t.offset) =
      (r.resolved v as).1.map (shift start))
    (hleft : ∀ t ∈ ts.tail, start < t.offset → t.offset < stop → l.inLiteral t.offset = true)
    (hlit : ∀ n < size (written as),
      l.inLiteral (start + n) = (LogicalLine.ofAtoms as).inLiteral n) :
    ∀ t ∈ (r.resolved v as).1.tail, (LogicalLine.ofAtoms as).inLiteral t.offset = true := by
  intro t ht
  have hmem := List.mem_of_mem_tail ht
  have htail : shift start t ∈ ts.tail := by
    have hsub : ((r.resolved v as).1.map (shift start)).Sublist ts := by
      rw [← hwindow]
      exact List.filter_sublist
    refine hsub.tail.subset ?_
    rw [← List.map_tail]
    exact List.mem_map_of_mem ht
  have hpos : 0 < t.offset := by
    have hsorted := r.resolved_sorted v as
    cases hts : (r.resolved v as).1 with
    | nil => simp [hts] at ht
    | cons first rest =>
      rw [hts] at ht hsorted
      exact Nat.lt_of_le_of_lt (Nat.zero_le _) ((List.pairwise_cons.1 hsorted).1 t ht)
  have hstop : (shift start t).offset < stop := by
    have hinside : shift start t ∈ ts.filter (fun t => (⟨start, stop⟩ : Span).contains t.offset) := by
      rw [hwindow]
      exact List.mem_map_of_mem hmem
    have hcontains := (List.mem_filter.1 hinside).2
    simp only [Span.contains, Bool.and_eq_true, decide_eq_true_eq] at hcontains
    exact hcontains.2
  rw [← hlit t.offset (offset_lt_of_mem_resolved t hmem)]
  exact hleft _ htail (by rw [offset_shift]; omega) hstop

/-- Transitions in front of a bound and behind it. -/
theorem filter_shift_append {ts xs ys : List Transition} {start stop n : Nat}
    (hts : ts.filter (fun t => start ≤ t.offset) = (xs ++ ys.map (shift n)).map (shift start))
    (hstop : stop = start + n) (hxs : ∀ t ∈ xs, t.offset < n) :
    ts.filter (fun t => (⟨start, stop⟩ : Span).contains t.offset) = xs.map (shift start) ∧
      ts.filter (fun t => stop ≤ t.offset) = ys.map (shift stop) := by
  have hshift : ys.map (shift stop) = (ys.map (shift n)).map (shift start) := by
    rw [List.map_map, hstop]
    refine List.map_congr_left fun t _ => ?_
    simp [shift, Nat.add_assoc]
  have hlow : ∀ t ∈ xs.map (shift start), t.offset < stop := by
    intro t ht
    obtain ⟨u, hu, rfl⟩ := List.mem_map.1 ht
    have := hxs u hu
    rw [offset_shift]
    omega
  have hhigh : ∀ t ∈ ys.map (shift stop), stop ≤ t.offset := by
    intro t ht
    obtain ⟨u, -, rfl⟩ := List.mem_map.1 ht
    rw [offset_shift]
    omega
  rw [List.map_append, ← hshift] at hts
  constructor
  · have hwindow : ts.filter (fun t => (⟨start, stop⟩ : Span).contains t.offset) =
        (ts.filter (fun t => start ≤ t.offset)).filter (fun t => t.offset < stop) := by
      rw [List.filter_filter]
      exact List.filter_congr fun t _ => Bool.and_comm _ _
    rw [hwindow, hts, List.filter_append, List.filter_eq_self.2, List.filter_eq_nil_iff.2,
      List.append_nil]
    · intro t ht
      have := hhigh t ht
      simp only [decide_eq_true_eq]
      omega
    · intro t ht
      simpa using hlow t ht
  · have hbehind : ts.filter (fun t => stop ≤ t.offset) =
        (ts.filter (fun t => start ≤ t.offset)).filter (fun t => stop ≤ t.offset) := by
      rw [List.filter_filter]
      refine List.filter_congr fun t _ => ?_
      rw [Bool.eq_iff_iff]
      simp only [Bool.and_eq_true, decide_eq_true_eq]
      omega
    rw [hbehind, hts, List.filter_append, List.filter_eq_nil_iff.2, List.filter_eq_self.2,
      List.nil_append]
    · intro t ht
      simpa using hhigh t ht
    · intro t ht
      have := hlow t ht
      simp only [decide_eq_true_eq]
      omega

/-- The pieces are those of the parts, each behind the blanks `lead`. No part is to be cut again, and
the verbatim state goes from part to part, from the first one to the last. -/
inductive Segmented (r : Reindenter) (lead : Text) :
    Verbatim → List (List Atom) → List Piece → Verbatim → Prop
  | nil (v : Verbatim) : Segmented r lead v [] [] v
  | cons {v last : Verbatim} {c : List Atom} {cs : List (List Atom)} {ps : List Piece} (n : Nat)
      (hsolid : Solid (written c))
      (hlit : ∀ t ∈ (r.resolved v c).1.tail, (LogicalLine.ofAtoms c).inLiteral t.offset = true)
      (h : Segmented r lead (r.resolved v c).2 cs ps last) :
      Segmented r lead v (c :: cs) (⟨lead ++ written c, (r.resolved v c).1.map (shift n)⟩ :: ps) last

/-- A part of a line that is cut as the window between two of its bounds, its blanks taken off. -/
theorem segmented_cons_of_window {l : LogicalLine} {ts : List Transition} {start stop : Nat}
    {as : List Atom} {g : Text} {v last : Verbatim} {cs : List (List Atom)} {ps : List Piece}
    (hsolid : Solid (written as)) (hg : blank g = true)
    (hwindow : ts.filter (fun t => (⟨start, stop⟩ : Span).contains t.offset) =
      (r.resolved v (as ++ g.map .plain)).1.map (shift start))
    (hleft : ∀ t ∈ ts.tail, start < t.offset → t.offset < stop → l.inLiteral t.offset = true)
    (hlit : ∀ n < size (written (as ++ g.map .plain)),
      l.inLiteral (start + n) = (LogicalLine.ofAtoms (as ++ g.map .plain)).inLiteral n)
    (h : Segmented r (leading l.text) (r.resolved v (as ++ g.map .plain)).2 cs ps last) :
    Segmented r (leading l.text) v (as :: cs)
      (⟨leading l.text ++ trim (written (as ++ g.map .plain)),
        ts.filter fun t => (⟨start, stop⟩ : Span).contains t.offset⟩ :: ps) last := by
  rw [resolved_append_blank v as hg] at hwindow h
  have htrim : trim (written (as ++ g.map .plain)) = written as := by
    rw [written_append, written_map_plain]
    simpa using hsolid.trim_append blank_nil hg
  have hlit' : ∀ n < size (written as),
      l.inLiteral (start + n) = (LogicalLine.ofAtoms as).inLiteral n := by
    intro n hn
    have hsize : size (written as) ≤ size (written (as ++ g.map .plain)) := by
      rw [written_append, size_append]
      omega
    rw [hlit n (by omega), LogicalLine.inLiteral_ofAtoms, LogicalLine.inLiteral_ofAtoms]
    exact covers_append_plain 0 as g n
  rw [htrim, hwindow]
  exact .cons start hsolid (inLiteral_of_window hwindow hleft hlit') h

/-- The pieces of a line are those of its parts. The induction walks from cut to cut; `front` is what
lies in front of byte `start`. -/
theorem Divided.exists_segmented {l : LogicalLine} {ts : List Transition} {start : Nat}
    {bs : List Atom} {ps : List Piece} (h : Divided l ts start bs ps) {front : List Atom}
    {v : Verbatim} (hl : l = .ofAtoms (front ++ bs)) (hstart : start = size (written front))
    (hsound : ∀ a ∈ bs, a.Sound) (hfirst : ∃ c rest, written bs = c :: rest ∧ isBlank c = false)
    (hts : ts.filter (fun t => start ≤ t.offset) = (r.resolved v bs).1.map (shift start)) :
    ∃ cs bs' g, bs = bs' ++ g.map .plain ∧ blank g = true ∧ Parts bs' cs ∧
      Segmented r (leading l.text) v cs ps (r.resolved v bs).2 := by
  induction h generalizing front v with
  | @whole start stop as hstop hleft =>
    have hall : ts.filter (fun t => start ≤ t.offset) =
        ((r.resolved v as).1 ++ [].map (shift (size (written as)))).map (shift start) := by
      rw [hts, List.map_nil, List.append_nil]
    have hwindow := (filter_shift_append hall hstop offset_lt_of_mem_resolved).1
    have hlit : ∀ n < size (written as),
        l.inLiteral (start + n) = (LogicalLine.ofAtoms as).inLiteral n := by
      intro n _
      rw [hl, hstart, LogicalLine.inLiteral_ofAtoms, LogicalLine.inLiteral_ofAtoms]
      exact covers_append_right front as n
    obtain ⟨c, rest, hfirst, hc⟩ := hfirst
    obtain ⟨as', g, rfl, hg, hsolid⟩ := exists_solid_append hsound hfirst hc
    have hsegment := segmented_cons_of_window hsolid hg hwindow hleft hlit (.nil _)
    exact ⟨[as'], as', g, rfl, hg, .whole as', hsegment⟩
  | @cut start stop as bs ps hstop hlt hcut hleft hrest ih =>
    -- the tag at the cut is a transition of the units left
    obtain ⟨t, ht, htoff⟩ := hcut
    obtain ⟨x, hx, rfl⟩ : ∃ x ∈ (r.resolved v (as ++ .plain '{' :: bs)).1, shift start x = t := by
      refine List.mem_map.1 ?_
      rw [← hts]
      exact List.mem_filter.2 ⟨List.mem_of_mem_tail ht, by simp only [decide_eq_true_eq]; omega⟩
    have hxoff : x.offset = size (written as) := by
      rw [offset_shift] at htoff
      omega
    have hres := resolved_append hx hxoff
    -- the part in front of it, less its blanks at the end
    rw [hres] at hts
    obtain ⟨hwindow, hlater⟩ := filter_shift_append hts hstop offset_lt_of_mem_resolved
    have hlit : ∀ n < size (written as),
        l.inLiteral (start + n) = (LogicalLine.ofAtoms as).inLiteral n := by
      intro n hn
      rw [hl, hstart, LogicalLine.inLiteral_ofAtoms, LogicalLine.inLiteral_ofAtoms,
        covers_append_right]
      exact covers_append_left _ hn
    obtain ⟨c, rest, hfirst, hc⟩ : ∃ c rest, written as = c :: rest ∧ isBlank c = false := by
      have hne : written as ≠ [] := by
        intro hnil
        rw [hnil, size_nil] at hstop
        omega
      obtain ⟨c, rest, hcons⟩ := List.exists_cons_of_ne_nil hne
      obtain ⟨c', rest', hfirst, hc⟩ := hfirst
      rw [written_append, hcons, List.cons_append, List.cons.injEq] at hfirst
      exact ⟨c, rest, hcons, hfirst.1 ▸ hc⟩
    obtain ⟨as', g, rfl, hg, hsolid⟩ :=
      exists_solid_append (fun a ha => hsound a (List.mem_append_left _ ha)) hfirst hc
    -- and the parts from the cut on
    have hl' : l = .ofAtoms (front ++ (as' ++ g.map .plain) ++ .plain '{' :: bs) := by
      rw [hl, List.append_assoc front]
    have hstart' : stop = size (written (front ++ (as' ++ g.map .plain))) := by
      rw [written_append, size_append, ← hstart, hstop]
    obtain ⟨cs, bs', g', hbs', hg', hparts, hsegments⟩ := ih hl' hstart'
      (fun a ha => hsound a (List.mem_append_right _ ha)) ⟨'{', _, rfl, by decide⟩ hlater
    obtain ⟨bs', rfl, rfl⟩ : ∃ bs'', bs' = .plain '{' :: bs'' ∧ bs = bs'' ++ g'.map .plain := by
      cases bs' with
      | nil =>
        have hbrace : Atom.plain '{' ∈ g'.map Atom.plain := by rw [← List.nil_append (g'.map _), ← hbs']; simp
        have hblank := blank_iff.1 hg' '{' (by simpa using hbrace)
        exact absurd hblank (by decide)
      | cons a bs'' =>
        obtain ⟨rfl, rfl⟩ := List.cons.inj hbs'
        exact ⟨bs'', rfl, rfl⟩
    refine ⟨as' :: cs, as' ++ (g.map .plain ++ .plain '{' :: bs'), g', by simp, hg',
      .cut as' hg hparts, ?_⟩
    rw [hres]
    exact segmented_cons_of_window hsolid hg hwindow hleft hlit hsegments

/-- Blanks at the beginning of a line that stand in front of all its transitions belong to no part. -/
theorem Divided.of_blank_append {l : LogicalLine} {ts : List Transition} {lead : Text}
    {bs : List Atom} {ps : List Piece} (h : Divided l ts 0 (lead.map .plain ++ bs) ps)
    (hlead : blank lead = true) (hsorted : ts.Pairwise (fun x y => x.offset < y.offset))
    (hts : ∀ t ∈ ts, size lead ≤ t.offset) : Divided l ts (size lead) bs ps := by
  have htrim (as : List Atom) : trim (written (lead.map .plain ++ as)) = trim (written as) := by
    rw [written_append, written_map_plain, trim, trimStart_blank_append hlead, trim]
  have hwindow (stop : Nat) : ts.filter (fun t => (⟨0, stop⟩ : Span).contains t.offset) =
      ts.filter (fun t => (⟨size lead, stop⟩ : Span).contains t.offset) :=
    List.filter_congr fun t ht => by simp [Span.contains, hts t ht]
  have hsize (as : List Atom) : size (written (lead.map .plain ++ as)) =
      size lead + size (written as) := by
    rw [written_append, written_map_plain, size_append]
  generalize has : lead.map .plain ++ bs = as at h
  generalize hzero : 0 = start at h
  cases h with
  | whole hstop hleft =>
    subst has hzero
    rw [htrim, hwindow]
    exact .whole (by rw [hstop, hsize, Nat.zero_add])
      fun t ht hlow hhigh => hleft t ht (by omega) hhigh
  | @cut _ stop as bs' ps hstop hlt hcut hleft hrest =>
    subst hzero
    -- the brace of the cut is not among the blanks
    obtain ⟨mid, rfl, rfl⟩ : ∃ mid, as = lead.map .plain ++ mid ∧ bs = mid ++ .plain '{' :: bs' := by
      rcases append_eq_append_cons_iff.1 has with hmid | ⟨mid, hmid, -⟩
      · exact hmid
      · have hbrace : Atom.plain '{' ∈ lead.map Atom.plain := by simp [hmid]
        exact absurd (blank_iff.1 hlead '{' (by simpa using hbrace)) (by decide)
    rw [htrim, hwindow]
    have hlow : size lead < stop := by
      obtain ⟨t, ht, rfl⟩ := hcut
      cases ts with
      | nil => simp at ht
      | cons first ts =>
        exact Nat.lt_of_le_of_lt (hts first (by simp)) ((List.pairwise_cons.1 hsorted).1 t ht)
    exact .cut (by rw [hstop, hsize, Nat.zero_add]) hlow hcut
      (fun t ht hlow hhigh => hleft t ht (by omega) hhigh) hrest

/-- The pieces of a line that is not blank are those of its parts, each behind the blanks that begin
the line. -/
theorem exists_segmented {as : List Atom} (hsound : ∀ a ∈ as, a.Sound)
    (hblank : (LogicalLine.ofAtoms as).blank = false) (v : Verbatim) :
    ∃ cs bs g, as = (leading (written as)).map .plain ++ (bs ++ g.map .plain) ∧ blank g = true ∧
      Parts bs cs ∧ Segmented r (leading (written as)) v cs
        (pieces (.ofAtoms as) (r.resolved v as).1) (r.resolved v as).2 := by
  have hdivided : Divided (.ofAtoms as) (r.resolved v as).1 0 as
      (pieces (.ofAtoms as) (r.resolved v as).1) := divided_pieces v hblank
  have hlead : blank (leading (written as)) = true := blank_leading _
  obtain ⟨bs, has, hbs⟩ := exists_blank_append hsound (blank_iff.1 hlead)
    (leading_append_trimStart (written as)).symm
  have hfirst : ∃ c rest, written bs = c :: rest ∧ isBlank c = false := by
    rw [hbs]
    refine exists_cons_of_trimStart fun hnil => ?_
    have hall : blank (written as) = true := blank_iff.2 (List.dropWhile_eq_nil_iff.1 hnil)
    exact absurd (hblank.symm.trans hall) (by decide)
  have hres := resolved_blank_append (r := r) v hlead bs
  rw [← has] at hres
  have hlow : ∀ t ∈ (r.resolved v as).1, size (leading (written as)) ≤ t.offset := by
    intro t ht
    rw [hres] at ht
    obtain ⟨u, -, rfl⟩ := List.mem_map.1 ht
    exact Nat.le_add_right _ _
  have hdivided' : Divided (.ofAtoms as) (r.resolved v as).1 (size (leading (written as))) bs
      (pieces (.ofAtoms as) (r.resolved v as).1) := by
    refine Divided.of_blank_append ?_ hlead (resolved_sorted v as) hlow
    rw [← has]
    exact hdivided
  have hts : (r.resolved v as).1.filter (fun t => size (leading (written as)) ≤ t.offset) =
      (r.resolved v bs).1.map (shift (size (leading (written as)))) := by
    rw [List.filter_eq_self.2 fun t ht => by simpa using hlow t ht, hres]
  obtain ⟨cs, bs', g, rfl, hg, hparts, hsegmented⟩ := hdivided'.exists_segmented
    (congrArg LogicalLine.ofAtoms has) (by rw [written_map_plain])
    (fun a ha => hsound a (by rw [has]; exact List.mem_append_right _ ha)) hfirst hts
  have hlast : (r.resolved v as).2 = (r.resolved v (bs' ++ g.map .plain)).2 := by rw [hres]
  rw [hlast]
  exact ⟨cs, bs', g, has, hg, hparts, hsegmented⟩

theorem Segmented.solid {lead : Text} {v last : Verbatim} {cs : List (List Atom)} {ps : List Piece}
    (h : Segmented r lead v cs ps last) : ∀ c ∈ cs, Solid (written c) := by
  induction h with
  | nil => simp
  | cons _ hsolid _ _ ih => exact List.forall_mem_cons.2 ⟨hsolid, ih⟩

/-- The lines that the parts are written as. -/
theorem Segmented.forall₂_emit {lead : Text} {v last : Verbatim} {cs : List (List Atom)}
    {ps : List Piece} (h : Segmented r lead v cs ps last) (m : Bool) (s : RegionStack) :
    List.Forall₂ (fun c out => ∃ n, out = times n r.unit ++ (lead ++ written c)) cs
      (r.emit m s ps).1 := by
  induction h generalizing s with
  | nil => exact .nil
  | cons n _ _ _ ih => exact .cons ⟨_, rfl⟩ (ih _)

/-- On an unmixed line the pieces are written as the parts are, each as a line of its own. -/
theorem Segmented.run_eq {v last : Verbatim} {cs : List (List Atom)} {ps : List Piece}
    (h : Segmented r [] v cs ps last) {ts : List Transition} (hunmixed : Unmixed ts)
    (hline : ∀ p ∈ ps, ∀ t ∈ p.transitions, t ∈ ts)
    (hne : isMiddleLine ts = true → ∀ p ∈ ps, p.transitions ≠ []) (s : RegionStack) :
    r.run ⟨s, v⟩ (cs.map .ofAtoms) =
      ((r.emit (isMiddleLine ts) s ps).1, ⟨(r.emit (isMiddleLine ts) s ps).2, last⟩) := by
  induction h generalizing s with
  | nil => rfl
  | @cons v last c cs ps n hsolid hlit _ ih =>
    rw [List.forall_mem_cons] at hline
    have hpart := line_of_part hsolid hunmixed hline.1
      (fun hmid hnil => (hne hmid) _ List.mem_cons_self (by simp [hnil])) hlit (written c) s
    have hrest := ih hline.2 (fun hmid p hp => hne hmid p (List.mem_cons_of_mem _ hp))
      ((⟨written c, (r.resolved v c).1.map (shift n)⟩ : Piece).after (isMiddleLine ts) s)
    simp only [List.map_cons, run, hpart, hrest, emit, List.nil_append, List.singleton_append]

/-- Some transition stands in every piece of a line that has any: `t` in the first piece, and the tag
of the cut in each later one. -/
theorem Divided.transitions_ne_nil {l : LogicalLine} {ts : List Transition} {start : Nat}
    {bs : List Atom} {ps : List Piece} (h : Divided l ts start bs ps)
    (hend : ∀ u ∈ ts, u.offset < start + size (written bs)) {t : Transition} (ht : t ∈ ts)
    (hlow : start ≤ t.offset) (hnext : ∀ u ∈ ts.tail, start < u.offset → t.offset < u.offset) :
    ∀ p ∈ ps, p.transitions ≠ [] := by
  have hne {start stop : Nat} {t : Transition} (ht : t ∈ ts) (hlow : start ≤ t.offset)
      (hhigh : t.offset < stop) :
      ts.filter (fun u => (⟨start, stop⟩ : Span).contains u.offset) ≠ [] :=
    List.ne_nil_of_mem (List.mem_filter.2 ⟨ht, by simp [Span.contains, hlow, hhigh]⟩)
  induction h generalizing t with
  | whole hstop _ =>
    simp only [List.mem_singleton, forall_eq]
    exact hne ht hlow (hstop ▸ hend t ht)
  | @cut start stop as bs ps hstop hlt hcut _ _ ih =>
    obtain ⟨u, hu, rfl⟩ := hcut
    rw [List.forall_mem_cons]
    refine ⟨hne ht hlow (hnext u hu hlt), ih ?_ (List.mem_of_mem_tail hu) (Nat.le_refl _)
      fun _ _ h => h⟩
    intro w hw
    have := hend w hw
    rw [written_append, size_append] at this
    omega

/-- A line that neither begins nor ends with a blank is written as its parts are, each as a line of
its own and behind some indentation. -/
theorem exists_parts {as : List Atom} (hsound : ∀ a ∈ as, a.Sound) (hsolid : Solid (written as))
    (st : State) (hunmixed : Unmixed (r.resolved st.verbatim as).1) :
    ∃ cs, Parts as cs ∧ (∀ c ∈ cs, Solid (written c)) ∧
      r.run st (cs.map .ofAtoms) = r.line st (.ofAtoms as) ∧
      List.Forall₂ (fun c out => ∃ n, out = times n r.unit ++ written c) cs
        (r.line st (.ofAtoms as)).1 := by
  have hblank : (LogicalLine.ofAtoms as).blank = false := hsolid.not_blank
  have hlead : leading (written as) = [] := hsolid.leading_eq
  obtain ⟨cs, bs, g, has, hg, hparts, hsegmented⟩ := exists_segmented (r := r) hsound hblank st.verbatim
  rw [hlead] at has hsegmented
  -- nor are there blanks at the end
  obtain rfl : g = [] := by
    by_contra hne
    have hlast := hsolid.last
    rw [has, List.map_nil, List.nil_append, written_append, written_map_plain] at hlast
    obtain ⟨front, c, rfl, hc⟩ := exists_concat_of_append hlast hne
    simp [hc] at hg
  obtain rfl : as = bs := by simpa using has
  rw [line_ofAtoms hblank]
  have hshared : ∀ p ∈ pieces (.ofAtoms as) (r.resolved st.verbatim as).1, ∀ t ∈ p.transitions,
      t ∈ (r.resolved st.verbatim as).1 := by
    intro p hp t ht
    have hall := flatMap_transitions_pieces (l := .ofAtoms as) (r.resolved_sorted st.verbatim as)
      offset_lt_of_mem_resolved
    rw [← hall]
    exact List.mem_flatMap.2 ⟨p, hp, ht⟩
  refine ⟨cs, hparts, hsegmented.solid, hsegmented.run_eq hunmixed hshared ?_ st.stack, ?_⟩
  · intro hmid
    obtain ⟨t, rest, hcons⟩ : ∃ t rest, (r.resolved st.verbatim as).1 = t :: rest := by
      obtain ⟨t, ht, -⟩ := exists_middle_of_isMiddleLine hmid
      exact List.exists_cons_of_ne_nil (List.ne_nil_of_mem ht)
    have hdivided : Divided (.ofAtoms as) (r.resolved st.verbatim as).1 0 as
        (pieces (.ofAtoms as) (r.resolved st.verbatim as).1) := divided_pieces st.verbatim hblank
    have hsorted := r.resolved_sorted st.verbatim as
    refine hdivided.transitions_ne_nil (t := t) ?_ (by simp [hcons]) (Nat.zero_le _) ?_
    · have hlt : ∀ t ∈ (r.resolved st.verbatim as).1, t.offset < size (written as) :=
        offset_lt_of_mem_resolved
      simpa using hlt
    · rw [hcons] at hsorted ⊢
      exact fun u hu _ => (List.pairwise_cons.1 hsorted).1 u hu
  · simpa using hsegmented.forall₂_emit (isMiddleLine (r.resolved st.verbatim as).1) st.stack

end Reindenter

end SmartyLayout
