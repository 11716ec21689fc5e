import SmartyLayout.Proofs.Nesting
import SmartyLayout.Proofs.Tokenization

/-!
# SmartyLayout.Proofs.SameLine — blocks that are closed on the line that opens them

A start tag and the next end tag of its name on the line cancel, with everything between them,
exactly if the tags between them are well nested: `resolve_drops_block_iff`. The proof follows
cancellation through the tags of the block. As long as each of them is in its place, the opener
waits and what waits below it is out of reach; the first one out of place settles the opener, and
then it stays (`Pending.step_inside`, `Pending.foldl_inside`).

So a block that is left open inside keeps the pair around it: `resolve_keeps_crossed_block`.
-/

namespace SmartyLayout

/-- A start tag, the tokens behind it and an end tag of its name. -/
def Token.block (n : Text) (a b : Span) (between : List Token) : List Token :=
  .tag .start n a :: between ++ [.tag .finish n b]

namespace Transition

namespace Pending

/-! ## Inside a block -/

/-- What is settled stays. -/
theorem mem_settled_step {p : Pending} {x : Transition} (h : x ∈ p.settled) (t : Transition) :
    x ∈ (p.step t).settled := by
  rcases p.step_cases t with ⟨-, hstep⟩ | hstep | ⟨-, hstep⟩ | ⟨w, ws, -, -, -, hstep⟩
  · rwa [hstep]
  · rw [hstep]
    exact List.mem_append_left _ (List.mem_append_left _ h)
  · rwa [hstep]
  · rwa [hstep]

theorem mem_settled_foldl {p : Pending} {x : Transition} (h : x ∈ p.settled)
    (ts : List Transition) : x ∈ (ts.foldl step p).settled := by
  induction ts generalizing p with
  | nil => exact h
  | cons t ts ih => exact ih (mem_settled_step h t)

variable {x : Transition} {above : List Transition} (settled below : List Transition)

/-- A tag inside the block that `x` opens: `above` are the starts that wait inside it. Either the tag
is in its place, and `x` goes on waiting above the same starts, or it is not, and `x` is settled. -/
theorem step_inside {t : Transition} (habove : ∀ w ∈ above, w.name ≠ x.name)
    (ht : t.name = x.name → t.role = .middle) :
    (∃ above', nest? (above.map (·.name) ++ [x.name]) t = some (above'.map (·.name) ++ [x.name]) ∧
      step ⟨settled, above ++ x :: below⟩ t = ⟨settled, above' ++ x :: below⟩ ∧
      ∀ w ∈ above', w.name ≠ x.name) ∨
    (nest? (above.map (·.name) ++ [x.name]) t = none ∧
      x ∈ (step ⟨settled, above ++ x :: below⟩ t).settled) := by
  unfold step nest?
  cases hrole : t.role with
  | start =>
    have hname : t.name ≠ x.name := by
      intro heq
      rw [ht heq] at hrole
      exact absurd hrole (by decide)
    exact .inl ⟨t :: above, rfl, rfl, List.forall_mem_cons.2 ⟨hname, habove⟩⟩
  | middle =>
    -- something waits, so the middle tag is absorbed
    refine .inl ⟨above, ?_, by simp, habove⟩
    cases above <;> rfl
  | finish =>
    have hname : x.name ≠ t.name := by
      intro heq
      rw [ht heq.symm] at hrole
      exact absurd hrole (by decide)
    cases above with
    | nil => exact .inr ⟨by simp [hname], by simp [hname]⟩
    | cons w above =>
      by_cases hw : w.name = t.name
      · exact .inl ⟨above, by simp [hw], by simp [hw], (List.forall_mem_cons.1 habove).2⟩
      · exact .inr ⟨by simp [hw], by simp [hw]⟩

/-- Tags inside the block that `x` opens. -/
theorem foldl_inside {ts : List Transition} (habove : ∀ w ∈ above, w.name ≠ x.name)
    (hts : ∀ t ∈ ts, t.name = x.name → t.role = .middle) :
    (∃ above', ts.foldlM nest? (above.map (·.name) ++ [x.name]) =
        some (above'.map (·.name) ++ [x.name]) ∧
      ts.foldl step ⟨settled, above ++ x :: below⟩ = ⟨settled, above' ++ x :: below⟩ ∧
      ∀ w ∈ above', w.name ≠ x.name) ∨
    (ts.foldlM nest? (above.map (·.name) ++ [x.name]) = none ∧
      x ∈ (ts.foldl step ⟨settled, above ++ x :: below⟩).settled) := by
  induction ts generalizing above with
  | nil => exact .inl ⟨above, rfl, rfl, habove⟩
  | cons t ts ih =>
    rw [List.forall_mem_cons] at hts
    rw [List.foldlM_cons, List.foldl_cons]
    rcases step_inside settled below habove hts.1 with
      ⟨mid, hnest, hstep, hmid⟩ | ⟨hnest, hsettled⟩
    · rw [hnest, hstep]
      exact ih hmid hts.2
    · rw [hnest]
      exact .inr ⟨rfl, mem_settled_foldl hsettled ts⟩

end Pending

/-! ## The block as a whole -/

open Pending in
/-- A start tag, the tags behind it and the next end tag of its name: if the tags between are well
nested, all of them are gone, and else the start tag is left. -/
theorem cancel_block (before after : List Transition) {between : List Transition}
    {x e : Transition} (hx : x.role = .start) (he : e.role = .finish) (hname : e.name = x.name)
    (hbetween : ∀ t ∈ between, t.name = x.name → t.role = .middle) :
    (between.foldlM nest? [x.name] = some [x.name] ∧
      cancel (before ++ x :: between ++ e :: after) = cancel (before ++ after)) ∨
    (between.foldlM nest? [x.name] ≠ some [x.name] ∧
      x ∈ cancel (before ++ x :: between ++ e :: after)) := by
  have hopen (p : Pending) : p.step x = ⟨p.settled, x :: p.waiting⟩ := by
    unfold step
    rw [hx]
  have hrun : cancel (before ++ x :: between ++ e :: after) =
      (after.foldl step ((between.foldl step
        ⟨(before.foldl step {}).settled, x :: (before.foldl step {}).waiting⟩).step e)).result := by
    rw [cancel, List.foldl_append, List.foldl_append, List.foldl_cons, List.foldl_cons, hopen]
  have hleft {p : Pending} (hp : x ∈ p.settled) : x ∈ (after.foldl step p).result :=
    List.mem_append_left _ (mem_settled_foldl hp after)
  have hnone : ∀ w ∈ ([] : List Transition), w.name ≠ x.name := by simp
  have hinside := foldl_inside (before.foldl step {}).settled (before.foldl step {}).waiting hnone
    hbetween
  rcases hinside with ⟨above, hnest, hfold, habove⟩ | ⟨hnest, hsettled⟩
  · rw [List.map_nil, List.nil_append] at hnest
    rw [List.nil_append] at hfold
    rw [hrun, hnest, hfold]
    cases above with
    | nil =>
      -- the opener is the latest start that waits
      refine .inl ⟨rfl, ?_⟩
      have hclose : step ⟨(before.foldl step {}).settled, x :: (before.foldl step {}).waiting⟩ e =
          before.foldl step {} := by
        unfold step
        simp [he, hname]
      rw [List.nil_append, hclose, cancel, List.foldl_append]
    | cons w above =>
      -- a start inside the block still waits, and has another name
      have hw : w.name ≠ e.name := hname ▸ habove w (by simp)
      refine .inr ⟨by simp, hleft ?_⟩
      unfold step
      simp [he, hw]
  · rw [List.map_nil, List.nil_append] at hnest
    rw [List.nil_append] at hsettled
    rw [hrun, hnest]
    exact .inr ⟨by simp, hleft (mem_settled_step hsettled e)⟩

variable {tax : Taxonomy}

/-- Without verbatim blocks no tag is passed over. -/
theorem live_of_no_verbatim (h : tax.verbatim = []) (ts : List Transition) :
    live tax none ts = (ts, none) := by
  have hseen (t : Transition) : seen? tax none t = some none := by
    simp [seen?, Taxonomy.isVerbatim, h]
  induction ts with
  | nil => rfl
  | cons t ts ih => simp [live, hseen, ih]

/-- Without verbatim blocks a line is its tags after cancellation. -/
theorem resolve_of_no_verbatim (h : tax.verbatim = []) (ts : List Transition) :
    resolve tax none ts = (cancel ts, none) := by
  rw [resolve, live_of_no_verbatim h]

/-- A tag moves the stack at the place where it starts. -/
theorem offset_of_ofToken? {x : Token} {t : Transition} (h : ofToken? x = some t) :
    t.offset = x.span.start := by
  cases x with
  | tag role name s => rw [← Option.some.inj h, Token.span]
  | plain s => exact absurd h (by simp [ofToken?])

/-- What is left behind cancellation comes from no token of `xs`, if these stand elsewhere. -/
theorem ofToken?_ne_of_mem_cancel {xs ys : List Token}
    (h : ∀ x ∈ xs, ∀ y ∈ ys, x.span.start ≠ y.span.start) {x : Token} (hx : x ∈ xs)
    {t : Transition} (ht : t ∈ cancel (ofTokens ys)) : ofToken? x ≠ some t := by
  intro hxt
  obtain ⟨y, hy, hyt⟩ := List.mem_filterMap.1 ((cancel_sublist _).subset ht)
  exact h x hx y hy ((offset_of_ofToken? hxt).symm.trans (offset_of_ofToken? hyt))

/-- A start tag and the next end tag of its name on one line, in a taxonomy without verbatim blocks:
no transition of the line comes from a tag of the block, from its start through its end, exactly if
the tags between are well nested. The line then has the transitions it has without the block. Tags
are told apart by where they start, as on any line (`Token.pairwise_start_scan`). -/
theorem resolve_drops_block_iff (hverbatim : tax.verbatim = []) {before between after : List Token}
    {n : Text} {a b : Span}
    (hplaces : (before ++ Token.block n a b between ++ after).Pairwise
      fun x y => x.span.start ≠ y.span.start)
    (hbetween : ∀ s, .tag .start n s ∉ between ∧ .tag .finish n s ∉ between) :
    let line := before ++ Token.block n a b between ++ after
    ((∀ x ∈ Token.block n a b between, ∀ t ∈ (resolve tax none (ofTokens line)).1,
        ofToken? x ≠ some t) ↔
      (ofTokens between).foldlM nest? [n] = some [n]) ∧
    ((ofTokens between).foldlM nest? [n] = some [n] →
      resolve tax none (ofTokens line) = resolve tax none (ofTokens (before ++ after))) := by
  intro line
  have hline : ofTokens line =
      ofTokens before ++ ⟨.start, n, a.start⟩ :: ofTokens between ++
        ⟨.finish, n, b.start⟩ :: ofTokens after := by
    simp [line, Token.block, ofTokens, ofToken?]
  have hmiddle : ∀ t ∈ ofTokens between, t.name = n → t.role = .middle := by
    intro t ht hname
    obtain ⟨x, hx, hxt⟩ := List.mem_filterMap.1 ht
    cases x with
    | plain s => exact absurd hxt (by simp [ofToken?])
    | tag role name s =>
      cases hxt
      cases hname
      cases role with
      | start => exact absurd hx (hbetween s).1
      | middle => rfl
      | finish => exact absurd hx (hbetween s).2
  rw [resolve_of_no_verbatim hverbatim, resolve_of_no_verbatim hverbatim, hline]
  have hblock := cancel_block (ofTokens before) (ofTokens after)
    (x := ⟨.start, n, a.start⟩) (e := ⟨.finish, n, b.start⟩) rfl rfl rfl hmiddle
  rcases hblock with ⟨hnest, hcancel⟩ | ⟨hnest, hleft⟩
  · have happend : ofTokens before ++ ofTokens after = ofTokens (before ++ after) :=
      List.filterMap_append.symm
    rw [hcancel, happend]
    refine ⟨⟨fun _ => hnest, fun _ x hx t ht => ?_⟩, fun _ => rfl⟩
    refine ofToken?_ne_of_mem_cancel (fun x hx y hy => ?_) hx ht
    obtain ⟨hfront, -, hback⟩ := List.pairwise_append.1 hplaces
    rcases List.mem_append.1 hy with hy | hy
    · exact ((List.pairwise_append.1 hfront).2.2 y hy x hx).symm
    · exact hback x (List.mem_append_right before hx) y hy
  · refine ⟨⟨fun hnone => ?_, fun hnest' => absurd hnest' hnest⟩, fun hnest' => absurd hnest' hnest⟩
    exact absurd rfl (hnone (.tag .start n a) (by simp [Token.block]) _ hleft)

/-- A split block inside a block, between other tags: the end tag in front and the start tag behind
are left. -/
theorem resolve_drops_block_nested :
    let tax : Taxonomy := { Taxonomy.default with verbatim := [] }
    let between : List Token := [.plain ⟨13, 14⟩, .tag .start "foreach".toList ⟨14, 26⟩,
      .tag .middle "else".toList ⟨26, 32⟩, .tag .finish "foreach".toList ⟨32, 42⟩]
    let line := [.tag .finish "for".toList ⟨0, 6⟩] ++
      Token.block "if".toList ⟨6, 13⟩ ⟨42, 47⟩ between ++ [.tag .start "while".toList ⟨47, 54⟩]
    Token.scan tax [] ("\x7b/for\x7d\x7bif $a\x7d \x7bforeach $b\x7d".toList ++
      "\x7belse\x7d\x7b/foreach\x7d\x7b/if\x7d\x7bwhile\x7d".toList) = line ∧
    (∀ x ∈ Token.block "if".toList ⟨6, 13⟩ ⟨42, 47⟩ between,
      ∀ t ∈ (resolve tax none (ofTokens line)).1, ofToken? x ≠ some t) ∧
    resolve tax none (ofTokens line) =
      ([⟨.finish, "for".toList, 0⟩, ⟨.start, "while".toList, 47⟩], none) := by
  intro tax between line
  have hverbatim : tax.verbatim = [] := rfl
  have hscan : Token.scan tax [] ("\x7b/for\x7d\x7bif $a\x7d \x7bforeach $b\x7d".toList ++
      "\x7belse\x7d\x7b/foreach\x7d\x7b/if\x7d\x7bwhile\x7d".toList) = line := by decide
  have hplaces : line.Pairwise fun x y => x.span.start ≠ y.span.start :=
    hscan ▸ Token.pairwise_start_scan tax [] _
  have hbetween : ∀ s, .tag .start "if".toList s ∉ between ∧
      .tag .finish "if".toList s ∉ between := by
    simp [between]
  have hnest : (ofTokens between).foldlM nest? ["if".toList] = some ["if".toList] := by decide
  obtain ⟨hdropped, hline⟩ := resolve_drops_block_iff hverbatim hplaces hbetween
  exact ⟨hscan, hdropped.2 hnest, (hline hnest).trans (by decide)⟩

/-- Without the condition the pair may stay: in `{if $a}{foreach $b as $c}{/if}` the inner block is
still open at the end tag, so that all three tags move the stack. -/
theorem resolve_keeps_crossed_block :
    ¬ ∀ (tax : Taxonomy) (before between after : List Token) (n : Text) (a b : Span),
      tax.verbatim = [] →
      ((before ++ Token.block n a b between ++ after).Pairwise
        fun x y => x.span.start ≠ y.span.start) →
      (∀ s, .tag .start n s ∉ between ∧ .tag .finish n s ∉ between) →
      ∀ x ∈ Token.block n a b between,
        ∀ t ∈ (resolve tax none (ofTokens (before ++ Token.block n a b between ++ after))).1,
          ofToken? x ≠ some t := by
  intro h
  refine h { Taxonomy.default with verbatim := [] } [] [.tag .start "foreach".toList ⟨7, 25⟩] []
    "if".toList ⟨0, 7⟩ ⟨25, 30⟩ rfl (by decide) (by simp) (.tag .start "if".toList ⟨0, 7⟩) ?_
    ⟨.start, "if".toList, 0⟩ ?_ rfl
  · decide
  · decide

end Transition

end SmartyLayout
