import Mathlib.Data.List.Basic
import Mathlib.Data.List.Flatten
import Mathlib.Data.List.Induction
import SmartyLayout.File.Store

/-!
# SmartyLayout.Proofs.Paths — where written paths lead

A path can be written in many ways: slashes may be repeated or stand at the end, and single dots may
stand between them. What counts are its `names`. For a path without `..` and without a dot in front
(`Path.Normal`):

* `parent?_cases`: the parent of a path has its names but the last, and the walk up ends where there are
  none left;
* `locate_join`: a name below a path is found where the names of the path lead, from the root or from
  the current directory;
* `locate_join_eq`: a name below a relative path is found where it is found below the absolute path of
  the same directory.

The last two hold as long as the path is not too long for a look-up.
-/

namespace SmartyLayout

/-! ## Looking up -/

namespace Workspace

variable {w : Workspace} {s : FileStore} {l : Location}

theorem find_eq_ok_iff {p : Text} {e : Entry} :
    w.find p = .ok (l, e) ↔ w.locate p = .ok l ∧ w.store.get? l = some e := by
  unfold find
  constructor
  · intro h
    split at h
    · cases h
    · next l' hlocate =>
      split at h
      · cases h
      · next e' hget =>
        cases h
        exact ⟨hlocate, hget⟩
  · rintro ⟨hlocate, hget⟩
    simp only [hlocate, hget]

theorem find_congr {p q : Text} (h : w.locate p = w.locate q) : w.find p = w.find q := by
  unfold find
  rw [h]

theorem exists_of_isFile {p : Text} (h : w.isFile p = true) :
    ∃ l bytes, w.find p = .ok (l, .file bytes) := by
  unfold isFile at h
  split at h
  · next l bytes hfind => exact ⟨l, bytes, hfind⟩
  · cases h

theorem walk_append (s : FileStore) (l : Location) (xs ys : List Text) :
    walk s l (xs ++ ys) = match walk s l xs with
      | .error e => .error e
      | .ok l' => walk s l' ys := by
  induction xs generalizing l with
  | nil => rfl
  | cons x xs ih =>
    simp only [List.cons_append, walk]
    cases step s l x with
    | error e => rfl
    | ok l' => exact ih l'

/-- The first step of a walk, and the rest of it. -/
theorem exists_of_walk_cons {x : Text} {xs : List Text} {l' : Location}
    (h : walk s l (x :: xs) = .ok l') : ∃ m, step s l x = .ok m ∧ walk s m xs = .ok l' := by
  rw [walk] at h
  split at h
  · cases h
  · next m hstep => exact ⟨m, hstep, h⟩

/-! ## Segments -/

theorem segments_ne_nil (p : Text) : segments p ≠ [] := by
  have hfrom (n : Nat) (current p : Text) : Path.segmentsFrom n current p ≠ [] := by
    fun_induction Path.segmentsFrom n current p with
    | case1 => simp
    | case2 => simp
    | case3 _ _ _ _ _ ih => exact ih
  simp [segments, hfrom]

/-- How far into a path a segment reaches does not matter for the segments. -/
theorem map_fst_segmentsFrom (n : Nat) (p : Text) :
    (Path.segmentsFrom n [] p).map (·.1) = segments p := by
  have hfrom (n m : Nat) (current p : Text) :
      (Path.segmentsFrom n current p).map (·.1) = (Path.segmentsFrom m current p).map (·.1) := by
    induction p generalizing n m current with
    | nil => rfl
    | cons c p ih =>
      simp only [Path.segmentsFrom]
      split
      · rw [List.map_cons, List.map_cons, ih (n + 1) (m + 1)]
      · exact ih (n + 1) (m + 1) _
  exact hfrom n 0 [] p

/-- A slash separates segments. -/
theorem segments_append_cons (p q : Text) : segments (p ++ '/' :: q) = segments p ++ segments q := by
  have hfrom (n : Nat) (current p : Text) : Path.segmentsFrom n current (p ++ '/' :: q) =
      Path.segmentsFrom n current p ++ Path.segmentsFrom (n + p.length + 1) [] q := by
    induction p generalizing n current with
    | nil => rfl
    | cons c p ih =>
      have hlength : n + 1 + p.length + 1 = n + (c :: p).length + 1 := by
        rw [List.length_cons]
        omega
      simp only [List.cons_append, Path.segmentsFrom, ih, hlength]
      split
      · rfl
      · rfl
  rw [segments, hfrom, List.map_append, map_fst_segmentsFrom, map_fst_segmentsFrom]

theorem segments_of_not_mem {x : Text} (hx : '/' ∉ x) : segments x = [x] := by
  have hfrom (n : Nat) (current : Text) :
      Path.segmentsFrom n current x = [(current.reverse ++ x, n + x.length)] := by
    induction x generalizing n current with
    | nil => simp [Path.segmentsFrom]
    | cons c x ih =>
      rw [List.mem_cons, not_or] at hx
      rw [Path.segmentsFrom, if_neg (Ne.symm hx.1), ih hx.2, List.length_cons]
      simp
      omega
  rw [segments, hfrom]
  rfl

theorem slash_not_mem_of_mem_segments {p x : Text} (hx : x ∈ segments p) : '/' ∉ x := by
  have hfrom (n : Nat) (current p : Text) (hcurrent : '/' ∉ current)
      (h : x ∈ (Path.segmentsFrom n current p).map (·.1)) : '/' ∉ x := by
    induction p generalizing n current with
    | nil =>
      have hx : x = current.reverse := by simpa [Path.segmentsFrom] using h
      rw [hx, List.mem_reverse]
      exact hcurrent
    | cons c p ih =>
      rw [Path.segmentsFrom] at h
      split at h
      · rcases List.mem_cons.1 h with hx | hx
        · rw [hx, List.mem_reverse]
          exact hcurrent
        · exact ih (n + 1) [] List.not_mem_nil hx
      · next hc =>
        refine ih (n + 1) (c :: current) ?_ h
        rw [List.mem_cons, not_or]
        exact ⟨Ne.symm hc, hcurrent⟩
  exact hfrom 0 [] p List.not_mem_nil hx

/-- A path behind a slash, written by its segments. -/
theorem cons_eq_flatMap_segments (p : Text) : '/' :: p = (segments p).flatMap ('/' :: ·) := by
  have hfrom (n : Nat) (current p : Text) : '/' :: (current.reverse ++ p) =
      ((Path.segmentsFrom n current p).map (·.1)).flatMap ('/' :: ·) := by
    induction p generalizing n current with
    | nil => simp [Path.segmentsFrom]
    | cons c p ih =>
      rw [Path.segmentsFrom]
      split
      · next hc =>
        have hrest : '/' :: p = ((Path.segmentsFrom (n + 1) [] p).map (·.1)).flatMap ('/' :: ·) :=
          ih (n + 1) []
        rw [List.map_cons, List.flatMap_cons, ← hrest, hc]
        rfl
      · rw [← ih (n + 1) (c :: current)]
        simp
  exact hfrom 0 [] p

/-- A path through the first segments. -/
theorem segmentsFrom_take {n : Nat} {current p : Text} {xs ys : List (Text × Nat)} {m : Text × Nat}
    (h : Path.segmentsFrom n current p = xs ++ m :: ys) :
    n ≤ m.2 ∧ Path.segmentsFrom n current (p.take (m.2 - n)) = xs ++ [m] := by
  induction p generalizing n current xs with
  | nil =>
    rw [Path.segmentsFrom] at h
    obtain ⟨rfl, hm⟩ | ⟨-, hnil⟩ := List.singleton_eq_append_iff.1 h
    · obtain ⟨rfl, -⟩ := List.cons.inj hm
      exact ⟨Nat.le_refl n, by simp [Path.segmentsFrom]⟩
    · cases hnil
  | cons c p ih =>
    rw [Path.segmentsFrom] at h
    split at h
    · next hc =>
      cases xs with
      | nil =>
        obtain ⟨rfl, -⟩ := List.cons.inj h
        exact ⟨Nat.le_refl n, by simp [Path.segmentsFrom]⟩
      | cons x xs =>
        obtain ⟨rfl, hrest⟩ := List.cons.inj h
        obtain ⟨hle, htake⟩ := ih hrest
        have htake' : (c :: p).take (m.2 - n) = c :: p.take (m.2 - (n + 1)) := by
          rw [show m.2 - n = m.2 - (n + 1) + 1 by omega, List.take_succ_cons]
        exact ⟨by omega, by rw [htake', Path.segmentsFrom, if_pos hc, htake, List.cons_append]⟩
    · next hc =>
      obtain ⟨hle, htake⟩ := ih h
      have htake' : (c :: p).take (m.2 - n) = c :: p.take (m.2 - (n + 1)) := by
        rw [show m.2 - n = m.2 - (n + 1) + 1 by omega, List.take_succ_cons]
      exact ⟨by omega, by rw [htake', Path.segmentsFrom, if_neg hc, htake]⟩

end Workspace

/-! ## Names -/

namespace Path

open Workspace (segments segments_append_cons segments_of_not_mem)

/-- The segment is one of those that count: it is neither empty nor a single dot. -/
def counts (s : Text) : Bool :=
  s != [] && s != ['.']

def names (p : Text) : List Text :=
  (segments p).filter counts

/-- The text is a name: one segment, one that counts, and one that goes down. -/
structure IsName (x : Text) : Prop where
  noSlash : '/' ∉ x
  counts : counts x = true
  ne_parent : x ≠ ['.', '.']

theorem IsName.isAbsolute {x : Text} (hx : IsName x) : isAbsolute x = false := by
  cases x with
  | nil => rfl
  | cons c x =>
    have hc : c ≠ '/' := fun heq => hx.noSlash (heq ▸ List.mem_cons_self)
    simpa [Path.isAbsolute] using hc

theorem IsName.ne_nil {x : Text} (hx : IsName x) : x ≠ [] := by
  rintro rfl
  exact absurd hx.counts (by decide)

theorem names_of_isName {x : Text} (hx : IsName x) : names x = [x] := by
  rw [names, segments_of_not_mem hx.noSlash, List.filter_cons_of_pos hx.counts, List.filter_nil]

theorem names_append_cons (p q : Text) : names (p ++ '/' :: q) = names p ++ names q := by
  rw [names, segments_append_cons, List.filter_append]
  rfl

/-- A path as it stands in front of another: with a slash at its end, unless it is empty. -/
def lead (p : Text) : Text :=
  if p.isEmpty || p.getLast? == some '/' then p else p ++ ['/']

theorem join_eq {q : Text} (hq : isAbsolute q = false) (p : Text) : join p q = lead p ++ q := by
  unfold join lead
  rw [hq]
  by_cases hempty : p.isEmpty
  · rw [List.isEmpty_iff.1 hempty]
    rfl
  · by_cases hslash : p.getLast? = some '/'
    · simp [hempty, hslash]
    · simp [hempty, hslash]

theorem lead_cases (p : Text) :
    (p = [] ∧ lead p = []) ∨ (∃ front, p = front ++ ['/'] ∧ lead p = front ++ ['/']) ∨
      p ≠ [] ∧ lead p = p ++ ['/'] := by
  unfold lead
  rcases List.eq_nil_or_concat' p with rfl | ⟨front, c, rfl⟩
  · exact .inl ⟨rfl, rfl⟩
  · by_cases hc : c = '/'
    · subst hc
      refine .inr (.inl ⟨front, rfl, ?_⟩)
      simp
    · refine .inr (.inr ⟨by simp, ?_⟩)
      simp [hc]

theorem lead_sublist {p q : Text} (h : q <+: p) : (lead q).Sublist (lead p) := by
  have hlong : (lead q).Sublist (q ++ ['/']) := by
    rcases lead_cases q with ⟨-, heq⟩ | ⟨front, rfl, heq⟩ | ⟨-, heq⟩
    · rw [heq]
      exact List.nil_sublist _
    · rw [heq]
      exact List.sublist_append_left _ _
    · rw [heq]
  rcases lead_cases p with ⟨rfl, -⟩ | ⟨front, rfl, heq⟩ | ⟨-, heq⟩
  · rw [List.prefix_nil.1 h]
  · -- the slash at the end of the longer path serves the shorter one as well
    rcases List.prefix_concat_iff.1 h with rfl | hfront
    · exact List.Sublist.refl _
    · rw [heq]
      exact hlong.trans (hfront.sublist.append (List.Sublist.refl _))
  · rw [heq]
    exact hlong.trans (h.sublist.append (List.Sublist.refl _))

theorem lead_append {q : Text} (hq : q ≠ []) (front : Text) : lead (front ++ q) = front ++ lead q := by
  obtain ⟨rest, c, rfl⟩ := (List.eq_nil_or_concat' q).resolve_left hq
  unfold lead
  by_cases hc : c = '/'
  · simp [hc, ← List.append_assoc]
  · simp [hc, ← List.append_assoc]

/-- The segments of a path and those of a relative one behind it, but for an empty one. -/
theorem segments_join {p q : Text} (hq : isAbsolute q = false) :
    (p = [] ∧ segments (join p q) = segments q) ∨
    (∃ front, segments p = front ++ [[]] ∧ segments (join p q) = front ++ segments q) ∨
      p ≠ [] ∧ segments (join p q) = segments p ++ segments q := by
  rw [join_eq hq]
  rcases lead_cases p with ⟨hnil, heq⟩ | ⟨front, rfl, heq⟩ | ⟨hne, heq⟩
  · exact .inl ⟨hnil, by rw [heq, List.nil_append]⟩
  · refine .inr (.inl ⟨segments front, segments_append_cons front [], ?_⟩)
    rw [heq, List.append_assoc]
    exact segments_append_cons front q
  · refine .inr (.inr ⟨hne, ?_⟩)
    rw [heq, List.append_assoc]
    exact segments_append_cons p q

theorem names_join {p q : Text} (hq : isAbsolute q = false) : names (join p q) = names p ++ names q := by
  unfold names
  rcases segments_join hq (p := p) with ⟨rfl, heq⟩ | ⟨front, hfront, heq⟩ | ⟨-, heq⟩
  · rw [heq]
    rfl
  · have hempty : [([] : Text)].filter counts = [] := rfl
    rw [heq, hfront, List.filter_append, List.filter_append, hempty, List.append_nil]
  · rw [heq, List.filter_append]

theorem isAbsolute_join {p q : Text} (hq : isAbsolute q = false) :
    isAbsolute (join p q) = isAbsolute p := by
  rw [join_eq hq]
  rcases lead_cases p with ⟨rfl, heq⟩ | ⟨front, rfl, heq⟩ | ⟨hne, heq⟩
  · rw [heq, List.nil_append, hq]
    rfl
  · rw [heq]
    cases front with
    | nil => rfl
    | cons c front => rfl
  · rw [heq]
    cases p with
    | nil => exact absurd rfl hne
    | cons c p => rfl

/-! ## Parents -/

/-- The path goes nowhere up, and does not begin with a dot. -/
structure Normal (p : Text) : Prop where
  noParent : ['.', '.'] ∉ segments p
  noCurrent : isAbsolute p = false → (segments p).head? ≠ some ['.']

theorem Normal.isName {p x : Text} (hp : Normal p) (hx : x ∈ names p) : IsName x := by
  obtain ⟨hmem, hcounts⟩ := List.mem_filter.1 hx
  refine ⟨Workspace.slash_not_mem_of_mem_segments hmem, hcounts, ?_⟩
  rintro rfl
  exact hp.noParent hmem

/-- A path that goes nowhere up, behind an absolute one that does not either. -/
theorem Normal.join {p q : Text} (hp : Normal p) (habsolute : isAbsolute p = true)
    (hq : isAbsolute q = false) (hup : ['.', '.'] ∉ segments q) : Normal (join p q) := by
  refine ⟨?_, fun hrelative => ?_⟩
  · have hnone := hp.noParent
    rcases segments_join hq (p := p) with ⟨rfl, heq⟩ | ⟨front, hfront, heq⟩ | ⟨-, heq⟩
    · cases habsolute
    · rw [hfront, List.mem_append, not_or] at hnone
      rw [heq, List.mem_append, not_or]
      exact ⟨hnone.1, hup⟩
    · rw [heq, List.mem_append, not_or]
      exact ⟨hnone, hup⟩
  · rw [isAbsolute_join hq, habsolute] at hrelative
    cases hrelative

/-- The names of a path and how far into it they reach. -/
def reaches (p : Text) : List (Text × Nat) :=
  (segmentsFrom 0 [] p).filter (counts ·.1)

theorem map_fst_reaches (p : Text) : (reaches p).map (·.1) = names p := by
  rw [reaches, names, segments, List.filter_map]
  rfl

/-- The components of segments without `..` are their names. -/
theorem filterMap_component? {xs : List (Text × Nat)} (h : ∀ x ∈ xs, x.1 ≠ ['.', '.']) :
    xs.filterMap (fun x => (component? false x.1).map (·, x.2)) =
      (xs.filter (counts ·.1)).map fun x => (.name x.1, x.2) := by
  induction xs with
  | nil => rfl
  | cons x xs ih =>
    have hrest := ih fun y hy => h y (List.mem_cons_of_mem x hy)
    have hx := h x List.mem_cons_self
    by_cases hempty : x.1 = []
    · rw [List.filterMap_cons_none, List.filter_cons_of_neg, hrest]
      · simp [counts, hempty]
      · simp [component?, hempty]
    · by_cases hdot : x.1 = ['.']
      · rw [List.filterMap_cons_none, List.filter_cons_of_neg, hrest]
        · simp [counts, hdot]
        · simp [component?, hdot]
      · rw [List.filterMap_cons_some, List.filter_cons_of_pos, hrest]
        · rfl
        · simp [counts, hempty, hdot]
        · simp [component?, hempty, hdot, hx]

/-- The components of a normal path: the root if it is absolute, and its names. -/
theorem located_eq {p : Text} (hp : Normal p) : located p =
    (if isAbsolute p then [(.root, 1)] else []) ++ (reaches p).map fun x => (.name x.1, x.2) := by
  have hsegments : ∀ x ∈ segmentsFrom 0 [] p, x.1 ≠ ['.', '.'] := by
    intro x hx heq
    exact hp.noParent (heq ▸ List.mem_map_of_mem hx)
  have hall := filterMap_component? hsegments
  cases p with
  | nil => rfl
  | cons c p =>
    by_cases hc : c = '/'
    · subst hc
      exact congrArg ((Component.root, 1) :: ·) hall
    · have hrelative : isAbsolute (c :: p) = false := by simpa [isAbsolute] using hc
      have hlocated : located (c :: p) = (segmentsFrom 0 [] (c :: p)).filterMap
          (fun x => (component? false x.1).map (·, x.2)) := by
        have hfirst := hp.noCurrent hrelative
        unfold located
        unfold Workspace.segments at hfirst
        split
        · next hnil => cases hnil
        · next hcons => exact absurd (List.cons.inj hcons).1 hc
        · split
          · next hfrom => rw [hfrom, List.filterMap_nil]
          · next s n later hfrom =>
            -- a first segment other than a dot is read like the later ones
            have hs : component? true s = component? false s := by
              have hdot : s ≠ ['.'] := by
                intro heq
                exact hfirst (by rw [hfrom, List.map_cons, List.head?_cons, heq])
              simp [component?, hdot]
            rw [hfrom, hs, List.filterMap_cons]
            cases component? false s with
            | none => rfl
            | some x => rfl
      rw [hlocated, hall, hrelative]
      rfl

/-- The components of a relative path, its first segment apart. -/
theorem components_relative {p : Text} (hp : isAbsolute p = false) (hne : p ≠ []) :
    ∃ s later, segments p = s :: later ∧
      components p = (component? true s).toList ++ later.filterMap (component? false) := by
  obtain ⟨c, cs, rfl⟩ := List.exists_cons_of_ne_nil hne
  have hc : c ≠ '/' := by simpa [isAbsolute] using hp
  unfold components located segments
  split
  · next hnil => cases hnil
  · next hcons => exact absurd (List.cons.inj hcons).1 hc
  · split
    · next hfrom => exact absurd hfrom fun h => Workspace.segments_ne_nil _ (congrArg _ h)
    · next s n later hfrom =>
      refine ⟨s, later.map (·.1), by rw [hfrom]; rfl, ?_⟩
      rw [List.map_append, List.filterMap_map, List.map_filterMap]
      congr 1
      · cases component? true s with
        | none => rfl
        | some x => rfl
      · refine List.filterMap_congr fun x _ => ?_
        rcases x with ⟨s', n'⟩
        dsimp only [Function.comp_apply]
        cases component? false s' with
        | none => rfl
        | some y => rfl

/-- A path whose components are names is normal, and these are its names. -/
theorem normal_of_components {p : Text} {ns : List Text} (h : components p = ns.map .name) :
    Normal p ∧ isAbsolute p = false ∧ names p = ns := by
  have hrelative : isAbsolute p = false := by
    cases p with
    | nil => rfl
    | cons c p =>
      by_contra hc
      have hc' : c = '/' := by simpa [isAbsolute] using hc
      subst hc'
      cases ns with
      | nil => cases h
      | cons n ns => cases h
  have hname {c : Component} (hc : c ∈ components p) : c ≠ .parent ∧ c ≠ .current := by
    rw [h] at hc
    obtain ⟨n, -, rfl⟩ := List.mem_map.1 hc
    exact ⟨Component.noConfusion, Component.noConfusion⟩
  have hnormal : Normal p := by
    by_cases hne : p = []
    · subst hne
      exact ⟨by decide, by decide⟩
    · obtain ⟨s, later, hsegments, hcomponents⟩ := components_relative hrelative hne
      rw [hcomponents] at hname
      constructor
      · -- `..` would be a component, at the front and further behind
        intro hup
        rw [hsegments, List.mem_cons] at hup
        rcases hup with rfl | hup
        · exact (hname (c := .parent) (List.mem_append_left _ (by decide))).1 rfl
        · refine (hname (c := .parent) (List.mem_append_right _ ?_)).1 rfl
          exact List.mem_filterMap.2 ⟨_, hup, by decide⟩
      · intro _ hdot
        rw [hsegments, List.head?_cons, Option.some.injEq] at hdot
        subst hdot
        exact (hname (c := .current) (List.mem_append_left _ (by decide))).2 rfl
  refine ⟨hnormal, hrelative, ?_⟩
  have hlocated := located_eq hnormal
  rw [hrelative] at hlocated
  have hmap : (names p).map Component.name = ns.map .name := by
    rw [← h, components, hlocated, ← map_fst_reaches, List.map_map]
    simp
  exact List.map_injective_iff.2 (fun _ _ => Component.name.inj) hmap

/-- A normal path through one of its names. -/
theorem reaches_take {p : Text} (hp : Normal p) {xs ys : List (Text × Nat)} {m : Text × Nat}
    (h : segmentsFrom 0 [] p = xs ++ m :: ys) (hm : counts m.1 = true) :
    Normal (p.take m.2) ∧ isAbsolute (p.take m.2) = isAbsolute p ∧
      reaches (p.take m.2) = xs.filter (counts ·.1) ++ [m] := by
  obtain ⟨-, htake⟩ := Workspace.segmentsFrom_take h
  rw [Nat.sub_zero] at htake
  have hsegments : segments (p.take m.2) = xs.map (·.1) ++ [m.1] := by
    rw [segments, htake, List.map_append]
    rfl
  have hall : segments p = xs.map (·.1) ++ m.1 :: ys.map (·.1) := by
    rw [segments, h, List.map_append]
    rfl
  have hpos : m.2 ≠ 0 := by
    intro hzero
    have hmem : m.1 ∈ segments (p.take m.2) := by simp [hsegments]
    rw [hzero, List.take_zero] at hmem
    have hempty : m.1 = [] := by simpa [segments, segmentsFrom] using hmem
    rw [hempty] at hm
    exact absurd hm (by decide)
  have hhead : isAbsolute (p.take m.2) = isAbsolute p := by
    unfold isAbsolute
    rw [List.head?_take, if_neg hpos]
  refine ⟨⟨?_, ?_⟩, hhead, ?_⟩
  · intro hmem
    apply hp.noParent
    rw [hall]
    rw [hsegments] at hmem
    rcases List.mem_append.1 hmem with hmem | hmem
    · exact List.mem_append_left _ hmem
    · rw [List.mem_singleton.1 hmem]
      simp
  · intro hrelative
    have hfirst := hp.noCurrent (hhead ▸ hrelative)
    rw [hall] at hfirst
    rw [hsegments]
    cases xs with
    | nil => exact hfirst
    | cons x xs => exact hfirst
  · rw [reaches, htake, List.filter_append, List.filter_cons_of_pos (by exact hm), List.filter_nil]

/-- The path above a normal one. Without names there is none; otherwise it has the names but the
last. -/
theorem parent?_cases {p : Text} (hp : Normal p) :
    (names p = [] ∧ parent? p = none) ∨
    ∃ q, parent? p = some q ∧ q <+: p ∧ Normal q ∧ isAbsolute q = isAbsolute p ∧
      names p ≠ [] ∧ names q = (names p).dropLast := by
  have hlocated := located_eq hp
  rcases List.eq_nil_or_concat' (reaches p) with hnone | ⟨ms, m, hms⟩
  · -- the root or nothing
    refine .inl ⟨by rw [← map_fst_reaches, hnone]; rfl, ?_⟩
    rw [hnone, List.map_nil, List.append_nil] at hlocated
    unfold parent?
    rw [hlocated]
    cases isAbsolute p with
    | false => rfl
    | true => rfl
  · right
    have hnames : names p = ms.map (·.1) ++ [m.1] := by
      rw [← map_fst_reaches, hms, List.map_append]
      rfl
    have hne : names p ≠ [] := by simp [hnames]
    have hlast : (names p).dropLast = ms.map (·.1) := by rw [hnames, List.dropLast_concat]
    rw [hms, List.map_append, ← List.append_assoc] at hlocated
    rcases List.eq_nil_or_concat' ms with rfl | ⟨ms, m', rfl⟩
    · cases habsolute : isAbsolute p with
      | false =>
        -- a single name
        refine ⟨[], ?_, List.nil_prefix, ⟨by decide, by decide⟩, rfl, hne, hlast.symm⟩
        unfold parent?
        rw [hlocated, habsolute]
        rfl
      | true =>
        -- a single name below the root
        obtain ⟨rest, rfl⟩ : ∃ rest, p = '/' :: rest := by
          cases p with
          | nil => cases habsolute
          | cons c rest => exact ⟨rest, by rw [show c = '/' by simpa [isAbsolute] using habsolute]⟩
        refine ⟨['/'], ?_, ⟨rest, rfl⟩, ⟨by decide, by decide⟩, rfl, hne, hlast.symm⟩
        unfold parent?
        rw [hlocated, habsolute]
        rfl
    · -- the path through the name before the last
      refine ⟨p.take m'.2, ?_, List.take_prefix _ _, ?_⟩
      · unfold parent?
        rw [hlocated]
        simp
      · rw [reaches, List.append_assoc, List.filter_eq_append_iff] at hms
        obtain ⟨xs, later, hfrom, hxs, hlater⟩ := hms
        obtain ⟨skipped, behind, rfl, hskipped, hcounts, -⟩ := List.filter_eq_cons_iff.1 hlater
        rw [← List.append_assoc] at hfrom
        obtain ⟨hnormal, habsolute, hreaches⟩ := reaches_take hp hfrom hcounts
        refine ⟨hnormal, habsolute, hne, ?_⟩
        rw [hlast, ← map_fst_reaches, hreaches, List.filter_append, hxs,
          List.filter_eq_nil_iff.2 hskipped, List.append_nil]

/-! ## Characters and lengths -/

/-- What holds of no slash and no dot holds of some character of a path if it does of one in its
names. -/
theorem any_names {f : Char → Bool} (hslash : f '/' = false) (hdot : f '.' = false) (p : Text) :
    p.any f = (names p).any (·.any f) := by
  have hsegments : p.any f = (segments p).any (·.any f) := by
    have hall := congrArg (List.any · f) (Workspace.cons_eq_flatMap_segments p)
    simpa [List.any_flatMap, hslash] using hall
  have hskip {x : Text} (hx : counts x = false) : x.any f = false := by
    by_cases hnil : x = []
    · rw [hnil, List.any_nil]
    · have hone : x = ['.'] := by simpa [counts, hnil] using hx
      simp [hone, hdot]
  rw [hsegments, Bool.eq_iff_iff, List.any_eq_true, List.any_eq_true]
  constructor
  · rintro ⟨x, hx, hf⟩
    refine ⟨x, List.mem_filter.2 ⟨hx, ?_⟩, hf⟩
    by_contra hcounts
    rw [hskip (Bool.eq_false_iff.2 hcounts)] at hf
    cases hf
  · rintro ⟨x, hx, hf⟩
    exact ⟨x, List.mem_of_mem_filter hx, hf⟩

end Path

/-! ## Locations -/

namespace Workspace

open SmartyLayout.Path (names counts IsName join isAbsolute)

variable {w : Workspace} {s : FileStore} {l : Location} {p x : Text}

/-- Segments that do not count are passed by on the way to a last one. -/
theorem walk_filter (s : FileStore) (l : Location) (xs : List Text) (x : Text) :
    walk s l (xs ++ [x]) = walk s l (xs.filter counts ++ [x]) := by
  induction xs generalizing l with
  | nil => rfl
  | cons y ys ih =>
    cases hcounts : counts y with
    | true =>
      rw [List.filter_cons_of_pos hcounts, List.cons_append, List.cons_append, walk, walk]
      cases step s l y with
      | error e => rfl
      | ok l' => exact ih l'
    | false =>
      have hstay : y = [] ∨ y = ['.'] := by
        by_cases hnil : y = []
        · exact .inl hnil
        · exact .inr (by simpa [counts, hnil] using hcounts)
      rw [List.filter_cons_of_neg (by simp [hcounts]), List.cons_append, walk, ← ih]
      -- where nothing stands, or a file, whatever comes next fails in the same way
      obtain ⟨z, zs, hzs⟩ : ∃ z zs, ys ++ [x] = z :: zs := List.exists_cons_of_ne_nil (by simp)
      rw [hzs]
      cases hget : s.get? l with
      | none => simp [walk, step, hget]
      | some e =>
        cases e with
        | file bytes => simp [walk, step, hget]
        | directory => simp [step, hget, hstay]

/-- A look-up of the path is not refused for its length. -/
def Fits (p : Text) : Prop :=
  (Utf8.encode p).length ≤ pathLimit

instance (p : Text) : Decidable (Fits p) :=
  inferInstanceAs (Decidable (_ ≤ _))

/-- The bytes of a part of a path are not more. -/
theorem Fits.of_sublist {q : Text} (h : q.Sublist p) (hp : Fits p) : Fits q :=
  Nat.le_trans (h.flatMap _).length_le hp

/-- A path with a shorter text at its end fits as well. -/
theorem Fits.of_length_le {front x y : Text} (h : Fits (front ++ x))
    (hle : (Utf8.encode y).length ≤ (Utf8.encode x).length) : Fits (front ++ y) := by
  unfold Fits Utf8.encode at *
  rw [List.flatMap_append, List.length_append] at h ⊢
  omega

/-- A name below a path is looked up along the names of the path. -/
theorem walk_segments_join (hx : IsName x) (s : FileStore) (l : Location) (p : Text) :
    walk s l (segments (join p x)) = walk s l (names p ++ [x]) := by
  have hone := segments_of_not_mem hx.noSlash
  rcases Path.segments_join hx.isAbsolute (p := p) with ⟨rfl, heq⟩ | ⟨front, hfront, heq⟩ | ⟨-, heq⟩
  · rw [heq, hone]
    rfl
  · have hempty : [([] : Text)].filter counts = [] := rfl
    rw [heq, hone, walk_filter, names, hfront, List.filter_append, hempty, List.append_nil]
  · rw [heq, hone, walk_filter]
    rfl

/-- The directory where the look-up of a path begins. -/
def base (w : Workspace) (p : Text) : Location :=
  if isAbsolute p then [] else w.cwd

/-- The character that no path holds. -/
def isNul (c : Char) : Bool :=
  c.toNat == 0

/-- Where a look-up leads somewhere, the path fits, and its segments lead there. -/
theorem of_locate_eq_ok (h : w.locate p = .ok l) :
    Fits p ∧ walk w.store (w.base p) (segments p) = .ok l := by
  unfold locate origin at h
  split at h
  · cases h
  · next start hstart =>
    split at hstart
    · cases hstart
    · split at hstart
      · cases hstart
      · split at hstart
        · cases hstart
        · next hlong =>
          cases hstart
          exact ⟨Nat.not_lt.1 hlong, h⟩

/-- A name below a path is looked up along names, unless there is a NUL among them. -/
theorem locate_join (hx : IsName x) (hfits : Fits (join p x)) : w.locate (join p x) =
    if (names p ++ [x]).any (·.any isNul) then .error .nulInName
    else walk w.store (w.base p) (names p ++ [x]) := by
  have hnames : names (join p x) = names p ++ [x] := by
    rw [Path.names_join hx.isAbsolute, Path.names_of_isName hx]
  have hnul : (join p x).any isNul = (names p ++ [x]).any (·.any isNul) := by
    rw [Path.any_names (by decide) (by decide), hnames]
  have hne : (join p x).isEmpty = false := by
    simp [Path.join_eq hx.isAbsolute, hx.ne_nil]
  have hlong : ¬ pathLimit < (Utf8.encode (join p x)).length := Nat.not_lt.2 hfits
  have horigin : w.origin (join p x) =
      if (names p ++ [x]).any (·.any isNul) then .error .nulInName else .ok (w.base p) := by
    unfold origin
    rw [← hnul, hne, if_neg hlong, Path.isAbsolute_join hx.isAbsolute]
    rfl
  unfold locate
  rw [horigin]
  by_cases hany : (names p ++ [x]).any (·.any isNul) = true
  · rw [if_pos hany, if_pos hany]
  · rw [if_neg hany, if_neg hany]
    exact walk_segments_join hx w.store (w.base p) p

/-! ## Absolute paths of locations -/

theorem isAbsolute_pathOf (ns : List Text) : isAbsolute (pathOf ns) = true := by
  unfold pathOf
  cases ns with
  | nil => rfl
  | cons n ns => rfl

theorem pathOf_concat {ns : List Text} (hns : ∀ n ∈ ns, IsName n) (hx : IsName x) :
    pathOf (ns ++ [x]) = join (pathOf ns) x := by
  rcases List.eq_nil_or_concat' ns with rfl | ⟨ns, n, rfl⟩
  · simp [pathOf, join, hx.isAbsolute]
  · have hn : IsName n := hns n (by simp)
    obtain ⟨front, c, rfl⟩ : ∃ front c, n = front ++ [c] :=
      (List.eq_nil_or_concat' n).resolve_left hn.ne_nil
    have hc : c ≠ '/' := fun heq => hn.noSlash (by simp [heq])
    have hlast : ('/' :: (front ++ [c])).getLast? ≠ some '/' := by
      rw [← List.cons_append, List.getLast?_concat]
      simpa using hc
    -- the path does not end in a slash, so one is put in front of the name
    simp [pathOf, join, hx.isAbsolute, hlast]

theorem names_pathOf {ns : List Text} (hns : ∀ n ∈ ns, IsName n) : names (pathOf ns) = ns := by
  induction ns using List.reverseRecOn with
  | nil => rfl
  | append_singleton ns x ih =>
    have hx : IsName x := hns x (by simp)
    have hns' : ∀ n ∈ ns, IsName n := fun n hn => hns n (List.mem_append_left _ hn)
    rw [pathOf_concat hns' hx, Path.names_join hx.isAbsolute, ih hns', Path.names_of_isName hx]

theorem pathOf_concat_eq (ns : List Text) (x : Text) :
    pathOf (ns ++ [x]) = ns.flatMap ('/' :: ·) ++ ['/'] ++ x := by
  unfold pathOf
  rw [if_neg (by simp)]
  simp

theorem normal_pathOf {ns : List Text} (hns : ∀ n ∈ ns, IsName n) : Path.Normal (pathOf ns) := by
  induction ns using List.reverseRecOn with
  | nil => exact ⟨by decide, by decide⟩
  | append_singleton ns x ih =>
    have hx : IsName x := hns x (by simp)
    have hns' : ∀ n ∈ ns, IsName n := fun n hn => hns n (List.mem_append_left _ hn)
    have hup : ['.', '.'] ∉ segments x := by
      rw [segments_of_not_mem hx.noSlash, List.mem_singleton]
      exact hx.ne_parent.symm
    rw [pathOf_concat hns' hx]
    exact (ih hns').join (isAbsolute_pathOf ns) hx.isAbsolute hup

theorem pathOf_sublist {ns ms : List Text} (h : ns.Sublist ms) (hne : ns ≠ []) :
    (pathOf ns).Sublist (pathOf ms) := by
  have hne' : ms ≠ [] := by
    rintro rfl
    exact hne (List.sublist_nil.1 h)
  unfold pathOf
  rw [if_neg (by simpa using hne), if_neg (by simpa using hne')]
  exact h.flatMap _

/-- An absolute path holds the path of its names. -/
theorem pathOf_names_sublist (hp : isAbsolute p = true) (hne : names p ≠ []) :
    (pathOf (names p)).Sublist p := by
  obtain ⟨c, cs, rfl⟩ : ∃ c cs, p = c :: cs := by
    cases p with
    | nil => cases hp
    | cons c cs => exact ⟨c, cs, rfl⟩
  have hc : c = '/' := by simpa [isAbsolute] using hp
  subst hc
  have hnames : names ('/' :: cs) = names cs := by
    have hslash := Path.names_append_cons [] cs
    exact hslash
  rw [hnames] at hne ⊢
  have hpath : pathOf (names cs) = (names cs).flatMap ('/' :: ·) := by
    unfold pathOf
    rw [if_neg (by simpa using hne)]
  rw [hpath, cons_eq_flatMap_segments cs]
  exact List.filter_sublist.flatMap _

/-! ## The current directory -/

/-- The current directory is a directory, and its path leads to it. -/
def Stands (w : Workspace) : Prop :=
  w.find w.cwdPath = .ok (w.cwd, .directory)

/-- A step stays where it is, goes up, or goes down along a name. -/
theorem step_cases {m : Location} (h : step s l x = .ok m) :
    (counts x = false ∧ m = l) ∨ (x = ['.', '.'] ∧ m = l.dropLast) ∨
      (counts x = true ∧ x ≠ ['.', '.'] ∧ m = l ++ [x]) := by
  unfold step at h
  split at h
  · cases h
  · cases h
  · split at h
    · next hstay =>
      cases h
      exact .inl ⟨by rcases hstay with rfl | rfl <;> rfl, rfl⟩
    · next hstay =>
      rw [not_or] at hstay
      split at h
      · next hup =>
        cases h
        exact .inr (.inl ⟨hup, rfl⟩)
      · next hup =>
        split at h
        · cases h
        · cases h
          exact .inr (.inr ⟨by simp [counts, hstay.1, hstay.2], hup, rfl⟩)

/-- A walk along segments goes through names. -/
theorem isName_of_walk {xs : List Text} {l' : Location} (h : walk s l xs = .ok l')
    (hl : ∀ n ∈ l, IsName n) (hxs : ∀ x ∈ xs, '/' ∉ x) : ∀ n ∈ l', IsName n := by
  induction xs generalizing l with
  | nil =>
    cases h
    exact hl
  | cons x xs ih =>
    obtain ⟨m, hstep, hwalk⟩ := exists_of_walk_cons h
    refine ih hwalk ?_ fun y hy => hxs y (List.mem_cons_of_mem x hy)
    intro n hn
    rcases step_cases hstep with ⟨-, rfl⟩ | ⟨-, rfl⟩ | ⟨hcounts, hup, rfl⟩
    · exact hl n hn
    · exact hl n (List.dropLast_subset l hn)
    · rcases List.mem_append.1 hn with hn | hn
      · exact hl n hn
      · rw [List.mem_singleton.1 hn]
        exact ⟨hxs x List.mem_cons_self, hcounts, hup⟩

/-- A walk along names goes down along them. -/
theorem eq_append_of_walk {xs : List Text} {l' : Location} (h : walk s l xs = .ok l')
    (hxs : ∀ x ∈ xs, IsName x) : l' = l ++ xs := by
  induction xs generalizing l with
  | nil =>
    cases h
    rw [List.append_nil]
  | cons x xs ih =>
    obtain ⟨m, hstep, hwalk⟩ := exists_of_walk_cons h
    have hx := hxs x List.mem_cons_self
    rcases step_cases hstep with ⟨hstay, -⟩ | ⟨hup, -⟩ | ⟨-, -, rfl⟩
    · exact absurd hx.counts (by simp [hstay])
    · exact absurd hup hx.ne_parent
    · rw [ih hwalk fun y hy => hxs y (List.mem_cons_of_mem x hy)]
      simp

theorem Stands.isName (h : w.Stands) : ∀ n ∈ w.cwd, IsName n := by
  obtain ⟨-, hwalk⟩ := of_locate_eq_ok (find_eq_ok_iff.1 h).1
  rw [base, cwdPath, if_pos (isAbsolute_pathOf w.cwd)] at hwalk
  exact isName_of_walk hwalk (by simp) fun x hx => slash_not_mem_of_mem_segments hx

/-- The names of the current directory lead to it from the root, and there is no NUL in them. -/
theorem Stands.walk_cwd (h : w.Stands) :
    w.cwd.any (·.any isNul) = false ∧ walk w.store [] w.cwd = .ok w.cwd := by
  have hnames := h.isName
  have hlocate := (find_eq_ok_iff.1 h).1
  rcases List.eq_nil_or_concat' w.cwd with hroot | ⟨ns, x, hcwd⟩
  · rw [hroot]
    exact ⟨rfl, rfl⟩
  · rw [hcwd] at hnames
    have hx : IsName x := hnames x (by simp)
    have hns : ∀ n ∈ ns, IsName n := fun n hn => hnames n (List.mem_append_left _ hn)
    have hfits : Fits (join (pathOf ns) x) := by
      rw [← pathOf_concat hns hx, ← hcwd]
      exact (of_locate_eq_ok hlocate).1
    rw [cwdPath, hcwd, pathOf_concat hns hx, locate_join hx hfits, names_pathOf hns] at hlocate
    rw [hcwd]
    split at hlocate
    · cases hlocate
    · next hnul =>
      have hbase : w.base (pathOf ns) = [] := by rw [base, if_pos (isAbsolute_pathOf ns)]
      rw [hbase] at hlocate
      exact ⟨Bool.eq_false_iff.2 hnul, hlocate⟩

/-- A name below a path leads where the absolute path of the same names leads. -/
theorem locate_join_eq (hw : w.Stands) (hp : Path.Normal p) (hx : IsName x) (hfits : Fits (join p x))
    (hfits' : Fits (pathOf (w.base p ++ names p ++ [x]))) :
    w.locate (join p x) = w.locate (pathOf (w.base p ++ names p ++ [x])) := by
  obtain ⟨hnul, hwalk⟩ := hw.walk_cwd
  have hbase : (∀ n ∈ w.base p, IsName n) ∧ (w.base p).any (·.any isNul) = false ∧
      walk w.store [] (w.base p) = .ok (w.base p) := by
    unfold base
    split
    · exact ⟨by simp, rfl, rfl⟩
    · exact ⟨hw.isName, hnul, hwalk⟩
  obtain ⟨hbaseNames, hbaseNul, hbaseWalk⟩ := hbase
  have hns : ∀ n ∈ w.base p ++ names p, IsName n := by
    intro n hn
    rcases List.mem_append.1 hn with hn | hn
    · exact hbaseNames n hn
    · exact hp.isName hn
  have hroot : w.base (pathOf (w.base p ++ names p)) = [] := by
    rw [base, if_pos (isAbsolute_pathOf _)]
  have hany : (w.base p ++ (names p ++ [x])).any (·.any isNul) =
      (names p ++ [x]).any (·.any isNul) := by
    rw [List.any_append, hbaseNul, Bool.false_or]
  have hdown : walk w.store [] (w.base p ++ (names p ++ [x])) =
      walk w.store (w.base p) (names p ++ [x]) := by
    rw [walk_append, hbaseWalk]
  rw [pathOf_concat hns hx] at hfits' ⊢
  rw [locate_join hx hfits, locate_join hx hfits', names_pathOf hns, hroot, List.append_assoc, hany,
    hdown]

end Workspace

end SmartyLayout
