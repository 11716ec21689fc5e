import SmartyLayout.Config.Discovery
import SmartyLayout.Proofs.Paths

/-!
# SmartyLayout.Proofs.Discovery — the nearest settings file

The settings of a directory are those of the nearest directory above it that has a settings file,
unless the top of a repository stands in between (`Nearest`). A search that starts from an absolute path
finds that file. A search that starts from a relative path goes up the path as it is written, and so no
further than the current directory: `discover_below_cwd` says that it finds the same file if the file
stands in the current directory or below, and none otherwise.

One step of the search is `nearest_iff_eq`, `not_nearest_of_repository` and `nearest_concat_iff`; the
whole search is `answers_discoverFrom`.
-/

namespace SmartyLayout

namespace Config

open Workspace SmartyLayout.Path

/-! ## Nearest directories -/

/-- The name of what a repository keeps at its top. -/
def repositoryName : Text :=
  ".git".toList

/-- The directory at a location has a settings file. -/
def HasSettings (w : Workspace) (l : Location) : Prop :=
  w.isFile (pathOf (l ++ [fileName])) = true

/-- The directory at a location is the top of a repository. -/
def HasRepository (w : Workspace) (l : Location) : Prop :=
  w.pathExists (pathOf (l ++ [repositoryName])) = true

/-- Of the directory at `l` and those above it, `a` is the nearest with a settings file, and none that is
nearer is the top of a repository. -/
structure Nearest (w : Workspace) (l a : Location) : Prop where
  above : a <+: l
  settings : HasSettings w a
  nearer : ∀ b, a <+: b → b <+: l → b ≠ a → ¬ HasSettings w b ∧ ¬ HasRepository w b

section Nearest

variable {w : Workspace} {l a : Location} {n : Text}

/-- A directory with a settings file is nearest to itself. -/
theorem nearest_iff_eq (h : HasSettings w l) : Nearest w l a ↔ a = l := by
  constructor
  · intro hnearest
    by_contra hne
    exact (hnearest.nearer l hnearest.above (List.prefix_refl l) (Ne.symm hne)).1 h
  · rintro rfl
    refine ⟨List.prefix_refl a, h, fun b hab hba hne => ?_⟩
    exact absurd (hba.eq_of_length_le hab.length_le) hne

theorem not_nearest_of_repository (hsettings : ¬ HasSettings w l) (h : HasRepository w l) :
    ¬ Nearest w l a := by
  intro hnearest
  by_cases heq : l = a
  · subst heq
    exact hsettings hnearest.settings
  · exact (hnearest.nearer l hnearest.above (List.prefix_refl l) heq).2 h

/-- A directory with neither is passed by. -/
theorem nearest_concat_iff (hsettings : ¬ HasSettings w (l ++ [n]))
    (hrepository : ¬ HasRepository w (l ++ [n])) : Nearest w (l ++ [n]) a ↔ Nearest w l a := by
  constructor
  · intro hnearest
    have habove : a <+: l := by
      rcases List.prefix_concat_iff.1 hnearest.above with rfl | h
      · exact absurd hnearest.settings hsettings
      · exact h
    refine ⟨habove, hnearest.settings, fun b hab hbl hne => ?_⟩
    exact hnearest.nearer b hab (hbl.trans (List.prefix_append l [n])) hne
  · intro hnearest
    refine ⟨hnearest.above.trans (List.prefix_append l [n]), hnearest.settings,
      fun b hab hbl hne => ?_⟩
    rcases List.prefix_concat_iff.1 hbl with rfl | hbl
    · exact ⟨hsettings, hrepository⟩
    · exact hnearest.nearer b hab hbl hne

end Nearest

/-! ## Answers of a search -/

/-- The answer of a search, told by the directory of the file that it names. -/
def Answers (w : Workspace) (found : Option Text) : Option Location → Prop
  | none => found = none
  | some a => ∃ p, found = some p ∧ w.locate p = .ok (a ++ [fileName])

/-- Two searches have found the same file, or both nothing. -/
def Agree (w : Workspace) (found found' : Option Text) : Prop :=
  ∃ a, Answers w found a ∧ Answers w found' a

theorem Answers.unique {w : Workspace} {found : Option Text} {a b : Option Location}
    (ha : Answers w found a) (hb : Answers w found b) : a = b := by
  cases a with
  | none =>
    cases b with
    | none => rfl
    | some b =>
      obtain ⟨p, hp, -⟩ := hb
      cases ha.symm.trans hp
  | some a =>
    obtain ⟨p, hp, hlocate⟩ := ha
    cases b with
    | none => cases hp.symm.trans hb
    | some b =>
      obtain ⟨q, hq, hlocate'⟩ := hb
      obtain rfl : p = q := Option.some.inj (hp.symm.trans hq)
      have hsame := Except.ok.inj (hlocate.symm.trans hlocate')
      rw [List.append_cancel_right hsame]

/-! ## The search -/

variable {w : Workspace} {p q : Text}

/-- The paths that are looked up in a directory, as it is written and in full, are not too long. -/
structure Room (w : Workspace) (p : Text) : Prop where
  written : Fits (join p fileName)
  full : Fits (pathOf (w.base p ++ names p ++ [fileName]))

theorem isName_fileName : IsName fileName :=
  ⟨by decide, by decide, by decide⟩

theorem isName_repositoryName : IsName repositoryName :=
  ⟨by decide, by decide, by decide⟩

/-- In a directory with room for it a name is found where it is found in full. -/
theorem Room.locate_join (hroom : Room w p) (hw : w.Stands) (hp : Normal p) {x : Text} (hx : IsName x)
    (hshort : (Utf8.encode x).length ≤ (Utf8.encode fileName).length) :
    w.locate (join p x) = w.locate (pathOf (w.base p ++ names p ++ [x])) := by
  refine locate_join_eq hw hp hx ?_ ?_
  · have hwritten := hroom.written
    rw [join_eq isName_fileName.isAbsolute] at hwritten
    rw [join_eq hx.isAbsolute]
    exact hwritten.of_length_le hshort
  · have hfull := hroom.full
    rw [pathOf_concat_eq] at hfull ⊢
    exact hfull.of_length_le hshort

theorem Room.isFile_iff (hroom : Room w p) (hw : w.Stands) (hp : Normal p) :
    w.isFile (join p fileName) = true ↔ HasSettings w (w.base p ++ names p) := by
  have hfind := find_congr (hroom.locate_join hw hp isName_fileName (Nat.le_refl _))
  unfold HasSettings isFile
  rw [hfind]

theorem Room.pathExists_iff (hroom : Room w p) (hw : w.Stands) (hp : Normal p) :
    w.pathExists (join p repositoryName) = true ↔ HasRepository w (w.base p ++ names p) := by
  have hfind := find_congr (hroom.locate_join hw hp isName_repositoryName (by decide))
  unfold HasRepository pathExists
  rw [hfind]

/-- The settings file of a directory stands below the names of the directory. -/
theorem Room.locate_of_isFile (hroom : Room w p) (hp : Normal p)
    (h : w.isFile (join p fileName) = true) :
    w.locate (join p fileName) = .ok (w.base p ++ names p ++ [fileName]) := by
  obtain ⟨l, bytes, hfind⟩ := exists_of_isFile h
  have hlocate := (find_eq_ok_iff.1 hfind).1
  have hwalk := hlocate
  rw [Workspace.locate_join isName_fileName hroom.written] at hwalk
  split at hwalk
  · cases hwalk
  · have hnames : ∀ x ∈ names p ++ [fileName], IsName x := by
      intro x hx
      rcases List.mem_append.1 hx with hx | hx
      · exact hp.isName hx
      · rw [List.mem_singleton.1 hx]
        exact isName_fileName
    rw [hlocate, eq_append_of_walk hwalk hnames, List.append_assoc]

/-- There is room above a directory if there is room in it. -/
theorem Room.parent (hroom : Room w p) (hq : q <+: p) (habsolute : isAbsolute q = isAbsolute p)
    (hnames : names q = (names p).dropLast) : Room w q := by
  constructor
  · have hwritten := hroom.written
    rw [join_eq isName_fileName.isAbsolute] at hwritten ⊢
    exact hwritten.of_sublist ((lead_sublist hq).append (List.Sublist.refl _))
  · have hbase : w.base q = w.base p := by rw [base, base, habsolute]
    rw [hbase, hnames]
    refine hroom.full.of_sublist (pathOf_sublist ?_ (by simp))
    exact ((List.Sublist.refl _).append (List.dropLast_sublist _)).append (List.Sublist.refl _)

theorem discoverFrom_succ (w : Workspace) (depth : Nat) (p : Text) :
    discoverFrom w (depth + 1) p =
      if w.isFile (join p fileName) then some (join p fileName)
      else if w.pathExists (join p repositoryName) then none
      else (parent? p).bind (discoverFrom w depth) := rfl

/-- A search that has steps enough for the names of its path answers with the nearest directory, as long
as that is not above the place where the path begins. -/
theorem answers_discoverFrom (hw : w.Stands) (depth : Nat) (hp : Normal p)
    (hdepth : (names p).length < depth) (hroom : Room w p) :
    ∃ o, Answers w (discoverFrom w depth p) o ∧
      ∀ a, o = some a ↔ Nearest w (w.base p ++ names p) a ∧ w.base p <+: a := by
  induction depth generalizing p with
  | zero => exact absurd hdepth (Nat.not_lt_zero _)
  | succ depth ih =>
    rw [discoverFrom_succ]
    by_cases hsettings : HasSettings w (w.base p ++ names p)
    · -- the file is in this directory
      have hfile := (hroom.isFile_iff hw hp).2 hsettings
      rw [if_pos hfile]
      refine ⟨some (w.base p ++ names p), ⟨_, rfl, hroom.locate_of_isFile hp hfile⟩, fun a => ?_⟩
      rw [nearest_iff_eq hsettings, Option.some.injEq]
      constructor
      · rintro rfl
        exact ⟨rfl, List.prefix_append _ _⟩
      · rintro ⟨rfl, -⟩
        rfl
    · rw [if_neg fun h => hsettings ((hroom.isFile_iff hw hp).1 h)]
      by_cases hrepository : HasRepository w (w.base p ++ names p)
      · -- the top of a repository
        rw [if_pos ((hroom.pathExists_iff hw hp).2 hrepository)]
        refine ⟨none, rfl, fun a => ?_⟩
        simp [not_nearest_of_repository hsettings hrepository]
      · rw [if_neg fun h => hrepository ((hroom.pathExists_iff hw hp).1 h)]
        rcases parent?_cases hp with ⟨hnone, hparent⟩ | ⟨q, hparent, hq, hnormal, habsolute, hne, hnames⟩
        · -- the path ends here
          rw [hparent]
          refine ⟨none, rfl, fun a => ?_⟩
          rw [hnone, List.append_nil] at hsettings ⊢
          constructor
          · intro h
            cases h
          · rintro ⟨hnearest, hbelow⟩
            have heq : a = w.base p := hnearest.above.eq_of_length_le hbelow.length_le
            exact absurd (heq ▸ hnearest.settings) hsettings
        · -- one directory up
          have hbase : w.base q = w.base p := by rw [base, base, habsolute]
          obtain ⟨ns, n, hns⟩ : ∃ ns n, names p = ns ++ [n] :=
            (List.eq_nil_or_concat' _).resolve_left hne
          have hlast : names q = ns := by rw [hnames, hns, List.dropLast_concat]
          have hlength : (names q).length < depth := by
            rw [hns, List.length_append, List.length_singleton] at hdepth
            rw [hlast]
            omega
          obtain ⟨o, ho, hnearest⟩ := ih hnormal hlength (hroom.parent hq habsolute hnames)
          rw [hparent]
          refine ⟨o, ho, fun a => ?_⟩
          rw [hns, ← List.append_assoc] at hsettings hrepository
          rw [hnearest, hbase, hlast, hns, ← List.append_assoc,
            nearest_concat_iff hsettings hrepository]

/-! ## Relative and absolute starts -/

/-- If the path of a settings file is not too long, there is room for searches from the relative path of
its directory and from the absolute one. -/
theorem room_below_cwd {d : Text} (hw : w.Stands) (hd : isAbsolute d = false)
    (hfits : Fits (join (join w.cwdPath d) fileName)) : Room w d ∧ Room w (join w.cwdPath d) := by
  have habsolute : isAbsolute (join w.cwdPath d) = true := by
    rw [isAbsolute_join hd]
    exact isAbsolute_pathOf w.cwd
  have hnames : names (join (join w.cwdPath d) fileName) = w.cwd ++ names d ++ [fileName] := by
    rw [names_join isName_fileName.isAbsolute, names_of_isName isName_fileName, names_join hd, cwdPath,
      names_pathOf hw.isName]
  have hfull : Fits (pathOf (w.cwd ++ names d ++ [fileName])) := by
    rw [← hnames]
    refine hfits.of_sublist (pathOf_names_sublist ?_ (by rw [hnames]; simp))
    rw [isAbsolute_join isName_fileName.isAbsolute, habsolute]
  refine ⟨⟨?_, ?_⟩, ⟨hfits, ?_⟩⟩
  · rw [join_eq isName_fileName.isAbsolute, join_eq hd] at hfits
    rw [join_eq isName_fileName.isAbsolute]
    refine hfits.of_sublist (List.Sublist.append ?_ (List.Sublist.refl _))
    by_cases hnil : d = []
    · subst hnil
      exact List.nil_sublist _
    · rw [lead_append hnil]
      exact List.sublist_append_right _ _
  · rw [base, hd]
    exact hfull
  · rw [base, if_pos habsolute, names_join hd, cwdPath, names_pathOf hw.isName, List.nil_append]
    exact hfull

/-- Searching from a relative path made of names, in a workspace whose current directory stands: from
the absolute path of the same directory the search finds the nearest settings file; from the relative
path it finds that file if it stands in the current directory or below, and nothing otherwise. So
the two agree exactly if the nearest settings file does not stand above the current directory. -/
theorem discover_below_cwd {w : Workspace} {d : Text} {ns : List Text} (hw : w.Stands)
    (hd : components d = ns.map .name) (hdepth : (w.cwd ++ ns).length < searchDepth)
    (hfits : Fits (join (join w.cwdPath d) fileName)) :
    ∃ o, (∀ a, o = some a ↔ Nearest w (w.cwd ++ ns) a) ∧
      Answers w (discover w (join w.cwdPath d)) o ∧
      Answers w (discover w d) (o.filter (w.cwd.isPrefixOf ·)) ∧
      (Agree w (discover w d) (discover w (join w.cwdPath d)) ↔
        ∀ a, Nearest w (w.cwd ++ ns) a → w.cwd <+: a) := by
  obtain ⟨hnormal, hrelative, hnames⟩ := normal_of_components hd
  have habsolute : isAbsolute (join w.cwdPath d) = true := by
    rw [isAbsolute_join hrelative]
    exact isAbsolute_pathOf w.cwd
  have hjoined : names (join w.cwdPath d) = w.cwd ++ ns := by
    rw [names_join hrelative, cwdPath, names_pathOf hw.isName, hnames]
  have hroot : w.base (join w.cwdPath d) = [] := by rw [base, if_pos habsolute]
  have hcwd : w.base d = w.cwd := by
    rw [base, hrelative]
    rfl
  obtain ⟨hroom, hroom'⟩ := room_below_cwd hw hrelative hfits
  -- from the root
  obtain ⟨o, ho, hnearest⟩ := answers_discoverFrom hw searchDepth
    ((normal_pathOf hw.isName).join (isAbsolute_pathOf _) hrelative hnormal.noParent)
    (by rw [← cwdPath, hjoined]; exact hdepth) hroom'
  rw [← cwdPath, hroot, hjoined, List.nil_append] at hnearest
  -- from the current directory
  obtain ⟨o', ho', hbelow⟩ := answers_discoverFrom hw searchDepth hnormal
    (by rw [hnames]; rw [List.length_append] at hdepth; omega) hroom
  rw [hcwd, hnames] at hbelow
  have hall : ∀ a, o = some a ↔ Nearest w (w.cwd ++ ns) a := by
    intro a
    rw [hnearest, and_iff_left List.nil_prefix]
  have hfilter : o' = o.filter (w.cwd.isPrefixOf ·) := by
    ext a
    rw [hbelow, Option.filter_eq_some_iff, hall, List.isPrefixOf_iff_prefix]
  rw [hfilter] at ho'
  refine ⟨o, hall, ho, ho', ?_⟩
  constructor
  · rintro ⟨x, hx, hx'⟩ a ha
    have hsame : o.filter (w.cwd.isPrefixOf ·) = o := (ho'.unique hx).trans (hx'.unique ho)
    rw [(hall a).2 ha, Option.filter_eq_some_iff] at hsame
    exact List.isPrefixOf_iff_prefix.1 hsame.2
  · intro habove
    have hsame : o.filter (w.cwd.isPrefixOf ·) = o := by
      cases o with
      | none => rfl
      | some a =>
        have hunder := habove a ((hall a).1 rfl)
        exact Option.filter_eq_some_iff.2 ⟨rfl, List.isPrefixOf_iff_prefix.2 hunder⟩
    exact ⟨o, hsame ▸ ho', ho⟩

/-- A project with its settings file at the top, searched from a directory that does not exist, written
with a dot and a slash too many, while the current directory is inside the project. -/
theorem discover_below_cwd_project :
    let w : Workspace :=
      { store := ⟨[([['p']], .directory), ([['p'], fileName], .file []), ([['p'], ['c']], .directory)]⟩
        cwd := [['p'], ['c']], configHome := [], home := [] }
    let d := "d/.//e".toList
    w.Stands ∧ components d = [['d'], ['e']].map .name ∧ Fits (join (join w.cwdPath d) fileName) ∧
      Nearest w [['p'], ['c'], ['d'], ['e']] [['p']] ∧
      discover w (join w.cwdPath d) = some "/p/.smartyfmt.toml".toList ∧ discover w d = none := by
  intro w d
  have hw : w.Stands := by
    unfold Stands
    decide
  have hd : components d = [['d'], ['e']].map .name := by decide
  have hfits : Fits (join (join w.cwdPath d) fileName) := by decide
  have hfull : discover w (join w.cwdPath d) = some "/p/.smartyfmt.toml".toList := by decide +kernel
  obtain ⟨o, hnearest, ho, -, -⟩ := discover_below_cwd hw hd (by decide) hfits
  have hanswer : Answers w (discover w (join w.cwdPath d)) (some [['p']]) :=
    ⟨_, hfull, by decide +kernel⟩
  exact ⟨hw, hd, hfits, (hnearest _).1 (ho.unique hanswer), hfull, by decide +kernel⟩

/-- It does matter how the start is written: a relative search misses the settings file that stands above
the current directory. -/
theorem discover_misses_above :
    ¬ ∀ (w : Workspace) (d : Text) (ns : List Text), w.Stands → components d = ns.map .name →
      (w.cwd ++ ns).length < searchDepth → Fits (join (join w.cwdPath d) fileName) →
      Agree w (discover w d) (discover w (join w.cwdPath d)) := by
  intro h
  let w : Workspace :=
    { store := ⟨[([fileName], .file []), ([['c']], .directory), ([['c'], ['d']], .directory)]⟩
      cwd := [['c']], configHome := [], home := [] }
  have hw : w.Stands := by
    unfold Stands
    decide
  obtain ⟨o, ho, ho'⟩ := h w ['d'] [['d']] hw (by decide) (by decide) (by decide)
  have hnone : discover w ['d'] = none := by decide +kernel
  have hsome : discover w (join w.cwdPath ['d']) = some "/.smartyfmt.toml".toList := by
    decide +kernel
  cases o with
  | none => cases ho'.symm.trans hsome
  | some a =>
    obtain ⟨p, hp, -⟩ := ho
    cases hnone.symm.trans hp

end Config

end SmartyLayout
