import SmartyLayout.CommandLine.Format
import SmartyLayout.Proofs.Paths

/-!
# SmartyLayout.Proofs.Batches — files formatted one after another

A run over files reads each file, and may write it, before it comes to the next. A file that is written
takes the place of a file, so no path leads elsewhere afterwards (`locate_write`), and files at other
locations are as they were (`find_write`). So it makes no difference that files were written before:
every file is judged as it was when the run began.

* `formatFile_cases`: what is done with one file, checking or not;
* `outcomes_formatFiles`: what a run finds out about its files;
* `get?_formatFiles`, `formatFiles_check`: what it leaves of the store;
* `formatSelection_isolated`: what a request to format selected files does.
-/

namespace SmartyLayout

/-! ## Stores -/

namespace FileStore

variable {s : FileStore} {l : Location}

theorem get?_put (hl : l ≠ []) (e : Entry) (l' : Location) :
    (s.put l e).get? l' = if l' = l then some e else s.get? l' := by
  unfold get?
  by_cases hroot : l' = []
  · simp [hroot, Ne.symm hl]
  simp only [hroot, if_false]
  unfold put
  split
  · next hany =>
    -- the entry that is found is the same, with its content replaced if it is the one at `l`
    have hkey : ((·.1 == l') ∘ fun x : Location × Entry => if x.1 == l then (l, e) else x) =
        (·.1 == l') := by
      funext x
      by_cases hx : x.1 = l <;> simp [hx]
    rw [List.find?_map, hkey]
    cases hfind : s.entries.find? (·.1 == l') with
    | none =>
      have hne : l' ≠ l := by
        rintro rfl
        obtain ⟨x, hx, hkey⟩ := List.any_eq_true.1 hany
        exact List.find?_eq_none.1 hfind x hx hkey
      simp [hne]
    | some x =>
      have hx : x.1 = l' := by simpa using List.find?_some hfind
      by_cases hlocation : l' = l <;> simp [hx, hlocation]
  · next hany =>
    by_cases hlocation : l' = l
    · subst hlocation
      have hnone : s.entries.find? (·.1 == l') = none := by
        rw [List.find?_eq_none]
        intro x hx hkey
        exact hany (List.any_eq_true.2 ⟨x, hx, hkey⟩)
      simp [hnone]
    · simp [hlocation, Ne.symm hlocation]

theorem ne_nil_of_get?_file {bytes : Bytes} (h : s.get? l = some (.file bytes)) : l ≠ [] := by
  rintro rfl
  simp [get?] at h

end FileStore

/-! ## Paths -/

namespace Workspace

variable {w : Workspace} {s : FileStore} {l : Location} {bytes : Bytes}

/-- The workspace with a text in a file. -/
def write (w : Workspace) (l : Location) (t : Text) : Workspace :=
  { w with store := w.store.put l (.file (Utf8.encode t)) }

/-- A file in place of a file is passed by as before. -/
theorem step_put (h : s.get? l = some (.file bytes)) (content : Bytes) (l' : Location) (segment : Text) :
    step (s.put l (.file content)) l' segment = step s l' segment := by
  unfold step
  rw [FileStore.get?_put (FileStore.ne_nil_of_get?_file h)]
  by_cases hlocation : l' = l
  · simp [hlocation, h]
  · simp [hlocation]

theorem walk_put (h : s.get? l = some (.file bytes)) (content : Bytes) (l' : Location)
    (names : List Text) : walk (s.put l (.file content)) l' names = walk s l' names := by
  induction names generalizing l' with
  | nil => rfl
  | cons name names ih => simp only [walk, step_put h, ih]

/-- Paths lead where they led before a file was written in place of a file. -/
theorem locate_write (h : w.store.get? l = some (.file bytes)) (t p : Text) :
    (w.write l t).locate p = w.locate p := by
  have horigin : (w.write l t).origin p = w.origin p := rfl
  unfold locate
  rw [horigin]
  cases w.origin p with
  | error e => rfl
  | ok start => exact walk_put h _ start _

/-- Paths to other locations lead to what they led to before. -/
theorem find_write (h : w.store.get? l = some (.file bytes)) (t : Text) {p : Text}
    (hp : w.locate p ≠ .ok l) : (w.write l t).find p = w.find p := by
  unfold find
  rw [locate_write h]
  cases hlocate : w.locate p with
  | error e => rfl
  | ok l' =>
    have hne : l' ≠ l := by
      rintro rfl
      exact hp hlocate
    simp only [write, FileStore.get?_put (FileStore.ne_nil_of_get?_file h), if_neg hne]

/-! ## Writing what was read -/

/-- What stands at the end of an empty segment is a directory. -/
theorem get?_of_walk_empty {names : List Text} {start : Location}
    (h : walk s start (names ++ [[]]) = .ok l) : s.get? l = some .directory := by
  rw [walk_append] at h
  cases hwalk : walk s start names with
  | error e => simp [hwalk] at h
  | ok l' =>
    simp only [hwalk, walk, step] at h
    cases hget : s.get? l' with
    | none => simp [hget] at h
    | some e =>
      cases e with
      | file content => simp [hget] at h
      | directory =>
        have hl : l' = l := by simpa [hget] using h
        rw [← hl, hget]

/-- A file that was found can be written, and at the same place. -/
theorem place_of_find {p : Text} (h : w.find p = .ok (l, .file bytes)) : w.place p = .ok l := by
  obtain ⟨hlocate, hget⟩ := find_eq_ok_iff.1 h
  unfold locate at hlocate
  unfold place
  cases horigin : w.origin p with
  | error e => simp [horigin] at hlocate
  | ok start =>
    simp only [horigin] at hlocate ⊢
    -- no slash at the end of the path, since what is found there would be a directory
    have htrimmed : (p.reverse.dropWhile (· == '/')).reverse = p := by
      rcases List.eq_nil_or_concat' p with rfl | ⟨front, c, rfl⟩
      · rfl
      · have hc : c ≠ '/' := by
          rintro rfl
          -- a path that ends in a slash ends in an empty segment
          have hsegments : segments (front ++ ['/']) = segments front ++ [[]] :=
            segments_append_cons front []
          rw [hsegments] at hlocate
          have hdirectory := get?_of_walk_empty hlocate
          simp [hget] at hdirectory
        simp [hc]
    obtain ⟨names, name, hnames⟩ : ∃ names name, segments p = names ++ [name] :=
      ⟨_, _, (List.dropLast_append_getLast (segments_ne_nil p)).symm⟩
    rw [htrimmed, hnames, List.dropLast_concat]
    rw [hnames, walk_append] at hlocate
    cases hwalk : walk w.store start names with
    | error e => simp [hwalk] at hlocate
    | ok l' =>
      simp only [hwalk, walk] at hlocate
      cases hstep : step w.store l' name with
      | error e => simp [hstep] at hlocate
      | ok l'' =>
        obtain rfl : l'' = l := by simpa [hstep] using hlocate
        simp [placeIn, hstep, FileStore.isDirectory, hget]

theorem writeText_of_find {p : Text} (h : w.find p = .ok (l, .file bytes)) (t : Text) :
    w.writeText p t = .ok (w.write l t) := by
  simp only [writeText, place_of_find h]
  rfl

/-- The two paths do not lead to the same location. -/
def Apart (w : Workspace) (p q : Text) : Prop :=
  ∀ l, w.locate p = .ok l → w.locate q ≠ .ok l

instance (w : Workspace) (p q : Text) : Decidable (w.Apart p q) :=
  match h : w.locate p with
  | .error _ => isTrue fun l hl => by simp [h] at hl
  | .ok l => decidable_of_iff (w.locate q ≠ .ok l) (by simp [Apart, h])

end Workspace

namespace CommandLine

/-! ## One file -/

/-- The file at a path and its formatted form: where it stands, its text, and the text formatted. Where
there is no file, or one that is no text, or a text that cannot be formatted, there is none. -/
def formatted? (f : Formatter) (w : Workspace) (p : Text) : Option (Location × Text × Text) :=
  match w.find p with
  | .ok (l, .file bytes) =>
    (Utf8.decode bytes).toOption.bind fun t =>
      (f.formatDocument t).toOption.map fun out => (l, t, out)
  | _ => none

/-- A file that differs from its formatted form: where it stands, and that form. -/
def rewrite? (f : Formatter) (w : Workspace) (p : Text) : Option (Location × Text) :=
  (formatted? f w p).bind fun (l, t, out) => if out = t then none else some (l, out)

section File

variable {f : Formatter} {w : Workspace} {p : Text}

/-- What is done with a file, in every workspace where its path leads to the same file: it is reported,
passed over, or rewritten unless the run only checks. -/
theorem formatFile_cases (f : Formatter) (w : Workspace) (p : Text) :
    (formatted? f w p = none ∧ ∃ message, ∀ w', w'.find p = w.find p → ∀ check,
      formatFile f check w' p = (.failed message, w')) ∨
    (∃ l t, formatted? f w p = some (l, t, t) ∧ ∀ w', w'.find p = w.find p → ∀ check,
      formatFile f check w' p = (.unchanged, w')) ∨
    ∃ l t out bytes, formatted? f w p = some (l, t, out) ∧ out ≠ t ∧ w.find p = .ok (l, .file bytes) ∧
      ∀ w', w'.find p = w.find p → ∀ check,
        formatFile f check w' p = if check then (.wouldReformat, w') else (.reformatted, w'.write l out) := by
  cases hfind : w.find p with
  | error cause =>
    refine .inl ⟨by simp [formatted?, hfind], fileMessage "read" p cause, fun w' hsame check => ?_⟩
    simp [formatFile, Workspace.readText, Workspace.readBytes, hsame]
  | ok found =>
    obtain ⟨l, entry⟩ := found
    cases entry with
    | directory =>
      refine .inl ⟨by simp [formatted?, hfind], fileMessage "read" p .isDirectory,
        fun w' hsame check => ?_⟩
      simp [formatFile, Workspace.readText, Workspace.readBytes, hsame]
    | file bytes =>
      cases hdecode : Utf8.decode bytes with
      | error fault =>
        refine .inl ⟨by simp [formatted?, hfind, hdecode, Except.toOption],
          fileMessage "read" p .notText, fun w' hsame check => ?_⟩
        simp [formatFile, Workspace.readText, Workspace.readBytes, hsame, hdecode]
      | ok t =>
        have hread {w' : Workspace} (hsame : w'.find p = .ok (l, .file bytes)) :
            w'.readText p = .ok t := by
          simp [Workspace.readText, Workspace.readBytes, hsame, hdecode]
        have hformatted : formatted? f w p =
            (f.formatDocument t).toOption.map fun out => (l, t, out) := by
          simp [formatted?, hfind, hdecode, Except.toOption]
        cases hformat : f.formatDocument t with
        | error fault =>
          rw [hformat] at hformatted
          refine .inl ⟨hformatted, fault.report, fun w' hsame check => ?_⟩
          simp [formatFile, hread hsame, hformat]
        | ok out =>
          rw [hformat] at hformatted
          by_cases heq : out = t
          · subst heq
            refine .inr (.inl ⟨l, out, hformatted, fun w' hsame check => ?_⟩)
            simp [formatFile, hread hsame, hformat]
          · refine .inr (.inr ⟨l, t, out, bytes, hformatted, heq, rfl, fun w' hsame check => ?_⟩)
            -- what was read can be written
            simp only [formatFile, hread hsame, hformat, heq, if_false,
              Workspace.writeText_of_find hsame]

/-- Only what the path leads to matters to the outcome. -/
theorem outcome_congr {w' : Workspace} (h : w'.find p = w.find p) (check : Bool) :
    (formatFile f check w' p).1 = (formatFile f check w p).1 := by
  rcases formatFile_cases f w p with ⟨-, message, hrun⟩ | ⟨l, t, -, hrun⟩ | ⟨l, t, out, bytes, -, -, -, hrun⟩
  · rw [hrun w' h, hrun w rfl]
  · rw [hrun w' h, hrun w rfl]
  · rw [hrun w' h, hrun w rfl]
    cases check <;> rfl

theorem rewrite?_congr {w' : Workspace} (h : w'.find p = w.find p) : rewrite? f w' p = rewrite? f w p := by
  simp only [rewrite?, formatted?, h]

/-- A file counts as failed if it has no formatted form. -/
theorem isFailure_outcome (f : Formatter) (w : Workspace) (check : Bool) (p : Text) :
    (formatFile f check w p).1.isFailure = (formatted? f w p).isNone := by
  rcases formatFile_cases f w p with ⟨hnone, message, hrun⟩ | ⟨l, t, hsame, hrun⟩ |
    ⟨l, t, out, bytes, hsome, -, -, hrun⟩
  · rw [hrun w rfl, hnone]
    rfl
  · rw [hrun w rfl, hsame]
    rfl
  · rw [hrun w rfl, hsome]
    cases check <;> rfl

/-- It counts as changed if it differs from its formatted form, whether it is rewritten or not. -/
theorem differs_outcome (f : Formatter) (w : Workspace) (check : Bool) (p : Text) :
    (formatFile f check w p).1.differs = (rewrite? f w p).isSome := by
  rcases formatFile_cases f w p with ⟨hnone, message, hrun⟩ | ⟨l, t, hsame, hrun⟩ |
    ⟨l, t, out, bytes, hsome, hne, -, hrun⟩
  · simp [hrun w rfl, rewrite?, hnone, FileOutcome.differs]
  · simp [hrun w rfl, rewrite?, hsame, FileOutcome.differs]
  · cases check <;> simp [hrun w rfl, rewrite?, hsome, hne, FileOutcome.differs]

/-- It is named in the output if it counts as changed. -/
theorem changeLine_outcome (f : Formatter) (w : Workspace) (check : Bool) (p : Text) :
    changeLine w p (formatFile f check w p).1 = if (rewrite? f w p).isSome then
      changeLine w p (if check then .wouldReformat else .reformatted) else [] := by
  rcases formatFile_cases f w p with ⟨hnone, message, hrun⟩ | ⟨l, t, hsame, hrun⟩ |
    ⟨l, t, out, bytes, hsome, hne, -, hrun⟩
  · simp [hrun w rfl, rewrite?, hnone, changeLine]
  · simp [hrun w rfl, rewrite?, hsame, changeLine]
  · cases check <;> simp [hrun w rfl, rewrite?, hsome, hne]

/-- A run that does not only check leaves the file in its formatted form. -/
theorem formatFile_snd (f : Formatter) (w : Workspace) (p : Text) :
    (formatFile f false w p).2 = match rewrite? f w p with
      | none => w
      | some (l, out) => w.write l out := by
  rcases formatFile_cases f w p with ⟨hnone, message, hrun⟩ | ⟨l, t, hsame, hrun⟩ |
    ⟨l, t, out, bytes, hsome, hne, -, hrun⟩
  · simp [hrun w rfl, rewrite?, hnone]
  · simp [hrun w rfl, rewrite?, hsame]
  · simp [hrun w rfl, rewrite?, hsome, hne]

/-- A run that only checks leaves everything as it is. -/
theorem formatFile_check_snd (f : Formatter) (w : Workspace) (p : Text) :
    (formatFile f true w p).2 = w := by
  rcases formatFile_cases f w p with ⟨-, message, hrun⟩ | ⟨l, t, -, hrun⟩ | ⟨l, t, out, bytes, -, -, -, hrun⟩
  · rw [hrun w rfl]
  · rw [hrun w rfl]
  · rw [hrun w rfl]
    rfl

/-- Where a file that differs stands, a file stands. -/
theorem find_of_rewrite? {l : Location} {out : Text} (h : rewrite? f w p = some (l, out)) :
    ∃ bytes, w.find p = .ok (l, .file bytes) := by
  rcases formatFile_cases f w p with ⟨hnone, -⟩ | ⟨l', t, hsame, -⟩ |
    ⟨l', t, out', bytes, hsome, hne, hfind, -⟩
  · simp [rewrite?, hnone] at h
  · simp [rewrite?, hsame] at h
  · obtain ⟨rfl, rfl⟩ : l' = l ∧ out' = out := by simpa [rewrite?, hsome, hne] using h
    exact ⟨bytes, hfind⟩

/-- Every path leads where it led, and paths apart from that of the file lead to the same. -/
theorem find_formatFile (f : Formatter) (check : Bool) (w : Workspace) (p q : Text) :
    (formatFile f check w p).2.locate q = w.locate q ∧
      (w.Apart p q → (formatFile f check w p).2.find q = w.find q) := by
  cases check with
  | true =>
    rw [formatFile_check_snd]
    exact ⟨rfl, fun _ => rfl⟩
  | false =>
    rw [formatFile_snd]
    cases hrewrite : rewrite? f w p with
    | none => exact ⟨rfl, fun _ => rfl⟩
    | some found =>
      obtain ⟨bytes, hfind⟩ := find_of_rewrite? hrewrite
      obtain ⟨hlocate, hget⟩ := Workspace.find_eq_ok_iff.1 hfind
      exact ⟨Workspace.locate_write hget found.2 q, fun hapart =>
        Workspace.find_write hget found.2 (hapart found.1 hlocate)⟩

end File

/-! ## Runs -/

section Run

variable {f : Formatter} {w : Workspace} {files : List Text}

/-- Later files are apart after the first one is dealt with if they were before. -/
theorem pairwise_apart_formatFile (f : Formatter) (check : Bool) (p : Text)
    (h : files.Pairwise w.Apart) : files.Pairwise (formatFile f check w p).2.Apart := by
  refine h.imp fun {q q'} hapart l hq => ?_
  rw [(find_formatFile f check w p q).1] at hq
  rw [(find_formatFile f check w p q').1]
  exact hapart l hq

/-- Each file is judged as it was when the run began, whatever became of those before it. -/
theorem outcomes_formatFiles (f : Formatter) (check : Bool) (h : files.Pairwise w.Apart) :
    (formatFiles f check w files).1 = files.map fun p => (p, (formatFile f check w p).1) := by
  induction files generalizing w with
  | nil => rfl
  | cons p files ih =>
    obtain ⟨hfirst, hlater⟩ := List.pairwise_cons.1 h
    have hrest := ih (pairwise_apart_formatFile f check p hlater)
    simp only [formatFiles, List.map_cons, List.cons.injEq, true_and, hrest]
    refine List.map_congr_left fun q hq => ?_
    rw [outcome_congr ((find_formatFile f check w p q).2 (hfirst q hq))]

theorem formatFiles_check (f : Formatter) (w : Workspace) (files : List Text) :
    (formatFiles f true w files).2 = w := by
  induction files generalizing w with
  | nil => rfl
  | cons p files ih =>
    simp only [formatFiles]
    rw [ih, formatFile_check_snd]

/-- Afterwards the files that differed from their formatted forms have them, and nothing else has
changed. -/
theorem get?_formatFiles (f : Formatter) (h : files.Pairwise w.Apart) (l : Location) :
    (formatFiles f false w files).2.store.get? l =
      match (files.filterMap (rewrite? f w)).lookup l with
      | some out => some (.file (Utf8.encode out))
      | none => w.store.get? l := by
  induction files generalizing w with
  | nil => rfl
  | cons p files ih =>
    obtain ⟨hfirst, hlater⟩ := List.pairwise_cons.1 h
    have hrest := ih (pairwise_apart_formatFile f false p hlater)
    -- the first file is apart from the others, so they are found as before
    have hsame : files.filterMap (rewrite? f (formatFile f false w p).2) =
        files.filterMap (rewrite? f w) :=
      List.filterMap_congr fun q hq => rewrite?_congr ((find_formatFile f false w p q).2 (hfirst q hq))
    simp only [formatFiles]
    rw [hrest, hsame, formatFile_snd]
    cases hrewrite : rewrite? f w p with
    | none => rw [List.filterMap_cons_none hrewrite]
    | some found =>
      obtain ⟨l', out⟩ := found
      obtain ⟨bytes, hfind⟩ := find_of_rewrite? hrewrite
      obtain ⟨hlocate, hget⟩ := Workspace.find_eq_ok_iff.1 hfind
      rw [List.filterMap_cons_some hrewrite, List.lookup_cons]
      by_cases hl : l = l'
      · -- none of the later files stands here
        subst hl
        have hnone : (files.filterMap (rewrite? f w)).lookup l = none := by
          rw [List.lookup_eq_none_iff]
          intro later hmem
          obtain ⟨q, hq, hrewrite'⟩ := List.mem_filterMap.1 hmem
          obtain ⟨bytes', hfind'⟩ := find_of_rewrite? hrewrite'
          have hlocate' := (Workspace.find_eq_ok_iff.1 hfind').1
          rw [bne_iff_ne]
          rintro rfl
          exact hfirst q hq later.1 hlocate hlocate'
        simp [hnone, Workspace.write, FileStore.get?_put (FileStore.ne_nil_of_get?_file hget)]
      · -- elsewhere the file changes nothing
        have hkey : (l == l') = false := by simpa using hl
        simp [hkey, Workspace.write, FileStore.get?_put (FileStore.ne_nil_of_get?_file hget), hl]

end Run

/-! ## Reports -/

namespace Tally

/-- No outcome is counted twice, so the difference that tells the files left alone is exact. -/
theorem unchanged_add (os : List FileOutcome) :
    (ofOutcomes os).unchanged + (ofOutcomes os).changed + (ofOutcomes os).failed =
      (ofOutcomes os).total := by
  have hle : os.countP FileOutcome.differs + os.countP FileOutcome.isFailure ≤ os.length := by
    induction os with
    | nil => exact Nat.le_refl 0
    | cons o os ih =>
      rw [List.countP_cons, List.countP_cons, List.length_cons]
      cases o <;> simp [FileOutcome.differs, FileOutcome.isFailure] <;> omega
  simp only [unchanged, ofOutcomes]
  omega

end Tally

section Report

variable {f : Formatter} {w : Workspace} {files : List Text}

/-- The files that differ from their formatted forms. -/
def differing (f : Formatter) (w : Workspace) (files : List Text) : List Text :=
  files.filter fun p => (rewrite? f w p).isSome

/-- The files that have no formatted form. -/
def failing (f : Formatter) (w : Workspace) (files : List Text) : List Text :=
  files.filter fun p => (formatted? f w p).isNone

/-- What a run over files counts. -/
def tally (f : Formatter) (w : Workspace) (files : List Text) : Tally where
  total := files.length
  changed := (differing f w files).length
  failed := (failing f w files).length

theorem ofOutcomes_formatFiles (f : Formatter) (check : Bool) (h : files.Pairwise w.Apart) :
    Tally.ofOutcomes ((formatFiles f check w files).1.map (·.2)) = tally f w files := by
  rw [outcomes_formatFiles f check h, List.map_map]
  simp only [Tally.ofOutcomes, tally, differing, failing, List.length_map, List.countP_map,
    ← List.countP_eq_length_filter, Function.comp_def, differs_outcome, isFailure_outcome]

/-- What a run over files prints and how it ends. -/
theorem batchReport_formatFiles (f : Formatter) (check quiet : Bool) (h : files.Pairwise w.Apart) :
    (batchReport w check quiet (formatFiles f check w files).1).code = (tally f w files).exitCode check ∧
      (batchReport w check quiet (formatFiles f check w files).1).stdout =
        if quiet then [] else
          (differing f w files).flatMap (changeLine w · (if check then .wouldReformat else .reformatted)) ++
            line ((tally f w files).summary check) := by
  have hlines : ((formatFiles f check w files).1.flatMap fun x => changeLine w x.1 x.2) =
      (differing f w files).flatMap (changeLine w · (if check then .wouldReformat else .reformatted)) := by
    rw [outcomes_formatFiles f check h, List.flatMap_map, differing]
    simp only [changeLine_outcome]
    clear h
    induction files with
    | nil => rfl
    | cons p files ih =>
      rw [List.flatMap_cons, ih, List.filter_cons]
      split
      · rw [List.flatMap_cons]
      · rfl
  have htally := ofOutcomes_formatFiles f check h
  constructor
  · show (Tally.ofOutcomes ((formatFiles f check w files).1.map (·.2))).exitCode check = _
    rw [htally]
  · show (if quiet then [] else ((formatFiles f check w files).1.flatMap fun x => changeLine w x.1 x.2) ++
      line ((Tally.ofOutcomes ((formatFiles f check w files).1.map (·.2))).summary check)) = _
    rw [hlines, htally]

/-- Selected files are formatted each on its own, and a run that checks agrees with one that writes.
The files that have formatted forms and differ from them get these forms, and nothing else is changed
in the store; nothing at all is changed by a check, which names the same files. A run ends with 2 if some
file has no formatted form, else with 1 if it is a check and some file differs, else with 0, and the
files it counts as left alone are all the others. -/
theorem formatSelection_isolated (r : FormatRequest) (f : Formatter) (w : Workspace) (files : List Text)
    (h : files.Pairwise w.Apart) :
    let written := formatSelection { r with check := false } f w files
    let checked := formatSelection { r with check := true } f w files
    (∀ l, written.2.store.get? l =
      match (files.filterMap (rewrite? f w)).lookup l with
      | some out => some (.file (Utf8.encode out))
      | none => w.store.get? l) ∧
    checked.2 = w ∧
    (files ≠ [] → r.quiet = false →
      written.1.stdout = (differing f w files).flatMap (changeLine w · .reformatted) ++
        line ((tally f w files).summary false) ∧
      checked.1.stdout = (differing f w files).flatMap (changeLine w · .wouldReformat) ++
        line ((tally f w files).summary true)) ∧
    written.1.code = (if failing f w files ≠ [] then 2 else 0) ∧
    checked.1.code = (if failing f w files ≠ [] then 2 else if differing f w files ≠ [] then 1 else 0) ∧
    (tally f w files).unchanged + (differing f w files).length + (failing f w files).length =
      files.length := by
  intro written checked
  -- a check and a run that writes count alike, so either gives the sum
  have htally := Tally.unchanged_add ((formatFiles f true w files).1.map (·.2))
  rw [ofOutcomes_formatFiles f true h] at htally
  by_cases hempty : files = []
  · subst hempty
    exact ⟨fun _ => rfl, rfl, fun hne => absurd rfl hne, rfl, rfl, htally⟩
  · have hrun (check : Bool) : formatSelection { r with check } f w files =
        (batchReport w check r.quiet (formatFiles f check w files).1, (formatFiles f check w files).2) := by
      simp [formatSelection, hempty]
    have hfailed : 0 < (tally f w files).failed ↔ failing f w files ≠ [] := List.length_pos_iff
    have hchanged : 0 < (tally f w files).changed ↔ differing f w files ≠ [] := List.length_pos_iff
    obtain ⟨hwrittenCode, hwrittenLines⟩ := batchReport_formatFiles f false r.quiet h
    obtain ⟨hcheckedCode, hcheckedLines⟩ := batchReport_formatFiles f true r.quiet h
    simp only [written, checked, hrun]
    refine ⟨get?_formatFiles f h, formatFiles_check f w files, ?_, ?_, ?_, htally⟩
    · intro _ hquiet
      rw [hwrittenLines, hcheckedLines, hquiet]
      exact ⟨rfl, rfl⟩
    · rw [hwrittenCode]
      simp [Tally.exitCode, hfailed]
    · rw [hcheckedCode]
      simp only [Tally.exitCode, hfailed, hchanged, true_and]

/-- A file that is rewritten between one that is no text and one that cannot be formatted, and a file
that is formatted already. -/
theorem formatSelection_isolated_mixed :
    let f : Formatter := { options := {}, beautifier := .builtin Printer.echo }
    let name (s : String) : Location := ["d".toList, s.toList]
    let w : Workspace :=
      { store := { entries := [(["d".toList], .directory), (name "a", .file [0xFF]),
          (name "b", .file (Utf8.encode "\x7bif $a\x7d\nx\n\x7b/if\x7d".toList)),
          (name "c", .file (Utf8.encode "<script>".toList)), (name "e", .file (Utf8.encode "x".toList))] }
        cwd := ["d".toList], configHome := "/".toList, home := "/".toList }
    let files := ["a".toList, "b".toList, "c".toList, "../d/e".toList]
    files.Pairwise w.Apart ∧
      (formatSelection {} f w files).1.code = 2 ∧
      (formatSelection {} f w files).2.store.get? (name "b") =
        some (.file (Utf8.encode "\x7bif $a\x7d\n    x\n\x7b/if\x7d".toList)) ∧
      (formatSelection {} f w files).2.store.get? (name "a") = some (.file [0xFF]) ∧
      (formatSelection { check := true } f w files).2.store = w.store ∧
      (tally f w files).unchanged = 1 := by
  intro f name w files
  have hapart : files.Pairwise w.Apart := by decide +kernel
  obtain ⟨hstore, hchecked, -, hcode, -, hcount⟩ := formatSelection_isolated {} f w files hapart
  have hrewrites : files.filterMap (rewrite? f w) =
      [(name "b", "\x7bif $a\x7d\n    x\n\x7b/if\x7d".toList)] := by decide +kernel
  have hdiffering : differing f w files = ["b".toList] := by decide +kernel
  have hfailing : failing f w files = ["a".toList, "c".toList] := by decide +kernel
  rw [hrewrites] at hstore
  refine ⟨hapart, ?_, ?_, ?_, ?_, ?_⟩
  · rw [hcode, hfailing]
    rfl
  · rw [hstore]
    rfl
  · rw [hstore]
    rfl
  · rw [hchecked]
  · have hfour : files.length = 4 := rfl
    rw [hdiffering, hfailing, hfour] at hcount
    generalize (tally f w files).unchanged = unchanged at hcount ⊢
    simpa using hcount

end Report

end CommandLine

end SmartyLayout
