import WireHeaders.Output.Directory
import WireHeaders.Proofs.Files.Changes
import WireHeaders.Proofs.Header.Generated
import WireHeaders.Proofs.Log.Results

/-!
# Headers in a directory

What committing headers to a directory does to the files there, and what a check finds.

## Main definitions

* `DirectoryOutput.place`, `DirectoryOutput.location` — where a header goes
* `DirectoryOutput.Present` — **a header that is at its place already**
* `DirectoryOutput.Apart` — headers of which no two have the same name

## Main statements

* `DirectoryOutput.commitFrom_of_present` — **headers that are there are all reported unchanged**,
  and nothing changes
* `DirectoryOutput.commitFrom_checkOnly` — **a check changes nothing** and counts every header that
  is not there
* `DirectoryOutput.commitFrom_store` — **after a pass without failure every header is there**, and
  all other files are as before
-/

namespace WireHeaders

namespace DirectoryOutput

variable {output : DirectoryOutput} {t : FileTree} {file : GeneratedFile}
  {files : List GeneratedFile} {summary : CommitSummary}

/-- Where a header goes. -/
def place (output : DirectoryOutput) (file : GeneratedFile) : Path := output.root.join file.path

/-- The location that a header goes to. -/
def location (output : DirectoryOutput) (t : FileTree) (file : GeneratedFile) : Location :=
  (output.place file).location t.workingDirectory

/-- The output to a directory of a tree. -/
abbrev toTree (output : DirectoryOutput) : Output (StateM FileTree) := output.commit

/-- **A header that is at its place already.** -/
def Present (output : DirectoryOutput) (t : FileTree) (file : GeneratedFile) : Prop :=
  t.read (output.place file) = .ok (Bytes.ofString file.content)

/-! ## One header -/

/-- What is done with a header that is not at its place. -/
def replace (output : DirectoryOutput) (file : GeneratedFile) : StateM FileTree CommitOutcome :=
  if output.checkOnly then return report .outdated (.fileOutdated (output.place file))
  else store (output.place file) (Bytes.ofString file.content)

/-- **A header is compared with the file at its place** before anything is done. -/
theorem toTree_eq (output : DirectoryOutput) (file : GeneratedFile) (t : FileTree) :
    output.toTree file t =
      match t.read (output.place file) with
      | .ok existing =>
        if existing = Bytes.ofString file.content then
          (report .unchanged (.fileUnchanged (output.place file)), t)
        else output.replace file t
      | .error .missing => output.replace file t
      | .error e => (failAt (output.place file) e, t) := by
  have opened : output.toTree file t =
      (match t.read (output.place file) with
        | .ok existing =>
          if existing = Bytes.ofString file.content then
            return report .unchanged (.fileUnchanged (output.place file))
          else output.replace file
        | .error .missing => output.replace file
        | .error e => return failAt (output.place file) e : StateM FileTree CommitOutcome) t := rfl
  rw [opened]
  cases t.read (output.place file) with
  | ok existing =>
      dsimp only
      split
      · rfl
      · rfl
  | error e =>
      cases e with
      | missing => rfl
      | _ => rfl

/-- A header that is there is left alone. -/
theorem toTree_of_present (present : output.Present t file) :
    output.toTree file t = (report .unchanged (.fileUnchanged (output.place file)), t) := by
  rw [toTree_eq, present]
  exact if_pos rfl

/-- **A check of one header** changes nothing and finds out whether the header is there. -/
theorem toTree_checkOnly (checkOnly : output.checkOnly = true) (file : GeneratedFile)
    (t : FileTree) :
    (output.toTree file t).2 = t ∧
      ∀ status, (output.toTree file t).1.result = .ok status →
        status = .unchanged ∧ output.Present t file ∨ status = .outdated := by
  have replaced : output.replace file t =
      (report .outdated (.fileOutdated (output.place file)), t) := by
    unfold replace
    rw [if_pos checkOnly]
    rfl
  rw [toTree_eq, replaced]
  split
  · next existing found =>
    split
    · next same =>
      refine ⟨rfl, fun status ok => Or.inl ⟨(Except.ok.inj ok).symm, ?_⟩⟩
      rw [Present, found, same]
    · exact ⟨rfl, fun status ok => Or.inr (Except.ok.inj ok).symm⟩
  · exact ⟨rfl, fun status ok => Or.inr (Except.ok.inj ok).symm⟩
  · refine ⟨rfl, ?_⟩
    intro status ok
    cases ok

/-- The directories above a path, where headers are stored. -/
def makeParents (path : Path) : StateM FileTree (Except FileError Unit) :=
  match path.parent? with
  | some parent => FileSystem.makeDirectories parent
  | none => pure (.ok ())

theorem onlyBuildsAmong_makeParents (path : Path) :
    FileTree.OnlyBuildsAmong path.above (makeParents path) := by
  unfold makeParents Path.above
  cases path.parent? with
  | some parent => exact .makeDirectories parent
  | none => exact .pure _ _

/-- What is left to do for a file behind the directories above it. -/
def storeBehind (path : Path) (bytes : Bytes) : Except FileError Unit → StateM FileTree CommitOutcome
  | .error e => pure (failAt path e)
  | .ok () => do
    match ← FileSystem.write path bytes with
    | .error e => return failAt path e
    | .ok () => return report .written (.fileWritten path bytes.length)

theorem store_eq_bind (path : Path) (bytes : Bytes) :
    (store path bytes : StateM FileTree CommitOutcome) =
      makeParents path >>= storeBehind path bytes := by
  unfold store makeParents
  cases path.parent? with
  | some parent => rfl
  | none => rfl

/-- A header is written behind the directories above it. -/
theorem store_eq (path : Path) (bytes : Bytes) (t : FileTree) :
    (store path bytes : StateM FileTree CommitOutcome) t =
      match makeParents path t with
      | (.error e, t') => (failAt path e, t')
      | (.ok (), t') =>
        match t'.write path bytes with
        | .ok t'' => (report .written (.fileWritten path bytes.length), t'')
        | .error e => (failAt path e, t') := by
  rw [store_eq_bind]
  rcases made : makeParents path t with ⟨ended, t'⟩
  rw [bind_of_eq made]
  cases ended with
  | error e => rfl
  | ok done =>
      have ran : (FileSystem.write path bytes : StateM FileTree (Except FileError Unit)) t' =
          FileTree.change (fun t => t.write path bytes) t' := rfl
      dsimp only [storeBehind]
      cases written : t'.write path bytes with
      | ok t'' =>
          simp only [FileTree.change, written] at ran
          rw [bind_of_eq ran]
          rfl
      | error e =>
          simp only [FileTree.change, written] at ran
          rw [bind_of_eq ran]
          rfl

/-- **What storing comes to**: directories are made above the path, and then the file is written or the
header fails. -/
theorem store_cases (path : Path) (bytes : Bytes) (t : FileTree) :
    ∃ between, t.BuildsAmong path.above between ∧
      ((∃ e, (store path bytes : StateM FileTree CommitOutcome) t = (failAt path e, between)) ∨
        ∃ last, between.write path bytes = .ok last ∧
          (store path bytes : StateM FileTree CommitOutcome) t =
            (report .written (.fileWritten path bytes.length), last)) := by
  have built := onlyBuildsAmong_makeParents path t
  rw [store_eq]
  rcases made : makeParents path t with ⟨ended, between⟩
  rw [made] at built
  refine ⟨between, built, ?_⟩
  cases ended with
  | error e => exact Or.inl ⟨e, rfl⟩
  | ok done =>
      dsimp only
      cases written : between.write path bytes with
      | error e => exact Or.inl ⟨e, rfl⟩
      | ok last => exact Or.inr ⟨last, rfl, rfl⟩

/-- **A header that was stored is there**, and no other file has changed. -/
theorem of_store {path : Path} {bytes : Bytes} {outcome : CommitOutcome} {t' : FileTree}
    {status : CommitStatus}
    (stored : (store path bytes : StateM FileTree CommitOutcome) t = (outcome, t'))
    (ok : outcome.result = .ok status) :
    t.ChangesWithin t' [path.location t.workingDirectory] ∧ t'.read path = .ok bytes ∧
      status = .written := by
  obtain ⟨between, built, ⟨e, failed⟩ | ⟨last, written, ended⟩⟩ := store_cases path bytes t
  · rw [failed] at stored
    cases stored
    cases ok
  · rw [ended] at stored
    cases stored
    cases ok
    have changes := built.builds.changesWithin
    have changed := FileTree.changesWithin_write written
    rw [changes.workingDirectory_eq] at changed
    exact ⟨(changes.mono (List.nil_subset _)).trans changed, FileTree.read_write written, rfl⟩

/-- **A header that was committed is there**, and no other file has changed. -/
theorem of_toTree {outcome : CommitOutcome} {t' : FileTree} {status : CommitStatus}
    (storing : output.checkOnly = false) (committed : output.toTree file t = (outcome, t'))
    (ok : outcome.result = .ok status) :
    t.ChangesWithin t' [output.location t file] ∧ output.Present t' file := by
  have replaced (stored : output.replace file t = (outcome, t')) :
      t.ChangesWithin t' [output.location t file] ∧ output.Present t' file := by
    unfold replace at stored
    rw [storing, if_neg Bool.false_ne_true] at stored
    obtain ⟨changes, present, -⟩ := of_store stored ok
    exact ⟨changes, present⟩
  rw [toTree_eq] at committed
  split at committed
  · next existing found =>
    split at committed
    · next same =>
      cases committed
      exact ⟨.refl t _, found.trans (congrArg Except.ok same)⟩
    · exact replaced committed
  · exact replaced committed
  · cases committed
    cases ok

/-! ## A row of headers -/

/-- The summary of headers that are all there. -/
def allUnchanged (summary : CommitSummary) (files : List GeneratedFile) : CommitSummary :=
  { summary with unchanged := summary.unchanged + files.length }

/-- **Headers that are there are all reported unchanged**, and nothing changes. -/
theorem commitFrom_of_present (present : ∀ file ∈ files, output.Present t file) :
    commitFrom output.toTree summary files t =
      (⟨files.map (fun file => .fileUnchanged (output.place file)) ++
          [.committed (allUnchanged summary files)], .ok (allUnchanged summary files)⟩, t) := by
  induction files generalizing summary with
  | nil => rfl
  | cons file files ih =>
      have presentLater : ∀ other ∈ files, output.Present t other := fun other member =>
        present other (List.mem_cons_of_mem file member)
      have counted : allUnchanged (summary.record .unchanged) files =
          allUnchanged summary (file :: files) := by
        simp only [allUnchanged, CommitSummary.record, List.length_cons, CommitSummary.mk.injEq,
          true_and, and_true]
        omega
      have unchanged : (report .unchanged (.fileUnchanged (output.place file))).result =
          .ok .unchanged := rfl
      rw [commitFrom_cons, toTree_of_present (present file List.mem_cons_self),
        Logged.andThen_apply_ok unchanged, ih presentLater, counted]
      rfl

/-- **A check changes nothing**, and if it counts no header as outdated all of them are there. -/
theorem commitFrom_checkOnly (checkOnly : output.checkOnly = true) (summary : CommitSummary)
    (files : List GeneratedFile) (t : FileTree) :
    (commitFrom output.toTree summary files t).2 = t ∧
      ∀ total, (commitFrom output.toTree summary files t).1.result = .ok total →
        summary.outdated ≤ total.outdated ∧
          (total.outdated = summary.outdated → ∀ file ∈ files, output.Present t file) := by
  induction files generalizing summary with
  | nil =>
      refine ⟨rfl, ?_⟩
      intro total ok
      cases ok
      exact ⟨Nat.le_refl _, fun _ file member => nomatch member⟩
  | cons file files ih =>
      obtain ⟨same, compared⟩ := toTree_checkOnly checkOnly file t
      rw [commitFrom_cons, same]
      cases first : (output.toTree file t).1.result with
      | error e =>
          rw [Logged.andThen_apply_error first]
          refine ⟨rfl, ?_⟩
          intro total ok
          cases ok
      | ok status =>
          rw [Logged.andThen_apply_ok first]
          obtain ⟨sameLater, counted⟩ := ih (summary.record status)
          refine ⟨sameLater, ?_⟩
          intro total ok
          obtain ⟨more, laterPresent⟩ := counted total ok
          rcases compared status first with ⟨rfl, present⟩ | rfl
          · exact ⟨more, fun none => List.forall_mem_cons.mpr ⟨present, laterPresent none⟩⟩
          · have grown : summary.outdated + 1 ≤ total.outdated := more
            exact ⟨by omega, fun none => absurd none (by omega)⟩

/-- **Headers of which no two have the same name**, each of them named by a single segment. -/
structure Apart (files : List GeneratedFile) : Prop where
  isName : ∀ file ∈ files, file.path.IsName
  distinct : files.Pairwise fun f g => f.path.text ≠ g.path.text

/-- Locations depend on the working directory only. -/
theorem location_congr {t' : FileTree} (same : t'.workingDirectory = t.workingDirectory) :
    output.location t' = output.location t := by
  funext other
  rw [location, location, same]

/-- A header that is there lies directly in the directory of its output. -/
theorem location_of_present (isName : file.path.IsName) (present : output.Present t file) :
    output.location t file = output.root.location t.workingDirectory ++ [file.path.text] := by
  obtain ⟨parent, name, located, -, -⟩ := FileTree.read_eq_ok_iff.mp present
  exact FileTree.location_of_entry isName located

/-- **After a pass without failure every header is there**, and all other files are as before. -/
theorem commitFrom_store (storing : output.checkOnly = false) (apart : Apart files)
    {t' : FileTree} {outcome : Logged GenerationError CommitSummary} {total : CommitSummary}
    (committed : commitFrom output.toTree summary files t = (outcome, t'))
    (ok : outcome.result = .ok total) :
    t.Keeps t' (files.map (output.location t)) ∧ ∀ file ∈ files, output.Present t' file := by
  induction files generalizing summary t outcome with
  | nil =>
      cases committed
      exact ⟨.refl _ _, fun file member => nomatch member⟩
  | cons file files ih =>
      obtain ⟨isName, distinct⟩ := apart
      obtain ⟨nameOther, distinctLater⟩ := List.pairwise_cons.mp distinct
      rcases first : output.toTree file t with ⟨head, between⟩
      rw [commitFrom_cons, first] at committed
      cases done : head.result with
      | error e =>
          rw [Logged.andThen_apply_error done] at committed
          cases committed
          cases ok
      | ok status =>
          rw [Logged.andThen_apply_ok done] at committed
          rcases later : commitFrom output.toTree (summary.record status) files between with
            ⟨rest, last⟩
          rw [later] at committed
          cases committed
          obtain ⟨changesHead, present⟩ := of_toTree storing first done
          have keepsHead := changesHead.keeps
          have apartLater : Apart files :=
            ⟨fun other member => isName other (List.mem_cons_of_mem file member), distinctLater⟩
          obtain ⟨keepsRest, presentRest⟩ := ih apartLater later ok
          -- The later headers have other names in the same directory, so this one stays.
          have outside : output.location between file ∉ files.map (output.location between) := by
            intro inside
            obtain ⟨other, member, same⟩ := List.mem_map.mp inside
            have there := location_of_present (isName other (List.mem_cons_of_mem file member))
              (presentRest other member)
            rw [location_congr keepsRest.workingDirectory_eq,
              keepsRest.workingDirectory_eq] at there
            rw [there, location_of_present (isName file List.mem_cons_self) present] at same
            have equal := List.append_cancel_left same
            exact nameOther other member (List.singleton_inj.mp equal).symm
          have presentLast : output.Present last file := keepsRest.read_eq outside present
          rw [location_congr keepsHead.workingDirectory_eq] at keepsRest
          refine ⟨?_, List.forall_mem_cons.mpr ⟨presentLast, presentRest⟩⟩
          refine (keepsHead.mono ?_).trans (keepsRest.mono ?_)
          · exact List.cons_subset_cons _ (List.nil_subset _)
          · exact List.subset_cons_self _ _

end DirectoryOutput

end WireHeaders
