import WireHeaders.Proofs.Files.Descent
import WireHeaders.Proofs.Output.DryRun

/-!
# Where headers land

Headers of any names are committed one after the other, and several of them may go to one file.

## Main definitions

* `DirectoryOutput.Settled` — headers each of which is read as the last one that goes to its file

## Main statements

* `DirectoryOutput.changesWithin_commitFrom` — **whatever becomes of a row of headers**, only files
  change that one of them goes to
* `DirectoryOutput.commitFrom_settled` — **a header is read as the last one that goes to its file**
-/

namespace WireHeaders

namespace FileTree

variable {t t' : FileTree} {touched : List Location} {path path' : Path} {bytes bytes' : Bytes}

/-- A path that is written ends in a name. -/
theorem namesFile_of_write (written : t.write path bytes = .ok t') : path.namesFile = true := by
  obtain ⟨parent, name, located, -⟩ := of_write written
  exact namesFile_of_locate located

/-- A path that is read ends in a name. -/
theorem namesFile_of_read (present : t.read path = .ok bytes) : path.namesFile = true := by
  obtain ⟨parent, name, located, -⟩ := read_eq_ok_iff.mp present
  exact namesFile_of_locate located

/-- **There is one content at a location**, by whatever paths it is read. -/
theorem eq_of_read (present : t.read path = .ok bytes) (present' : t.read path' = .ok bytes')
    (same : path.location t.workingDirectory = path'.location t.workingDirectory) :
    bytes = bytes' := by
  obtain ⟨parent, name, located, -, there⟩ := read_eq_ok_iff.mp present
  obtain ⟨parent', name', located', -, there'⟩ := read_eq_ok_iff.mp present'
  have denoted : parent ++ [name] = path.location t.workingDirectory := location_of_locate located
  have denoted' : parent' ++ [name'] = path'.location t.workingDirectory :=
    location_of_locate located'
  rw [denoted, same, ← denoted', there'] at there
  exact (FileEntry.file.inj (Option.some.inj there)).symm

/-- **What can be read can be read later**, with some content. -/
theorem ChangesWithin.exists_read (changes : t.ChangesWithin t' touched)
    (present : t.read path = .ok bytes) : ∃ bytes', t'.read path = .ok bytes' := by
  obtain ⟨parent, name, located, short, there⟩ := read_eq_ok_iff.mp present
  obtain ⟨bytes', there'⟩ := changes.isFile _ bytes there
  exact ⟨bytes', read_eq_ok_iff.mpr
    ⟨parent, name, changes.keeps.locate_eq located, short, there'⟩⟩

end FileTree

namespace DirectoryOutput

variable {output : DirectoryOutput} {t t' : FileTree} {touched : List Location}
  {file : GeneratedFile} {files : List GeneratedFile} {summary : CommitSummary}

/-! ## Files that may change -/

theorem changesWithin_store {path : Path} (t : FileTree)
    (within : path.namesFile = true → path.location t.workingDirectory ∈ touched) (bytes : Bytes) :
    t.ChangesWithin ((store path bytes : StateM FileTree CommitOutcome) t).2 touched := by
  obtain ⟨between, built, ended⟩ := store_cases path bytes t
  have changes : t.ChangesWithin between touched :=
    built.builds.changesWithin.mono (List.nil_subset _)
  rcases ended with ⟨e, failed⟩ | ⟨last, written, stored⟩
  · rw [failed]
    exact changes
  · rw [stored]
    have inside := within (FileTree.namesFile_of_write written)
    rw [← changes.workingDirectory_eq] at inside
    exact changes.trans ((FileTree.changesWithin_write written).mono
      (List.cons_subset.mpr ⟨inside, List.nil_subset _⟩))

/-- **Whatever becomes of a header**, only the file that it goes to may change. -/
theorem changesWithin_toTree (output : DirectoryOutput) (t : FileTree)
    (within : (output.place file).namesFile = true → output.location t file ∈ touched) :
    t.ChangesWithin (output.toTree file t).2 touched := by
  have replaced : t.ChangesWithin (output.replace file t).2 touched := by
    unfold replace
    split
    · exact .refl t touched
    · exact changesWithin_store t within _
  rw [toTree_eq]
  split
  · split
    · exact .refl t touched
    · exact replaced
  · exact replaced
  · exact .refl t touched

/-- **Whatever becomes of a row of headers**, only files may change that one of them goes to. -/
theorem changesWithin_commitFrom (output : DirectoryOutput) (summary : CommitSummary)
    (files : List GeneratedFile) (t : FileTree)
    (within : ∀ file ∈ files,
      (output.place file).namesFile = true → output.location t file ∈ touched) :
    t.ChangesWithin (commitFrom output.toTree summary files t).2 touched := by
  induction files generalizing summary t with
  | nil => exact .refl t touched
  | cons file files ih =>
      have head := changesWithin_toTree output t (within file List.mem_cons_self)
      rw [commitFrom_cons]
      cases done : (output.toTree file t).1.result with
      | error e =>
          rw [Logged.andThen_apply_error done]
          exact head
      | ok status =>
          rw [Logged.andThen_apply_ok done]
          refine head.trans (ih (summary.record status) (output.toTree file t).2 ?_)
          intro other member
          rw [location_congr head.workingDirectory_eq]
          exact within other (List.mem_cons_of_mem file member)

/-! ## The last header of a file -/

/-- **Headers that are settled in a tree**: each of them is read as the last one that goes to its
file. -/
def Settled (output : DirectoryOutput) (t : FileTree) (files : List GeneratedFile) : Prop :=
  ∀ file ∈ files, ∃ before last after, files = before ++ last :: after ∧
    output.location t last = output.location t file ∧
    (∀ later ∈ after, output.location t later ≠ output.location t file) ∧
    t.read (output.place file) = .ok (Bytes.ofString last.content)

/-- A header that was there before settled ones is settled with them. -/
theorem Settled.cons (settled : output.Settled t' files) (present : output.Present t file)
    (changes : t.ChangesWithin t' (files.map (output.location t'))) :
    output.Settled t' (file :: files) := by
  have tail : ∀ other ∈ files, ∃ before last after, file :: files = before ++ last :: after ∧
      output.location t' last = output.location t' other ∧
      (∀ later ∈ after, output.location t' later ≠ output.location t' other) ∧
      t'.read (output.place other) = .ok (Bytes.ofString last.content) := by
    intro other member
    obtain ⟨before, last, after, split, goes, none, read⟩ := settled other member
    exact ⟨file :: before, last, after, by rw [split]; rfl, goes, none, read⟩
  intro other member
  rcases List.mem_cons.mp member with rfl | member
  · by_cases again : output.location t' other ∈ files.map (output.location t')
    · -- A later header goes to the same file, so it has the content that is read there.
      obtain ⟨later, listed, same⟩ := List.mem_map.mp again
      obtain ⟨before, last, after, split, goes, none, read⟩ := tail later listed
      obtain ⟨bytes, readable⟩ := changes.exists_read present
      rw [FileTree.eq_of_read readable read same.symm] at readable
      rw [same] at goes none
      exact ⟨before, last, after, split, goes, none, readable⟩
    · refine ⟨[], other, files, rfl, rfl, ?_, ?_⟩
      · intro later listed same
        exact again (List.mem_map.mpr ⟨later, listed, same⟩)
      · refine changes.keeps.read_eq ?_ present
        rw [← changes.workingDirectory_eq]
        exact again
  · exact tail other member

/-- **After a pass without failure all headers are settled.** -/
theorem commitFrom_settled (storing : output.checkOnly = false)
    {outcome : Logged GenerationError CommitSummary} {total : CommitSummary}
    (committed : commitFrom output.toTree summary files t = (outcome, t'))
    (ok : outcome.result = .ok total) : output.Settled t' files := by
  induction files generalizing summary t outcome with
  | nil => exact fun _ member => nomatch member
  | cons file files ih =>
      rcases first : output.toTree file t with ⟨head, between⟩
      rw [commitFrom_cons, first] at committed
      cases done : head.result with
      | error e =>
          rw [Logged.andThen_apply_error done] at committed
          cases committed
          cases ok
      | ok status =>
          rw [Logged.andThen_apply_ok done] at committed
          rcases later : commitFrom output.toTree (summary.record status) files between with
            ⟨rest, last⟩
          rw [later] at committed
          cases committed
          have present := (of_toTree storing first done).2
          have changes : between.ChangesWithin last (files.map (output.location between)) := by
            have within := changesWithin_commitFrom output (summary.record status) files between
              fun other member _ => List.mem_map_of_mem member
            rwa [later] at within
          rw [← location_congr changes.workingDirectory_eq] at changes
          exact (ih later ok).cons present changes

end DirectoryOutput

end WireHeaders
