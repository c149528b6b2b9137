import WireHeaders.Proofs.Files.Building
import WireHeaders.Proofs.Files.Keeps

/-!
# What operations on files change

`FileTree.Keeps` says what is still there later.  This module says also what is new: directories are
added, files come and change at some locations only, and a file never makes room for a directory.

## Main definitions

* `FileTree.ChangesWithin` — **a later tree has the same files as an earlier one except at some
  locations, and at least its directories**
* `FileTree.readAt` — what is read where a path leads to

## Main statements

* `FileTree.Builds.changesWithin`, `FileTree.changesWithin_write` — single operations
* `FileTree.ChangesWithin.read_eq_of_error` — **a path that cannot be read, other than for want of a
  file, cannot be read later either**
-/

namespace WireHeaders

namespace FileTree

variable {t t' t'' : FileTree} {touched : List Location} {path : Path} {bytes : Bytes}

/-- **A later tree has the same files as an earlier one except at some locations**, and at least its
directories.  What was a file is still one. -/
structure ChangesWithin (t t' : FileTree) (touched : List Location) : Prop where
  workingDirectory_eq : t'.workingDirectory = t.workingDirectory
  directory : ∀ location, t.at? location = some .directory → t'.at? location = some .directory
  isFile : ∀ location bytes, t.at? location = some (.file bytes) →
    ∃ bytes', t'.at? location = some (.file bytes')
  file : ∀ location, location ∉ touched → ∀ bytes,
    t'.at? location = some (.file bytes) ↔ t.at? location = some (.file bytes)

/-- What is read where a path leads to. -/
def readAt (t : FileTree) : Target → Except FileError Bytes
  | .directory _ => .error .isDirectory
  | .entry parent name slash => do
    match ← t.find parent name with
    | none => throw .missing
    | some .directory => throw .isDirectory
    | some (.file bytes) => if slash then throw .notDirectory else return bytes

theorem read_eq_readAt (t : FileTree) (path : Path) : t.read path = t.locate path >>= t.readAt := by
  unfold read
  cases t.locate path with
  | error e => rfl
  | ok target => cases target <;> rfl

/-- A name that is too long is so in any tree. -/
theorem find_eq_of_error {parent : Location} {name : String} {e : FileError}
    (failed : t.find parent name = .error e) (t' : FileTree) : t'.find parent name = .error e := by
  unfold find at failed ⊢
  split at failed
  · next long =>
    rw [if_pos long]
    exact failed
  · cases failed

namespace ChangesWithin

theorem refl (t : FileTree) (touched : List Location) : t.ChangesWithin t touched :=
  ⟨rfl, fun _ => id, fun _ bytes present => ⟨bytes, present⟩, fun _ _ _ => Iff.rfl⟩

theorem mono {more : List Location} (changes : t.ChangesWithin t' touched)
    (within : touched ⊆ more) : t.ChangesWithin t' more :=
  ⟨changes.workingDirectory_eq, changes.directory, changes.isFile,
    fun location outside => changes.file location fun inside => outside (within inside)⟩

/-- One change after another is within what either of them is within. -/
theorem trans (first : t.ChangesWithin t' touched) (second : t'.ChangesWithin t'' touched) :
    t.ChangesWithin t'' touched := by
  refine ⟨second.workingDirectory_eq.trans first.workingDirectory_eq, ?_, ?_, ?_⟩
  · intro location present
    exact second.directory location (first.directory location present)
  · intro location bytes present
    obtain ⟨bytes', present'⟩ := first.isFile location bytes present
    exact second.isFile location bytes' present'
  · intro location outside bytes
    exact (second.file location outside bytes).trans (first.file location outside bytes)

theorem keeps (changes : t.ChangesWithin t' touched) : t.Keeps t' touched :=
  ⟨changes.workingDirectory_eq, changes.directory,
    fun location outside bytes => (changes.file location outside bytes).mpr⟩

/-! ## Failures that last -/

/-- A step that fails at a name that is too long or at a file fails there later, too. -/
theorem step_eq_of_error (changes : t.ChangesWithin t' touched) {location : Location}
    {segment : List Char} {e : FileError} (failed : t.step location segment = .error e)
    (other : e ≠ .missing) : t'.step location segment = .error e := by
  unfold step at failed ⊢
  split at failed
  · cases failed
  next notHere =>
  split at failed
  · cases failed
  next notUp =>
  rw [if_neg notHere, if_neg notUp]
  dsimp only at failed ⊢
  split at failed
  · next long =>
    rw [if_pos long]
    exact failed
  · next short =>
    rw [if_neg short]
    split at failed
    · cases failed
      exact absurd rfl other
    · next bytes present =>
      obtain ⟨bytes', present'⟩ := changes.isFile _ bytes present
      rw [present']
      exact failed
    · cases failed

theorem lastStep_eq_of_error (changes : t.ChangesWithin t' touched) {slash : Bool}
    {location : Location} {segment : List Char} {e : FileError}
    (failed : t.lastStep slash location segment = .error e) (other : e ≠ .missing) :
    t'.lastStep slash location segment = .error e := by
  unfold lastStep at failed ⊢
  split at failed
  · next dots =>
    rw [if_pos dots]
    cases stepped : t.step location segment with
    | ok next =>
        rw [stepped] at failed
        cases failed
    | error e' =>
        rw [stepped] at failed
        cases failed
        rw [changes.step_eq_of_error stepped other]
        rfl
  · cases failed

theorem walk_eq_of_error (changes : t.ChangesWithin t' touched) {slash : Bool}
    {segments : List (List Char)} {location : Location} {e : FileError}
    (failed : t.walk slash location segments = .error e) (other : e ≠ .missing) :
    t'.walk slash location segments = .error e := by
  induction segments generalizing location with
  | nil => cases failed
  | cons segment rest ih =>
      cases rest with
      | nil => exact changes.lastStep_eq_of_error failed other
      | cons another rest =>
          rw [walk] at failed ⊢
          · cases stepped : t.step location segment with
            | ok next =>
                rw [stepped] at failed
                rw [changes.keeps.step_eq stepped]
                exact ih failed
            | error e' =>
                rw [stepped] at failed
                cases failed
                rw [changes.step_eq_of_error stepped other]
                rfl
          · simp
          · simp

theorem locate_eq_of_error (changes : t.ChangesWithin t' touched) {e : FileError}
    (failed : t.locate path = .error e) (other : e ≠ .missing) : t'.locate path = .error e := by
  unfold locate at failed ⊢
  split at failed
  · next nul =>
    rw [if_pos nul]
    exact failed
  next noNul =>
  rw [if_neg noNul]
  split at failed
  · cases failed
    exact absurd rfl other
  next spelled =>
  rw [if_neg spelled]
  split at failed
  · next long =>
    rw [if_pos long]
    exact failed
  next short =>
  rw [if_neg short, changes.workingDirectory_eq]
  exact changes.walk_eq_of_error failed other

/-- What is read at the end of a walk. -/
theorem readAt_eq_of_error (changes : t.ChangesWithin t' touched) {target : Target} {e : FileError}
    (failed : t.readAt target = .error e) (other : e ≠ .missing) :
    t'.readAt target = .error e := by
  cases target with
  | directory location => exact failed
  | entry parent name slash =>
      simp only [readAt] at failed ⊢
      cases looked : t.find parent name with
      | error e' =>
          rw [looked] at failed
          rw [find_eq_of_error looked t']
          exact failed
      | ok found =>
          rw [looked] at failed
          obtain ⟨short, there⟩ := find_eq_ok_iff.mp looked
          cases found with
          | none =>
              cases failed
              exact absurd rfl other
          | some entry =>
              cases entry with
              | directory =>
                  rw [find_eq_ok_iff.mpr ⟨short, changes.directory _ there⟩]
                  exact failed
              | file bytes =>
                  obtain ⟨bytes', present⟩ := changes.isFile _ bytes there
                  rw [find_eq_ok_iff.mpr ⟨short, present⟩]
                  cases slash with
                  | true => exact failed
                  | false => cases failed

/-- **A path that cannot be read**, other than for want of a file, **cannot be read later either**. -/
theorem read_eq_of_error (changes : t.ChangesWithin t' touched) {e : FileError}
    (failed : t.read path = .error e) (other : e ≠ .missing) : t'.read path = .error e := by
  rw [read_eq_readAt] at failed ⊢
  cases located : t.locate path with
  | error e' =>
      rw [located] at failed
      cases failed
      rw [changes.locate_eq_of_error located other]
      rfl
  | ok target =>
      rw [located] at failed
      rw [changes.keeps.locate_eq located]
      exact changes.readAt_eq_of_error failed other

end ChangesWithin

/-! ## Single operations -/

/-- **Making a directory changes no file.** -/
theorem changesWithin_makeDirectory (made : t.makeDirectory path = .ok t') :
    t.ChangesWithin t' [] := by
  have keeps := keeps_makeDirectory made
  obtain ⟨location, free, rfl⟩ := of_makeDirectory made
  have notDirectory : t.at? location ≠ some .directory := by
    rw [free]
    simp
  refine ⟨keeps.workingDirectory_eq, keeps.directory, ?_, ?_⟩
  · intro other bytes present
    exact ⟨bytes, keeps.file other List.not_mem_nil bytes present⟩
  · intro other outside bytes
    refine ⟨?_, keeps.file other outside bytes⟩
    intro present
    rw [at?_put notDirectory] at present
    split at present
    · cases present
    · exact present

theorem Builds.changesWithin (builds : t.Builds t') : t.ChangesWithin t' [] := by
  induction builds with
  | refl => exact .refl t []
  | tail _ last ih =>
      obtain ⟨path, made⟩ := last
      exact ih.trans (changesWithin_makeDirectory made)

/-- **Writing a file changes that file only.** -/
theorem changesWithin_write (written : t.write path bytes = .ok t') :
    t.ChangesWithin t' [path.location t.workingDirectory] := by
  have keeps := keeps_write written
  obtain ⟨parent, name, located, -, free, rfl⟩ := of_write written
  have denoted : parent ++ [name] = path.location t.workingDirectory :=
    location_of_locate located
  refine ⟨keeps.workingDirectory_eq, keeps.directory, ?_, ?_⟩
  · intro other old present
    rw [at?_put free]
    split
    · exact ⟨bytes, rfl⟩
    · exact ⟨old, present⟩
  · intro other outside content
    have apart : other ≠ parent ++ [name] := by
      rw [denoted]
      exact fun same => outside (List.mem_singleton.mpr same)
    rw [at?_put free, if_neg apart]

end FileTree

end WireHeaders
