import WireHeaders.Proofs.Files.Changes

/-!
# What operations on files add

A later tree differs from an earlier one by new directories, and by what is at some locations that are
named.  Each new directory is where one of some paths leads to, so it is known beforehand which
directories can be new.

## Main definitions

* `FileTree.SameFiles` — **trees with the same files**
* `FileTree.Adds` — **a later tree has new directories at some paths**, and all else is as before except
  at some locations

## Main statements

* `FileTree.BuildsAmong.adds`, `FileTree.adds_write` — single operations
* `FileTree.Adds.sameFiles` — where nothing else was touched, the files are the same
* `FileTree.Adds.not_directory_of_write` — no directory gives way to a file
-/

namespace WireHeaders

namespace FileTree

variable {t t' t'' : FileTree} {paths : List Path} {touched : List Location} {path : Path}
  {bytes : Bytes}

/-- **Trees with the same files**, each with the same content. -/
def SameFiles (t t' : FileTree) : Prop :=
  ∀ location bytes, t'.at? location = some (.file bytes) ↔ t.at? location = some (.file bytes)

/-- **A later tree has new directories at some paths**, and all else is as before except at some
locations. -/
structure Adds (t t' : FileTree) (paths : List Path) (touched : List Location) : Prop where
  workingDirectory_eq : t'.workingDirectory = t.workingDirectory
  elsewhere : ∀ location, location ∉ touched → t'.at? location = t.at? location ∨
    t.at? location = none ∧ t'.at? location = some .directory ∧
      ∃ path ∈ paths, path.location t.workingDirectory = location

namespace Adds

theorem refl (t : FileTree) (paths : List Path) (touched : List Location) :
    t.Adds t paths touched :=
  ⟨rfl, fun _ _ => Or.inl rfl⟩

theorem mono {more : List Location} (adds : t.Adds t' paths touched) (within : touched ⊆ more) :
    t.Adds t' paths more :=
  ⟨adds.workingDirectory_eq,
    fun location outside => adds.elsewhere location fun inside => outside (within inside)⟩

/-- One addition after another adds what either of them adds. -/
theorem trans (first : t.Adds t' paths touched) (second : t'.Adds t'' paths touched) :
    t.Adds t'' paths touched := by
  refine ⟨second.workingDirectory_eq.trans first.workingDirectory_eq, ?_⟩
  intro location outside
  rcases first.elsewhere location outside with same | ⟨free, made, new⟩
  · rcases second.elsewhere location outside with same' | ⟨free', made', path, member, leads⟩
    · exact Or.inl (same'.trans same)
    · rw [first.workingDirectory_eq] at leads
      exact Or.inr ⟨same.symm.trans free', made', path, member, leads⟩
  · rcases second.elsewhere location outside with same' | ⟨free', -, -⟩
    · exact Or.inr ⟨free, same'.trans made, new⟩
    · -- A directory that is there already is not made once more.
      rw [made] at free'
      cases free'

/-- **Where nothing else was touched, the files are the same.** -/
theorem sameFiles (adds : t.Adds t' paths []) : t.SameFiles t' := by
  intro location bytes
  rcases adds.elsewhere location List.not_mem_nil with same | ⟨free, made, -⟩
  · rw [same]
  · rw [free, made]
    simp

end Adds

/-! ## Single operations -/

theorem adds_makeDirectory (member : path ∈ paths) (made : t.makeDirectory path = .ok t') :
    t.Adds t' paths [] := by
  obtain ⟨free, rfl⟩ := eq_put_of_makeDirectory made
  have notDirectory : t.at? (path.location t.workingDirectory) ≠ some .directory := by
    rw [free]
    simp
  refine ⟨rfl, ?_⟩
  intro location _
  rw [at?_put notDirectory]
  split
  · next here =>
    rw [here]
    exact Or.inr ⟨free, rfl, path, member, rfl⟩
  · exact Or.inl rfl

/-- **Directories that are made at some paths** are all that is added. -/
theorem BuildsAmong.adds (builds : t.BuildsAmong paths t') : t.Adds t' paths [] := by
  induction builds with
  | refl => exact .refl t paths []
  | tail _ last ih =>
      obtain ⟨path, member, made⟩ := last
      exact ih.trans (adds_makeDirectory member made)

/-- **Writing a file adds no directory.** -/
theorem adds_write (paths : List Path) (written : t.write path bytes = .ok t') :
    t.Adds t' paths [path.location t.workingDirectory] := by
  obtain ⟨parent, name, located, -, free, rfl⟩ := of_write written
  have denoted : parent ++ [name] = path.location t.workingDirectory :=
    location_of_locate located
  refine ⟨rfl, ?_⟩
  intro location outside
  have apart : location ≠ parent ++ [name] := by
    rw [denoted]
    exact fun same => outside (List.mem_singleton.mpr same)
  rw [at?_put free, if_neg apart]
  exact Or.inl rfl

/-- **No directory gives way to a file** that is written behind new directories: these are made where
there was nothing. -/
theorem Adds.not_directory_of_write (adds : t.Adds t' paths [])
    (written : t'.write path bytes = .ok t'') :
    t.at? (path.location t.workingDirectory) ≠ some .directory := by
  obtain ⟨parent, name, located, -, free, -⟩ := of_write written
  have denoted : parent ++ [name] = path.location t.workingDirectory := by
    rw [← adds.workingDirectory_eq]
    exact location_of_locate located
  rw [denoted] at free
  intro directory
  rcases adds.elsewhere (path.location t.workingDirectory) List.not_mem_nil with
    same | ⟨-, made, -⟩
  · exact free (same.trans directory)
  · exact free made

end FileTree

end WireHeaders
