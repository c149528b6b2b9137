import WireHeaders.Proofs.Header.Places
import WireHeaders.Proofs.Output.InMemory
import WireHeaders.Proofs.Output.Landing

/-!
# Files outside of the output directory

A pass stores headers below a directory.  A header leaves the directory only by a step up, and if the
suffix has none, only a base name of two dots can make one.

## Main definitions

* `FileTree.Differs` — whether a location has another file than before

## Main statements

* `HeaderOptions.location_of_outputPath` — **where headers go**: below the directory, or by a step up
* `DirectoryOutput.run_storing_below` — **a pass changes files below its directory only**, but for
  headers whose path begins with a step up
-/

namespace WireHeaders

/-- **Whether a location has another file than before**, or one of the two has none there. -/
def FileTree.Differs (t t' : FileTree) (location : Location) : Prop :=
  ∃ bytes, ¬(t'.at? location = some (.file bytes) ↔ t.at? location = some (.file bytes))

theorem FileTree.differs_of_at? {t t' : FileTree} {location : Location} {bytes : Bytes}
    (later : t'.at? location = some (.file bytes))
    (before : t.at? location ≠ some (.file bytes)) : t.Differs t' location :=
  ⟨bytes, fun same => before (same.mp later)⟩

variable {options : HeaderOptions} {root path source : Path}

/-- **Where headers go**: to a place below the directory, unless their path begins with a step up. -/
theorem HeaderOptions.location_of_outputPath
    (noParent : .parent ∉ (⟨options.suffix⟩ : Path).components)
    (placed : options.outputPath source = .ok path)
    (names : (root.join path).namesFile = true) (workingDirectory : Location) :
    (∃ below, below ≠ [] ∧ (root.join path).location workingDirectory =
      root.location workingDirectory ++ below) ∨ path.components.head? = some .parent := by
  obtain ⟨relative, base, -, -, steps⟩ := steps_of_outputPath placed
  by_cases up : path.steps.head? = some ['.', '.']
  · exact Or.inr (head?_components_of_outputPath placed up)
  · have down : ['.', '.'] ∉ path.steps := by
      rw [steps] at up ⊢
      refine List.not_mem_cons_of_ne_of_not_mem ?_ (up_not_mem_laterSteps noParent)
      intro first
      exact up (congrArg some first.symm)
    rw [Path.namesFile_join relative (by simp [steps])] at names
    exact Or.inl (Path.exists_location_join relative down names workingDirectory)

namespace DirectoryOutput

/-- **A file that a pass changes is a header's**, whether or not the pass succeeds. -/
theorem exists_header_of_differs {tree : DeclarationTree} {t : FileTree} {location : Location}
    (differs : t.Differs (run (storing root).toTree options tree t).2 location) :
    ∃ files, generated options tree = .ok files ∧ ∃ file ∈ files,
      ((storing root).place file).namesFile = true ∧ (storing root).location t file = location := by
  obtain ⟨bytes, differs⟩ := differs
  cases made : generated options tree with
  | error e =>
      rw [(run_of_error made t).2] at differs
      exact absurd Iff.rfl differs
  | ok files =>
      rw [(run_of_generated made t).2] at differs
      -- Only the places that end in names can be written.
      have changes := changesWithin_commitFrom (storing root) .zero files t
        fun file member names => List.mem_map_of_mem (f := (storing root).location t)
          (List.mem_filter.mpr ⟨member, names⟩)
      have touched := not_imp_comm.mp (fun outside => changes.file location outside bytes) differs
      obtain ⟨file, kept, same⟩ := List.mem_map.mp touched
      obtain ⟨member, names⟩ := List.mem_filter.mp kept
      exact ⟨files, rfl, file, member, names, same⟩

/-- **A pass changes files below its directory only**, whether or not it succeeds.  If the suffix has
no step up, any other file that changes is a header whose path begins with one. -/
theorem run_storing_below (noParent : .parent ∉ (⟨options.suffix⟩ : Path).components)
    (tree : DeclarationTree) (root : Path) (t : FileTree) (location : Location)
    (differs : t.Differs (run (storing root).toTree options tree t).2 location) :
    (∃ below, below ≠ [] ∧ location = root.location t.workingDirectory ++ below) ∨
      ∃ units, tree.discover.result = .ok units ∧ ∃ entry ∈ units.toList, ∃ path,
        options.outputPath entry.1 = .ok path ∧ path.components.head? = some .parent ∧
          location = (root.join path).location t.workingDirectory := by
  obtain ⟨files, made, file, member, names, rfl⟩ := exists_header_of_differs differs
  obtain ⟨units, discovered, made⟩ := generated_eq_ok_iff.mp made
  obtain ⟨unit, listed, placed, -⟩ := (HeaderOptions.mem_generate_iff made).mp member
  rcases HeaderOptions.location_of_outputPath noParent placed names t.workingDirectory with
    below | up
  · exact Or.inl below
  · exact Or.inr ⟨units, discovered, _, listed, file.path, placed, up, rfl⟩

/-- A tree with one struct that can be written, in a source unit of the given path. -/
def structAt (path : Path) : DeclarationTree where
  sources := SortedMap.empty.insert "a" path
  scopes := [⟨"Game", false,
    .struct ⟨"FPoint", "a", Metadata.empty.flag Key.serialize, []⟩ []⟩]

/-- The text of its header. -/
def structText (options : HeaderOptions) : String :=
  options.unitText .serialize
    (SourceUnit.empty.add 0 (.struct ⟨"FPoint", "a", Metadata.empty.flag Key.serialize, []⟩))

/-- The usual suffix adds a file to the directory. -/
theorem run_storing_below_standard :
    let ran := run (storing ⟨"out"⟩).toTree .standard (structAt ⟨"Point.h"⟩) ⟨.empty, []⟩
    FileTree.Differs ⟨.empty, []⟩ ran.2 ["out", "Point.genjson.h"] ∧
      ((∃ below, below ≠ [] ∧
          ["out", "Point.genjson.h"] = (⟨"out"⟩ : Path).location [] ++ below) ∨
        ∃ units, (structAt ⟨"Point.h"⟩).discover.result = .ok units ∧
          ∃ entry ∈ units.toList, ∃ path, HeaderOptions.standard.outputPath entry.1 = .ok path ∧
            path.components.head? = some .parent ∧
              ["out", "Point.genjson.h"] = ((⟨"out"⟩ : Path).join path).location []) := by
  intro ran
  have noParent : .parent ∉ (⟨HeaderOptions.standard.suffix⟩ : Path).components := by decide
  have stored : ran.2.at? ["out", "Point.genjson.h"] =
      some (.file (Bytes.ofString (structText .standard))) := by decide +kernel
  have differs : FileTree.Differs ⟨.empty, []⟩ ran.2 ["out", "Point.genjson.h"] :=
    FileTree.differs_of_at? stored (by decide +kernel)
  exact ⟨differs, run_storing_below noParent _ _ _ _ differs⟩

/-- A suffix that begins with a slash. -/
def slashSuffix : HeaderOptions := { HeaderOptions.standard with suffix := "/x.h" }

/-- A tree with a file beside the output directory. -/
def besideOutput : FileTree := (⟨.empty, []⟩ : FileTree).put ["x.h"] (.file (Bytes.ofString "keep"))

/-- A base name of two dots lets a pass overwrite a file beside its directory. -/
theorem run_storing_escapes :
    ¬∀ (options : HeaderOptions) (tree : DeclarationTree) (root : Path) (t : FileTree)
      (location : Location), .parent ∉ (⟨options.suffix⟩ : Path).components →
      t.Differs (run (storing root).toTree options tree t).2 location →
      ∃ below, location = root.location t.workingDirectory ++ below := by
  intro confined
  have noParent : .parent ∉ (⟨slashSuffix.suffix⟩ : Path).components := by decide
  have stored : (run (storing ⟨"out"⟩).toTree slashSuffix (structAt ⟨"...h"⟩) besideOutput).2.at?
      ["x.h"] = some (.file (Bytes.ofString (structText slashSuffix))) := by decide +kernel
  have differs : besideOutput.Differs
      (run (storing ⟨"out"⟩).toTree slashSuffix (structAt ⟨"...h"⟩) besideOutput).2 ["x.h"] :=
    FileTree.differs_of_at? stored (by decide +kernel)
  obtain ⟨below, inside⟩ := confined _ _ _ _ _ noParent differs
  have top : (⟨"out"⟩ : Path).location besideOutput.workingDirectory = ["out"] := by decide
  rw [top] at inside
  simp at inside

end DirectoryOutput

end WireHeaders
