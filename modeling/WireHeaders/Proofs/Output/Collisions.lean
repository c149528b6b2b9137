import Mathlib.Data.List.Nodup
import WireHeaders.Proofs.Data.Alignment
import WireHeaders.Proofs.Header.Places
import WireHeaders.Proofs.Output.InMemory
import WireHeaders.Proofs.Output.Landing

/-!
# Headers in one file

Two headers may have different paths and still go to one file.  A pass notices only headers with the
same path, so whether one header overwrites another depends on the suffix.

## Main definitions

* `HeaderOptions.Meet` — source units whose headers go to one file

## Main statements

* `HeaderOptions.KeepsApart.not_meet` — if a suffix keeps headers apart, those of a pass do not meet
* `DirectoryOutput.Settled.read_eq_of_climbs` — if a suffix climbs, all headers are read as one
* `DirectoryOutput.run_storing_settled` — **what is read at the places of all headers after a pass**,
  and when a pass is given up for two headers in one file
-/

namespace WireHeaders

variable {options : HeaderOptions} {direction : Direction} {tree : DeclarationTree} {root : Path}
  {t t' : FileTree} {files : List GeneratedFile} {units : Units}

namespace HeaderOptions

/-- **Source units whose headers go to one file** below a directory. -/
def Meet (options : HeaderOptions) (root : Path) (workingDirectory : Location)
    (source source' : Path) : Prop :=
  ∃ path path', options.outputPath source = .ok path ∧ options.outputPath source' = .ok path' ∧
    (root.join path).namesFile = true ∧ (root.join path').namesFile = true ∧
    (root.join path).location workingDirectory = (root.join path').location workingDirectory

/-- Headers of one pass with the same path are one. -/
theorem eq_of_path_eq (made : (options.generate direction units).result = .ok files)
    {f g : GeneratedFile} (member : f ∈ files) (member' : g ∈ files) (same : f.path = g.path) :
    f = g := by
  have distinct : (files.map GeneratedFile.path).Nodup := by
    refine List.pairwise_map.mpr ((generate_eq_ok made).2.imp ?_)
    intro f g apart same
    exact apart (same ▸ Std.ReflOrd.compare_self)
  exact List.inj_on_of_nodup_map distinct member member' same

/-- **Headers of one pass do not meet**, if the suffix keeps them apart. -/
theorem KeepsApart.not_meet {workingDirectory : Location}
    (apart : options.KeepsApart (root.location workingDirectory))
    (made : (options.generate direction units).result = .ok files)
    {a b : Path × SourceUnit} (listed : a ∈ units.toList) (listed' : b ∈ units.toList)
    (meet : options.Meet root workingDirectory a.1 b.1) : a = b := by
  obtain ⟨path, path', placed, placed', names, -, same⟩ := meet
  obtain rfl := apart.path_eq placed placed' names same
  obtain ⟨f, member, source, claimed, -⟩ := exists_mem_of_generate made listed
  obtain ⟨g, member', source', claimed', -⟩ := exists_mem_of_generate made listed'
  rw [placed] at claimed
  rw [placed'] at claimed'
  have one : f = g :=
    eq_of_path_eq made member member' (Except.ok.inj (claimed.symm.trans claimed'))
  refine SortedMap.eq_of_mem_of_compare listed listed' ?_
  rw [← source, ← source', one]
  exact Std.ReflOrd.compare_self

end HeaderOptions

namespace DirectoryOutput

/-- **Settled headers of a pass are all there**, if the suffix keeps them apart. -/
theorem Settled.present (settled : (storing root).Settled t files)
    (apart : options.KeepsApart (root.location t.workingDirectory))
    (made : (options.generate direction units).result = .ok files) {file : GeneratedFile}
    (member : file ∈ files) : (storing root).Present t file := by
  obtain ⟨before, last, after, split, goes, -, read⟩ := settled file member
  have lastMember : last ∈ files := by simp [split]
  obtain ⟨-, -, placed, -⟩ := (HeaderOptions.mem_generate_iff made).mp member
  obtain ⟨-, -, placed', -⟩ := (HeaderOptions.mem_generate_iff made).mp lastMember
  have same : file.path = last.path :=
    apart.path_eq placed placed' (FileTree.namesFile_of_read read) goes.symm
  rw [← HeaderOptions.eq_of_path_eq made member lastMember same] at read
  exact read

/-- **Settled headers are all read as one**, if the suffix climbs and none of them is named by dots
alone. -/
theorem Settled.read_eq_of_climbs (settled : (storing root).Settled t files)
    (climbing : climbs options.laterSteps = true)
    (made : (options.generate direction units).result = .ok files) {f g : GeneratedFile}
    (member : f ∈ files) (member' : g ∈ files)
    (named : f.path.steps.head?.any isDots = false) (named' : g.path.steps.head?.any isDots = false) :
    t.read (root.join f.path) = t.read (root.join g.path) := by
  obtain ⟨-, -, placed, -⟩ := (HeaderOptions.mem_generate_iff made).mp member
  obtain ⟨-, -, placed', -⟩ := (HeaderOptions.mem_generate_iff made).mp member'
  obtain ⟨_, last, _, -, -, -, read⟩ := settled f member
  obtain ⟨_, last', _, -, -, -, read'⟩ := settled g member'
  have same : (root.join f.path).location t.workingDirectory =
      (root.join g.path).location t.workingDirectory :=
    HeaderOptions.location_eq_of_climbs climbing placed placed' named named'
  have one := FileTree.eq_of_read read read' same
  exact read.trans ((congrArg Except.ok one).trans read'.symm)

/-! ## A whole pass -/

/-- A pass without failure leaves its headers settled. -/
theorem settled_of_run {total : CommitSummary}
    (ok : (run (storing root).toTree options tree t).1.result = .ok total) :
    ∃ files, generated options tree = .ok files ∧
      (run (storing root).toTree options tree t).2.workingDirectory = t.workingDirectory ∧
      (storing root).Settled (run (storing root).toTree options tree t).2 files := by
  cases made : generated options tree with
  | error e =>
      rw [(run_of_error made t).1] at ok
      cases ok
  | ok files =>
      rw [(run_of_generated made t).1] at ok
      rw [(run_of_generated made t).2]
      have changes := changesWithin_commitFrom (storing root) .zero files t
        fun file member _ => List.mem_map_of_mem member
      exact ⟨files, rfl, changes.workingDirectory_eq, commitFrom_settled rfl rfl ok⟩

/-- **Each source unit has its own text** after a pass without failure, if the suffix keeps headers
apart. -/
theorem read_of_run (apart : options.KeepsApart (root.location t.workingDirectory))
    {total : CommitSummary}
    (ok : (run (storing root).toTree options tree t).1.result = .ok total) :
    ∃ units, tree.discover.result = .ok units ∧
      ∀ entry ∈ units.toList, ∃ path, options.outputPath entry.1 = .ok path ∧
        (run (storing root).toTree options tree t).2.read (root.join path) =
          .ok (Bytes.ofString (options.unitText .serialize entry.2)) := by
  obtain ⟨files, made, same, settled⟩ := settled_of_run ok
  obtain ⟨units, discovered, made⟩ := generated_eq_ok_iff.mp made
  refine ⟨units, discovered, ?_⟩
  intro entry listed
  obtain ⟨file, member, -, placed, text⟩ := HeaderOptions.exists_mem_of_generate made listed
  rw [← same] at apart
  have present := settled.present apart made member
  rw [Present, text] at present
  exact ⟨file.path, placed, present⟩

/-- **A pass in which headers meet is given up** before anything changes, if the suffix keeps headers
apart. -/
theorem run_of_meet (apart : options.KeepsApart (root.location t.workingDirectory))
    (discovered : tree.discover.result = .ok units) {a b : Path × SourceUnit}
    (listed : a ∈ units.toList) (listed' : b ∈ units.toList) (distinct : a ≠ b)
    (meet : options.Meet root t.workingDirectory a.1 b.1) :
    (run (storing root).toTree options tree t).2 = t ∧
      ∃ e, (run (storing root).toTree options tree t).1.result = .error e ∧
        ((∃ entry ∈ units.toList, options.outputPath entry.1 = .error e) ∨
          ∃ path first second, e = .outputCollision path first second) := by
  cases made : generated options tree with
  | ok files =>
      obtain ⟨units', discovered', made⟩ := generated_eq_ok_iff.mp made
      obtain rfl : units = units' := Except.ok.inj (discovered.symm.trans discovered')
      exact absurd (apart.not_meet made listed listed' meet) distinct
  | error e =>
      have unmade := made
      rw [generated, result_headersOf, discovered] at unmade
      exact ⟨(run_of_error made t).2, e, (run_of_error made t).1,
        HeaderOptions.error_of_generateFrom unmade⟩

/-- **What a pass leaves in a directory.**  If it succeeds, the header of each source unit is read as
that of the last unit whose header goes to the same file.  If the suffix keeps headers apart, this is
its own text, and a pass in which two headers would go to one file is given up before anything
changes. -/
theorem run_storing_settled (options : HeaderOptions) (tree : DeclarationTree) (root : Path)
    (t : FileTree) :
    let ran := run (storing root).toTree options tree t
    (∀ total, ran.1.result = .ok total →
      ∃ files, generated options tree = .ok files ∧ (storing root).Settled ran.2 files) ∧
    (options.KeepsApart (root.location t.workingDirectory) →
      (∀ total, ran.1.result = .ok total → ∃ units, tree.discover.result = .ok units ∧
        ∀ entry ∈ units.toList, ∃ path, options.outputPath entry.1 = .ok path ∧
          ran.2.read (root.join path) =
            .ok (Bytes.ofString (options.unitText .serialize entry.2))) ∧
      ∀ units, tree.discover.result = .ok units → ∀ a ∈ units.toList, ∀ b ∈ units.toList, a ≠ b →
        options.Meet root t.workingDirectory a.1 b.1 →
        ran.2 = t ∧ ∃ e, ran.1.result = .error e ∧
          ((∃ entry ∈ units.toList, options.outputPath entry.1 = .error e) ∨
            ∃ path first second, e = .outputCollision path first second)) := by
  refine ⟨?_, fun apart => ⟨?_, ?_⟩⟩
  · intro total ok
    obtain ⟨files, made, -, settled⟩ := settled_of_run ok
    exact ⟨files, made, settled⟩
  · intro total ok
    exact read_of_run apart ok
  · intro units discovered a listed b listed' distinct meet
    exact run_of_meet apart discovered listed listed' distinct meet

/-- A struct of a source unit that can be written. -/
def exportedStruct (name source : String) : StructDecl :=
  ⟨name, source, Metadata.empty.flag Key.serialize, []⟩

/-- Two source units with a struct each. -/
def structPair (first second : String) : DeclarationTree where
  sources := (SortedMap.empty.insert "a" ⟨first⟩).insert "b" ⟨second⟩
  scopes := [⟨"Game", false, .container "r"
    [.struct (exportedStruct "FA" "a") [], .struct (exportedStruct "FB" "b") []]⟩]

/-- The units of the two. -/
def unitPair (first second : String) : Units :=
  (Units.empty.add ⟨first⟩ (.struct (exportedStruct "FA" "a"))).add ⟨second⟩
    (.struct (exportedStruct "FB" "b"))

/-- The standard suffix keeps headers apart: each of two source units has its own text after a pass,
and a pass over two units with one base name leaves nothing. -/
theorem run_storing_settled_standard :
    let pass (tree : DeclarationTree) := run (storing ⟨"out"⟩).toTree .standard tree ⟨.empty, []⟩
    (pass (structPair "A.h" "B.h")).1.result = .ok ⟨2, 0, 0⟩ ∧
      (pass (structPair "A.h" "B.h")).2.read ⟨"out/A.genjson.h"⟩ =
        .ok (Bytes.ofString (HeaderOptions.standard.unitText .serialize
          (SourceUnit.empty.add 0 (.struct (exportedStruct "FA" "a"))))) ∧
      (pass (structPair "Left/A.h" "Right/A.h")).2 = ⟨.empty, []⟩ := by
  have apart : HeaderOptions.standard.KeepsApart ((⟨"out"⟩ : Path).location []) := by decide
  refine ⟨by decide +kernel, ?_, ?_⟩
  · obtain ⟨-, settles⟩ :=
      run_storing_settled .standard (structPair "A.h" "B.h") ⟨"out"⟩ ⟨.empty, []⟩
    obtain ⟨units, discovered, own⟩ := (settles apart).1 ⟨2, 0, 0⟩ (by decide +kernel)
    have found : (structPair "A.h" "B.h").discover.result = .ok (unitPair "A.h" "B.h") := by
      decide +kernel
    obtain rfl := Except.ok.inj (found.symm.trans discovered)
    obtain ⟨path, placed, read⟩ :=
      own (⟨"A.h"⟩, SourceUnit.empty.add 0 (.struct (exportedStruct "FA" "a"))) (by decide +kernel)
    obtain rfl : ⟨"A.genjson.h"⟩ = path := Except.ok.inj placed
    exact read
  · obtain ⟨-, settles⟩ :=
      run_storing_settled .standard (structPair "Left/A.h" "Right/A.h") ⟨"out"⟩ ⟨.empty, []⟩
    have found : (structPair "Left/A.h" "Right/A.h").discover.result =
        .ok (unitPair "Left/A.h" "Right/A.h") := by decide +kernel
    have meet : HeaderOptions.standard.Meet ⟨"out"⟩ [] ⟨"Left/A.h"⟩ ⟨"Right/A.h"⟩ :=
      ⟨⟨"A.genjson.h"⟩, ⟨"A.genjson.h"⟩, rfl, rfl, rfl, rfl, rfl⟩
    have left : (⟨"Left/A.h"⟩, SourceUnit.empty.add 0 (.struct (exportedStruct "FA" "a"))) ∈
        (unitPair "Left/A.h" "Right/A.h").toList := by decide +kernel
    have right : (⟨"Right/A.h"⟩, SourceUnit.empty.add 1 (.struct (exportedStruct "FB" "b"))) ∈
        (unitPair "Left/A.h" "Right/A.h").toList := by decide +kernel
    exact ((settles apart).2 _ found _ left _ right (by simp) meet).1

/-- A suffix that leads up from the directory that it makes of a base name. -/
def climbingSuffix : HeaderOptions := { HeaderOptions.standard with suffix := "/../All.h" }

/-- A suffix that climbs lets a pass overwrite a header of its own without notice. -/
theorem run_storing_overwrites :
    ¬∀ (options : HeaderOptions) (tree : DeclarationTree) (root : Path) (t : FileTree)
      (total : CommitSummary) (units : Units),
      (run (storing root).toTree options tree t).1.result = .ok total →
      tree.discover.result = .ok units →
      ∀ entry ∈ units.toList, ∀ path, options.outputPath entry.1 = .ok path →
        (run (storing root).toTree options tree t).2.read (root.join path) =
          .ok (Bytes.ofString (options.unitText .serialize entry.2)) := by
  intro kept
  have ok : (run (storing ⟨"out"⟩).toTree climbingSuffix (structPair "A.h" "B.h") ⟨.empty, []⟩).1.result =
      .ok ⟨2, 0, 0⟩ := by decide +kernel
  have discovered : (structPair "A.h" "B.h").discover.result =
      .ok (unitPair "A.h" "B.h") := by decide +kernel
  have listed : (⟨"A.h"⟩, (SourceUnit.empty.add 0 (.struct (exportedStruct "FA" "a")))) ∈
      (unitPair "A.h" "B.h").toList := by decide +kernel
  have placed : climbingSuffix.outputPath ⟨"A.h"⟩ = .ok ⟨"A/../All.h"⟩ := by decide +kernel
  have read := kept _ _ _ _ _ _ ok discovered _ listed _ placed
  revert read
  decide +kernel

end DirectoryOutput

end WireHeaders
