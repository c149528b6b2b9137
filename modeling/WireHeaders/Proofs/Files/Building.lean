import Mathlib.Logic.Relation
import WireHeaders.Files.Tree

/-!
# Making directories

A directory is made with all directories above it by a program that looks around and stops early.
Whatever way it takes, it only makes directories one after the other.

## Main definitions

* `Path.above` — the paths above a path
* `FileTree.Builds` — **directories made one after the other**, and nothing else
* `FileTree.BuildsAmong` — directories made at some paths, and nothing else
* `FileTree.OnlyBuildsAmong` — programs that do nothing else

## Main statements

* `FileTree.OnlyBuildsAmong.makeDirectories` — **a directory is made with all directories above it** by
  making single ones, at the path and at paths above it
-/

namespace WireHeaders

/-- **The paths above a path**, nearest first. -/
def Path.above (p : Path) : List Path :=
  match p.parent? with
  | some parent => parent.ancestors
  | none => []

namespace FileTree

/-- **Directories made one after the other**, and nothing else. -/
def Builds : FileTree → FileTree → Prop :=
  Relation.ReflTransGen fun t t' => ∃ path, t.makeDirectory path = .ok t'

/-- **Directories made one after the other at some paths**, and nothing else. -/
def BuildsAmong (paths : List Path) : FileTree → FileTree → Prop :=
  Relation.ReflTransGen fun t t' => ∃ path ∈ paths, t.makeDirectory path = .ok t'

theorem BuildsAmong.mono {paths more : List Path} (within : paths ⊆ more) {t t' : FileTree}
    (builds : t.BuildsAmong paths t') : t.BuildsAmong more t' :=
  Relation.ReflTransGen.mono (fun _ _ ⟨path, member, made⟩ => ⟨path, within member, made⟩) _ _
    builds

theorem BuildsAmong.builds {paths : List Path} {t t' : FileTree} (builds : t.BuildsAmong paths t') :
    t.Builds t' :=
  Relation.ReflTransGen.mono (fun _ _ ⟨path, _, made⟩ => ⟨path, made⟩) _ _ builds

/-- **A program that only makes directories at some paths**, whatever it comes to. -/
def OnlyBuildsAmong {α : Type} (paths : List Path) (program : StateM FileTree α) : Prop :=
  ∀ t : FileTree, t.BuildsAmong paths (program t).2

namespace OnlyBuildsAmong

variable {α β : Type} {paths more : List Path}

theorem mono (within : paths ⊆ more) {program : StateM FileTree α}
    (only : OnlyBuildsAmong paths program) : OnlyBuildsAmong more program :=
  fun t => (only t).mono within

theorem pure (paths : List Path) (a : α) : OnlyBuildsAmong paths (Pure.pure a) := fun _ => .refl

theorem bind {program : StateM FileTree α} {next : α → StateM FileTree β}
    (first : OnlyBuildsAmong paths program) (second : ∀ a, OnlyBuildsAmong paths (next a)) :
    OnlyBuildsAmong paths (program >>= next) := by
  intro t
  exact (first t).trans (second (program t).1 (program t).2)

theorem isDirectory (paths : List Path) (path : Path) :
    OnlyBuildsAmong paths (FileSystem.isDirectory path : StateM FileTree Bool) :=
  fun _ => .refl

theorem makeDirectory {path : Path} (member : path ∈ paths) :
    OnlyBuildsAmong paths
      (FileSystem.makeDirectory path : StateM FileTree (Except FileError Unit)) := by
  intro t
  show t.BuildsAmong paths (change (fun t => t.makeDirectory path) t).2
  simp only [change]
  cases made : t.makeDirectory path with
  | ok t' => exact .single ⟨path, member, made⟩
  | error e => exact .refl

theorem ensureDirectory {path : Path} (member : path ∈ paths) :
    OnlyBuildsAmong paths
      (FileSystem.ensureDirectory path : StateM FileTree (Except FileError Unit)) := by
  refine bind (makeDirectory member) ?_
  intro made
  cases made with
  | ok _ => exact pure _ _
  | error e => exact bind (isDirectory _ path) fun _ => pure _ _

theorem ensureAll (paths : List Path) :
    OnlyBuildsAmong paths
      (FileSystem.ensureAll paths : StateM FileTree (Except FileError Unit)) := by
  induction paths with
  | nil => exact pure _ _
  | cons path above ih =>
      have here : path ∈ path :: above := List.mem_cons_self
      unfold FileSystem.ensureAll
      split
      · exact pure _ _
      · refine bind (makeDirectory here) ?_
        intro made
        split
        · exact pure _ _
        · refine bind (ih.mono (List.subset_cons_self path above)) ?_
          intro ensured
          split
          · exact ensureDirectory here
          · exact pure _ _
        · exact bind (isDirectory _ path) fun _ => pure _ _

/-- **A directory is made with all directories above it** by making single ones. -/
theorem makeDirectories (path : Path) :
    OnlyBuildsAmong path.ancestors
      (FileSystem.makeDirectories path : StateM FileTree (Except FileError Unit)) :=
  ensureAll path.ancestors

end OnlyBuildsAmong

end FileTree

end WireHeaders
