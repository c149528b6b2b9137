import WireHeaders.Files.Tree
import WireHeaders.Proofs.Data.Lookup
import WireHeaders.Proofs.Files.Segments
import WireHeaders.Proofs.Log.Results

/-!
# Where paths lead to

There are no links, so the place that a path leads to can be read off its segments, and the tree
only decides whether the path can be walked at all.

## Main definitions

* `Path.location` — the location that a path denotes, seen from a working directory
* `Target.location` — the location of what a walk has found

## Main statements

* `Path.location_join_of_relative` — a path below another one
* `FileTree.location_of_locate` — **a path that can be walked leads to the location it denotes**
* `FileTree.location_of_entry` — a name below a path, if it can be walked to, lies in the directory
  that the path denotes
-/

namespace WireHeaders

/-- One segment further, without a look at any tree. -/
def descend (location : Location) (segment : List Char) : Location :=
  if segment = ['.'] then location
  else if segment = ['.', '.'] then location.dropLast
  else location ++ [String.ofList segment]

/-- Where a path starts. -/
def Path.start (p : Path) (workingDirectory : Location) : Location :=
  if p.isAbsolute then [] else workingDirectory

/-- **The location that a path denotes**, seen from a working directory. -/
def Path.location (p : Path) (workingDirectory : Location) : Location :=
  p.steps.foldl descend (p.start workingDirectory)

/-- The location of what a walk has found. -/
def Target.location : Target → Location
  | directory location => location
  | entry parent name _ => parent ++ [name]

/-- **A relative path below another one denotes** what its segments lead to from there. -/
theorem Path.location_join_of_relative {p q : Path} (relative : q.isAbsolute = false)
    (workingDirectory : Location) :
    (p.join q).location workingDirectory =
      q.steps.foldl descend (p.location workingDirectory) := by
  unfold location start
  rw [steps_join_of_relative relative, isAbsolute_join relative, List.foldl_append]

/-- A name below a path denotes what the path denotes, one segment further. -/
theorem Path.location_join {p q : Path} (name : q.IsName) (workingDirectory : Location) :
    (p.join q).location workingDirectory =
      descend (p.location workingDirectory) q.text.toList := by
  rw [location_join_of_relative name.not_isAbsolute, name.steps_eq]
  rfl

namespace FileTree

variable {t : FileTree}

/-- A step leads to where its segment leads, if it can be taken. -/
theorem eq_descend_of_step {location next : Location} {segment : List Char}
    (stepped : t.step location segment = .ok next) : next = descend location segment := by
  unfold step at stepped
  unfold descend
  split at stepped
  · next here =>
    rw [if_pos here]
    exact (Except.ok.inj stepped).symm
  · next other =>
    rw [if_neg other]
    split at stepped
    · next up =>
      rw [if_pos up]
      exact (Except.ok.inj stepped).symm
    · next down =>
      rw [if_neg down]
      dsimp only at stepped
      split at stepped
      · cases stepped
      · split at stepped
        · cases stepped
        · cases stepped
        · exact (Except.ok.inj stepped).symm

/-- The last segment leads to where it leads. -/
theorem location_of_lastStep {slash : Bool} {location : Location} {segment : List Char}
    {target : Target} (stepped : t.lastStep slash location segment = .ok target) :
    target.location = descend location segment := by
  unfold lastStep at stepped
  split at stepped
  · obtain ⟨there, next, rfl⟩ := exists_ok_of_map stepped
    exact eq_descend_of_step next
  · next name =>
    cases stepped
    obtain ⟨here, up⟩ := not_or.mp name
    rw [descend, if_neg here, if_neg up]
    rfl

theorem location_of_walk {slash : Bool} {segments : List (List Char)} {location : Location}
    {target : Target} (walked : t.walk slash location segments = .ok target) :
    target.location = segments.foldl descend location := by
  induction segments generalizing location with
  | nil =>
      cases walked
      rfl
  | cons segment rest ih =>
      cases rest with
      | nil => exact location_of_lastStep walked
      | cons another rest =>
          rw [walk] at walked
          · obtain ⟨next, stepped, walked⟩ := exists_ok_of_bind walked
            rw [List.foldl_cons, ← eq_descend_of_step stepped]
            exact ih walked
          · simp

/-- What `locate` walks once it starts to walk. -/
theorem walk_of_locate {path : Path} {target : Target} (located : t.locate path = .ok target) :
    t.walk (path.text.toList.getLast? == some '/') (path.start t.workingDirectory) path.steps =
      .ok target := by
  unfold locate at located
  split at located
  · cases located
  split at located
  · cases located
  split at located
  · cases located
  · exact located

/-- **A path that can be walked leads to the location it denotes.** -/
theorem location_of_locate {path : Path} {target : Target}
    (located : t.locate path = .ok target) :
    target.location = path.location t.workingDirectory :=
  location_of_walk (walk_of_locate located)

/-- **Dots lead to directories**, so the last segment of a walk to a name is none of them. -/
theorem not_dots_of_walk {slash slash' : Bool} {segments : List (List Char)} {last : List Char}
    {location parent : Location} {name : String}
    (walked : t.walk slash location (segments ++ [last]) = .ok (.entry parent name slash')) :
    last ≠ ['.'] ∧ last ≠ ['.', '.'] := by
  induction segments generalizing location with
  | nil =>
      rw [List.nil_append, walk, lastStep] at walked
      split at walked
      · obtain ⟨there, -, directory⟩ := exists_ok_of_map walked
        cases directory
      · next other => exact not_or.mp other
  | cons segment rest ih =>
      rw [List.cons_append, walk] at walked
      · obtain ⟨next, -, walked⟩ := exists_ok_of_bind walked
        exact ih walked
      · simp

/-- **A name below a path**, if it can be walked to, lies in the directory that the path denotes. -/
theorem location_of_entry {p q : Path} (isName : q.IsName) {parent : Location} {name : String}
    {slash : Bool} (located : t.locate (p.join q) = .ok (.entry parent name slash)) :
    (p.join q).location t.workingDirectory = p.location t.workingDirectory ++ [q.text] := by
  have walked := walk_of_locate located
  rw [Path.steps_join isName] at walked
  obtain ⟨here, up⟩ := not_dots_of_walk walked
  rw [Path.location_join isName, descend, if_neg here, if_neg up, String.ofList_toList]

end FileTree

end WireHeaders
