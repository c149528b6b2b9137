import Mathlib.Data.List.Induction
import WireHeaders.Proofs.Files.Changes

/-!
# Trees without loose ends

A file tree is held as a map from locations, so nothing in its type says that a file lies in a
directory.  In a tree that can be met it does, and this is kept by all operations.

A path without steps up only ever goes down, so where a file lies in such a tree tells all
directories on the way to it.  This is what lets a path be walked *before* a change once it was walked
after it.

## Main definitions

* `FileTree.Grounded` — **whatever is there lies in a directory**

## Main statements

* `FileTree.grounded_empty`, `FileTree.Grounded.makeDirectory`, `FileTree.Grounded.write` — trees are
  grounded from the beginning, and stay so
* `FileTree.Grounded.read_eq_of_later` — **a file that is read later was there before**, if it was not
  touched and its path has no steps up
-/

namespace WireHeaders

/-! ## Going down -/

theorem prefix_descend {location : Location} {segment : List Char} (down : segment ≠ ['.', '.']) :
    location <+: descend location segment := by
  unfold descend
  rw [if_neg down]
  split
  · exact List.prefix_rfl
  · exact List.prefix_append location _

namespace FileTree

variable {t t' : FileTree} {touched : List Location} {path : Path} {bytes : Bytes}

/-- A walk without steps up ends below where it starts. -/
theorem prefix_of_walk {slash slash' : Bool} {segments : List (List Char)}
    {location parent : Location} {name : String} (down : ['.', '.'] ∉ segments)
    (walked : t.walk slash location segments = .ok (.entry parent name slash')) :
    location <+: parent := by
  induction segments generalizing location with
  | nil => cases walked
  | cons segment rest ih =>
      have downHere : segment ≠ ['.', '.'] := (List.ne_of_not_mem_cons down).symm
      have downLater : ['.', '.'] ∉ rest := List.not_mem_of_not_mem_cons down
      cases rest with
      | nil =>
          rw [walk, lastStep] at walked
          split at walked
          · obtain ⟨there, -, directory⟩ := exists_ok_of_map walked
            cases directory
          · cases walked
            exact List.prefix_rfl
      | cons another rest =>
          rw [walk] at walked
          · obtain ⟨next, stepped, walked⟩ := exists_ok_of_bind walked
            have below : location <+: next :=
              eq_descend_of_step stepped ▸ prefix_descend downHere
            exact below.trans (ih downLater walked)
          · simp

/-- A step down can be taken wherever it leads to a directory. -/
theorem step_of_directory {location next : Location} {segment : List Char}
    (down : segment ≠ ['.', '.']) (stepped : t'.step location segment = .ok next)
    (present : t.at? next = some .directory) : t.step location segment = .ok next := by
  have denoted := eq_descend_of_step stepped
  unfold step at stepped ⊢
  unfold descend at denoted
  by_cases here : segment = ['.']
  · rw [if_pos here] at stepped ⊢
    exact stepped
  · rw [if_neg here, if_neg down] at stepped denoted ⊢
    dsimp only at stepped ⊢
    split at stepped
    · cases stepped
    · next short =>
      rw [if_neg short, ← denoted, present]

/-- **A walk down can be taken wherever all directories on the way are there.** -/
theorem walk_of_directories {slash slash' : Bool} {segments : List (List Char)}
    {location parent : Location} {name : String} (down : ['.', '.'] ∉ segments)
    (walked : t'.walk slash location segments = .ok (.entry parent name slash'))
    (present : ∀ above, above <+: parent → t.at? above = some .directory) :
    t.walk slash location segments = .ok (.entry parent name slash') := by
  induction segments generalizing location with
  | nil => cases walked
  | cons segment rest ih =>
      have downHere : segment ≠ ['.', '.'] := (List.ne_of_not_mem_cons down).symm
      have downLater : ['.', '.'] ∉ rest := List.not_mem_of_not_mem_cons down
      cases rest with
      | nil =>
          rw [walk, lastStep] at walked ⊢
          split at walked
          · obtain ⟨there, -, directory⟩ := exists_ok_of_map walked
            cases directory
          · next other =>
            rw [if_neg other]
            exact walked
      | cons another rest =>
          rw [walk] at walked ⊢
          · obtain ⟨next, stepped, walked⟩ := exists_ok_of_bind walked
            have onTheWay := present next (prefix_of_walk downLater walked)
            rw [step_of_directory downHere stepped onTheWay]
            exact ih downLater walked
          · simp
          · simp

/-! ## Grounded trees -/

/-- **Whatever is there lies in a directory.** -/
def Grounded (t : FileTree) : Prop :=
  ∀ location, t.at? location ≠ none → t.at? location.dropLast = some .directory

/-- A tree with nothing in it but the working directory. -/
theorem grounded_empty (workingDirectory : Location) :
    Grounded ⟨.empty, workingDirectory⟩ := by
  intro location present
  have above : location.isPrefixOf workingDirectory = true :=
    Decidable.of_not_not fun outside => present (if_neg outside)
  have aboveParent : location.dropLast.isPrefixOf workingDirectory = true :=
    List.isPrefixOf_iff_prefix.mpr
      ((List.dropLast_prefix location).trans (List.isPrefixOf_iff_prefix.mp above))
  exact if_pos aboveParent

theorem at?_start (t : FileTree) (path : Path) :
    t.at? (path.start t.workingDirectory) = some .directory := by
  have above : (path.start t.workingDirectory).isPrefixOf t.workingDirectory = true := by
    unfold Path.start
    split
    · rfl
    · exact List.isPrefixOf_iff_prefix.mpr List.prefix_rfl
  exact if_pos above

namespace Grounded

/-- Everything above a directory is one. -/
theorem directory_of_prefix (grounded : t.Grounded) {above location : Location}
    (onTheWay : above <+: location) (present : t.at? location = some .directory) :
    t.at? above = some .directory := by
  induction location using List.reverseRec with
  | nil =>
      rw [List.prefix_nil.mp onTheWay]
      exact present
  | append_singleton init name ih =>
      rcases List.prefix_concat_iff.mp onTheWay with rfl | within
      · exact present
      · have parent := grounded (init ++ [name]) (by rw [present]; simp)
        rw [List.dropLast_concat] at parent
        exact ih within parent

theorem directory_of_step (grounded : t.Grounded) {location next : Location} {segment : List Char}
    (present : t.at? location = some .directory) (stepped : t.step location segment = .ok next) :
    t.at? next = some .directory := by
  unfold step at stepped
  split at stepped
  · cases stepped
    exact present
  · split at stepped
    · cases stepped
      exact grounded.directory_of_prefix (List.dropLast_prefix location) present
    · dsimp only at stepped
      split at stepped
      · cases stepped
      · split at stepped
        · cases stepped
        · cases stepped
        · next there =>
          cases stepped
          exact there

/-- **The name at the end of a walk is a name in a directory.** -/
theorem directory_of_walk (grounded : t.Grounded) {slash slash' : Bool}
    {segments : List (List Char)} {location parent : Location} {name : String}
    (present : t.at? location = some .directory)
    (walked : t.walk slash location segments = .ok (.entry parent name slash')) :
    t.at? parent = some .directory := by
  induction segments generalizing location with
  | nil => cases walked
  | cons segment rest ih =>
      cases rest with
      | nil =>
          rw [walk, lastStep] at walked
          split at walked
          · obtain ⟨there, -, directory⟩ := exists_ok_of_map walked
            cases directory
          · cases walked
            exact present
      | cons another rest =>
          rw [walk] at walked
          · obtain ⟨next, stepped, walked⟩ := exists_ok_of_bind walked
            exact ih (grounded.directory_of_step present stepped) walked
          · simp

theorem directory_of_locate (grounded : t.Grounded) {parent : Location} {name : String}
    {slash : Bool} (located : t.locate path = .ok (.entry parent name slash)) :
    t.at? parent = some .directory :=
  grounded.directory_of_walk (t.at?_start path) (walk_of_locate located)

/-! ### Operations -/

/-- An entry in a directory, which replaces none, has solid ground. -/
theorem put (grounded : t.Grounded) {parent : Location} {name : String} {entry : FileEntry}
    (present : t.at? parent = some .directory)
    (free : t.at? (parent ++ [name]) ≠ some .directory) :
    (t.put (parent ++ [name]) entry).Grounded := by
  intro location there
  have apart : t.at? location.dropLast = some .directory →
      (t.put (parent ++ [name]) entry).at? location.dropLast = some .directory := by
    intro directory
    have other : location.dropLast ≠ parent ++ [name] := by
      intro same
      exact free (same ▸ directory)
    rw [at?_put free, if_neg other]
    exact directory
  by_cases new : location = parent ++ [name]
  · refine apart ?_
    rw [new, List.dropLast_concat]
    exact present
  · rw [at?_put free, if_neg new] at there
    exact apart (grounded location there)

theorem makeDirectory (grounded : t.Grounded) (made : t.makeDirectory path = .ok t') :
    t'.Grounded := by
  obtain ⟨target, located, looked⟩ := exists_ok_of_bind made
  cases target with
  | directory location => cases looked
  | entry parent name slash =>
      obtain ⟨found, there, made⟩ := exists_ok_of_bind looked
      cases found with
      | some entry => cases made
      | none =>
          cases made
          refine grounded.put (grounded.directory_of_locate located) ?_
          rw [(find_eq_ok_iff.mp there).2]
          simp

theorem builds (grounded : t.Grounded) (builds : t.Builds t') : t'.Grounded := by
  induction builds with
  | refl => exact grounded
  | tail _ last ih =>
      obtain ⟨path, made⟩ := last
      exact ih.makeDirectory made

theorem write (grounded : t.Grounded) (written : t.write path bytes = .ok t') : t'.Grounded := by
  obtain ⟨parent, name, located, -, free, rfl⟩ := of_write written
  exact grounded.put (grounded.directory_of_locate located) free

/-! ### Files that are read later -/

/-- **A file that is read later was there before**, if it was not touched in between and its path has
no steps up.  With steps up the path may lead over a directory that was made in between. -/
theorem read_eq_of_later (grounded : t.Grounded) (changes : t.ChangesWithin t' touched)
    (down : ['.', '.'] ∉ path.steps) (outside : path.location t.workingDirectory ∉ touched)
    (later : t'.read path = .ok bytes) : t.read path = .ok bytes := by
  obtain ⟨parent, name, located, short, there⟩ := read_eq_ok_iff.mp later
  have denoted : parent ++ [name] = path.location t.workingDirectory :=
    changes.workingDirectory_eq ▸ location_of_locate located
  rw [← denoted] at outside
  have before : t.at? (parent ++ [name]) = some (.file bytes) :=
    (changes.file _ outside bytes).mp there
  have directory : t.at? parent = some .directory := by
    have ground := grounded (parent ++ [name]) (by rw [before]; simp)
    rwa [List.dropLast_concat] at ground
  refine read_eq_ok_iff.mpr ⟨parent, name, ?_, short, before⟩
  have walked := walk_of_locate located
  unfold locate at located ⊢
  split at located
  · cases located
  next noNul =>
  split at located
  · cases located
  next spelled =>
  split at located
  · cases located
  next fits =>
  rw [if_neg noNul, if_neg spelled, if_neg fits]
  rw [changes.workingDirectory_eq] at walked
  exact walk_of_directories down walked fun above onTheWay =>
    grounded.directory_of_prefix onTheWay directory

end Grounded

end FileTree

end WireHeaders
