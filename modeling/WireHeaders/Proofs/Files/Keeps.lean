import WireHeaders.Proofs.Files.Location

/-!
# What operations on files leave alone

Making directories and writing files never takes a directory away, and a file changes only if it is
written itself.  So whatever a path led to before, it leads to afterwards.

## Main definitions

* `FileTree.Keeps` — **a later tree has all directories of an earlier one, and all its files except
  at some locations**

## Main statements

* `FileTree.Keeps.locate_eq` — **a path that could be walked leads to the same target later**
* `FileTree.Keeps.read_eq` — a file that was not touched is read as before
* `FileTree.keeps_makeDirectory`, `FileTree.keeps_write` — single operations
* `FileTree.read_write` — a file that was written is read back
-/

namespace WireHeaders

namespace FileTree

variable {t t' t'' : FileTree} {touched : List Location} {path : Path} {bytes : Bytes}

/-- **A later tree has all directories of an earlier one, and all its files except at some
locations.** -/
structure Keeps (t t' : FileTree) (touched : List Location) : Prop where
  workingDirectory_eq : t'.workingDirectory = t.workingDirectory
  directory : ∀ location, t.at? location = some .directory → t'.at? location = some .directory
  file : ∀ location, location ∉ touched → ∀ bytes,
    t.at? location = some (.file bytes) → t'.at? location = some (.file bytes)

namespace Keeps

theorem refl (t : FileTree) (touched : List Location) : t.Keeps t touched :=
  ⟨rfl, fun _ => id, fun _ _ _ => id⟩

theorem mono {more : List Location} (keeps : t.Keeps t' touched) (within : touched ⊆ more) :
    t.Keeps t' more :=
  ⟨keeps.workingDirectory_eq, keeps.directory,
    fun location outside => keeps.file location fun inside => outside (within inside)⟩

/-- One change after another touches what either of them touches. -/
theorem trans (first : t.Keeps t' touched) (second : t'.Keeps t'' touched) :
    t.Keeps t'' touched := by
  refine ⟨second.workingDirectory_eq.trans first.workingDirectory_eq, ?_, ?_⟩
  · intro location present
    exact second.directory location (first.directory location present)
  · intro location outside bytes present
    exact second.file location outside bytes (first.file location outside bytes present)

/-! ## Paths and files afterwards -/

theorem step_eq (keeps : t.Keeps t' touched) {location next : Location} {segment : List Char}
    (stepped : t.step location segment = .ok next) : t'.step location segment = .ok next := by
  unfold step at stepped ⊢
  split
  · next here =>
    rw [if_pos here] at stepped
    exact stepped
  · next other =>
    rw [if_neg other] at stepped
    split
    · next up =>
      rw [if_pos up] at stepped
      exact stepped
    · next down =>
      rw [if_neg down] at stepped
      dsimp only at stepped ⊢
      split
      · next long =>
        rw [if_pos long] at stepped
        exact stepped
      · next short =>
        rw [if_neg short] at stepped
        split at stepped
        · cases stepped
        · cases stepped
        · next present =>
          rw [keeps.directory _ present]
          exact stepped

theorem lastStep_eq (keeps : t.Keeps t' touched) {slash : Bool} {location : Location}
    {segment : List Char} {target : Target}
    (stepped : t.lastStep slash location segment = .ok target) :
    t'.lastStep slash location segment = .ok target := by
  unfold lastStep at stepped ⊢
  split
  · next dots =>
    rw [if_pos dots] at stepped
    obtain ⟨there, next, rfl⟩ := exists_ok_of_map stepped
    rw [keeps.step_eq next]
    rfl
  · next name =>
    rw [if_neg name] at stepped
    exact stepped

theorem walk_eq (keeps : t.Keeps t' touched) {slash : Bool} {segments : List (List Char)}
    {location : Location} {target : Target}
    (walked : t.walk slash location segments = .ok target) :
    t'.walk slash location segments = .ok target := by
  induction segments generalizing location with
  | nil => exact walked
  | cons segment rest ih =>
      cases rest with
      | nil => exact keeps.lastStep_eq walked
      | cons another rest =>
          rw [walk] at walked ⊢
          · obtain ⟨next, stepped, walked⟩ := exists_ok_of_bind walked
            rw [keeps.step_eq stepped]
            exact ih walked
          · simp
          · simp

/-- **A path that could be walked leads to the same target later.** -/
theorem locate_eq (keeps : t.Keeps t' touched) {target : Target}
    (located : t.locate path = .ok target) : t'.locate path = .ok target := by
  unfold locate at located ⊢
  split at located
  · cases located
  next noNul =>
  split at located
  · cases located
  next spelled =>
  split at located
  · cases located
  next short =>
  rw [if_neg noNul, if_neg spelled, if_neg short, keeps.workingDirectory_eq]
  exact keeps.walk_eq located

end Keeps

/-- A name of a directory is looked up if it is not too long. -/
theorem find_eq_ok_iff {parent : Location} {name : String} {found : Option FileEntry} :
    t.find parent name = .ok found ↔
      ¬maxNameLength < name.utf8ByteSize ∧ t.at? (parent ++ [name]) = found := by
  unfold find
  split
  · next long =>
    constructor
    · intro failed
      cases failed
    · intro short
      exact absurd long short.1
  · next short =>
    constructor
    · intro looked
      exact ⟨short, Except.ok.inj looked⟩
    · rintro ⟨-, rfl⟩
      rfl

/-- **A path that is read leads to a file.** -/
theorem read_eq_ok_iff : t.read path = .ok bytes ↔ ∃ parent name,
    t.locate path = .ok (.entry parent name false) ∧ ¬maxNameLength < name.utf8ByteSize ∧
      t.at? (parent ++ [name]) = some (.file bytes) := by
  constructor
  · intro present
    obtain ⟨target, located, looked⟩ := exists_ok_of_bind present
    cases target with
    | directory location => cases looked
    | entry parent name slash =>
        obtain ⟨found, there, content⟩ := exists_ok_of_bind looked
        obtain ⟨short, there⟩ := find_eq_ok_iff.mp there
        cases found with
        | none => cases content
        | some entry =>
            cases entry with
            | directory => cases content
            | file stored =>
                cases slash with
                | true => cases content
                | false =>
                    cases content
                    exact ⟨parent, name, located, short, there⟩
  · rintro ⟨parent, name, located, short, there⟩
    have looked : t.find parent name = .ok (some (.file bytes)) :=
      find_eq_ok_iff.mpr ⟨short, there⟩
    unfold read
    rw [located]
    show (t.find parent name >>= _) = _
    rw [looked]
    rfl

/-- **A file that was not touched is read as before.** -/
theorem Keeps.read_eq (keeps : t.Keeps t' touched)
    (outside : path.location t.workingDirectory ∉ touched) (present : t.read path = .ok bytes) :
    t'.read path = .ok bytes := by
  obtain ⟨parent, name, located, short, there⟩ := read_eq_ok_iff.mp present
  have denoted : parent ++ [name] = path.location t.workingDirectory :=
    location_of_locate located
  rw [← denoted] at outside
  exact read_eq_ok_iff.mpr
    ⟨parent, name, keeps.locate_eq located, short, keeps.file _ outside bytes there⟩

/-! ## Single operations -/

/-- **An entry is found where it was put**, and nothing else changes. -/
theorem at?_put {location : Location} {entry : FileEntry}
    (free : t.at? location ≠ some .directory) (other : Location) :
    (t.put location entry).at? other = if other = location then some entry else t.at? other := by
  -- What lies on the way to the working directory is a directory whatever is put there.
  have outside : ¬location.isPrefixOf t.workingDirectory = true := by
    intro above
    exact free (if_pos above)
  unfold at? put
  by_cases same : other = location
  · rw [if_pos same, same, if_neg outside, SortedMap.get?_insert, if_pos Std.ReflOrd.compare_self]
  · have apart : compare other location ≠ .eq := fun equal =>
      same (Std.LawfulEqOrd.eq_of_compare equal)
    rw [if_neg same, SortedMap.get?_insert, if_neg apart]

theorem keeps_put {location : Location} {entry : FileEntry}
    (free : t.at? location ≠ some .directory) : t.Keeps (t.put location entry) [location] := by
  refine ⟨rfl, ?_, ?_⟩
  · intro other present
    have apart : other ≠ location := by
      rintro rfl
      exact free present
    rw [at?_put free, if_neg apart]
    exact present
  · intro other outside bytes present
    have apart : other ≠ location := fun same => outside (List.mem_singleton.mpr same)
    rw [at?_put free, if_neg apart]
    exact present

/-- **A directory is made at the location of its path**, where there was nothing. -/
theorem eq_put_of_makeDirectory (made : t.makeDirectory path = .ok t') :
    t.at? (path.location t.workingDirectory) = none ∧
      t' = t.put (path.location t.workingDirectory) .directory := by
  obtain ⟨target, located, looked⟩ := exists_ok_of_bind made
  cases target with
  | directory location => cases looked
  | entry parent name slash =>
      have denoted : parent ++ [name] = path.location t.workingDirectory :=
        location_of_locate located
      obtain ⟨found, there, made⟩ := exists_ok_of_bind looked
      rw [← denoted]
      cases found with
      | some entry => cases made
      | none => exact ⟨(find_eq_ok_iff.mp there).2, (Except.ok.inj made).symm⟩

/-- **A directory is made where there was nothing.** -/
theorem of_makeDirectory (made : t.makeDirectory path = .ok t') : ∃ location,
    t.at? location = none ∧ t' = t.put location .directory :=
  ⟨_, eq_put_of_makeDirectory made⟩

/-- **A file is written where there was no directory.** -/
theorem of_write (written : t.write path bytes = .ok t') : ∃ parent name,
    t.locate path = .ok (.entry parent name false) ∧ ¬maxNameLength < name.utf8ByteSize ∧
      t.at? (parent ++ [name]) ≠ some .directory ∧
      t' = t.put (parent ++ [name]) (.file bytes) := by
  obtain ⟨target, located, looked⟩ := exists_ok_of_bind written
  cases target with
  | directory location => cases looked
  | entry parent name slash =>
      cases slash with
      | true => cases looked
      | false =>
          obtain ⟨found, there, written⟩ := exists_ok_of_bind looked
          obtain ⟨short, there⟩ := find_eq_ok_iff.mp there
          refine ⟨parent, name, located, short, ?_, ?_⟩
          · intro directory
            rw [← there, directory] at written
            cases written
          · split at written
            · cases written
            · exact (Except.ok.inj written).symm

/-- **Making a directory touches no file.** -/
theorem keeps_makeDirectory (made : t.makeDirectory path = .ok t') : t.Keeps t' [] := by
  obtain ⟨location, free, rfl⟩ := of_makeDirectory made
  have notDirectory : t.at? location ≠ some .directory := by
    rw [free]
    simp
  have keeps : t.Keeps (t.put location .directory) [location] := keeps_put notDirectory
  refine ⟨rfl, keeps.directory, ?_⟩
  intro other _ bytes present
  -- There was nothing at the new directory, so it hides no file.
  have apart : other ≠ location := by
    rintro rfl
    rw [free] at present
    cases present
  rw [at?_put notDirectory, if_neg apart]
  exact present

/-- **Writing a file touches that file only.** -/
theorem keeps_write (written : t.write path bytes = .ok t') :
    t.Keeps t' [path.location t.workingDirectory] := by
  obtain ⟨parent, name, located, short, free, rfl⟩ := of_write written
  have denoted : parent ++ [name] = path.location t.workingDirectory :=
    location_of_locate located
  rw [← denoted]
  exact keeps_put free

/-- **A file that was written is read back.** -/
theorem read_write (written : t.write path bytes = .ok t') : t'.read path = .ok bytes := by
  have keeps := keeps_write written
  obtain ⟨parent, name, located, short, free, rfl⟩ := of_write written
  refine read_eq_ok_iff.mpr ⟨parent, name, keeps.locate_eq located, short, ?_⟩
  rw [at?_put free, if_pos rfl]

end FileTree

end WireHeaders
