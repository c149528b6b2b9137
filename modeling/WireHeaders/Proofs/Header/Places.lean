import WireHeaders.Proofs.Files.Descent
import WireHeaders.Proofs.Header.Generated

/-!
# Places of headers

A suffix may hold slashes and dots.  What stands before its first slash ends the name that begins with
the base name of a source unit, and what follows is walked from there.

## Main definitions

* `HeaderOptions.nameEnd`, `HeaderOptions.laterSteps` — the two parts of a suffix
* `HeaderOptions.KeepsApart` — **a suffix that keeps headers apart** below a directory

## Main statements

* `HeaderOptions.steps_of_outputPath` — the steps to a header
* `HeaderOptions.KeepsApart.path_eq` — **headers in one file have one path**
* `HeaderOptions.location_eq_of_climbs` — a suffix that climbs puts all headers in one file
-/

namespace WireHeaders

namespace HeaderOptions

variable {options : HeaderOptions} {source source' path path' root : Path}
  {workingDirectory : Location}

/-- **What ends the name** that begins with the base name of a source unit. -/
def nameEnd (options : HeaderOptions) : List Char :=
  (slashSegments options.suffix.toList).headD []

/-- **What is walked behind that name.** -/
def laterSteps (options : HeaderOptions) : List (List Char) :=
  (slashSegments options.suffix.toList).tail.filter fun s => s ≠ []

/-- The path of a header extends the base name of its source unit. -/
theorem outputPath_eq_ok_iff :
    options.outputPath source = .ok path ↔
      ∃ base, source.baseName? = some base ∧ path = ⟨base ++ options.suffix⟩ := by
  unfold outputPath
  cases source.baseName? with
  | none => simp
  | some base => simp [eq_comm]

/-- What stands before the first slash of a suffix extends a name. -/
theorem segments_append {base : String} (isName : Path.IsName ⟨base⟩) :
    (⟨base ++ options.suffix⟩ : Path).segments =
      (base.toList ++ options.nameEnd) :: (slashSegments options.suffix.toList).tail := by
  rw [Path.segments, String.toList_append, slashSegments_append_of_not_mem isName.plain]
  rfl

/-- A path that begins with a name is walked by the extended name first. -/
theorem steps_append {base : String} (isName : Path.IsName ⟨base⟩) :
    (⟨base ++ options.suffix⟩ : Path).steps =
      (base.toList ++ options.nameEnd) :: options.laterSteps := by
  have nonempty : base.toList ++ options.nameEnd ≠ [] :=
    List.append_ne_nil_of_left_ne_nil isName.nonempty _
  rw [Path.steps, segments_append isName]
  exact List.filter_cons_of_pos (decide_eq_true nonempty)

/-- A path that begins with a name is relative. -/
theorem isAbsolute_append {base suffix : String} (isName : Path.IsName ⟨base⟩) :
    (⟨base ++ suffix⟩ : Path).isAbsolute = false := by
  have relative := isName.not_isAbsolute
  have nonempty := isName.nonempty
  unfold Path.isAbsolute at relative ⊢
  rw [String.toList_append, List.head?_append_of_ne_nil _ nonempty]
  exact relative

/-- **The steps to a header**: a name that begins with the base name of its source unit, and the later
steps of the suffix. -/
theorem steps_of_outputPath (placed : options.outputPath source = .ok path) :
    path.isAbsolute = false ∧ ∃ base : String, base.toList ≠ [] ∧ path = ⟨base ++ options.suffix⟩ ∧
      path.steps = (base.toList ++ options.nameEnd) :: options.laterSteps := by
  obtain ⟨base, named, rfl⟩ := outputPath_eq_ok_iff.mp placed
  have isName := Path.baseName?_isName named
  exact ⟨isAbsolute_append isName, base, isName.nonempty, rfl, steps_append isName⟩

/-- A suffix without the component of a step up has no later step up. -/
theorem up_not_mem_laterSteps (noParent : .parent ∉ (⟨options.suffix⟩ : Path).components) :
    ['.', '.'] ∉ options.laterSteps := by
  intro up
  obtain ⟨later, nonempty⟩ := List.mem_filter.mp up
  exact noParent (Path.parent_mem_components_of_steps
    (List.mem_filter.mpr ⟨List.mem_of_mem_tail later, nonempty⟩))

/-- **A header whose name is two dots** has a path that begins with a step up. -/
theorem head?_components_of_outputPath (placed : options.outputPath source = .ok path)
    (up : path.steps.head? = some ['.', '.']) : path.components.head? = some .parent := by
  obtain ⟨base, named, rfl⟩ := outputPath_eq_ok_iff.mp placed
  have isName := Path.baseName?_isName named
  rw [steps_append isName, List.head?_cons, Option.some.injEq] at up
  rw [Path.components, segments_append isName, up]
  rfl

/-! ## Suffixes that keep headers apart -/

/-- **A suffix that keeps headers apart** below a directory.  Its later steps do not lead above the
place where they start, and if they start at the top, no header is named by dots alone. -/
structure KeepsApart (options : HeaderOptions) (directory : Location) : Prop where
  stays : climbs options.laterSteps = false
  named : directory ≠ [] ∨ options.nameEnd ≠ [] ∨ options.laterSteps = []

instance (options : HeaderOptions) (directory : Location) :
    Decidable (options.KeepsApart directory) :=
  decidable_of_iff
    (climbs options.laterSteps = false ∧
      (directory ≠ [] ∨ options.nameEnd ≠ [] ∨ options.laterSteps = []))
    ⟨fun ⟨stays, named⟩ => ⟨stays, named⟩, fun ⟨stays, named⟩ => ⟨stays, named⟩⟩

/-- Two dots are the only name of dots that has an end. -/
theorem eq_of_isDots_append {base ending : List Char} (nonempty : base ≠ []) (ended : ending ≠ [])
    (dots : isDots (base ++ ending) = true) : base ++ ending = ['.', '.'] := by
  rcases isDots_iff.mp dots with here | up
  · have lengths := congrArg List.length here
    have first := List.length_pos_iff.mpr nonempty
    have second := List.length_pos_iff.mpr ended
    rw [List.length_append, List.length_singleton] at lengths
    omega
  · exact up

/-- **Headers in one file have one path**, if the suffix keeps headers apart. -/
theorem KeepsApart.path_eq (apart : options.KeepsApart (root.location workingDirectory))
    (placed : options.outputPath source = .ok path)
    (placed' : options.outputPath source' = .ok path') (names : (root.join path).namesFile = true)
    (same : (root.join path).location workingDirectory =
      (root.join path').location workingDirectory) : path = path' := by
  obtain ⟨relative, base, nonempty, spelled, steps⟩ := steps_of_outputPath placed
  obtain ⟨relative', base', nonempty', spelled', steps'⟩ := steps_of_outputPath placed'
  rw [Path.location_join_of_relative relative, Path.location_join_of_relative relative', steps,
    steps', List.foldl_cons, List.foldl_cons, foldl_descend_of_stays apart.stays,
    foldl_descend_of_stays apart.stays (descend _ (base'.toList ++ _))] at same
  have one : base.toList ++ options.nameEnd = base'.toList ++ options.nameEnd := by
    have first := List.append_cancel_right same
    rcases eq_of_descend_eq first with one | ⟨top, dots⟩
    · exact one
    rcases eq_of_descend_eq first.symm with one | ⟨-, dots'⟩
    · exact one.symm
    -- Both names are dots at the top, which only an end of the name can tell to be the same.
    rcases apart.named with below | ending | none
    · exact absurd top below
    · rw [eq_of_isDots_append nonempty ending dots, eq_of_isDots_append nonempty' ending dots']
    · rw [Path.namesFile_join relative (by simp [steps]), Path.namesFile, steps, none] at names
      simp [dots] at names
  rw [spelled, spelled', String.toList_inj.mp (List.append_cancel_right one)]

example : (⟨"/gen/../All.h", "", ""⟩ : HeaderOptions).KeepsApart ["out"] := by decide

/-- **A suffix that climbs puts headers in one file**, unless they are named by dots alone. -/
theorem location_eq_of_climbs (climbing : climbs options.laterSteps = true)
    (placed : options.outputPath source = .ok path)
    (placed' : options.outputPath source' = .ok path')
    (named : path.steps.head?.any isDots = false) (named' : path'.steps.head?.any isDots = false) :
    (root.join path).location workingDirectory = (root.join path').location workingDirectory := by
  obtain ⟨relative, base, -, -, steps⟩ := steps_of_outputPath placed
  obtain ⟨relative', base', -, -, steps'⟩ := steps_of_outputPath placed'
  rw [steps] at named
  rw [steps'] at named'
  rw [Path.location_join_of_relative relative, Path.location_join_of_relative relative', steps,
    steps', List.foldl_cons, List.foldl_cons, descend_of_name named, descend_of_name named']
  exact foldl_descend_of_climbs climbing _ _ _

example : climbs (⟨"/../All.h", "", ""⟩ : HeaderOptions).laterSteps = true := by decide

end HeaderOptions

end WireHeaders
