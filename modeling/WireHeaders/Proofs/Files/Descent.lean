import Mathlib.Data.List.Basic
import Mathlib.Data.List.Induction
import WireHeaders.Proofs.Files.Location

/-!
# Segments that lead up

Two dots lead up.  As long as a row of segments stays below the place where it starts, it leads to the
same place below every start.  Once it leads above that place, it has forgotten by which name it
started.

## Main definitions

* `isDots` — segments of dots, all others being names
* `climbsFrom`, `climbs` — **whether segments lead above the place where they start**
* `Path.namesFile` — whether a path ends in a name

## Main statements

* `foldl_descend_of_stays` — **segments that stay below their start lead to the same place below every
  start**
* `foldl_descend_of_climbs` — segments that climb forget the name below which they start
* `foldl_descend_of_down` — segments without steps up are names below their start
* `eq_of_descend_eq` — different segments lead to different places, but for dots at the top
* `FileTree.namesFile_of_locate` — a path that leads to a name ends in one
-/

namespace WireHeaders

variable {segments : List (List Char)}

/-! ## Single segments -/

/-- Whether a segment leads to a directory whatever is there. -/
def isDots (segment : List Char) : Bool := segment = ['.'] || segment = ['.', '.']

theorem isDots_iff {segment : List Char} :
    isDots segment = true ↔ segment = ['.'] ∨ segment = ['.', '.'] := by
  simp [isDots]

/-- There are two kinds of dots, and names. -/
theorem eq_dots_or_name (segment : List Char) :
    segment = ['.'] ∨ segment = ['.', '.'] ∨ isDots segment = false := by
  cases dots : isDots segment with
  | false => exact Or.inr (Or.inr rfl)
  | true => exact (isDots_iff.mp dots).imp_right Or.inl

@[simp]
theorem descend_up (location : Location) : descend location ['.', '.'] = location.dropLast := rfl

/-- A name leads down. -/
theorem descend_of_name {segment : List Char} (name : isDots segment = false)
    (location : Location) : descend location segment = location ++ [String.ofList segment] := by
  obtain ⟨here, up⟩ := not_or.mp fun dots => Bool.eq_false_iff.mp name (isDots_iff.mpr dots)
  rw [descend, if_neg here, if_neg up]

/-- Dots do not lead down. -/
theorem length_descend_le {segment : List Char} (dots : isDots segment = true)
    (location : Location) : (descend location segment).length ≤ location.length := by
  rcases isDots_iff.mp dots with rfl | rfl
  · exact Nat.le_refl _
  · rw [descend_up, List.length_dropLast]
    exact Nat.sub_le _ 1

/-- **Different segments lead to different places**, but at the top both kinds of dots stay there. -/
theorem eq_of_descend_eq {location : Location} {s s' : List Char}
    (same : descend location s = descend location s') :
    s = s' ∨ location = [] ∧ isDots s = true := by
  cases dots : isDots s with
  | false =>
      rw [descend_of_name dots] at same
      cases dots' : isDots s' with
      | false =>
          rw [descend_of_name dots', List.append_cancel_left_eq, List.singleton_inj] at same
          exact Or.inl (String.ofList_injective same)
      | true =>
          have up := length_descend_le dots' location
          rw [← same, List.length_append, List.length_singleton] at up
          omega
  | true =>
      cases dots' : isDots s' with
      | false =>
          have up := length_descend_le dots location
          rw [same, descend_of_name dots', List.length_append, List.length_singleton] at up
          omega
      | true =>
          by_cases top : location = []
          · exact Or.inr ⟨top, rfl⟩
          -- Below the top the two kinds of dots lead to different places.
          have shorter : location.dropLast ≠ location := by
            intro equal
            have lengths := congrArg List.length equal
            have positive := List.length_pos_iff.mpr top
            rw [List.length_dropLast] at lengths
            omega
          rcases isDots_iff.mp dots with rfl | rfl <;> rcases isDots_iff.mp dots' with rfl | rfl
          · exact Or.inl rfl
          · exact absurd same.symm shorter
          · exact absurd same shorter
          · exact Or.inl rfl

/-! ## Segments that climb -/

/-- **Whether segments lead above the place** that lies `depth` names above their start. -/
def climbsFrom : Nat → List (List Char) → Bool
  | _, [] => false
  | depth, segment :: rest =>
    if segment = ['.'] then climbsFrom depth rest
    else if segment = ['.', '.'] then depth = 0 || climbsFrom (depth - 1) rest
    else climbsFrom (depth + 1) rest

/-- **Whether segments lead above the place where they start.** -/
def climbs (segments : List (List Char)) : Bool := climbsFrom 0 segments

theorem climbsFrom_here (depth : Nat) (rest : List (List Char)) :
    climbsFrom depth (['.'] :: rest) = climbsFrom depth rest := rfl

theorem climbsFrom_up (depth : Nat) (rest : List (List Char)) :
    climbsFrom depth (['.', '.'] :: rest) = (depth = 0 || climbsFrom (depth - 1) rest) := rfl

theorem climbsFrom_name {segment : List Char} (name : isDots segment = false) (depth : Nat)
    (rest : List (List Char)) :
    climbsFrom depth (segment :: rest) = climbsFrom (depth + 1) rest := by
  obtain ⟨here, up⟩ := not_or.mp fun dots => Bool.eq_false_iff.mp name (isDots_iff.mpr dots)
  rw [climbsFrom, if_neg here, if_neg up]

/-- Segments act on the names below a place as long as they do not lead above it. -/
theorem foldl_descend_append (base names : Location)
    (stays : climbsFrom names.length segments = false) :
    segments.foldl descend (base ++ names) = base ++ segments.foldl descend names := by
  induction segments generalizing names with
  | nil => rfl
  | cons segment rest ih =>
      rw [List.foldl_cons, List.foldl_cons]
      rcases eq_dots_or_name segment with rfl | rfl | name
      · rw [climbsFrom_here] at stays
        exact ih names stays
      · rw [climbsFrom_up, Bool.or_eq_false_iff] at stays
        have nonempty : names ≠ [] := fun isTop =>
          of_decide_eq_false stays.1 (congrArg List.length isTop)
        rw [descend_up, descend_up, List.dropLast_append_of_ne_nil nonempty]
        refine ih names.dropLast ?_
        rw [List.length_dropLast]
        exact stays.2
      · rw [climbsFrom_name name] at stays
        rw [descend_of_name name, descend_of_name name, List.append_assoc]
        refine ih (names ++ [String.ofList segment]) ?_
        rw [List.length_append]
        exact stays

/-- **Segments that stay below their start** lead to the same place below every start. -/
theorem foldl_descend_of_stays (stays : climbs segments = false) (base : Location) :
    segments.foldl descend base = base ++ segments.foldl descend [] := by
  have below := foldl_descend_append base [] stays
  rwa [List.append_nil] at below

/-- Segments that lead above a place forget its name. -/
theorem foldl_descend_cons_of_climbs (base names : Location)
    (climbing : climbsFrom names.length segments = true) (name name' : String) :
    segments.foldl descend (base ++ name :: names) =
      segments.foldl descend (base ++ name' :: names) := by
  induction segments generalizing names with
  | nil => cases climbing
  | cons segment rest ih =>
      rw [List.foldl_cons, List.foldl_cons]
      rcases eq_dots_or_name segment with rfl | rfl | down
      · rw [climbsFrom_here] at climbing
        exact ih names climbing
      · rw [climbsFrom_up] at climbing
        rw [descend_up, descend_up, List.dropLast_append_cons, List.dropLast_append_cons]
        -- The step up takes the name away, unless there is another one below it.
        by_cases isTop : names = []
        · rw [isTop]
          rfl
        · rw [List.dropLast_cons_of_ne_nil isTop, List.dropLast_cons_of_ne_nil isTop]
          refine ih names.dropLast ?_
          rw [List.length_dropLast]
          simpa [isTop] using climbing
      · rw [climbsFrom_name down] at climbing
        rw [descend_of_name down, descend_of_name down, List.append_assoc, List.append_assoc]
        refine ih (names ++ [String.ofList segment]) ?_
        rw [List.length_append]
        exact climbing

/-- **Segments that climb forget the name** below which they start. -/
theorem foldl_descend_of_climbs (climbing : climbs segments = true) (base : Location)
    (name name' : String) :
    segments.foldl descend (base ++ [name]) = segments.foldl descend (base ++ [name']) :=
  foldl_descend_cons_of_climbs base [] climbing name name'

/-- **Segments without steps up** are names below their start, apart from dots. -/
theorem foldl_descend_of_down (down : ['.', '.'] ∉ segments) (base : Location) :
    segments.foldl descend base =
      base ++ (segments.filter fun s => s ≠ ['.']).map String.ofList := by
  induction segments generalizing base with
  | nil => exact (List.append_nil base).symm
  | cons segment rest ih =>
      have downHere : segment ≠ ['.', '.'] := (List.ne_of_not_mem_cons down).symm
      rw [List.foldl_cons, ih (List.not_mem_of_not_mem_cons down), descend]
      by_cases here : segment = ['.']
      · simp [here]
      · simp [here, downHere]

/-! ## Paths that end in names -/

namespace Path

/-- **Whether a path ends in a name.** -/
def namesFile (p : Path) : Bool := p.steps.getLast?.any fun s => !isDots s

/-- What stands below a path decides whether the whole ends in a name. -/
theorem namesFile_join {p q : Path} (relative : q.isAbsolute = false) (nonempty : q.steps ≠ []) :
    (p.join q).namesFile = q.namesFile := by
  rw [namesFile, namesFile, steps_join_of_relative relative,
    List.getLast?_append_of_ne_nil p.steps nonempty]

/-- **A path without steps up that ends in a name lies below** the path that it is joined to. -/
theorem exists_location_join {p q : Path} (relative : q.isAbsolute = false)
    (down : ['.', '.'] ∉ q.steps) (names : q.namesFile = true) (workingDirectory : Location) :
    ∃ below, below ≠ [] ∧
      (p.join q).location workingDirectory = p.location workingDirectory ++ below := by
  rw [location_join_of_relative relative, foldl_descend_of_down down]
  refine ⟨_, ?_, rfl⟩
  -- The last step is a name, so it is kept.
  obtain ⟨last, found, named⟩ := (Option.any_eq_true _ _).mp names
  have kept : last ∈ q.steps.filter fun s => s ≠ ['.'] := by
    refine List.mem_filter.mpr ⟨List.mem_of_getLast? found, decide_eq_true ?_⟩
    rintro rfl
    cases named
  exact List.ne_nil_of_mem (List.mem_map_of_mem kept)

end Path

/-- **A path that leads to a name ends in one.** -/
theorem FileTree.namesFile_of_locate {t : FileTree} {path : Path} {parent : Location}
    {name : String} {slash : Bool} (located : t.locate path = .ok (.entry parent name slash)) :
    path.namesFile = true := by
  have walked := walk_of_locate located
  rw [Path.namesFile]
  cases steps : path.steps using List.reverseRec with
  | nil =>
      rw [steps] at walked
      cases walked
  | append_singleton before last =>
      rw [steps] at walked
      obtain ⟨here, up⟩ := not_dots_of_walk walked
      simp [isDots, here, up]

end WireHeaders
