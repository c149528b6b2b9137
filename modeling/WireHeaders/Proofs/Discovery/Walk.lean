import Mathlib.Data.List.Induction
import WireHeaders.Proofs.Discovery.Alike

/-!
# Walks

Units are filled step by step: by searches below any declarations with any source tables, whether or
not they fail, and by asking for the unit of a path.

## Main definitions

* `WalkStep` and `WalkStep.apply` — one step, and the units that it leaves
* `Units.after` — the units that a row of steps leaves, the first of them made into no units at all
* `WalkStep.paths` — the paths that a step names, in the order in which it comes to them
* `Units.Extends` — **later units that have all earlier ones**, with their records in front

## Main statements

* `WalkStep.apply_induction` — what an added type and an added unit keep, every step keeps
* `WalkStep.extends_apply` — **a step takes nothing away**
* `Units.spelling?_after` — **a unit is spelled as the first step that names its path spells it**
* `Units.representation_after` — what is true of units after any row of steps

## Design notes

A search that fails leaves what it had found, so a step has units in any case and no row of steps comes
to an early end.
-/

namespace WireHeaders

/-! ## Steps -/

/-- **A step of a walk.** -/
inductive WalkStep where
  /-- Collects the types of one kind below a declaration. -/
  | collect (kind : DeclKind) (root : Declaration) (sources : SourceTable)
  /-- Collects structs, then enums. -/
  | discover (root : Declaration) (sources : SourceTable)
  /-- Asks for the unit of a path. -/
  | entry (path : Path)

namespace WalkStep

/-- **The units that a step leaves**, whether or not it fails. -/
def apply : WalkStep → Units → Units
  | collect kind root sources, units => (root.collect kind sources units).units
  | discover root sources, units => (root.discover sources units).units
  | entry path, units => units.entry path

/-- What a search finds before it comes to an end. -/
def finds : WalkStep → List Find
  | collect kind root sources => TypeDecl.finds sources (root.candidates kind)
  | discover root sources =>
    TypeDecl.finds sources (root.candidates .struct ++ root.candidates .enum)
  | entry _ => []

/-- **The paths that a step names**, in the order in which it comes to them. -/
def paths : WalkStep → List Path
  | entry path => [path]
  | step => step.finds.map Prod.fst

/-- **A step is a search that adds its finds**, or it asks for a unit. -/
theorem apply_eq (step : WalkStep) :
    (∃ path, step = .entry path) ∨
      step.paths = step.finds.map Prod.fst ∧
        (∀ find ∈ step.finds, find.2.metadata.isExported) ∧
        ∀ units, step.apply units = units.addAll step.finds := by
  cases step with
  | entry path => exact Or.inl ⟨path, rfl⟩
  | collect kind root sources =>
      refine Or.inr ⟨rfl, fun find found => (TypeDecl.of_mem_finds found).2.1, fun units => ?_⟩
      rw [apply, Declaration.collect_eq_admitAll]
      exact congrArg Prod.fst (Units.outcome_admitAll sources _ units)
  | discover root sources =>
      refine Or.inr ⟨rfl, fun find found => (TypeDecl.of_mem_finds found).2.1, fun units => ?_⟩
      rw [apply, Declaration.discover_eq_admitAll]
      exact congrArg Prod.fst (Units.outcome_admitAll sources _ units)

/-- **What an added type and an added unit keep, every step keeps.** -/
theorem apply_induction {P : Units → Prop}
    (entry : ∀ units path, P units → P (units.entry path))
    (add : ∀ units path d, P units → P (units.add path d))
    (step : WalkStep) {units : Units} (start : P units) : P (step.apply units) := by
  rcases apply_eq step with ⟨path, rfl⟩ | ⟨-, -, search⟩
  · exact entry units path start
  · rw [search]
    generalize step.finds = finds
    induction finds generalizing units with
    | nil => exact start
    | cons find finds ih => exact ih (add units find.1 find.2 start)

end WalkStep

namespace Units

/-- **The units that a row of steps leaves.** -/
def after (steps : List WalkStep) : Units :=
  steps.foldl (fun units step => step.apply units) .empty

@[simp]
theorem after_concat (steps : List WalkStep) (step : WalkStep) :
    after (steps ++ [step]) = step.apply (after steps) := by
  simp [after]

/-- What holds of no units at all and is kept by every addition holds after any row of steps. -/
theorem after_induction {P : Units → Prop} (start : P .empty)
    (entry : ∀ units path, P units → P (units.entry path))
    (add : ∀ units path d, P units → P (units.add path d)) (steps : List WalkStep) :
    P (after steps) := by
  induction steps using List.reverseRec with
  | nil => exact start
  | append_singleton steps step ih =>
      rw [after_concat]
      exact step.apply_induction entry add ih

end Units

/-! ## Nothing is taken away -/

/-- **A later unit has all records of an earlier one** in front of its own, list by list. -/
def SourceUnit.Extends (u later : SourceUnit) : Prop :=
  ∀ direction, u.structsFor direction <+: later.structsFor direction ∧
    u.enumsFor direction <+: later.enumsFor direction

namespace SourceUnit.Extends

theorem refl (u : SourceUnit) : u.Extends u :=
  fun _ => ⟨List.prefix_rfl, List.prefix_rfl⟩

theorem trans {u v w : SourceUnit} (first : u.Extends v) (second : v.Extends w) : u.Extends w :=
  fun direction => ⟨(first direction).1.trans (second direction).1,
    (first direction).2.trans (second direction).2⟩

theorem add (u : SourceUnit) (serial : Nat) (d : TypeDecl) : u.Extends (u.add serial d) := by
  intro direction
  cases d with
  | struct decl =>
      refine ⟨?_, List.prefix_rfl⟩
      simp only [structsFor, SourceUnit.add, Records.inDirection_add]
      exact List.prefix_append _ _
  | enum decl =>
      refine ⟨List.prefix_rfl, ?_⟩
      simp only [enumsFor, SourceUnit.add, Records.inDirection_add]
      exact List.prefix_append _ _

/-- What an empty unit extends is empty. -/
theorem isEmpty {u later : SourceUnit} (extension : u.Extends later)
    (empty : later.isEmpty = true) : u.isEmpty = true := by
  obtain ⟨noStructs, noEnums⟩ := Bool.and_eq_true_iff.mp empty
  refine Bool.and_eq_true_iff.mpr ⟨?_, ?_⟩
  · refine Records.isEmpty_iff.mpr fun direction => ?_
    have within := (extension direction).1
    rw [structsFor, structsFor, Records.isEmpty_iff.mp noStructs direction] at within
    exact List.prefix_nil.mp within
  · refine Records.isEmpty_iff.mpr fun direction => ?_
    have within := (extension direction).2
    rw [enumsFor, enumsFor, Records.isEmpty_iff.mp noEnums direction] at within
    exact List.prefix_nil.mp within

end SourceUnit.Extends

/-- **Later units have all earlier ones**, each under its spelling. -/
def Units.Extends (units later : Units) : Prop :=
  ∀ entry ∈ units.toList, ∃ u, (entry.1, u) ∈ later.toList ∧ entry.2.Extends u

namespace Units.Extends

variable {units later last : Units}

theorem refl (units : Units) : units.Extends units :=
  fun entry listed => ⟨entry.2, listed, .refl entry.2⟩

theorem trans (first : units.Extends later) (second : later.Extends last) :
    units.Extends last := by
  intro entry listed
  obtain ⟨u, listedLater, extension⟩ := first entry listed
  obtain ⟨v, listedLast, extension'⟩ := second _ listedLater
  exact ⟨v, listedLast, extension.trans extension'⟩

theorem entry (units : Units) (path : Path) : units.Extends (units.entry path) := by
  intro e listed
  refine ⟨_, SortedMap.mem_upsert_of_mem listed path _, ?_⟩
  split
  · exact .refl e.2
  · exact .refl e.2

theorem add (units : Units) (path : Path) (d : TypeDecl) : units.Extends (units.add path d) := by
  intro e listed
  refine ⟨_, SortedMap.mem_upsert_of_mem listed path _, ?_⟩
  split
  · exact .add e.2 units.next d
  · exact .refl e.2

end Units.Extends

/-- **A step takes nothing away.**  Every unit stays under its spelling, and its lists only grow at
their ends. -/
theorem WalkStep.extends_apply (step : WalkStep) (units : Units) :
    units.Extends (step.apply units) :=
  step.apply_induction (P := units.Extends)
    (fun later path grown => grown.trans (.entry later path))
    (fun later path d grown => grown.trans (.add later path d)) (.refl units)

/-! ## Spellings -/

namespace Units

theorem spelling?_entry (units : Units) (path p : Path) :
    (units.entry path).spelling? p =
      if compare p path = .eq then some ((units.spelling? path).getD path)
      else units.spelling? p :=
  SortedMap.key?_upsert ..

end Units

/-- A path without a unit is spelled as the step that names it first spells it. -/
theorem WalkStep.spelling?_apply (step : WalkStep) (units : Units) (p : Path) :
    (step.apply units).spelling? p =
      (units.spelling? p).or (step.paths.find? fun q => compare p q = .eq) := by
  rcases apply_eq step with ⟨path, rfl⟩ | ⟨named, -, search⟩
  · rw [apply, Units.spelling?_entry, paths, List.find?_singleton]
    by_cases equal : compare p path = .eq
    · have same : units.spelling? p = units.spelling? path := SortedMap.key?_congr equal _
      rw [if_pos equal, same]
      cases units.spelling? path <;> simp [equal]
    · simp [equal]
  · rw [search, Units.spelling?_addAll, named, List.find?_map, Units.findsAt, List.head?_filter]
    rfl

namespace Units

/-- **A unit is spelled as the first step that names its path spells it.** -/
theorem spelling?_after (steps : List WalkStep) (p : Path) :
    (after steps).spelling? p =
      (steps.flatMap WalkStep.paths).find? fun q => compare p q = .eq := by
  induction steps using List.reverseRec with
  | nil => rfl
  | append_singleton steps step ih =>
      rw [after_concat, WalkStep.spelling?_apply, ih, List.flatMap_append, List.find?_append,
        List.flatMap_singleton]

/-! ## Empty units -/

/-- A unit that a search makes has a record in it. -/
theorem isEmpty_of_addAll {finds : List Find} {units : Units} {p : Path} {u : SourceUnit}
    (exported : ∀ find ∈ finds, find.2.metadata.isExported) (absent : units.get? p = none)
    (present : (units.addAll finds).get? p = some u) : u.isEmpty = false := by
  have there : ((units.addAll finds).get? p).isSome := by
    rw [present]
    rfl
  rcases (isSome_get?_addAll finds units p).mp there with earlier | ⟨find, found, equal⟩
  · rw [absent] at earlier
    cases earlier
  · -- The find that made the unit is in one of its lists.
    obtain ⟨direction, allowed⟩ := exists_allows_of_isExported (exported find found)
    have member : (find.2, find.2.metadata.convention) ∈
        u.listed find.2.kind direction := by
      rw [← unitAt_of_get? present, listed_unitAt_addAll]
      refine List.mem_append_right _ (List.mem_map_of_mem (List.mem_map_of_mem ?_))
      refine List.mem_filter.mpr ⟨found, ?_⟩
      simp [equal, SourceUnit.takes, allowed]
    exact SourceUnit.isEmpty_eq_false_of_mem_listed member

/-- **An empty unit was asked for** by a step before which there was no unit of its path. -/
theorem exists_entry_of_isEmpty {steps : List WalkStep} {entry : Path × SourceUnit}
    (listed : entry ∈ (after steps).toList) (empty : entry.2.isEmpty = true) :
    ∃ before later, steps = before ++ .entry entry.1 :: later ∧
      (after before).get? entry.1 = none := by
  induction steps using List.reverseRec generalizing entry with
  | nil => cases listed
  | append_singleton steps step ih =>
      rw [after_concat] at listed
      cases earlier : (after steps).get? entry.1 with
      | some u =>
          -- The unit was there before the last step, under the same spelling and as empty as now.
          obtain ⟨q, stored, equal⟩ := SortedMap.get?_eq_some_iff.mp earlier
          obtain ⟨v, storedNow, extension⟩ := step.extends_apply (after steps) (q, u) stored
          obtain rfl : entry = (q, v) := SortedMap.eq_of_mem_of_compare listed storedNow equal
          obtain ⟨before, later, rfl, absent⟩ := ih stored (extension.isEmpty empty)
          exact ⟨before, later ++ [step], by simp, absent⟩
      | none =>
          rcases WalkStep.apply_eq step with ⟨path, rfl⟩ | ⟨-, exported, search⟩
          · -- The last step asked for the unit, so it has the spelling that was asked for.
            have spelled := SortedMap.key?_of_mem listed
            change ((WalkStep.entry path).apply (after steps)).spelling? entry.1 =
              some entry.1 at spelled
            have unnamed : (after steps).spelling? entry.1 = none :=
              SortedMap.key?_eq_none_iff.mpr earlier
            rw [WalkStep.spelling?_apply, unnamed, Option.none_or] at spelled
            have named := List.mem_of_find?_eq_some spelled
            rw [WalkStep.paths, List.mem_singleton] at named
            exact ⟨steps, [], by rw [named], earlier⟩
          · have present := SortedMap.get?_of_mem listed
            rw [search] at present
            rw [isEmpty_of_addAll exported earlier present] at empty
            cases empty

/-! ## After any row of steps -/

/-- **Units after any row of steps.**  They ascend by the components of their paths, and there is one
unit for all spellings of a path, which is found under each of them.  A unit is spelled as the first
step that names its path spells it.  A further step takes no unit away and only appends to lists.  A
unit without records was asked for. -/
theorem representation_after (steps : List WalkStep) :
    ((after steps).toList.Pairwise fun a b => compare a.1.components b.1.components = .lt) ∧
    (∀ a ∈ (after steps).toList, ∀ b ∈ (after steps).toList,
      a.1.components = b.1.components → a = b) ∧
    (∀ p u, (after steps).get? p = some u ↔
      ∃ q, (q, u) ∈ (after steps).toList ∧ p.components = q.components) ∧
    (∀ entry ∈ (after steps).toList, (steps.flatMap WalkStep.paths).find?
      (fun q => entry.1.components = q.components) = some entry.1) ∧
    (∀ step, (after steps).Extends (after (steps ++ [step]))) ∧
    ∀ entry ∈ (after steps).toList, entry.2.isEmpty = true →
      ∃ before later, steps = before ++ .entry entry.1 :: later ∧
        (after before).get? entry.1 = none := by
  refine ⟨(after steps).byPath.ascending, ?_, ?_, ?_, ?_, ?_⟩
  · intro a listed b listed' same
    exact SortedMap.eq_of_mem_of_compare listed listed' (Path.compare_eq_iff.mpr same)
  · intro p u
    simp only [← Path.compare_eq_iff]
    exact SortedMap.get?_eq_some_iff
  · intro entry listed
    simp only [← Path.compare_eq_iff]
    rw [← spelling?_after]
    exact SortedMap.key?_of_mem listed
  · intro step
    rw [after_concat]
    exact step.extends_apply (after steps)
  · intro entry listed empty
    exact exists_entry_of_isEmpty listed empty

end Units

end WireHeaders
