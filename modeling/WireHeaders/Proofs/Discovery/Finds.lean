import WireHeaders.Proofs.Data.Lookup
import WireHeaders.Proofs.Discovery.Candidates

/-!
# Finds of a search

What a list of declarations leaves in the units, without the units on the way.

## Main definitions

* `Find` — a type that was found, with the path of its source unit
* `TypeDecl.finds`, `TypeDecl.firstUnresolved?` — the finds among declarations, and the one at which
  a search fails
* `Units.addAll`, `Units.unitAt` — finds added in order, and the unit of a path
* `SourceUnit.listed` — one of the four lists of a unit, without serial numbers

## Main statements

* `Units.outcome_admitAll` — **a search adds its finds and fails at the first unresolved one**
* `Units.listed_unitAt_addAll` — **each list grows by the finds that belong to it**, in order
-/

namespace WireHeaders

/-- A type that was found, with the path of its source unit. -/
abbrev Find := Path × TypeDecl

namespace TypeDecl

variable (sources : SourceTable)

/-- **The finds among declarations**: those that ask to be exported, up to the first one whose source
unit is unknown. -/
def finds : List TypeDecl → List Find
  | [] => []
  | d :: ds =>
    if d.metadata.isExported then
      match sources.get? d.source with
      | none => []
      | some path => (path, d) :: finds ds
    else finds ds

/-- Whether a declaration asks to be exported without a known source unit. -/
def isUnresolved (d : TypeDecl) : Bool :=
  d.metadata.isExported && (sources.get? d.source).isNone

/-- **The declaration at which a search fails**, if there is one. -/
def firstUnresolved? (ds : List TypeDecl) : Option TypeDecl := ds.find? (isUnresolved sources)

/-- The failure at a declaration. -/
def unresolvedError (d : TypeDecl) : GenerationError := .unresolvedSource d.source d.name

/-- Whether a declaration belongs to the source unit of a path. -/
def belongsTo (path : Path) (d : TypeDecl) : Bool :=
  (sources.get? d.source).any fun q => compare path q = .eq

variable {sources}

theorem firstUnresolved?_eq_none_iff {ds : List TypeDecl} :
    firstUnresolved? sources ds = none ↔
      ∀ d ∈ ds, d.metadata.isExported → (sources.get? d.source).isSome := by
  simp [firstUnresolved?, isUnresolved, List.find?_eq_none, Option.isSome_iff_ne_none]

/-- What is resolved in a row is resolved in the rest of it. -/
theorem firstUnresolved?_tail {d : TypeDecl} {ds : List TypeDecl}
    (resolved : firstUnresolved? sources (d :: ds) = none) : firstUnresolved? sources ds = none := by
  rw [firstUnresolved?_eq_none_iff] at resolved ⊢
  intro e met
  exact resolved e (List.mem_cons_of_mem _ met)

/-- A find is exported, and its path is that of its source unit. -/
theorem of_mem_finds {ds : List TypeDecl} {find : Find} (found : find ∈ finds sources ds) :
    find.2 ∈ ds ∧ find.2.metadata.isExported ∧ sources.get? find.2.source = some find.1 := by
  induction ds with
  | nil => cases found
  | cons d ds ih =>
      rw [finds] at found
      split at found
      · next exported =>
        split at found
        · cases found
        · next path resolved =>
          rcases List.mem_cons.mp found with rfl | later
          · exact ⟨List.mem_cons_self, exported, resolved⟩
          · exact ⟨List.mem_cons_of_mem _ (ih later).1, (ih later).2⟩
      · exact ⟨List.mem_cons_of_mem _ (ih found).1, (ih found).2⟩

/-- If all source units are known, each exported declaration is found. -/
theorem mem_finds {ds : List TypeDecl} (resolved : firstUnresolved? sources ds = none)
    {d : TypeDecl} (met : d ∈ ds) (exported : d.metadata.isExported) :
    ∃ path, (path, d) ∈ finds sources ds := by
  induction ds with
  | nil => cases met
  | cons e ds ih =>
      have rest := firstUnresolved?_tail resolved
      rw [finds]
      split
      · next exportedHead =>
        have known := firstUnresolved?_eq_none_iff.mp resolved e List.mem_cons_self exportedHead
        obtain ⟨path, found⟩ := Option.isSome_iff_exists.mp known
        simp only [found]
        rcases List.mem_cons.mp met with rfl | later
        · exact ⟨path, List.mem_cons_self⟩
        · obtain ⟨q, later⟩ := ih rest later
          exact ⟨q, List.mem_cons_of_mem _ later⟩
      · next skipped =>
        rcases List.mem_cons.mp met with rfl | later
        · exact absurd exported skipped
        · exact ih rest later

/-- The finds among two rows of declarations. -/
theorem finds_append {ds : List TypeDecl} (resolved : firstUnresolved? sources ds = none)
    (es : List TypeDecl) : finds sources (ds ++ es) = finds sources ds ++ finds sources es := by
  induction ds with
  | nil => rfl
  | cons d ds ih =>
      have rest := ih (firstUnresolved?_tail resolved)
      rw [List.cons_append, finds, finds, rest]
      split
      · next exported =>
        have known := firstUnresolved?_eq_none_iff.mp resolved d List.mem_cons_self exported
        obtain ⟨path, found⟩ := Option.isSome_iff_exists.mp known
        rw [found, List.cons_append]
      · rfl

/-- If all source units are known, the finds of a path are the exported declarations that belong to
it. -/
theorem finds_filter_map {ds : List TypeDecl} (resolved : firstUnresolved? sources ds = none)
    (path : Path) (wanted : TypeDecl → Bool) :
    ((finds sources ds).filter fun find => compare path find.1 = .eq && wanted find.2).map
        Prod.snd =
      (ds.filter fun d => d.metadata.isExported).filter fun d =>
        belongsTo sources path d && wanted d := by
  induction ds with
  | nil => rfl
  | cons d ds ih =>
      have rest := firstUnresolved?_tail resolved
      rw [finds]
      split
      · next exported =>
        have known := firstUnresolved?_eq_none_iff.mp resolved d List.mem_cons_self exported
        obtain ⟨q, found⟩ := Option.isSome_iff_exists.mp known
        have belongs : belongsTo sources path d = decide (compare path q = .eq) := by
          simp [belongsTo, found]
        simp only [found, List.filter_cons, exported, if_true, belongs]
        split
        · rw [List.map_cons, ih rest]
        · exact ih rest
      · next skipped =>
        rw [List.filter_cons_of_neg (by simpa using skipped)]
        exact ih rest

end TypeDecl

/-! ## Finds added to units -/

namespace SourceUnit

/-- **One of the four lists of a unit**: the types of a kind that are exported in a direction, each
with its convention. -/
def listed (u : SourceUnit) (kind : DeclKind) (direction : Direction) :
    List (TypeDecl × Option Convention) :=
  match kind with
  | .struct => (u.structsFor direction).map fun r => (.struct r.decl, r.convention)
  | .enum => (u.enumsFor direction).map fun r => (.enum r.decl, r.convention)

@[simp]
theorem listed_empty (kind : DeclKind) (direction : Direction) :
    empty.listed kind direction = [] := by
  cases kind <;> simp [listed, structsFor, enumsFor, empty]

/-- Whether a type goes to the list of a kind and a direction. -/
def takes (kind : DeclKind) (direction : Direction) (d : TypeDecl) : Bool :=
  d.kind = kind && d.metadata.allows direction

/-- **A type goes to the end of the lists that take it**, and no other list changes. -/
theorem listed_add (u : SourceUnit) (serial : Nat) (d : TypeDecl) (kind : DeclKind)
    (direction : Direction) :
    (u.add serial d).listed kind direction =
      u.listed kind direction ++
        if takes kind direction d then [(d, d.metadata.convention)] else [] := by
  cases d with
  | struct decl =>
      cases kind with
      | enum => simp [listed, add, takes, TypeDecl.kind, enumsFor]
      | struct =>
          by_cases allowed : decl.metadata.allows direction <;>
            simp [listed, add, takes, TypeDecl.kind, TypeDecl.metadata, structsFor,
              Records.inDirection_add, allowed]
  | enum decl =>
      cases kind with
      | struct => simp [listed, add, takes, TypeDecl.kind, structsFor]
      | enum =>
          by_cases allowed : decl.metadata.allows direction <;>
            simp [listed, add, takes, TypeDecl.kind, TypeDecl.metadata, enumsFor,
              Records.inDirection_add, allowed]

/-- A unit with a type in one of its lists is not empty. -/
theorem isEmpty_eq_false_of_mem_listed {u : SourceUnit} {kind : DeclKind} {direction : Direction}
    {entry : TypeDecl × Option Convention} (listed : entry ∈ u.listed kind direction) :
    u.isEmpty = false := by
  refine Bool.eq_false_iff.mpr ?_
  intro none
  obtain ⟨noStructs, noEnums⟩ := Bool.and_eq_true_iff.mp none
  cases kind with
  | struct =>
      have absent : u.structsFor direction = [] := Records.isEmpty_iff.mp noStructs direction
      simp [SourceUnit.listed, absent] at listed
  | enum =>
      have absent : u.enumsFor direction = [] := Records.isEmpty_iff.mp noEnums direction
      simp [SourceUnit.listed, absent] at listed

end SourceUnit

namespace Units

/-- **Finds added one after the other.** -/
def addAll (units : Units) (finds : List Find) : Units :=
  finds.foldl (fun units find => units.add find.1 find.2) units

/-- The unit of a path; one that is not there is empty. -/
def unitAt (units : Units) (path : Path) : SourceUnit := (units.get? path).getD .empty

@[simp]
theorem addAll_nil (units : Units) : units.addAll [] = units := rfl

@[simp]
theorem addAll_cons (units : Units) (find : Find) (finds : List Find) :
    units.addAll (find :: finds) = (units.add find.1 find.2).addAll finds := rfl

/-- **A search adds its finds and fails at the first unresolved declaration.** -/
theorem outcome_admitAll (sources : SourceTable) (ds : List TypeDecl) (units : Units) :
    (admitAll sources ds units).outcome =
      (units.addAll (TypeDecl.finds sources ds),
        (TypeDecl.firstUnresolved? sources ds).map TypeDecl.unresolvedError) := by
  induction ds generalizing units with
  | nil => rfl
  | cons d ds ih =>
      rw [admitAll, Units.admit, TypeDecl.finds, TypeDecl.firstUnresolved?, List.find?_cons]
      by_cases exported : d.metadata.isExported
      · cases found : sources.get? d.source with
        | none =>
            have unresolved : d.isUnresolved sources := by
              simp [TypeDecl.isUnresolved, exported, found]
            simp [exported, unresolved, Discovery.andThen, Discovery.outcome,
              TypeDecl.unresolvedError]
        | some path =>
            -- The search goes on with the unit that the declaration was added to.
            have resolved : d.isUnresolved sources = false := by
              simp [TypeDecl.isUnresolved, found]
            simp only [exported, if_true, resolved, addAll_cons]
            exact ih (units.add path d)
      · have resolved : d.isUnresolved sources = false := by
          simp [TypeDecl.isUnresolved, exported]
        simp only [exported, Bool.false_eq_true, if_false, resolved, Discovery.idle_andThen]
        exact ih units

/-- A type goes to the unit of its path, and no other unit changes. -/
theorem unitAt_add (units : Units) (path p : Path) (d : TypeDecl) :
    (units.add path d).unitAt p =
      if compare p path = .eq then (units.unitAt p).add units.next d else units.unitAt p := by
  rw [unitAt, get?_add]
  split
  · next equal =>
    have same : units.get? path = units.get? p := (SortedMap.get?_congr equal _).symm
    simp [unitAt, same]
  · rfl

/-- **Each list grows by the finds that belong to it**, in the order in which they were found. -/
theorem listed_unitAt_addAll (finds : List Find) (units : Units) (p : Path) (kind : DeclKind)
    (direction : Direction) :
    ((units.addAll finds).unitAt p).listed kind direction =
      (units.unitAt p).listed kind direction ++
        (((finds.filter fun find => compare p find.1 = .eq &&
          SourceUnit.takes kind direction find.2).map Prod.snd).map fun d =>
            (d, d.metadata.convention)) := by
  induction finds generalizing units with
  | nil => simp
  | cons find finds ih =>
      rw [addAll_cons, ih, unitAt_add, List.filter_cons]
      by_cases equal : compare p find.1 = .eq
      · rw [if_pos equal, SourceUnit.listed_add]
        cases SourceUnit.takes kind direction find.2 <;> simp [equal]
      · simp [equal]

/-- A unit is there iff it was there or something was found for it. -/
theorem isSome_get?_addAll (finds : List Find) (units : Units) (p : Path) :
    ((units.addAll finds).get? p).isSome ↔
      (units.get? p).isSome ∨ ∃ find ∈ finds, compare p find.1 = .eq := by
  induction finds generalizing units with
  | nil => simp
  | cons find finds ih =>
      rw [addAll_cons, ih, get?_add]
      by_cases equal : compare p find.1 = .eq <;> simp [equal]

/-- The spelling of a unit is that of a find, unless the unit was there before. -/
theorem mem_toList_addAll {finds : List Find} {units : Units} {entry : Path × SourceUnit}
    (listed : entry ∈ (units.addAll finds).toList) :
    (∃ earlier ∈ units.toList, entry.1 = earlier.1) ∨ ∃ find ∈ finds, entry.1 = find.1 := by
  induction finds generalizing units with
  | nil => exact Or.inl ⟨entry, listed, rfl⟩
  | cons find finds ih =>
      rcases ih listed with ⟨earlier, stored, same⟩ | ⟨later, found, same⟩
      · rcases SortedMap.mem_entries_upsert stored with written | ⟨before, stored, unchanged⟩
        · exact Or.inr ⟨find, List.mem_cons_self, same.trans written⟩
        · exact Or.inl ⟨before, stored, same.trans unchanged⟩
      · exact Or.inr ⟨later, List.mem_cons_of_mem _ found, same⟩

end Units

end WireHeaders
