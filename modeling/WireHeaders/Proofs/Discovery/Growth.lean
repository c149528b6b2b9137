import WireHeaders.Proofs.Discovery.Alike

/-!
# How units grow

What one search adds to units that are already there, and what a search that fails leaves behind.

## Main definitions

* `Declaration.exported` — the declarations of a kind that a search has to find
* `SourceUnit.records` — one of the four lists of a unit, with serial numbers
* `Units.Grows` — **later units that have the records of some declarations behind their own**

## Main statements

* `Units.Grows.add` — an added type is such a growth, and `Units.Grows.trans` puts two together
* `Declaration.collect_leaves` — **a search adds the records of all declarations before the first one
  that is not resolved**, and nothing else

## Design notes

Nothing is asked of the units before the search.  The growth is told by the records with their numbers,
by the paths that have a unit and by their spellings, so there is one state only that it leads to.
-/

namespace WireHeaders

/-- **The declarations of a kind that are exported below a root**, in the order in which a search meets
them. -/
def Declaration.exported (root : Declaration) (kind : DeclKind) : List TypeDecl :=
  (root.candidates kind).filter fun d => d.metadata.isExported

/-- The record that a declaration has under a number. -/
def TypeDecl.record (d : TypeDecl) (serial : Nat) : Record TypeDecl :=
  ⟨serial, d, d.metadata.convention⟩

namespace SourceUnit

/-- **One of the four lists of a unit**, with the numbers of its records. -/
def records (u : SourceUnit) (kind : DeclKind) (direction : Direction) : List (Record TypeDecl) :=
  match kind with
  | .struct => (u.structsFor direction).map fun r => ⟨r.serial, .struct r.decl, r.convention⟩
  | .enum => (u.enumsFor direction).map fun r => ⟨r.serial, .enum r.decl, r.convention⟩

/-- A type has its record at the end of the lists that take it. -/
theorem records_add (u : SourceUnit) (serial : Nat) (d : TypeDecl) (kind : DeclKind)
    (direction : Direction) :
    (u.add serial d).records kind direction =
      u.records kind direction ++ if takes kind direction d then [d.record serial] else [] := by
  cases d with
  | struct decl =>
      cases kind with
      | enum => simp [records, add, takes, TypeDecl.kind, enumsFor]
      | struct =>
          by_cases allowed : decl.metadata.allows direction <;>
            simp [records, add, takes, TypeDecl.kind, TypeDecl.metadata, TypeDecl.record, structsFor,
              Records.inDirection_add, allowed]
  | enum decl =>
      cases kind with
      | struct => simp [records, add, takes, TypeDecl.kind, structsFor]
      | enum =>
          by_cases allowed : decl.metadata.allows direction <;>
            simp [records, add, takes, TypeDecl.kind, TypeDecl.metadata, TypeDecl.record, enumsFor,
              Records.inDirection_add, allowed]

end SourceUnit

/-! ## Growth -/

/-- **Later units that have the records of some declarations of a kind** behind those of the units
before, each declaration in the unit of its source path and under the next free number. -/
structure Units.Grows (sources : SourceTable) (kind : DeclKind) (found : List TypeDecl)
    (units later : Units) : Prop where
  /-- The lists of the kind have the new records of their unit and their direction at their ends.
  Those of the other kind stay as they were. -/
  lists : ∀ p kind' direction, (later.unitAt p).records kind' direction =
    (units.unitAt p).records kind' direction ++
      if kind' = kind then
        ((found.zipIdx units.next).filter fun e =>
          e.1.belongsTo sources p && e.1.metadata.allows direction).map fun e => e.1.record e.2
      else []
  /-- There is a unit where there was one and where some declaration belongs. -/
  present : ∀ p, (later.get? p).isSome ↔
    (units.get? p).isSome ∨ ∃ d ∈ found, d.belongsTo sources p
  /-- A path to which no declaration belongs has the unit that it had, or none as before. -/
  untouched : ∀ p, (∀ d ∈ found, d.belongsTo sources p = false) → later.get? p = units.get? p
  /-- A unit keeps its spelling.  A new one is spelled as for the first declaration in it. -/
  spelling : ∀ p, later.spelling? p = (units.spelling? p).or
    ((found.find? fun d => d.belongsTo sources p).bind fun d => sources.get? d.source)
  /-- Each declaration takes one number. -/
  next : later.next = units.next + found.length

namespace Units.Grows

variable {sources : SourceTable} {kind : DeclKind} {found found' : List TypeDecl}
  {units later last : Units}

theorem refl (sources : SourceTable) (kind : DeclKind) (units : Units) :
    units.Grows sources kind [] units where
  lists p kind' direction := by simp
  present p := by simp
  untouched p _ := rfl
  spelling p := by simp
  next := rfl

/-- Two growths are one, by the declarations of both. -/
theorem trans (first : units.Grows sources kind found later)
    (second : later.Grows sources kind found' last) :
    units.Grows sources kind (found ++ found') last where
  lists p kind' direction := by
    rw [second.lists, first.lists, List.append_assoc, first.next, List.zipIdx_append]
    split
    · rw [List.filter_append, List.map_append]
    · rfl
  present p := by
    rw [second.present, first.present, or_assoc]
    simp only [List.mem_append, or_and_right, exists_or]
  untouched p apart := by
    rw [second.untouched p fun d listed => apart d (List.mem_append_right _ listed)]
    exact first.untouched p fun d listed => apart d (List.mem_append_left _ listed)
  spelling p := by
    rw [second.spelling, first.spelling, Option.or_assoc, List.find?_append]
    congr 1
    cases here : found.find? fun d => d.belongsTo sources p with
    | none => simp
    | some d =>
        -- A declaration that belongs to a unit has a source path to spell it by.
        have belongs : d.belongsTo sources p = true := List.find?_some here
        cases path : sources.get? d.source with
        | none => simp [TypeDecl.belongsTo, path] at belongs
        | some q => simp [path]
  next := by
    rw [second.next, first.next, List.length_append, Nat.add_assoc]

/-- **An added type** of the kind makes units grow by it. -/
theorem add (units : Units) {d : TypeDecl} {path : Path} (same : d.kind = kind)
    (resolved : sources.get? d.source = some path) :
    units.Grows sources kind [d] (units.add path d) := by
  have belongs (p : Path) : d.belongsTo sources p = decide (compare p path = .eq) := by
    simp [TypeDecl.belongsTo, resolved]
  refine ⟨?_, ?_, ?_, ?_, rfl⟩
  · intro p kind' direction
    rw [unitAt_add]
    by_cases equal : compare p path = .eq
    · rw [if_pos equal, SourceUnit.records_add]
      by_cases kinds : kind' = kind
      · cases allowed : d.metadata.allows direction <;>
          simp [SourceUnit.takes, same, kinds, belongs, equal, allowed]
      · have other : kind ≠ kind' := fun equal => kinds equal.symm
        simp [SourceUnit.takes, same, kinds, other]
    · simp [belongs, equal]
  · intro p
    rw [get?_add]
    by_cases equal : compare p path = .eq <;> simp [belongs, equal]
  · intro p apart
    have other := apart d (List.mem_singleton_self d)
    rw [belongs, decide_eq_false_iff_not] at other
    rw [get?_add, if_neg other]
  · intro p
    rw [spelling?_add]
    by_cases equal : compare p path = .eq
    · have one : units.spelling? p = units.spelling? path := SortedMap.key?_congr equal _
      rw [if_pos equal, ← one]
      cases units.spelling? p <;> simp [belongs, equal, resolved]
    · simp [belongs, equal]

/-- **Finds make units grow** by the declarations that were found. -/
theorem addAll (units : Units) (kinds : ∀ d ∈ found, d.kind = kind)
    (exported : ∀ d ∈ found, d.metadata.isExported)
    (resolved : ∀ d ∈ found, (sources.get? d.source).isSome) :
    units.Grows sources kind found (units.addAll (TypeDecl.finds sources found)) := by
  induction found generalizing units with
  | nil => exact refl sources kind units
  | cons d ds ih =>
      obtain ⟨path, known⟩ := Option.isSome_iff_exists.mp (resolved d List.mem_cons_self)
      rw [TypeDecl.finds, if_pos (exported d List.mem_cons_self), known]
      have first := add units (kinds d List.mem_cons_self) known
      have rest := ih (units.add path d)
        (fun e listed => kinds e (List.mem_cons_of_mem d listed))
        (fun e listed => exported e (List.mem_cons_of_mem d listed))
        (fun e listed => resolved e (List.mem_cons_of_mem d listed))
      exact first.trans rest

end Units.Grows

/-! ## One search -/

namespace TypeDecl

variable {sources : SourceTable}

/-- Declarations that are not exported are no finds. -/
theorem finds_filter_isExported (ds : List TypeDecl) :
    finds sources (ds.filter fun d => d.metadata.isExported) = finds sources ds := by
  induction ds with
  | nil => rfl
  | cons d ds ih =>
      rw [List.filter_cons, finds]
      split
      · next exported => rw [finds, if_pos exported, ih]
      · exact ih

/-- Declarations that are not exported let no search fail. -/
theorem firstUnresolved?_filter_isExported (ds : List TypeDecl) :
    firstUnresolved? sources (ds.filter fun d => d.metadata.isExported) =
      firstUnresolved? sources ds := by
  rw [firstUnresolved?, firstUnresolved?, List.find?_filter]
  congr 1
  funext d
  rw [← Bool.decide_coe (d.isUnresolved sources), decide_eq_decide, isUnresolved]
  simp

end TypeDecl

namespace Declaration

variable {sources : SourceTable} {kind : DeclKind} {root : Declaration}

/-- A search adds the finds among the exported declarations, and fails at the first of them that is not
resolved. -/
theorem outcome_collect (sources : SourceTable) (kind : DeclKind) (root : Declaration)
    (units : Units) :
    (root.collect kind sources units).outcome =
      (units.addAll (TypeDecl.finds sources (root.exported kind)),
        (TypeDecl.firstUnresolved? sources (root.exported kind)).map
          TypeDecl.unresolvedError) := by
  rw [collect_eq_admitAll, Units.outcome_admitAll, exported, TypeDecl.finds_filter_isExported,
    TypeDecl.firstUnresolved?_filter_isExported]

theorem of_mem_exported {d : TypeDecl} (met : d ∈ root.exported kind) :
    d.kind = kind ∧ d.metadata.isExported :=
  ⟨kind_of_mem_candidates (List.mem_filter.mp met).1, (List.mem_filter.mp met).2⟩

/-- A search in which everything is resolved succeeds, and units grow by all that is exported. -/
theorem collect_of_resolved (units : Units)
    (resolved : ∀ d ∈ root.exported kind, (sources.get? d.source).isSome) :
    (root.collect kind sources units).failure = none ∧
      units.Grows sources kind (root.exported kind) (root.collect kind sources units).units := by
  have outcome := outcome_collect sources kind root units
  have none : TypeDecl.firstUnresolved? sources (root.exported kind) = none :=
    TypeDecl.firstUnresolved?_eq_none_iff.mpr fun d met _ => resolved d met
  rw [none] at outcome
  refine ⟨congrArg Prod.snd outcome, ?_⟩
  rw [show (root.collect kind sources units).units = _ from congrArg Prod.fst outcome]
  exact .addAll units (fun d met => (of_mem_exported met).1) (fun d met => (of_mem_exported met).2)
    resolved

/-- **A search fails at the first declaration that is not resolved**, and units grow by what is exported
before it. -/
theorem collect_of_unresolved (units : Units) {before later : List TypeDecl} {d : TypeDecl}
    (met : root.exported kind = before ++ d :: later)
    (resolved : ∀ e ∈ before, (sources.get? e.source).isSome)
    (unresolved : sources.get? d.source = none) :
    (root.collect kind sources units).failure = some (.unresolvedSource d.source d.name) ∧
      units.Grows sources kind before (root.collect kind sources units).units := by
  have outcome := outcome_collect sources kind root units
  have exported (e : TypeDecl) (listed : e ∈ before ++ d :: later) :
      e.kind = kind ∧ e.metadata.isExported := of_mem_exported (met ▸ listed)
  have exportedHere := (exported d (by simp)).2
  have none : TypeDecl.firstUnresolved? sources before = none :=
    TypeDecl.firstUnresolved?_eq_none_iff.mpr fun e listed _ => resolved e listed
  have first : TypeDecl.firstUnresolved? sources (root.exported kind) = some d := by
    have here : d.isUnresolved sources = true := by
      simp [TypeDecl.isUnresolved, exportedHere, unresolved]
    rw [met, TypeDecl.firstUnresolved?, List.find?_append,
      show before.find? (TypeDecl.isUnresolved sources) = Option.none from none, Option.none_or,
      List.find?_cons_of_pos here]
  have finds : TypeDecl.finds sources (root.exported kind) = TypeDecl.finds sources before := by
    rw [met, TypeDecl.finds_append none, TypeDecl.finds, if_pos exportedHere, unresolved]
    exact List.append_nil _
  rw [first, finds] at outcome
  refine ⟨congrArg Prod.snd outcome, ?_⟩
  rw [show (root.collect kind sources units).units = _ from congrArg Prod.fst outcome]
  exact .addAll units (fun e listed => (exported e (List.mem_append_left _ listed)).1)
    (fun e listed => (exported e (List.mem_append_left _ listed)).2) resolved

/-- Of three structs the second one has no source unit, so the third one is not met. -/
example :
    let tagged := Metadata.empty.flag Key.serialize
    let found : StructDecl := ⟨"FFound", "player", tagged, []⟩
    let lost : StructDecl := ⟨"FLost", "nowhere", tagged, []⟩
    let late : StructDecl := ⟨"FLate", "player", tagged, []⟩
    let root := Declaration.container "/Script/Game" [.struct found [], .struct lost [], .struct late []]
    (root.collect .struct (.ofList [("player", ⟨"Player.h"⟩)]) .empty).outcome =
      (Units.empty.add ⟨"Player.h"⟩ (.struct found), some (.unresolvedSource "nowhere" "FLost")) := by
  decide

/-- **What a search does to any units.**  It succeeds iff the source unit of every exported declaration
is known, and then units grow by all of them.  Otherwise it fails at the first one whose source unit is
unknown, and units grow by those before it.  If the search for structs below a root fails, no enum is
searched for, and otherwise the search for enums goes on from what the one for structs left. -/
theorem collect_leaves (root : Declaration) (sources : SourceTable) (units : Units) :
    (∀ kind, ((root.collect kind sources units).failure = none ↔
        ∀ d ∈ root.exported kind, (sources.get? d.source).isSome) ∧
      ((∀ d ∈ root.exported kind, (sources.get? d.source).isSome) →
        units.Grows sources kind (root.exported kind) (root.collect kind sources units).units) ∧
      ∀ before d later, root.exported kind = before ++ d :: later →
        (∀ e ∈ before, (sources.get? e.source).isSome) → sources.get? d.source = none →
        (root.collect kind sources units).failure = some (.unresolvedSource d.source d.name) ∧
          units.Grows sources kind before (root.collect kind sources units).units) ∧
    (∀ e, (root.collect .struct sources units).failure = some e →
      root.discover sources units = root.collect .struct sources units) ∧
    ((root.collect .struct sources units).failure = none →
      (root.discover sources units).outcome =
        (root.collect .enum sources (root.collect .struct sources units).units).outcome) := by
  refine ⟨fun kind => ⟨⟨?_, fun resolved => (collect_of_resolved units resolved).1⟩,
    fun resolved => (collect_of_resolved units resolved).2,
    fun before d later met resolved unresolved => collect_of_unresolved units met resolved unresolved⟩,
    ?_, ?_⟩
  · intro succeeded d met
    have outcome := congrArg Prod.snd (outcome_collect sources kind root units)
    rw [show (root.collect kind sources units).outcome.2 = none from succeeded, eq_comm,
      Option.map_eq_none_iff] at outcome
    exact TypeDecl.firstUnresolved?_eq_none_iff.mp outcome d met (of_mem_exported met).2
  · intro e failed
    rw [discover, Discovery.andThen, failed]
  · intro succeeded
    rw [discover, Discovery.andThen, succeeded]
    rfl

end Declaration

end WireHeaders
