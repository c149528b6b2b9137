import WireHeaders.Proofs.Discovery.Finds

/-!
# What a search must find

A description of the units of a row of scopes that does not search: it takes the declarations of
each scope as a list and sorts them into units.

## Main definitions

* `Scope.kept` — the declarations of a scope that ask to be exported
* `Units.Reference` — what the units of a row of scopes must be

## Main statements

* `Scope.discoverAll_reference` — **a search succeeds iff all source units are known, and then it
  leaves the units that it must find**

## Design notes

The order inside a list is that of the scopes, and inside a scope it is the pre-order of the
declarations.  Structs and enums are searched one after the other, but they never share a list, so
each list can be described by its own kind alone.
-/

namespace WireHeaders

/-- **The declarations of a scope that are kept**: the candidates of a kind that ask to be
exported. -/
def Scope.kept (scope : Scope) (kind : DeclKind) : List TypeDecl :=
  (scope.root.candidates kind).filter fun d => d.metadata.isExported

/-- **What the units of a row of scopes must be.** -/
structure Units.Reference (sources : SourceTable) (scopes : List Scope) (units : Units) : Prop where
  /-- A path has a unit iff it is the source path of a kept declaration, in any spelling. -/
  paths : ∀ p, (units.get? p).isSome ↔ ∃ scope ∈ scopes, ∃ kind, ∃ d ∈ scope.kept kind,
    ∃ q, sources.get? d.source = some q ∧ compare p q = .eq
  /-- The unit is shown in a spelling that the source table gives to a kept declaration. -/
  spelling : ∀ entry ∈ units.toList, ∃ scope ∈ scopes, ∃ kind, ∃ d ∈ scope.kept kind,
    sources.get? d.source = some entry.1
  /-- Paths with the same components share one unit. -/
  merged : units.toList.Pairwise fun a b => compare a.1 b.1 ≠ .eq
  /-- No unit is empty. -/
  inhabited : ∀ p u, units.get? p = some u →
    u.isEmpty = false ∧ ∃ kind direction, u.listed kind direction ≠ []
  /-- Each of the four lists of a unit holds exactly the kept declarations of its kind that belong
  to the unit and ask for its direction, in order, with the convention that each asks for. -/
  lists : ∀ p u, units.get? p = some u → ∀ kind direction,
    u.listed kind direction =
      ((scopes.flatMap fun scope => scope.kept kind).filter fun d =>
        d.belongsTo sources p && d.metadata.allows direction).map fun d =>
          (d, (d.metadata.get? Key.renameAll).bind Convention.ofSpelling?)

/-- Metadata that asks for any direction asks for one of the two. -/
theorem exists_allows_of_isExported {m : Metadata} (exported : m.isExported) :
    ∃ direction, m.allows direction := by
  rcases (Bool.or_eq_true _ _).mp exported with allowed | allowed
  · exact ⟨.serialize, allowed⟩
  · exact ⟨.deserialize, allowed⟩

/-- A search succeeds iff it leaves no failure, and its result is what it leaves. -/
theorem Discovery.toLogged_result_eq_ok_iff {d : Discovery} {units : Units} :
    d.toLogged.result = .ok units ↔ d.outcome = (units, none) := by
  obtain ⟨found, events, failure⟩ := d
  cases failure <;> simp [toLogged, outcome]

namespace Declaration

/-- A candidate of a kind is of that kind. -/
theorem kind_of_mem_candidates {root : Declaration} {kind : DeclKind} {d : TypeDecl}
    (met : d ∈ root.candidates kind) : d.kind = kind := by
  cases kind <;>
  · obtain ⟨decl, -, rfl⟩ := List.mem_map.mp met
    rfl

/-- Of the candidates of a kind either all or none are of a kind. -/
theorem filter_kind_candidates (root : Declaration) (kind wanted : DeclKind) :
    (root.candidates kind).filter (fun d => d.kind = wanted) =
      if kind = wanted then root.candidates kind else [] := by
  split
  · next same =>
    subst same
    exact List.filter_eq_self.mpr fun d met => decide_eq_true (kind_of_mem_candidates met)
  · next other =>
    refine List.filter_eq_nil_iff.mpr ?_
    intro d met
    simpa [kind_of_mem_candidates met] using other

end Declaration

namespace Scope

theorem mem_candidates_iff {scope : Scope} {d : TypeDecl} :
    d ∈ scope.candidates ↔ ∃ kind, d ∈ scope.root.candidates kind := by
  rw [candidates, List.mem_append]
  constructor
  · rintro (met | met)
    · exact ⟨.struct, met⟩
    · exact ⟨.enum, met⟩
  · rintro ⟨kind, met⟩
    cases kind with
    | struct => exact Or.inl met
    | enum => exact Or.inr met

/-- The candidates of a kind among those of both kinds. -/
theorem filter_kind_candidates (scope : Scope) (kind : DeclKind) :
    scope.candidates.filter (fun d => d.kind = kind) = scope.root.candidates kind := by
  rw [candidates, List.filter_append, Declaration.filter_kind_candidates,
    Declaration.filter_kind_candidates]
  cases kind <;> simp

/-- The kept declarations of a row of scopes, by kind. -/
theorem filter_kind_flatMap_candidates (scopes : List Scope) (kind : DeclKind) :
    ((scopes.flatMap candidates).filter fun d => d.metadata.isExported).filter
        (fun d => d.kind = kind) =
      scopes.flatMap fun scope => scope.kept kind := by
  induction scopes with
  | nil => rfl
  | cons scope scopes ih =>
      rw [List.flatMap_cons, List.filter_append, List.filter_append, ih, List.flatMap_cons, kept,
        ← filter_kind_candidates, List.filter_filter, List.filter_filter]
      simp only [Bool.and_comm]

/-- Where the finds of a row of scopes come from. -/
theorem exists_kept_of_mem_finds {sources : SourceTable} {scopes : List Scope} {find : Find}
    (found : find ∈ TypeDecl.finds sources (scopes.flatMap candidates)) :
    ∃ scope ∈ scopes, ∃ kind, find.2 ∈ scope.kept kind ∧
      sources.get? find.2.source = some find.1 := by
  obtain ⟨met, exported, resolved⟩ := TypeDecl.of_mem_finds found
  obtain ⟨scope, listed, met⟩ := List.mem_flatMap.mp met
  obtain ⟨kind, met⟩ := mem_candidates_iff.mp met
  exact ⟨scope, listed, kind, List.mem_filter.mpr ⟨met, exported⟩, resolved⟩

/-- All source units of a row of scopes are known. -/
theorem firstUnresolved?_eq_none_iff {sources : SourceTable} {scopes : List Scope} :
    TypeDecl.firstUnresolved? sources (scopes.flatMap candidates) = none ↔
      ∀ scope ∈ scopes, ∀ kind, ∀ d ∈ scope.kept kind, (sources.get? d.source).isSome := by
  rw [TypeDecl.firstUnresolved?_eq_none_iff]
  constructor
  · intro resolved scope listed kind d kept
    obtain ⟨met, exported⟩ := List.mem_filter.mp kept
    exact resolved d (List.mem_flatMap.mpr ⟨scope, listed, mem_candidates_iff.mpr ⟨kind, met⟩⟩)
      exported
  · intro resolved d met exported
    obtain ⟨scope, listed, met⟩ := List.mem_flatMap.mp met
    obtain ⟨kind, met⟩ := mem_candidates_iff.mp met
    exact resolved scope listed kind d (List.mem_filter.mpr ⟨met, exported⟩)

/-- A search of a row of scopes succeeds iff nothing in them is unresolved. -/
theorem discoverAll_eq_ok_iff {sources : SourceTable} {scopes : List Scope} {units : Units} :
    (discoverAll sources scopes .empty).toLogged.result = .ok units ↔
      Units.empty.addAll (TypeDecl.finds sources (scopes.flatMap candidates)) = units ∧
        TypeDecl.firstUnresolved? sources (scopes.flatMap candidates) = none := by
  rw [Discovery.toLogged_result_eq_ok_iff, outcome_discoverAll, Units.outcome_admitAll]
  simp

end Scope

namespace Units

theorem unitAt_of_get? {units : Units} {p : Path} {u : SourceUnit} (present : units.get? p = some u) :
    units.unitAt p = u := by
  simp [unitAt, present]

@[simp]
theorem unitAt_empty (p : Path) : empty.unitAt p = .empty := rfl

variable {sources : SourceTable} {scopes : List Scope}

/-- The units that a search of a row of scopes leaves if nothing in them is unresolved. -/
def found (sources : SourceTable) (scopes : List Scope) : Units :=
  empty.addAll (TypeDecl.finds sources (scopes.flatMap Scope.candidates))

/-- **Each list of a unit holds the kept declarations that belong to it**, in order. -/
theorem listed_found
    (resolved : TypeDecl.firstUnresolved? sources (scopes.flatMap Scope.candidates) = none)
    (p : Path) (kind : DeclKind) (direction : Direction) :
    ((found sources scopes).unitAt p).listed kind direction =
      ((scopes.flatMap fun scope => scope.kept kind).filter fun d =>
        d.belongsTo sources p && d.metadata.allows direction).map fun d =>
          (d, (d.metadata.get? Key.renameAll).bind Convention.ofSpelling?) := by
  rw [found, listed_unitAt_addAll, TypeDecl.finds_filter_map resolved, unitAt_empty,
    SourceUnit.listed_empty, List.nil_append, ← Scope.filter_kind_flatMap_candidates]
  -- Both sides filter the candidates by the same conditions, asked in another order.
  refine congrArg (List.map _) ?_
  simp only [List.filter_filter, SourceUnit.takes]
  refine List.filter_congr ?_
  intro d _
  ac_rfl

/-- **The units are those that a kept declaration resolves to.** -/
theorem isSome_get?_found
    (resolved : TypeDecl.firstUnresolved? sources (scopes.flatMap Scope.candidates) = none)
    (p : Path) : ((found sources scopes).get? p).isSome ↔
      ∃ scope ∈ scopes, ∃ kind, ∃ d ∈ scope.kept kind, ∃ q,
        sources.get? d.source = some q ∧ compare p q = .eq := by
  rw [found, isSome_get?_addAll]
  constructor
  · rintro (present | ⟨find, found, equal⟩)
    · cases present
    · obtain ⟨scope, listed, kind, kept, path⟩ := Scope.exists_kept_of_mem_finds found
      exact ⟨scope, listed, kind, find.2, kept, find.1, path, equal⟩
  · rintro ⟨scope, listed, kind, d, kept, q, path, equal⟩
    obtain ⟨met, exported⟩ := List.mem_filter.mp kept
    have candidate : d ∈ scopes.flatMap Scope.candidates :=
      List.mem_flatMap.mpr ⟨scope, listed, Scope.mem_candidates_iff.mpr ⟨kind, met⟩⟩
    obtain ⟨path', found⟩ := TypeDecl.mem_finds resolved candidate exported
    -- A declaration has one source unit, so it was found with this one.
    have same : some path' = some q := (TypeDecl.of_mem_finds found).2.2.symm.trans path
    exact Or.inr ⟨(path', d), found, Option.some.inj same ▸ equal⟩

/-- **The finds of a row of scopes make the units that must be found.** -/
theorem reference_of_resolved
    (resolved : TypeDecl.firstUnresolved? sources (scopes.flatMap Scope.candidates) = none) :
    (found sources scopes).Reference sources scopes := by
  refine ⟨isSome_get?_found resolved, ?_, ?_, ?_, ?_⟩
  · intro entry listed
    rcases mem_toList_addAll listed with ⟨earlier, stored, -⟩ | ⟨find, found, same⟩
    · cases stored
    · obtain ⟨scope, listed, kind, kept, path⟩ := Scope.exists_kept_of_mem_finds found
      exact ⟨scope, listed, kind, find.2, kept, same ▸ path⟩
  · refine (SortedMap.ascending _).imp ?_
    intro a b less
    rw [less]
    decide
  · intro p u present
    -- A unit is there because of some declaration, which is then in one of its lists.
    obtain ⟨scope, listed, kind, d, kept, q, path, equal⟩ :=
      (isSome_get?_found resolved p).mp (Option.isSome_of_eq_some present)
    obtain ⟨direction, allowed⟩ := exists_allows_of_isExported (List.mem_filter.mp kept).2
    have belongs : d.belongsTo sources p = true := by simp [TypeDecl.belongsTo, path, equal]
    have member : (d, (d.metadata.get? Key.renameAll).bind Convention.ofSpelling?) ∈
        u.listed kind direction := by
      rw [← unitAt_of_get? present, listed_found resolved]
      refine List.mem_map_of_mem (List.mem_filter.mpr ⟨?_, by simp [belongs, allowed]⟩)
      exact List.mem_flatMap.mpr ⟨scope, listed, kept⟩
    exact ⟨SourceUnit.isEmpty_eq_false_of_mem_listed member, kind, direction,
      List.ne_nil_of_mem member⟩
  · intro p u present kind direction
    rw [← listed_found resolved, unitAt_of_get? present]

end Units

/-- **Discovery finds what it must find.**  It succeeds iff the source unit of every kept declaration
is known, and then its units are those of the reference; the scopes of a tree that belong to the
platform are left out. -/
theorem Scope.discoverAll_reference (sources : SourceTable) (scopes : List Scope) :
    ((∃ units, (discoverAll sources scopes .empty).toLogged.result = .ok units) ↔
      ∀ scope ∈ scopes, ∀ kind, ∀ d ∈ scope.kept kind, (sources.get? d.source).isSome) ∧
    (∀ units, (discoverAll sources scopes .empty).toLogged.result = .ok units →
      units.Reference sources scopes) ∧
    ∀ tree : DeclarationTree, tree.discover.result =
      (discoverAll tree.sources (tree.scopes.filter fun scope => !scope.external)
        .empty).toLogged.result := by
  refine ⟨?_, ?_, ?_⟩
  · rw [← firstUnresolved?_eq_none_iff]
    constructor
    · rintro ⟨units, succeeded⟩
      exact (discoverAll_eq_ok_iff.mp succeeded).2
    · intro resolved
      exact ⟨_, discoverAll_eq_ok_iff.mpr ⟨rfl, resolved⟩⟩
  · intro units succeeded
    obtain ⟨rfl, resolved⟩ := discoverAll_eq_ok_iff.mp succeeded
    exact Units.reference_of_resolved resolved
  · intro tree
    rfl

end WireHeaders
