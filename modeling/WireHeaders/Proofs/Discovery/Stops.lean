import Mathlib.Data.List.TakeDrop
import WireHeaders.Proofs.Discovery.Reference

/-!
# Stops of a search

A search of a row of scopes as one walk along a list: it enters each scope, and then it stops at the
types of the scope that ask to be exported.  What it tells is read off that list.

## Main definitions

* `Stop` — a scope that is entered, or a type that asks to be exported
* `Scope.stops` — the stops of a scope
* `Stop.told` — **what is told at a stop**
* `TypeDecl.misspelt?` — the convention that a type asks for in vain
* `Units.visit` — a walk along a list of stops

## Main statements

* `Scope.discoverAll_eq_visit` — **a search is a walk along its stops**, with all that it leaves
* `Units.events_visit`, `Units.failure_visit` — a walk tells of its stops up to the first one with an
  unknown source unit, and fails there

## Design notes

A type that does not ask to be exported is no stop.  That a search looks at such a type, and passes it,
shows nowhere in what it leaves.
-/

namespace WireHeaders

/-- The value by which a type asks for a convention, **if no convention is spelled like it**. -/
def TypeDecl.misspelt? (d : TypeDecl) : Option String :=
  (d.metadata.get? Key.renameAll).filter fun value => ∀ c ∈ Convention.all, value ≠ c.spelling

/-- **A stop of a search.** -/
inductive Stop where
  /-- A scope is entered. -/
  | scope (s : Scope)
  /-- A type asks to be exported. -/
  | type (d : TypeDecl)

namespace Stop

variable (sources : SourceTable)

/-- Whether a search goes on behind a stop. -/
def isResolved : Stop → Bool
  | scope _ => true
  | type d => (sources.get? d.source).isSome

/-- **What is told at a stop.**  A type is found under the path of its source unit, and a convention
that it asks for in vain is told right before; of a type without a source unit nothing is told. -/
def told : Stop → List Event
  | scope s => [.scopeEntered s.name s.root.name]
  | type d =>
    match sources.get? d.source with
    | none => []
    | some path =>
      d.misspelt?.toList.map (.conventionUnknown d.name) ++
        [.discovered d.kind d.name path (d.metadata.has Key.serialize)
          (d.metadata.has Key.deserialize)]

/-- Why a search fails at a stop, if it does. -/
def failure? : Stop → Option GenerationError
  | scope _ => none
  | type d =>
    match sources.get? d.source with
    | none => some (.unresolvedSource d.source d.name)
    | some _ => none

/-- The units behind a stop. -/
def leaves : Stop → Units → Units
  | scope _, units => units
  | type d, units =>
    match sources.get? d.source with
    | none => units
    | some path => units.add path d

end Stop

/-- **The stops of a scope**: its entry, then the structs and then the enums that are kept. -/
def Scope.stops (scope : Scope) : List Stop :=
  .scope scope :: (scope.kept .struct ++ scope.kept .enum).map .type

/-! ## One stop -/

/-- A value spells no convention iff none is named by it. -/
theorem Convention.isNone_ofSpelling? (value : String) :
    (ofSpelling? value).isNone = decide (∀ c ∈ all, value ≠ c.spelling) := by
  rw [Bool.eq_iff_iff, decide_eq_true_iff, ofSpelling?, Option.isNone_iff_eq_none,
    List.find?_eq_none]
  refine forall₂_congr fun c _ => ?_
  rw [beq_iff_eq, ne_comm]

/-- The warning about a type is about the convention that it asks for in vain. -/
theorem TypeDecl.warnings_eq (d : TypeDecl) :
    d.warnings = d.misspelt?.toList.map (.conventionUnknown d.name) := by
  rw [warnings, misspelt?, Metadata.renameAll?]
  cases d.metadata.get? Key.renameAll with
  | none => rfl
  | some value =>
      simp only [Convention.isNone_ofSpelling?, Option.filter]
      split <;> rfl

/-- A type asks for a convention in vain iff the value that it gives spells none. -/
theorem TypeDecl.misspelt?_eq_some_iff {d : TypeDecl} {value : String} :
    d.misspelt? = some value ↔
      d.metadata.get? Key.renameAll = some value ∧ ∀ c : Convention, value ≠ c.spelling := by
  rw [misspelt?, Option.filter_eq_some_iff, decide_eq_true_iff]
  refine and_congr_right fun _ => ⟨fun none c => none c ?_, fun none c _ => none c⟩
  cases c <;> decide

namespace Stop

variable {sources : SourceTable}

/-- A search fails at types without a known source unit, and nowhere else. -/
theorem failure?_eq_some_iff {stop : Stop} {e : GenerationError} :
    stop.failure? sources = some e ↔ ∃ d, stop = .type d ∧ sources.get? d.source = none ∧
      e = .unresolvedSource d.source d.name := by
  constructor
  · intro failed
    cases stop with
    | scope s => cases failed
    | type d =>
        rw [failure?] at failed
        split at failed
        · next unknown => exact ⟨d, rfl, unknown, (Option.some.inj failed).symm⟩
        · cases failed
  · rintro ⟨d, rfl, unknown, rfl⟩
    simp only [failure?, unknown]

/-- A search goes on iff it does not fail. -/
theorem isResolved_eq (stop : Stop) :
    stop.isResolved sources = (stop.failure? sources).isNone := by
  cases stop with
  | scope s => rfl
  | type d =>
      rw [isResolved, failure?]
      cases sources.get? d.source <;> rfl

theorem isResolved_iff {stop : Stop} : stop.isResolved sources ↔ stop.failure? sources = none := by
  rw [isResolved_eq, Option.isNone_iff_eq_none]

/-- Nothing is told at a stop at which a search fails. -/
theorem told_of_failure? {stop : Stop} {e : GenerationError}
    (failed : stop.failure? sources = some e) : stop.told sources = [] := by
  obtain ⟨d, rfl, unknown, -⟩ := failure?_eq_some_iff.mp failed
  simp only [told, unknown]

/-- What is warned about at a stop is the convention that a type asks for in vain. -/
theorem of_mem_told_warning {stop : Stop} {name value : String}
    (warned : .conventionUnknown name value ∈ stop.told sources) :
    ∃ d, stop = .type d ∧ d.name = name ∧ d.misspelt? = some value := by
  cases stop with
  | scope s => cases List.mem_singleton.mp warned
  | type d =>
      rw [told] at warned
      split at warned
      · cases warned
      · rcases List.mem_append.mp warned with warned | found
        · obtain ⟨value', asked, same⟩ := List.mem_map.mp warned
          cases same
          exact ⟨d, rfl, rfl, Option.mem_toList.mp asked⟩
        · cases List.mem_singleton.mp found

end Stop

/-! ## A walk -/

namespace Units

variable (sources : SourceTable)

/-- What a search does at a stop. -/
def visitOne (stop : Stop) (units : Units) : Discovery :=
  ⟨stop.leaves sources units, stop.told sources, stop.failure? sources⟩

/-- **A walk along a list of stops**, up to the first failure. -/
def visit : List Stop → Units → Discovery
  | [], units => .idle units
  | stop :: stops, units => (visitOne sources stop units).andThen (visit stops)

/-- A type that asks to be exported is admitted as at its stop. -/
theorem admit_of_isExported {d : TypeDecl} (exported : d.metadata.isExported) (units : Units) :
    units.admit sources d = visitOne sources (.type d) units := by
  unfold Units.admit visitOne
  rw [if_pos exported, Stop.leaves, Stop.told, Stop.failure?, TypeDecl.warnings_eq]
  cases sources.get? d.source <;> rfl

theorem visit_append (stops later : List Stop) (units : Units) :
    visit sources (stops ++ later) units =
      (visit sources stops units).andThen (visit sources later) := by
  induction stops generalizing units with
  | nil => rfl
  | cons stop stops ih =>
      have tail : visit sources (stops ++ later) =
          fun units => (visit sources stops units).andThen (visit sources later) :=
        funext ih
      rw [List.cons_append, visit, tail, visit, Discovery.andThen_assoc]

/-- **Types that do not ask to be exported are passed**: a search leaves the same without them. -/
theorem admitAll_eq_visit (ds : List TypeDecl) (units : Units) :
    admitAll sources ds units =
      visit sources ((ds.filter fun d => d.metadata.isExported).map .type) units := by
  induction ds generalizing units with
  | nil => rfl
  | cons d ds ih =>
      have tail : admitAll sources ds =
          visit sources ((ds.filter fun d => d.metadata.isExported).map .type) :=
        funext ih
      rw [admitAll, tail]
      by_cases exported : d.metadata.isExported
      · rw [List.filter_cons_of_pos (by simpa using exported), List.map_cons, visit,
          admit_of_isExported sources exported]
      · rw [List.filter_cons_of_neg (by simpa using exported), Units.admit, if_neg exported,
          Discovery.idle_andThen]

variable {sources}

/-- **A walk fails at the first stop without a known source unit.** -/
theorem failure_visit (stops : List Stop) (units : Units) :
    (visit sources stops units).failure = stops.findSome? (Stop.failure? sources) := by
  induction stops generalizing units with
  | nil => rfl
  | cons stop stops ih =>
      rw [visit, List.findSome?_cons]
      cases failed : stop.failure? sources with
      | some e => simp only [Discovery.andThen, visitOne, failed]
      | none =>
          simp only [Discovery.andThen, visitOne, failed]
          exact ih _

/-- **A walk tells of its stops**, one after the other, up to the first failure. -/
theorem events_visit (stops : List Stop) (units : Units) :
    (visit sources stops units).events =
      (stops.takeWhile (Stop.isResolved sources)).flatMap (Stop.told sources) := by
  induction stops generalizing units with
  | nil => rfl
  | cons stop stops ih =>
      rw [visit, List.takeWhile_cons, Stop.isResolved_eq]
      cases failed : stop.failure? sources with
      | some e =>
          simp only [Discovery.andThen, visitOne, failed, Stop.told_of_failure? failed]
          rfl
      | none =>
          simp only [Discovery.andThen, visitOne, failed, ih]
          rfl

end Units

namespace Scope

variable (sources : SourceTable)

/-- A scope is searched by walking along its stops. -/
theorem discover_eq_visit (scope : Scope) (units : Units) :
    scope.discover sources units = Units.visit sources scope.stops units := by
  have root : scope.root.discover sources =
      Units.visit sources ((scope.kept .struct ++ scope.kept .enum).map .type) := by
    funext units
    rw [Declaration.discover_eq_admitAll, Units.admitAll_eq_visit, List.filter_append]
    rfl
  rw [discover, root]
  rfl

/-- **A search is a walk along its stops**, scope by scope. -/
theorem discoverAll_eq_visit (scopes : List Scope) (units : Units) :
    discoverAll sources scopes units = Units.visit sources (scopes.flatMap stops) units := by
  induction scopes generalizing units with
  | nil => rfl
  | cons scope scopes ih =>
      have tail : discoverAll sources scopes = Units.visit sources (scopes.flatMap stops) :=
        funext ih
      rw [discoverAll, tail, discover_eq_visit, List.flatMap_cons, Units.visit_append]

end Scope

end WireHeaders
