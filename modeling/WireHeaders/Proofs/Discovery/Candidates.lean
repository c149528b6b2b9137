import WireHeaders.Discovery.Search

/-!
# Candidates of a search

A search walks a tree of declarations and changes the units on the way.  This module takes the two
apart: first the declarations that a search meets, as a list, and then what a list of declarations
does to the units.

## Main definitions

* `Declaration.outerStructs`, `Declaration.allEnums` — the declarations that a search meets
* `Declaration.candidates` — those of a kind, and `Scope.candidates` — those of a scope
* `Units.admitAll` — a list of declarations admitted one after the other

## Main statements

* `Declaration.collect_eq_admitAll` — **a search is its candidates, admitted in order**
* `Scope.outcome_discoverAll` — the same for a row of scopes, but for the events
-/

namespace WireHeaders

/-! ## What a search leaves behind -/

namespace Discovery

/-- A search without its events: the units and the failure, if there is one. -/
def outcome (d : Discovery) : Units × Option GenerationError := (d.units, d.failure)

@[simp]
theorem idle_andThen (units : Units) (next : Units → Discovery) :
    (idle units).andThen next = next units := rfl

@[simp]
theorem andThen_idle (d : Discovery) : d.andThen idle = d := by
  obtain ⟨units, events, failure⟩ := d
  cases failure with
  | none => simp [andThen, idle]
  | some e => rfl

theorem andThen_assoc (d : Discovery) (f g : Units → Discovery) :
    (d.andThen f).andThen g = d.andThen fun units => (f units).andThen g := by
  obtain ⟨units, events, failure⟩ := d
  cases failure with
  | some e => rfl
  | none =>
      simp only [andThen]
      cases failed : (f units).failure with
      | some e => simp [failed]
      | none => simp [List.append_assoc]

/-- Events do not decide what happens next. -/
theorem outcome_andThen_congr {d e : Discovery} {f g : Units → Discovery}
    (first : d.outcome = e.outcome) (second : ∀ units, (f units).outcome = (g units).outcome) :
    (d.andThen f).outcome = (e.andThen g).outcome := by
  obtain ⟨units, events, failure⟩ := d
  obtain ⟨units', events', failure'⟩ := e
  obtain ⟨rfl, rfl⟩ : units = units' ∧ failure = failure' := by simpa [outcome] using first
  cases failure with
  | some e => rfl
  | none => simpa [outcome, andThen] using second units

end Discovery

/-! ## The declarations that a search meets -/

namespace Declaration

mutual

/-- **The structs that a search meets**, in pre-order.  What is declared inside a struct is not
looked at. -/
def outerStructs : Declaration → List StructDecl
  | .container _ children => outerStructsIn children
  | .struct decl _ => [decl]
  | .enum _ => []

/-- The structs that a search meets in a row of declarations. -/
def outerStructsIn : List Declaration → List StructDecl
  | [] => []
  | d :: ds => outerStructs d ++ outerStructsIn ds

end

mutual

/-- **All enums**, in pre-order and at any depth, also inside structs. -/
def allEnums : Declaration → List EnumDecl
  | .container _ children => allEnumsIn children
  | .struct _ children => allEnumsIn children
  | .enum decl => [decl]

/-- All enums of a row of declarations. -/
def allEnumsIn : List Declaration → List EnumDecl
  | [] => []
  | d :: ds => allEnums d ++ allEnumsIn ds

end

/-- The declarations that a search for a kind meets. -/
def candidates (d : Declaration) : DeclKind → List TypeDecl
  | .struct => d.outerStructs.map .struct
  | .enum => d.allEnums.map .enum

end Declaration

/-- **The declarations that are met in a scope**: structs, then enums. -/
def Scope.candidates (scope : Scope) : List TypeDecl :=
  scope.root.candidates .struct ++ scope.root.candidates .enum

/-! ## A list of declarations admitted -/

/-- **Admits a list of declarations** one after the other, up to the first failure. -/
def Units.admitAll (sources : SourceTable) : List TypeDecl → Units → Discovery
  | [], units => .idle units
  | d :: ds, units => units.admit sources d |>.andThen (admitAll sources ds)

namespace Units

variable (sources : SourceTable)

theorem admitAll_singleton (d : TypeDecl) (units : Units) :
    admitAll sources [d] units = units.admit sources d :=
  Discovery.andThen_idle _

theorem admitAll_append (ds es : List TypeDecl) (units : Units) :
    admitAll sources (ds ++ es) units =
      (admitAll sources ds units).andThen (admitAll sources es) := by
  induction ds generalizing units with
  | nil => rfl
  | cons d ds ih =>
      have tail : admitAll sources (ds ++ es) =
          fun units => (admitAll sources ds units).andThen (admitAll sources es) :=
        funext ih
      rw [List.cons_append, admitAll, tail, admitAll, Discovery.andThen_assoc]

end Units

namespace Declaration

variable (sources : SourceTable)

mutual

/-- A search for structs admits the outer structs. -/
theorem collect_struct (d : Declaration) (units : Units) :
    d.collect .struct sources units =
      Units.admitAll sources (d.outerStructs.map .struct) units := by
  match d with
  | .container _ children => exact collectAll_struct children units
  | .struct decl _ => exact (Units.admitAll_singleton sources _ units).symm
  | .enum _ => rfl

theorem collectAll_struct (ds : List Declaration) (units : Units) :
    collectAll .struct sources ds units =
      Units.admitAll sources ((outerStructsIn ds).map .struct) units := by
  match ds with
  | [] => rfl
  | d :: ds =>
      have tail : collectAll .struct sources ds =
          Units.admitAll sources ((outerStructsIn ds).map .struct) :=
        funext (collectAll_struct ds)
      rw [collectAll, collect_struct d, tail, outerStructsIn, List.map_append,
        Units.admitAll_append]

end

mutual

/-- A search for enums admits all enums. -/
theorem collect_enum (d : Declaration) (units : Units) :
    d.collect .enum sources units = Units.admitAll sources (d.allEnums.map .enum) units := by
  match d with
  | .container _ children => exact collectAll_enum children units
  | .struct _ children => exact collectAll_enum children units
  | .enum decl => exact (Units.admitAll_singleton sources _ units).symm

theorem collectAll_enum (ds : List Declaration) (units : Units) :
    collectAll .enum sources ds units =
      Units.admitAll sources ((allEnumsIn ds).map .enum) units := by
  match ds with
  | [] => rfl
  | d :: ds =>
      have tail : collectAll .enum sources ds =
          Units.admitAll sources ((allEnumsIn ds).map .enum) :=
        funext (collectAll_enum ds)
      rw [collectAll, collect_enum d, tail, allEnumsIn, List.map_append, Units.admitAll_append]

end

/-- **A search is its candidates, admitted in order.**  The two kinds of search differ in what they
look into, and nowhere else. -/
theorem collect_eq_admitAll (kind : DeclKind) (d : Declaration) (units : Units) :
    d.collect kind sources units = Units.admitAll sources (d.candidates kind) units := by
  cases kind with
  | struct => exact collect_struct sources d units
  | enum => exact collect_enum sources d units

/-- Both searches below a root admit the candidates of both kinds. -/
theorem discover_eq_admitAll (root : Declaration) (units : Units) :
    root.discover sources units =
      Units.admitAll sources (root.candidates .struct ++ root.candidates .enum) units := by
  have enums : root.collect .enum sources = Units.admitAll sources (root.candidates .enum) :=
    funext (collect_eq_admitAll sources .enum root)
  rw [discover, collect_eq_admitAll, enums, Units.admitAll_append]

end Declaration

namespace Scope

variable (sources : SourceTable)

/-- A scope is searched like its root; that it was entered is only told. -/
theorem outcome_discover (scope : Scope) (units : Units) :
    (scope.discover sources units).outcome =
      (Units.admitAll sources scope.candidates units).outcome := by
  rw [Scope.candidates, ← Declaration.discover_eq_admitAll]
  rfl

/-- **A row of scopes is searched by admitting all their candidates**, scope by scope. -/
theorem outcome_discoverAll (scopes : List Scope) (units : Units) :
    (discoverAll sources scopes units).outcome =
      (Units.admitAll sources (scopes.flatMap candidates) units).outcome := by
  induction scopes generalizing units with
  | nil => rfl
  | cons scope scopes ih =>
      rw [discoverAll, List.flatMap_cons, Units.admitAll_append]
      exact Discovery.outcome_andThen_congr (outcome_discover sources scope units) ih

end Scope

end WireHeaders
