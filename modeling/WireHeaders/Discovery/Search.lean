import WireHeaders.Discovery.Unit
import WireHeaders.Generation.Error
import WireHeaders.Log.Logged

/-!
# Searching declaration trees

Structs and enums that ask to be exported are collected by source unit.

## Main definitions

* `Discovery` — what a search leaves behind, also when it fails
* `Units.admit` — one type that was met
* `Declaration.collect` — all types of one kind below a declaration
* `Declaration.discover` — structs, then enums
* `Scope.discoverAll`, `DeclarationTree.discover` — row of scopes, and the scopes of the user

## Design notes

A search is for one kind.  A declaration of that kind is a leaf whether or not it asks to be
exported; declarations of the other kind are searched.  So structs inside structs are never found,
while enums are found everywhere.
-/

namespace WireHeaders

/-- **What a search leaves behind**: the units with all finds so far, the events, and the
failure that ended it.  A failure takes no find back, so it stands beside the units and not
in their place. -/
structure Discovery where
  units : Units
  events : List Event
  failure : Option GenerationError

namespace Discovery

def idle (units : Units) : Discovery := ⟨units, [], none⟩

/-- **One search after the other.**  The second one goes on with the units of the first, and does
not begin if the first one failed. -/
def andThen (d : Discovery) (next : Units → Discovery) : Discovery :=
  match d.failure with
  | some _ => d
  | none =>
    let e := next d.units
    ⟨e.units, d.events ++ e.events, e.failure⟩

/-- What a search leaves, for those who do not ask for the units of a failed one. -/
def toLogged (d : Discovery) : Logged GenerationError Units :=
  match d.failure with
  | some e => ⟨d.events, .error e⟩
  | none => ⟨d.events, .ok d.units⟩

end Discovery

def TypeDecl.warnings (decl : TypeDecl) : List Event :=
  match decl.metadata.renameAll? with
  | some value =>
    if (Convention.ofSpelling? value).isNone then [.conventionUnknown decl.name value] else []
  | none => []

def TypeDecl.find (decl : TypeDecl) (path : Path) : Event :=
  .discovered decl.kind decl.name path (decl.metadata.allows .serialize)
    (decl.metadata.allows .deserialize)

/-- **One type that was met.**  If it asks to be exported, its source unit must be known.  The unit
is looked up first, so nothing is told of a type whose unit is unknown. -/
def Units.admit (units : Units) (sources : SourceTable) (decl : TypeDecl) : Discovery :=
  if decl.metadata.isExported then
    match sources.get? decl.source with
    | none => ⟨units, [], some (.unresolvedSource decl.source decl.name)⟩
    | some path => ⟨units.add path decl, decl.warnings ++ [decl.find path], none⟩
  else .idle units

namespace Declaration

mutual

/-- **Collects all types of one kind below a declaration.**  The kind that is searched for decides
what is a leaf: the search for structs passes over what is declared inside a struct, and the search
for enums goes down everywhere. -/
def collect (kind : DeclKind) (sources : SourceTable) : Declaration → Units → Discovery
  | .container _ children, units => collectAll kind sources children units
  | .struct decl children, units =>
    match kind with
    | .struct => units.admit sources (.struct decl)
    | .enum => collectAll kind sources children units
  | .enum decl, units =>
    match kind with
    | .struct => .idle units
    | .enum => units.admit sources (.enum decl)

def collectAll (kind : DeclKind) (sources : SourceTable) : List Declaration → Units → Discovery
  | [], units => .idle units
  | d :: ds, units => (collect kind sources d units).andThen (collectAll kind sources ds)

end

/-- **Collects structs, then enums**, in two walks over the same tree.  So all structs come before
all enums, and where a struct cannot be collected no enum is. -/
def discover (root : Declaration) (sources : SourceTable) (units : Units) : Discovery :=
  (root.collect .struct sources units).andThen (root.collect .enum sources)

end Declaration

namespace Scope

def discover (scope : Scope) (sources : SourceTable) (units : Units) : Discovery :=
  Discovery.andThen ⟨units, [.scopeEntered scope.name scope.root.name], none⟩
    (scope.root.discover sources)

/-- **Searches a row of scopes**, each one with the units that those before it have left.  A
failure ends the row: the scopes behind it are not entered, and no event speaks of them. -/
def discoverAll (sources : SourceTable) : List Scope → Units → Discovery
  | [], units => .idle units
  | scope :: scopes, units => (scope.discover sources units).andThen (discoverAll sources scopes)

end Scope

namespace DeclarationTree

/-- **Searches all scopes**, those of the platform like those of the user, in the order
of the tree. -/
def discoverAll (tree : DeclarationTree) : Logged GenerationError Units :=
  (Scope.discoverAll tree.sources tree.scopes .empty).toLogged

/-- **Searches the scopes of the user.**  Those of the platform are all reported as left out before
the search begins. -/
def discover (tree : DeclarationTree) : Logged GenerationError Units :=
  ⟨tree.externalScopes.map fun s => Event.scopeSkipped s.name, .ok ()⟩ >>= fun () =>
    (Scope.discoverAll tree.sources tree.ownedScopes .empty).toLogged

end DeclarationTree

end WireHeaders
