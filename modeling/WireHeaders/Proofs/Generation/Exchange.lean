import WireHeaders.Proofs.Generation.Reached

/-!
# Exchanging the two directions

A declaration may ask to be written, to be read back, or both.  If the two are exchanged in a tree, the
headers for one direction become those for the other one.

## Main definitions

* `Direction.opposite` — the other direction
* `Metadata.exchange` — metadata that asks for the other direction
* `DeclarationTree.exchange` — the same on every declaration of a tree

## Main statements

* `Metadata.get?_exchange` — only the two tags change places
* `Scope.headers_exchange` — **the headers of exchanged scopes are those of the scopes in the other
  direction**, failures included
* `DeclarationTree.generate_exchange` — the same for the scopes of the user and for all scopes

## Design notes

The proof follows the search: what is met in an exchanged tree is exchanged, the same is found for the
same source units, and a list of a direction takes what the list of the other one took.
-/

namespace WireHeaders

/-! ## Exchanged declarations -/

/-- **The other direction.** -/
def Direction.opposite : Direction → Direction
  | serialize => deserialize
  | deserialize => serialize

namespace Metadata

/-- **Metadata that asks for the other direction**: the entries of the two tags change places, with
their values. -/
def exchange (m : Metadata) : Metadata :=
  { m with
    entries := (m.entries.assign Key.serialize (m.get? Key.deserialize)).assign Key.deserialize
      (m.get? Key.serialize) }

/-- The tag that a tag is exchanged for; other keys stay. -/
def exchangeKey (key : String) : String :=
  if key = Key.serialize then Key.deserialize
  else if key = Key.deserialize then Key.serialize
  else key

/-- **Only the two tags change places.** -/
theorem get?_exchange (m : Metadata) (key : String) :
    m.exchange.get? key = m.get? (exchangeKey key) := by
  show ((m.entries.assign _ _).assign _ _).get? key = _
  rw [SortedMap.get?_assign, SortedMap.get?_assign, exchangeKey]
  simp only [Std.LawfulEqOrd.compare_eq_iff_eq]
  by_cases first : key = Key.serialize
  · subst first
    rfl
  · by_cases second : key = Key.deserialize
    · subst second
      rfl
    · simp only [first, second, if_false]
      rfl

@[simp]
theorem allows_exchange (m : Metadata) (direction : Direction) :
    m.exchange.allows direction = m.allows direction.opposite := by
  unfold allows
  rw [has_eq_isSome_get?, has_eq_isSome_get?, get?_exchange]
  cases direction <;> rfl

@[simp]
theorem isExported_exchange (m : Metadata) : m.exchange.isExported = m.isExported := by
  rw [isExported, allows_exchange, allows_exchange, Bool.or_comm]
  rfl

@[simp]
theorem convention_exchange (m : Metadata) : m.exchange.convention = m.convention := by
  unfold convention renameAll?
  rw [get?_exchange]
  rfl

end Metadata

/-- A struct that asks for the other direction. -/
def StructDecl.exchange (decl : StructDecl) : StructDecl :=
  { decl with metadata := decl.metadata.exchange }

/-- An enum that asks for the other direction. -/
def EnumDecl.exchange (decl : EnumDecl) : EnumDecl :=
  { decl with metadata := decl.metadata.exchange }

namespace TypeDecl

/-- A type that asks for the other direction. -/
def exchange : TypeDecl → TypeDecl
  | .struct decl => .struct decl.exchange
  | .enum decl => .enum decl.exchange

@[simp]
theorem kind_exchange (d : TypeDecl) : d.exchange.kind = d.kind := by
  cases d <;> rfl

@[simp]
theorem name_exchange (d : TypeDecl) : d.exchange.name = d.name := by
  cases d <;> rfl

@[simp]
theorem source_exchange (d : TypeDecl) : d.exchange.source = d.source := by
  cases d <;> rfl

@[simp]
theorem metadata_exchange (d : TypeDecl) : d.exchange.metadata = d.metadata.exchange := by
  cases d <;> rfl

/-- What is written for a type does not depend on the directions that it asks for. -/
@[simp]
theorem serializer_exchange (d : TypeDecl) (convention : Option Convention) :
    serializer (d.exchange, convention) = serializer (d, convention) := by
  cases d with
  | struct decl => rfl
  | enum decl =>
      have number : decl.exchange.metadata.has Key.asNumber = decl.metadata.has Key.asNumber := by
        show decl.metadata.exchange.has Key.asNumber = _
        rw [Metadata.has_eq_isSome_get?, Metadata.has_eq_isSome_get?, Metadata.get?_exchange]
        rfl
      show Serializer.enumLines _ _ = Serializer.enumLines _ _
      rw [Serializer.enumLines, Serializer.enumLines, number]
      rfl

end TypeDecl

namespace Declaration

mutual

/-- **A declaration in which everything asks for the other direction.** -/
def exchange : Declaration → Declaration
  | .container name children => .container name (exchangeAll children)
  | .struct decl children => .struct decl.exchange (exchangeAll children)
  | .enum decl => .enum decl.exchange

/-- A row of declarations in which everything asks for the other direction. -/
def exchangeAll : List Declaration → List Declaration
  | [] => []
  | d :: ds => exchange d :: exchangeAll ds

end

mutual

/-- A search meets the same structs, exchanged. -/
theorem outerStructs_exchange (d : Declaration) :
    d.exchange.outerStructs = d.outerStructs.map StructDecl.exchange := by
  match d with
  | .container _ children => exact outerStructsIn_exchangeAll children
  | .struct _ _ => rfl
  | .enum _ => rfl

theorem outerStructsIn_exchangeAll (ds : List Declaration) :
    outerStructsIn (exchangeAll ds) = (outerStructsIn ds).map StructDecl.exchange := by
  match ds with
  | [] => rfl
  | d :: ds =>
      rw [exchangeAll, outerStructsIn, outerStructs_exchange d, outerStructsIn_exchangeAll ds,
        outerStructsIn, List.map_append]

end

mutual

/-- A search meets the same enums, exchanged. -/
theorem allEnums_exchange (d : Declaration) :
    d.exchange.allEnums = d.allEnums.map EnumDecl.exchange := by
  match d with
  | .container _ children => exact allEnumsIn_exchangeAll children
  | .struct _ children => exact allEnumsIn_exchangeAll children
  | .enum _ => rfl

theorem allEnumsIn_exchangeAll (ds : List Declaration) :
    allEnumsIn (exchangeAll ds) = (allEnumsIn ds).map EnumDecl.exchange := by
  match ds with
  | [] => rfl
  | d :: ds =>
      rw [exchangeAll, allEnumsIn, allEnums_exchange d, allEnumsIn_exchangeAll ds, allEnumsIn,
        List.map_append]

end

/-- **What is met in an exchanged declaration is exchanged.** -/
theorem candidates_exchange (d : Declaration) (kind : DeclKind) :
    d.exchange.candidates kind = (d.candidates kind).map TypeDecl.exchange := by
  cases kind with
  | struct =>
      rw [candidates, candidates, outerStructs_exchange, List.map_map, List.map_map]
      rfl
  | enum =>
      rw [candidates, candidates, allEnums_exchange, List.map_map, List.map_map]
      rfl

end Declaration

/-! ## Exchanged searches -/

namespace TypeDecl

variable (sources : SourceTable)

/-- **The same is found, exchanged.** -/
theorem finds_exchange (ds : List TypeDecl) :
    finds sources (ds.map exchange) =
      (finds sources ds).map fun find => (find.1, find.2.exchange) := by
  induction ds with
  | nil => rfl
  | cons d ds ih =>
      rw [List.map_cons, finds, finds, metadata_exchange, Metadata.isExported_exchange,
        source_exchange, ih]
      split
      · cases sources.get? d.source <;> rfl
      · rfl

/-- A search of exchanged declarations fails at the same one. -/
theorem firstUnresolved?_exchange (ds : List TypeDecl) :
    firstUnresolved? sources (ds.map exchange) = (firstUnresolved? sources ds).map exchange := by
  have same : isUnresolved sources ∘ exchange = isUnresolved sources := by
    funext d
    simp [isUnresolved]
  rw [firstUnresolved?, firstUnresolved?, List.find?_map, same]

theorem unresolvedError_exchange (d : TypeDecl) :
    d.exchange.unresolvedError = d.unresolvedError := by
  rw [unresolvedError, unresolvedError, source_exchange, name_exchange]

end TypeDecl

namespace Units

/-- The finds of a path, exchanged. -/
theorem findsAt_exchange (p : Path) (finds : List Find) :
    findsAt p (finds.map fun find => (find.1, find.2.exchange)) =
      (findsAt p finds).map fun find => (find.1, find.2.exchange) := by
  rw [findsAt, findsAt, List.filter_map]
  rfl

/-- **The blocks of a unit are those of the exchanged unit in the other direction.** -/
theorem blocks_exchange (finds : List Find) (p : Path) (kind : DeclKind) (direction : Direction) :
    HeaderOptions.blocks direction kind
        ((empty.addAll (finds.map fun find => (find.1, find.2.exchange))).unitAt p) =
      HeaderOptions.blocks direction.opposite kind ((empty.addAll finds).unitAt p) := by
  rw [HeaderOptions.blocks, HeaderOptions.blocks, listed_addAll_empty, listed_addAll_empty,
    findsAt_exchange, List.filter_map, List.map_map, List.map_map, List.map_map]
  have takes : (fun find : Find => SourceUnit.takes kind direction find.2) ∘
      (fun find : Find => (find.1, find.2.exchange)) =
        fun find => SourceUnit.takes kind direction.opposite find.2 := by
    funext find
    simp [SourceUnit.takes]
  rw [takes]
  refine List.map_congr_left ?_
  intro find _
  simp

end Units

/-! ## Exchanged scopes and trees -/

namespace Scope

/-- **A scope in which everything asks for the other direction.** -/
def exchange (scope : Scope) : Scope := { scope with root := scope.root.exchange }

theorem candidates_exchange (scope : Scope) :
    scope.exchange.candidates = scope.candidates.map TypeDecl.exchange := by
  rw [candidates, candidates, List.map_append]
  show scope.root.exchange.candidates .struct ++ scope.root.exchange.candidates .enum = _
  rw [Declaration.candidates_exchange, Declaration.candidates_exchange]

/-- **The headers of exchanged scopes are those of the scopes in the other direction**, or the search
fails at the same declaration. -/
theorem headers_exchange (options : HeaderOptions) (direction : Direction) (sources : SourceTable)
    (scopes : List Scope) : headers options direction sources (scopes.map exchange) =
      headers options direction.opposite sources scopes := by
  have met : (scopes.map exchange).flatMap candidates =
      (scopes.flatMap candidates).map TypeDecl.exchange := by
    rw [List.flatMap_map, List.map_flatMap]
    simp only [candidates_exchange]
  rw [headers_eq, headers_eq, Units.found, Units.found, met, TypeDecl.firstUnresolved?_exchange,
    TypeDecl.finds_exchange]
  cases TypeDecl.firstUnresolved? sources (scopes.flatMap candidates) with
  | some d => exact congrArg _ (TypeDecl.unresolvedError_exchange d)
  | none =>
      refine HeaderOptions.result_generate_congr (Units.forall₂_toList_of_head? (R := fun u u' =>
        options.unitText direction u = options.unitText direction.opposite u') ?_ ?_)
      · intro p
        rw [Units.findsAt_exchange, List.head?_map, Option.map_map]
        rfl
      · intro p
        exact HeaderOptions.unitText_congr fun kind => Units.blocks_exchange _ p kind direction

end Scope

namespace DeclarationTree

/-- **A tree in which everything asks for the other direction.** -/
def exchange (tree : DeclarationTree) : DeclarationTree :=
  { tree with scopes := tree.scopes.map Scope.exchange }

theorem ownedScopes_exchange (tree : DeclarationTree) :
    tree.exchange.ownedScopes = tree.ownedScopes.map Scope.exchange := by
  rw [ownedScopes, ownedScopes, exchange, List.filter_map]
  rfl

/-- **The two directions are symmetric.**  Headers in the other direction are the headers of the
exchanged tree, or fail in the same way, whether the scopes of the user are searched or all of them. -/
theorem generate_exchange (options : HeaderOptions) (direction : Direction)
    (tree : DeclarationTree) :
    (tree.discover >>= options.generate direction.opposite).result =
        (tree.exchange.discover >>= options.generate direction).result ∧
      (tree.discoverAll >>= options.generate direction.opposite).result =
        (tree.exchange.discoverAll >>= options.generate direction).result := by
  constructor
  · rw [headers_of_discover, headers_of_discover, ownedScopes_exchange]
    exact (Scope.headers_exchange options direction tree.sources tree.ownedScopes).symm
  · exact (Scope.headers_exchange options direction tree.sources tree.scopes).symm

end DeclarationTree

end WireHeaders
