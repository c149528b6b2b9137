import WireHeaders.Proofs.Generation.Reached
import WireHeaders.Proofs.Output.History

/-!
# What a header depends on

A header is made from the declarations that a search reaches and that belong to its source unit.
Nothing else in a tree has a say in it.

## Main definitions

* `DeclarationTree.reached` — the declarations that a source unit of a tree is made from
* `DeclarationTree.restrict` — a tree without everything that one source unit is not made from
* `TypeDecl.unplaced` — a declaration without the id of its source unit

## Main statements

* `generated_restrict` — **what a source unit is not made from can be left out of the tree**
* `generated_local` — **trees that agree on one source unit have the same header for it**, and a pass
  over one after the other leaves the stored header as it was

## Design notes

Ids only name source units inside one tree.  Two trees may give different ids to the same file, so
declarations are compared without them.
-/

namespace WireHeaders

/-! ## Declarations of a source unit -/

namespace TypeDecl

/-- **A declaration without the id of its source unit.** -/
def unplaced : TypeDecl → TypeDecl
  | .struct decl => .struct { decl with source := "" }
  | .enum decl => .enum { decl with source := "" }

@[simp]
theorem metadata_unplaced (d : TypeDecl) : d.unplaced.metadata = d.metadata := by
  cases d <;> rfl

/-- What is written for a type does not depend on the id of its source unit. -/
@[simp]
theorem serializer_unplaced (d : TypeDecl) (convention : Option Convention) :
    serializer (d.unplaced, convention) = serializer (d, convention) := by
  cases d <;> rfl

/-- A declaration that stands for itself, with nothing declared inside it. -/
def leaf : TypeDecl → Declaration
  | .struct decl => .struct decl []
  | .enum decl => .enum decl

end TypeDecl

namespace DeclarationTree

/-- **The declarations that a source unit is made from**: those of the scopes of the user that are
met, ask to be exported and belong to the unit, in the order in which they are met. -/
def reached (tree : DeclarationTree) (kind : DeclKind) (p : Path) : List TypeDecl :=
  Scope.reached tree.sources tree.ownedScopes kind p

/-- Serializers do not depend on the ids of source units. -/
theorem serializers_congr {first second : DeclarationTree} {kind : DeclKind} {p : Path}
    (agree : (first.reached kind p).map TypeDecl.unplaced =
      (second.reached kind p).map TypeDecl.unplaced) (direction : Direction) :
    Scope.serializers direction first.sources first.ownedScopes kind p =
      Scope.serializers direction second.sources second.ownedScopes kind p := by
  have unplaced (tree : DeclarationTree) :
      Scope.serializers direction tree.sources tree.ownedScopes kind p =
        (((tree.reached kind p).map TypeDecl.unplaced).filter fun d =>
          d.metadata.allows direction).map fun d =>
            TypeDecl.serializer (d, d.metadata.convention) := by
    simp [Scope.serializers, reached, List.filter_map, Function.comp_def]
  rw [unplaced, unplaced, agree]

end DeclarationTree

/-! ## Everything else left out -/

namespace Declaration

/-- What is met among declarations in which nothing is declared. -/
theorem candidates_leaves (name : String) (ds : List TypeDecl) (kind : DeclKind) :
    (container name (ds.map TypeDecl.leaf)).candidates kind = ds.filter fun d => d.kind = kind := by
  cases kind with
  | struct =>
      show (outerStructsIn (ds.map TypeDecl.leaf)).map TypeDecl.struct = _
      induction ds with
      | nil => rfl
      | cons d ds ih =>
          rw [List.map_cons, outerStructsIn, List.map_append, ih]
          cases d <;> rfl
  | enum =>
      show (allEnumsIn (ds.map TypeDecl.leaf)).map TypeDecl.enum = _
      induction ds with
      | nil => rfl
      | cons d ds ih =>
          rw [List.map_cons, allEnumsIn, List.map_append, ih]
          cases d <;> rfl

end Declaration

/-- Whether a declaration is among those that a source unit is made from. -/
def TypeDecl.isFor (sources : SourceTable) (p : Path) (d : TypeDecl) : Bool :=
  d.metadata.isExported && d.belongsTo sources p

/-- **A scope without everything that one source unit is not made from.** -/
def Scope.restrict (sources : SourceTable) (p : Path) (scope : Scope) : Scope :=
  { scope with
    root := .container scope.root.name
      ((scope.candidates.filter (TypeDecl.isFor sources p)).map TypeDecl.leaf) }

/-- **A tree without everything that one source unit is not made from**: without the scopes of the
platform, without declarations that do not belong to the unit or do not ask to be exported, and
without the source ids that none of the declarations left has. -/
def DeclarationTree.restrict (tree : DeclarationTree) (p : Path) : DeclarationTree where
  sources := tree.sources.restrict fun id =>
    ((tree.ownedScopes.flatMap Scope.candidates).filter (TypeDecl.isFor tree.sources p)).any
      fun d => d.source = id
  scopes := tree.ownedScopes.map (Scope.restrict tree.sources p)

theorem Scope.candidates_restrict (sources : SourceTable) (p : Path) (scope : Scope) :
    (scope.restrict sources p).candidates = scope.candidates.filter (TypeDecl.isFor sources p) := by
  have kind (wanted : DeclKind) : (scope.restrict sources p).root.candidates wanted =
      (scope.root.candidates wanted).filter (TypeDecl.isFor sources p) := by
    rw [restrict, Declaration.candidates_leaves, ← filter_kind_candidates, List.filter_filter,
      List.filter_filter]
    simp only [Bool.and_comm]
  rw [candidates, kind, kind, ← List.filter_append]
  rfl

/-- The finds among the declarations of one source unit. -/
theorem TypeDecl.finds_filter_isFor {sources sources' : SourceTable} {p : Path} {ds : List TypeDecl}
    (resolved : firstUnresolved? sources ds = none)
    (agree : ∀ d ∈ ds, d.isFor sources p → sources'.get? d.source = sources.get? d.source) :
    finds sources' (ds.filter (isFor sources p)) = Units.findsAt p (finds sources ds) := by
  induction ds with
  | nil => rfl
  | cons d ds ih =>
      have rest := ih (firstUnresolved?_tail resolved) fun e later =>
        agree e (List.mem_cons_of_mem _ later)
      by_cases exported : d.metadata.isExported
      · have known := firstUnresolved?_eq_none_iff.mp resolved d List.mem_cons_self exported
        obtain ⟨q, found⟩ := Option.isSome_iff_exists.mp known
        have wanted : d.isFor sources p = decide (compare p q = .eq) := by
          simp [isFor, exported, belongsTo, found]
        have whole : finds sources (d :: ds) = (q, d) :: finds sources ds := by
          simp [finds, exported, found]
        rw [whole, Units.findsAt_cons, List.filter_cons, wanted]
        by_cases equal : compare p q = .eq
        · have found' : sources'.get? d.source = some q := by
            rw [agree d List.mem_cons_self (by simp [wanted, equal]), found]
          simp [equal, finds, exported, found', rest]
        · simp [equal, rest]
      · have unwanted : d.isFor sources p = false := by simp [isFor, exported]
        have whole : finds sources (d :: ds) = finds sources ds := by simp [finds, exported]
        rw [whole, List.filter_cons_of_neg (by simp [unwanted]), rest]

namespace DeclarationTree

variable {tree : DeclarationTree} {p : Path}

theorem ownedScopes_restrict (tree : DeclarationTree) (p : Path) :
    (tree.restrict p).ownedScopes = tree.ownedScopes.map (Scope.restrict tree.sources p) := by
  refine List.filter_eq_self.mpr ?_
  intro scope member
  obtain ⟨owned, listed, rfl⟩ := List.mem_map.mp member
  exact (List.mem_filter.mp listed).2

/-- What is met in the tree that is left. -/
theorem candidates_restrict (tree : DeclarationTree) (p : Path) :
    (tree.restrict p).ownedScopes.flatMap Scope.candidates =
      (tree.ownedScopes.flatMap Scope.candidates).filter (TypeDecl.isFor tree.sources p) := by
  rw [ownedScopes_restrict, List.flatMap_map, List.filter_flatMap]
  simp only [Scope.candidates_restrict]

/-- The declarations that are left have their source units. -/
theorem sources_restrict {d : TypeDecl} (met : d ∈ tree.ownedScopes.flatMap Scope.candidates)
    (wanted : d.isFor tree.sources p) :
    (tree.restrict p).sources.get? d.source = tree.sources.get? d.source := by
  rw [restrict, SortedMap.get?_restrict, if_pos]
  · exact List.any_eq_true.mpr ⟨d, List.mem_filter.mpr ⟨met, wanted⟩, decide_eq_true rfl⟩
  · intro id equal
    rw [Std.LawfulEqOrd.eq_of_compare equal]

/-- The search of the tree that is left does not fail either. -/
theorem firstUnresolved?_restrict
    (resolved : TypeDecl.firstUnresolved? tree.sources
      (tree.ownedScopes.flatMap Scope.candidates) = none) :
    TypeDecl.firstUnresolved? (tree.restrict p).sources
      ((tree.restrict p).ownedScopes.flatMap Scope.candidates) = none := by
  rw [candidates_restrict]
  refine TypeDecl.firstUnresolved?_eq_none_iff.mpr ?_
  intro d member exported
  obtain ⟨met, wanted⟩ := List.mem_filter.mp member
  rw [sources_restrict met wanted]
  exact TypeDecl.firstUnresolved?_eq_none_iff.mp resolved d met exported

/-- **The search of the tree that is left finds what the whole search finds for the source unit.** -/
theorem found_restrict
    (resolved : TypeDecl.firstUnresolved? tree.sources
      (tree.ownedScopes.flatMap Scope.candidates) = none) :
    Units.found (tree.restrict p).sources (tree.restrict p).ownedScopes =
      Units.empty.addAll (Units.findsAt p
        (TypeDecl.finds tree.sources (tree.ownedScopes.flatMap Scope.candidates))) := by
  rw [Units.found, candidates_restrict, TypeDecl.finds_filter_isFor resolved]
  intro d met wanted
  exact sources_restrict met wanted

end DeclarationTree

/-- **What a source unit is not made from can be left out of the tree.**  A pass over what is left
makes the header of the unit and no other one. -/
theorem generated_restrict {options : HeaderOptions} {tree : DeclarationTree}
    {files : List GeneratedFile} (made : generated options tree = .ok files) (p : Path) :
    generated options (tree.restrict p) = .ok (headersAt p files) := by
  rw [generated_eq_headers] at made ⊢
  obtain ⟨resolved, made⟩ := Scope.headers_eq_ok_iff.mp made
  refine Scope.headers_eq_ok_iff.mpr ⟨DeclarationTree.firstUnresolved?_restrict resolved, ?_⟩
  refine HeaderOptions.generate_filter (fun source => compare p source = .eq) ?_ made
  rw [DeclarationTree.found_restrict resolved]
  refine (Units.sameTypes_findsAt p _).imp ?_
  intro a b alike
  exact ⟨alike.1, HeaderOptions.unitText_congr (HeaderOptions.blocks_of_sameTypes alike.2)⟩

/-! ## Two trees -/

/-- **A header depends on what its source unit is made from and on nothing else.**  If two trees make
a unit from the same declarations, either both have no header for it or both have the same one, and
a pass over the second tree leaves what a pass over the first one stored.  Everything else can be left
out of a tree: the header stays what it is. -/
theorem generated_local {options : HeaderOptions} {first second : DeclarationTree}
    {files files' : List GeneratedFile} (made : generated options first = .ok files)
    (made' : generated options second = .ok files') :
    (∀ p, (∀ kind, (first.reached kind p).map TypeDecl.unplaced =
        (second.reached kind p).map TypeDecl.unplaced) →
      (headersAt p files = [] ∧ headersAt p files' = []) ∨
      ∃ file file', headersAt p files = [file] ∧ headersAt p files' = [file'] ∧
        file'.path = file.path ∧ file'.content = file.content ∧
        ∀ store, ((Pass.mk options first).run store).2.get? file.path = some file.content ∧
          ((Pass.mk options second).run ((Pass.mk options first).run store).2).2.get? file.path =
            some file.content) ∧
    ∀ p, generated options (first.restrict p) = .ok (headersAt p files) := by
  refine ⟨?_, generated_restrict made⟩
  intro p agree
  have single := Scope.headersAt_of_headers (generated_eq_headers options first ▸ made) p
  have single' := Scope.headersAt_of_headers (generated_eq_headers options second ▸ made') p
  have present (kind : DeclKind) : first.reached kind p = [] ↔ second.reached kind p = [] := by
    rw [← List.map_eq_nil_iff (f := TypeDecl.unplaced), agree, List.map_eq_nil_iff]
  rcases single with ⟨none, empty⟩ | ⟨file, here, ⟨kind, met⟩, facts⟩
  · rcases single' with ⟨none', -⟩ | ⟨file', -, ⟨kind, met'⟩, -⟩
    · exact Or.inl ⟨none, none'⟩
    · exact absurd ((present kind).mp (empty kind)) met'
  · rcases single' with ⟨-, empty'⟩ | ⟨file', there, -, facts'⟩
    · exact absurd ((present kind).mpr (empty' kind)) met
    · obtain ⟨placed, text⟩ := facts
      obtain ⟨placed', text'⟩ := facts'
      have path : file'.path = file.path := Except.ok.inj (placed'.symm.trans placed)
      have content : file'.content = file.content := by
        rw [text, text', DeclarationTree.serializers_congr (agree .struct),
          DeclarationTree.serializers_congr (agree .enum)]
      have member : file ∈ files :=
        (List.mem_filter.mp (here ▸ List.mem_singleton_self file)).1
      have member' : file' ∈ files' :=
        (List.mem_filter.mp (there ▸ List.mem_singleton_self file')).1
      refine Or.inr ⟨file, file', here, there, path, content, ?_⟩
      intro store
      refine ⟨(Pass.mk options first).get?_run_of_mem store made member, ?_⟩
      rw [← path, ← content]
      exact (Pass.mk options second).get?_run_of_mem _ made' member'

/-- A struct that can be written. -/
def writable (name source : String) : StructDecl :=
  { StructDecl.named name source with metadata := Metadata.empty.flag Key.serialize }

/-- A tree with one struct. -/
def sparseTree : DeclarationTree where
  sources := .ofList [("1", ⟨"Source/Point.h"⟩)]
  scopes := [⟨"Game", false, .container "Game" [.struct (writable "Point" "1") []]⟩]

/-- A tree with the same struct under another id, among other scopes, types and source units. -/
def crowdedTree : DeclarationTree where
  sources := .ofList [("1", ⟨"Source/Line.h"⟩), ("2", ⟨"Source//Point.h"⟩), ("3", ⟨"Source/Area.h"⟩)]
  scopes := [
    ⟨"Engine", true, .container "Engine" [.struct (writable "Vector" "2") []]⟩,
    ⟨"Game", false, .container "Game" [.struct (.named "Hidden" "4") [],
      .struct (writable "Line" "1") [], .container "Shapes" [.struct (writable "Point" "2") []]]⟩]

/-- The header of a source unit with one struct that can be written and has no fields. -/
def writableHeader (name source path : String) : GeneratedFile :=
  ⟨⟨source⟩, ⟨path⟩, HeaderOptions.standard.assemble
    [Serializer.structLines (writable name "") none] []⟩

/-- What a pass over the tree with one struct stores for it stays as it is when a pass over the other
tree follows, and the other tree can be cut down to it. -/
theorem generated_local_sparse_crowded :
    ((Pass.mk .standard crowdedTree).run ((Pass.mk .standard sparseTree).run .empty).2).2.get?
        ⟨"Point.genjson.h"⟩ =
      some (writableHeader "Point" "Source/Point.h" "Point.genjson.h").content ∧
    generated .standard (crowdedTree.restrict ⟨"Source/Line.h"⟩) =
      .ok [writableHeader "Line" "Source/Line.h" "Line.genjson.h"] := by
  have sparse : generated .standard sparseTree =
      .ok [writableHeader "Point" "Source/Point.h" "Point.genjson.h"] := by decide +kernel
  have crowded : generated .standard crowdedTree =
      .ok [writableHeader "Line" "Source/Line.h" "Line.genjson.h",
        writableHeader "Point" "Source//Point.h" "Point.genjson.h"] := by decide +kernel
  have agree : ∀ kind, (sparseTree.reached kind ⟨"Source/Point.h"⟩).map TypeDecl.unplaced =
      (crowdedTree.reached kind ⟨"Source/Point.h"⟩).map TypeDecl.unplaced := by
    intro kind
    cases kind <;> decide
  refine ⟨?_, (generated_local crowded sparse).2 ⟨"Source/Line.h"⟩⟩
  rcases (generated_local sparse crowded).1 _ agree with ⟨none, -⟩ | ⟨file, -, here, -, -, -, stays⟩
  · exact absurd none (by decide)
  · cases here
    exact (stays .empty).2

end WireHeaders
