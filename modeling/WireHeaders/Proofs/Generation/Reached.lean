import WireHeaders.Proofs.Header.Blocks
import WireHeaders.Proofs.Output.InMemory

/-!
# From scopes to headers

The headers of a row of scopes, described by the declarations in the scopes and not by a search.

## Main definitions

* `Scope.headers` — the headers of a row of scopes
* `Scope.reached` — the declarations that a source unit is made from
* `Scope.serializers` — the serializers that go to the header of a source unit
* `headersAt` — the headers of one source unit

## Main statements

* `Scope.headers_eq` — headers are made **from the units that are found, if nothing is unresolved**
* `Scope.headersAt_of_headers` — **the header of a source unit, from what the unit is made from**
* `Scope.mem_headers` — the place and the text of each header
-/

namespace WireHeaders

/-- **The headers of one source unit** among those of a pass. -/
def headersAt (p : Path) (files : List GeneratedFile) : List GeneratedFile :=
  files.filter fun file => compare p file.source = .eq

namespace Scope

/-- **The headers of a row of scopes**: those of the units that a search leaves. -/
def headers (options : HeaderOptions) (direction : Direction) (sources : SourceTable)
    (scopes : List Scope) : Except GenerationError (List GeneratedFile) :=
  ((discoverAll sources scopes .empty).toLogged >>= options.generate direction).result

/-- **The declarations that a source unit is made from**: those that are met, ask to be exported and
belong to the unit, in the order in which they are met. -/
def reached (sources : SourceTable) (scopes : List Scope) (kind : DeclKind) (p : Path) :
    List TypeDecl :=
  (scopes.flatMap fun scope => scope.kept kind).filter fun d => d.belongsTo sources p

/-- **The serializers of a kind** that go to the header of a source unit. -/
def serializers (direction : Direction) (sources : SourceTable) (scopes : List Scope)
    (kind : DeclKind) (p : Path) : List (List String) :=
  ((reached sources scopes kind p).filter fun d => d.metadata.allows direction).map fun d =>
    TypeDecl.serializer (d, d.metadata.convention)

variable {options : HeaderOptions} {direction : Direction} {sources : SourceTable}
  {scopes : List Scope} {files : List GeneratedFile} {p : Path}

/-! ## The units that are found -/

/-- **A source unit is there iff it is made from something.** -/
theorem get?_found_eq_none_iff
    (resolved : TypeDecl.firstUnresolved? sources (scopes.flatMap candidates) = none) :
    (Units.found sources scopes).get? p = none ↔ ∀ kind, reached sources scopes kind p = [] := by
  rw [← Option.not_isSome_iff_eq_none, Units.isSome_get?_found resolved]
  simp only [reached, List.filter_eq_nil_iff, List.mem_flatMap, TypeDecl.belongsTo]
  constructor
  · rintro absent kind d ⟨scope, listed, kept⟩ belongs
    obtain ⟨q, path, equal⟩ := (Option.any_eq_true _ _).mp belongs
    exact absent ⟨scope, listed, kind, d, kept, q, path, of_decide_eq_true equal⟩
  · rintro empty ⟨scope, listed, kind, d, kept, q, path, equal⟩
    exact empty kind d ⟨scope, listed, kept⟩ (by simp [path, equal])

/-- **The header of a source unit holds the serializers of what the unit is made from.** -/
theorem unitText_found
    (resolved : TypeDecl.firstUnresolved? sources (scopes.flatMap candidates) = none)
    {unit : SourceUnit} (present : (Units.found sources scopes).get? p = some unit) :
    options.unitText direction unit =
      options.assemble (serializers direction sources scopes .struct p)
        (serializers direction sources scopes .enum p) := by
  have blocks (kind : DeclKind) :
      HeaderOptions.blocks direction kind unit = serializers direction sources scopes kind p := by
    rw [HeaderOptions.blocks, ← Units.unitAt_of_get? present, Units.listed_found resolved,
      serializers, reached, List.filter_filter, List.map_map]
    simp only [Bool.and_comm]
    rfl
  rw [HeaderOptions.unitText_eq_assemble, blocks, blocks]

/-! ## The headers that are made -/

/-- **Headers are made from the units that are found**, if nothing is unresolved. -/
theorem headers_eq (options : HeaderOptions) (direction : Direction) (sources : SourceTable)
    (scopes : List Scope) : headers options direction sources scopes =
      match TypeDecl.firstUnresolved? sources (scopes.flatMap candidates) with
      | some d => .error d.unresolvedError
      | none => (options.generate direction (Units.found sources scopes)).result := by
  have left := outcome_discoverAll sources scopes .empty
  rw [Units.outcome_admitAll] at left
  obtain ⟨units, failed⟩ := Prod.mk.inj left
  rw [headers, Logged.result_bind, Discovery.toLogged, failed]
  cases TypeDecl.firstUnresolved? sources (scopes.flatMap candidates) with
  | some d => rfl
  | none =>
      rw [Units.found, ← units]
      rfl

/-- Headers are made iff nothing is unresolved and each unit that is found can have one. -/
theorem headers_eq_ok_iff : headers options direction sources scopes = .ok files ↔
    TypeDecl.firstUnresolved? sources (scopes.flatMap candidates) = none ∧
      (options.generate direction (Units.found sources scopes)).result = .ok files := by
  rw [headers_eq]
  cases TypeDecl.firstUnresolved? sources (scopes.flatMap candidates) <;> simp

/-- **The place and the text of each header.** -/
theorem mem_headers (made : headers options direction sources scopes = .ok files)
    {file : GeneratedFile} (member : file ∈ files) :
    options.outputPath file.source = .ok file.path ∧
      file.content = options.assemble (serializers direction sources scopes .struct file.source)
        (serializers direction sources scopes .enum file.source) := by
  obtain ⟨resolved, made⟩ := headers_eq_ok_iff.mp made
  obtain ⟨unit, listed, placed, text⟩ := (HeaderOptions.mem_generate_iff made).mp member
  exact ⟨placed, text.trans (unitText_found resolved (SortedMap.get?_of_mem listed))⟩

/-- **A source unit has one header at most.** -/
theorem length_headersAt_le_one (made : headers options direction sources scopes = .ok files)
    (p : Path) : (headersAt p files).length ≤ 1 := by
  have distinct := (HeaderOptions.sources_distinct_of_generate (headers_eq_ok_iff.mp made).2).filter
    fun file => compare p file.source = .eq
  have here : ∀ file ∈ headersAt p files, compare p file.source = .eq := fun file member =>
    of_decide_eq_true (List.mem_filter.mp member).2
  change (headersAt p files).Pairwise _ at distinct
  -- Two headers would be of units that both compare equal to the path.
  match headersAt p files, distinct, here with
  | [], _, _ => exact Nat.zero_le 1
  | [_], _, _ => exact Nat.le_refl 1
  | f :: g :: _, distinct, here =>
    have apart := List.rel_of_pairwise_cons distinct List.mem_cons_self
    have first := here f List.mem_cons_self
    have second := here g (List.mem_cons_of_mem _ List.mem_cons_self)
    exact absurd (Std.TransCmp.eq_trans (Std.OrientedCmp.eq_symm first) second) apart

/-- What a source unit is made from does not depend on how its path is spelled. -/
theorem serializers_congr {q : Path} (equal : compare p q = .eq) (kind : DeclKind) :
    serializers direction sources scopes kind p = serializers direction sources scopes kind q := by
  unfold serializers reached TypeDecl.belongsTo
  simp only [Std.TransCmp.congr_left equal]

/-- **The header of a source unit, from what the unit is made from.**  There is one iff there is
something in the unit. -/
theorem headersAt_of_headers (made : headers options direction sources scopes = .ok files)
    (p : Path) :
    (headersAt p files = [] ∧ ∀ kind, reached sources scopes kind p = []) ∨
      ∃ file, headersAt p files = [file] ∧ (∃ kind, reached sources scopes kind p ≠ []) ∧
        options.outputPath p = .ok file.path ∧
        file.content = options.assemble (serializers direction sources scopes .struct p)
          (serializers direction sources scopes .enum p) := by
  obtain ⟨resolved, listed⟩ := headers_eq_ok_iff.mp made
  cases stored : (Units.found sources scopes).get? p with
  | none =>
      refine Or.inl ⟨?_, (get?_found_eq_none_iff resolved).mp stored⟩
      refine List.filter_eq_nil_iff.mpr ?_
      intro file member equal
      obtain ⟨unit, entry, -⟩ := (HeaderOptions.mem_generate_iff listed).mp member
      have present : (Units.found sources scopes).get? p = some unit :=
        SortedMap.get?_eq_some_iff.mpr ⟨_, entry, of_decide_eq_true equal⟩
      rw [stored] at present
      cases present
  | some unit =>
      obtain ⟨source, entry, equal⟩ := SortedMap.get?_eq_some_iff.mp stored
      obtain ⟨file, member, rfl, placed, text⟩ :=
        HeaderOptions.exists_mem_of_generate listed entry
      have here : file ∈ headersAt p files := List.mem_filter.mpr ⟨member, decide_eq_true equal⟩
      refine Or.inr ⟨file, ?_, ?_, ?_, ?_⟩
      · obtain ⟨only, alone⟩ := List.length_eq_one_iff.mp
          (Nat.le_antisymm (length_headersAt_le_one made p) (List.length_pos_of_mem here))
        rw [alone] at here ⊢
        rw [List.mem_singleton.mp here]
      · refine not_forall.mp fun empty => ?_
        rw [(get?_found_eq_none_iff resolved).mpr empty] at stored
        cases stored
      · exact HeaderOptions.outputPath_congr (Std.OrientedCmp.eq_symm equal) placed
      · rw [text, unitText_found resolved stored]

end Scope

/-- **The headers of a tree are those of the scopes of the user.** -/
theorem DeclarationTree.headers_of_discover (tree : DeclarationTree) (options : HeaderOptions)
    (direction : Direction) : (tree.discover >>= options.generate direction).result =
      Scope.headers options direction tree.sources tree.ownedScopes := by
  rw [Scope.headers, Logged.result_bind, Logged.result_bind]
  rfl

theorem generated_eq_headers (options : HeaderOptions) (tree : DeclarationTree) :
    generated options tree = Scope.headers options .serialize tree.sources tree.ownedScopes := by
  rw [← tree.headers_of_discover, generated, headersOf, Logged.result_bind]
  rfl

end WireHeaders
