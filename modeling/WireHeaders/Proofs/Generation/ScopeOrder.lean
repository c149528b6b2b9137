import Mathlib.Data.List.FinRange
import Mathlib.Data.List.Sort
import WireHeaders.Proofs.Generation.Reached

/-!
# The order of scopes

Scopes may be searched in any order: the same headers are made, and only serializers inside a header
may change places.

## Main definitions

* `Scope.permute` — a row of scopes in another order
* `Scope.Contributes` — a scope with a declaration for a source unit

## Main statements

* `Scope.headers_of_perm` — **scopes in another order have headers in the same places**
* `flatMap_permute` — **what matters only where lists are not empty** is not seen if those stay in order
* `Scope.headers_permute` — both together: the same headers up to the order of serializers, and **the
  same headers altogether if scopes that share a source unit stay in order**

## Design notes

A scope may occur twice, so the order is a permutation of positions and not of scopes.
-/

namespace WireHeaders

universe u v

/-! ## Lists in another order -/

/-- Empty lists are not seen in a row of lists. -/
theorem flatMap_filter_nonempty {α : Type u} {β : Type v} (f : α → List β) (l : List α) :
    (l.filter fun a => !(f a).isEmpty).flatMap f = l.flatMap f := by
  induction l with
  | nil => rfl
  | cons a l ih =>
      cases here : f a with
      | nil => simp [here, ih]
      | cons b bs => simp [here, ih]

/-- **Lists make the same row in another order** if those that are not empty stay in order. -/
theorem flatMap_permute {α : Type u} {β : Type v} (f : α → List β) (l : List α)
    (σ : Equiv.Perm (Fin l.length))
    (kept : ∀ i j, i < j → f (l.get (σ i)) ≠ [] → f (l.get (σ j)) ≠ [] → σ i < σ j) :
    (List.ofFn fun i => l.get (σ i)).flatMap f = l.flatMap f := by
  let filled (i : Fin l.length) : Bool := !(f (l.get i)).isEmpty
  have skip (positions : List (Fin l.length)) :
      (positions.filter filled).flatMap (fun i => f (l.get i)) =
        positions.flatMap fun i => f (l.get i) :=
    flatMap_filter_nonempty _ positions
  -- The positions that count ascend in both rows, and they are the same.
  have order : ((List.finRange l.length).map σ).filter filled =
      (List.finRange l.length).filter filled := by
    have ascending := (List.sortedLT_finRange l.length).pairwise
    refine List.Pairwise.eq_of_mem_iff (r := (· < ·)) ?_ (ascending.filter _) ?_
    · refine List.pairwise_filter.mpr (List.pairwise_map.mpr (ascending.imp ?_))
      intro i j less here there
      exact kept i j less (by simpa [filled] using here) (by simpa [filled] using there)
    · intro i
      have met : i ∈ (List.finRange l.length).map σ :=
        List.mem_map.mpr ⟨σ.symm i, List.mem_finRange _, σ.apply_symm_apply i⟩
      simp only [List.mem_filter, met, List.mem_finRange]
  calc (List.ofFn fun i => l.get (σ i)).flatMap f
      = ((List.finRange l.length).map σ).flatMap fun i => f (l.get i) := by
        rw [List.ofFn_eq_map, List.flatMap_map, List.flatMap_map]
    _ = (List.finRange l.length).flatMap fun i => f (l.get i) := by rw [← skip, order, skip]
    _ = ((List.finRange l.length).map l.get).flatMap f := by rw [List.flatMap_map]
    _ = l.flatMap f := by rw [List.map_get_finRange]

/-! ## The finds of a row of scopes -/

namespace Scope

/-- **A row of scopes in another order.** -/
def permute (scopes : List Scope) (σ : Equiv.Perm (Fin scopes.length)) : List Scope :=
  List.ofFn fun i => scopes.get (σ i)

/-- **A scope contributes to a source unit** if a declaration of it is kept and belongs to the unit. -/
def Contributes (sources : SourceTable) (scope : Scope) (p : Path) : Prop :=
  ∃ kind, ∃ d ∈ scope.kept kind, d.belongsTo sources p

variable {options : HeaderOptions} {direction : Direction} {sources : SourceTable}
  {scopes scopes' : List Scope} {files : List GeneratedFile} {p : Path}

/-- **The finds of a row of scopes are those of each of them**, scope by scope. -/
theorem finds_flatMap_candidates
    (resolved : TypeDecl.firstUnresolved? sources (scopes.flatMap candidates) = none) :
    TypeDecl.finds sources (scopes.flatMap candidates) =
      scopes.flatMap fun scope => TypeDecl.finds sources scope.candidates := by
  induction scopes with
  | nil => rfl
  | cons scope scopes ih =>
      rw [List.flatMap_cons, List.flatMap_cons]
      rw [List.flatMap_cons, TypeDecl.firstUnresolved?_eq_none_iff] at resolved
      have first : TypeDecl.firstUnresolved? sources scope.candidates = none :=
        TypeDecl.firstUnresolved?_eq_none_iff.mpr fun d met =>
          resolved d (List.mem_append_left _ met)
      have rest : TypeDecl.firstUnresolved? sources (scopes.flatMap candidates) = none :=
        TypeDecl.firstUnresolved?_eq_none_iff.mpr fun d met =>
          resolved d (List.mem_append_right _ met)
      rw [TypeDecl.finds_append first, ih rest]

/-- A scope with a find for a source unit contributes to the unit. -/
theorem contributes_of_findsAt {scope : Scope}
    (found : Units.findsAt p (TypeDecl.finds sources scope.candidates) ≠ []) :
    scope.Contributes sources p := by
  obtain ⟨find, member⟩ := List.exists_mem_of_ne_nil _ found
  obtain ⟨listed, equal⟩ := List.mem_filter.mp member
  obtain ⟨met, exported, path⟩ := TypeDecl.of_mem_finds listed
  obtain ⟨kind, met⟩ := mem_candidates_iff.mp met
  refine ⟨kind, find.2, List.mem_filter.mpr ⟨met, exported⟩, ?_⟩
  rw [TypeDecl.belongsTo, path]
  exact equal

/-! ## Scopes in another order -/

theorem permute_perm (scopes : List Scope) (σ : Equiv.Perm (Fin scopes.length)) :
    (permute scopes σ).Perm scopes := by
  have listed := σ.ofFn_comp_perm scopes.get
  rw [List.ofFn_get] at listed
  exact listed

/-- What a source unit is made from, scopes in another order. -/
theorem reached_perm (perm : scopes.Perm scopes') (kind : DeclKind) (p : Path) :
    (reached sources scopes kind p).Perm (reached sources scopes' kind p) :=
  (perm.flatMap_right _).filter _

theorem serializers_perm (perm : scopes.Perm scopes') (kind : DeclKind) (p : Path) :
    (serializers direction sources scopes kind p).Perm
      (serializers direction sources scopes' kind p) :=
  ((reached_perm perm kind p).filter _).map _

/-- Whether something is unresolved does not depend on the order of scopes. -/
theorem resolved_of_perm (perm : scopes.Perm scopes')
    (resolved : TypeDecl.firstUnresolved? sources (scopes.flatMap candidates) = none) :
    TypeDecl.firstUnresolved? sources (scopes'.flatMap candidates) = none := by
  rw [firstUnresolved?_eq_none_iff] at resolved ⊢
  intro scope member
  exact resolved scope (perm.mem_iff.mpr member)

/-- **Scopes in another order have headers in the same places**, or neither order has any. -/
theorem headers_of_perm (perm : scopes.Perm scopes')
    (made : headers options direction sources scopes = .ok files) :
    ∃ files', headers options direction sources scopes' = .ok files' ∧
      List.Forall₂ (fun file file' => file'.path = file.path ∧ compare file.source file'.source = .eq)
        files files' := by
  obtain ⟨resolved, made⟩ := headers_eq_ok_iff.mp made
  have resolved' := resolved_of_perm perm resolved
  have present (p : Path) :
      Units.findsAt p (TypeDecl.finds sources (scopes.flatMap candidates)) = [] ↔
        Units.findsAt p (TypeDecl.finds sources (scopes'.flatMap candidates)) = [] := by
    rw [← Units.get?_addAll_empty_eq_none_iff, ← Units.get?_addAll_empty_eq_none_iff]
    refine (get?_found_eq_none_iff resolved).trans
      (Iff.trans ?_ (get?_found_eq_none_iff resolved').symm)
    refine forall_congr' fun kind => ?_
    rw [← List.length_eq_zero_iff, (reached_perm perm kind p).length_eq, List.length_eq_zero_iff]
  obtain ⟨files', made', pairs⟩ :=
    HeaderOptions.exists_generate_of_forall₂ (Units.paths_of_findsAt present) made
  exact ⟨files', headers_eq_ok_iff.mpr ⟨resolved', made'⟩, pairs⟩

/-- **Scopes that share no source unit may change places.**  If those that share one stay in order,
the headers are the same. -/
theorem headers_permute_of_kept (σ : Equiv.Perm (Fin scopes.length))
    (kept : ∀ i j, i < j → ∀ p, (scopes.get (σ i)).Contributes sources p →
      (scopes.get (σ j)).Contributes sources p → σ i < σ j)
    (made : headers options direction sources scopes = .ok files) :
    headers options direction sources (permute scopes σ) = .ok files := by
  obtain ⟨resolved, made⟩ := headers_eq_ok_iff.mp made
  have resolved' := resolved_of_perm (permute_perm scopes σ).symm resolved
  refine headers_eq_ok_iff.mpr ⟨resolved', ?_⟩
  rw [← made]
  have same (p : Path) :
      Units.findsAt p (TypeDecl.finds sources ((permute scopes σ).flatMap candidates)) =
        Units.findsAt p (TypeDecl.finds sources (scopes.flatMap candidates)) := by
    rw [finds_flatMap_candidates resolved, finds_flatMap_candidates resolved', Units.findsAt,
      Units.findsAt, List.filter_flatMap, List.filter_flatMap]
    refine flatMap_permute _ scopes σ ?_
    intro i j less here there
    exact kept i j less p (contributes_of_findsAt here) (contributes_of_findsAt there)
  refine HeaderOptions.result_generate_congr ((Units.sameTypes_of_findsAt same).imp ?_)
  intro a b alike
  exact ⟨alike.1, HeaderOptions.unitText_congr (HeaderOptions.blocks_of_sameTypes alike.2)⟩

/-- **The order of scopes does not matter.**  Headers are made for a row of scopes iff they are made
for the row in another order.  Then there are as many of them, in the same places, and each holds the
serializers of its structs and then those of its enums, the same ones up to their order.  If scopes
that contribute to a common source unit stay in order, all headers are the same. -/
theorem headers_permute (options : HeaderOptions) (direction : Direction) (sources : SourceTable)
    (scopes : List Scope) (σ : Equiv.Perm (Fin scopes.length)) :
    ((∃ files, headers options direction sources scopes = .ok files) ↔
      ∃ files', headers options direction sources (permute scopes σ) = .ok files') ∧
    ∀ files files', headers options direction sources scopes = .ok files →
      headers options direction sources (permute scopes σ) = .ok files' →
      List.Forall₂ (fun file file' => file'.path = file.path ∧
        compare file.source file'.source = .eq ∧
        file.content = options.assemble
          (serializers direction sources scopes .struct file.source)
          (serializers direction sources scopes .enum file.source) ∧
        file'.content = options.assemble
          (serializers direction sources (permute scopes σ) .struct file.source)
          (serializers direction sources (permute scopes σ) .enum file.source) ∧
        ∀ kind, (serializers direction sources (permute scopes σ) kind file.source).Perm
          (serializers direction sources scopes kind file.source)) files files' ∧
      ((∀ i j, i < j → ∀ p, (scopes.get (σ i)).Contributes sources p →
        (scopes.get (σ j)).Contributes sources p → σ i < σ j) → files' = files) := by
  have perm := permute_perm scopes σ
  refine ⟨⟨?_, ?_⟩, ?_⟩
  · rintro ⟨files, made⟩
    obtain ⟨files', made', -⟩ := headers_of_perm perm.symm made
    exact ⟨files', made'⟩
  · rintro ⟨files', made'⟩
    obtain ⟨files, made, -⟩ := headers_of_perm perm made'
    exact ⟨files, made⟩
  · intro files files' made made'
    constructor
    · obtain ⟨others, madeOthers, pairs⟩ := headers_of_perm perm.symm made
      obtain rfl : files' = others := Except.ok.inj (made'.symm.trans madeOthers)
      refine (SortedMap.forall₂_mem pairs).imp ?_
      rintro file file' ⟨here, there, path, equal⟩
      refine ⟨path, equal, (mem_headers made here).2, ?_, fun kind => serializers_perm perm kind _⟩
      rw [(mem_headers made' there).2, serializers_congr equal, serializers_congr equal]
    · intro kept
      exact Except.ok.inj (made'.symm.trans (headers_permute_of_kept σ kept made))

end Scope

end WireHeaders
