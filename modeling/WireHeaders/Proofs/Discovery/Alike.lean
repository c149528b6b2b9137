import WireHeaders.Proofs.Data.Alignment
import WireHeaders.Proofs.Discovery.Reference

/-!
# Units that are alike

Two searches whose finds are related leave units that are related.

## Main definitions

* `Units.findsAt` — the finds that go to the unit of a path
* `Units.spelling?` — the spelling in which the path of a unit is kept
* `SourceUnit.SameTypes` — units with the same types in the same order

## Main statements

* `Units.spelling?_addAll` — **a unit keeps the spelling of its first find**
* `Units.sameTypes_of_findsAt` — **searches that find the same for every path** leave the same units
* `Units.paths_of_findsAt` — **searches that find something for the same paths** leave units for the
  same paths
* `Units.sameTypes_findsAt` — **the finds of one path make the unit of that path** and no other one

## Design notes

Records are numbered across all units, so the same types found in another order are other records.
What a unit is for is seen without the numbers, by its four lists.
-/

namespace WireHeaders

namespace SourceUnit

/-- **The same types in the same order**, whatever their numbers. -/
def SameTypes (u u' : SourceUnit) : Prop :=
  ∀ kind direction, u.listed kind direction = u'.listed kind direction

end SourceUnit

namespace Units

variable {finds finds' : List Find} {p : Path}

/-! ## The finds of one path -/

/-- **The finds that go to the unit of a path.** -/
def findsAt (p : Path) (finds : List Find) : List Find :=
  finds.filter fun find => compare p find.1 = .eq

theorem findsAt_cons (p : Path) (find : Find) (finds : List Find) :
    findsAt p (find :: finds) =
      if compare p find.1 = .eq then find :: findsAt p finds else findsAt p finds := by
  simp [findsAt, List.filter_cons]

/-- The lists of a unit hold its finds. -/
theorem listed_addAll_empty (finds : List Find) (p : Path) (kind : DeclKind)
    (direction : Direction) :
    ((empty.addAll finds).unitAt p).listed kind direction =
      ((findsAt p finds).filter fun find => SourceUnit.takes kind direction find.2).map fun find =>
        (find.2, find.2.metadata.convention) := by
  rw [listed_unitAt_addAll, unitAt_empty, SourceUnit.listed_empty, List.nil_append, List.map_map,
    findsAt, List.filter_filter]
  simp only [Bool.and_comm]
  rfl

/-- There is no unit for a path without finds. -/
theorem get?_addAll_empty_eq_none_iff :
    (empty.addAll finds).get? p = none ↔ findsAt p finds = [] := by
  rw [← Option.not_isSome_iff_eq_none, isSome_get?_addAll, findsAt, List.filter_eq_nil_iff]
  simp [empty, get?]

/-! ## Spellings -/

/-- **The spelling in which the path of a unit is kept.** -/
def spelling? (units : Units) (p : Path) : Option Path := units.byPath.key? p

theorem spelling?_add (units : Units) (path p : Path) (d : TypeDecl) :
    (units.add path d).spelling? p =
      if compare p path = .eq then some ((units.spelling? path).getD path)
      else units.spelling? p :=
  SortedMap.key?_upsert ..

/-- **A unit keeps the spelling of its first find**, unless it was there before. -/
theorem spelling?_addAll (finds : List Find) (units : Units) (p : Path) :
    (units.addAll finds).spelling? p =
      (units.spelling? p).or ((findsAt p finds).head?.map Prod.fst) := by
  induction finds generalizing units with
  | nil => simp [findsAt]
  | cons find finds ih =>
      rw [addAll_cons, ih, spelling?_add, findsAt_cons]
      by_cases equal : compare p find.1 = .eq
      · have same : units.spelling? p = units.spelling? find.1 := SortedMap.key?_congr equal _
        rw [if_pos equal, if_pos equal, ← same]
        cases units.spelling? p <;> simp
      · rw [if_neg equal, if_neg equal]

/-! ## Two searches -/

/-- The units of a path are related if what the finds of it make is. -/
theorem rel_get?_addAll {R : SourceUnit → SourceUnit → Prop}
    (present : findsAt p finds = [] ↔ findsAt p finds' = [])
    (alike : R ((empty.addAll finds).unitAt p) ((empty.addAll finds').unitAt p)) :
    Option.Rel R ((empty.addAll finds).get? p) ((empty.addAll finds').get? p) := by
  rw [← get?_addAll_empty_eq_none_iff, ← get?_addAll_empty_eq_none_iff] at present
  unfold unitAt at alike
  cases here : (empty.addAll finds).get? p with
  | none =>
      cases there : (empty.addAll finds').get? p with
      | none => exact .none
      | some u' => simp [here, there] at present
  | some u =>
      cases there : (empty.addAll finds').get? p with
      | none => simp [here, there] at present
      | some u' =>
          rw [here, there] at alike
          exact .some alike

/-- **Related units, one beside the other**, in one spelling, if the first finds of each path agree. -/
theorem forall₂_toList_of_head? {R : SourceUnit → SourceUnit → Prop}
    (heads : ∀ p, (findsAt p finds).head?.map Prod.fst = (findsAt p finds').head?.map Prod.fst)
    (alike : ∀ p, R ((empty.addAll finds).unitAt p) ((empty.addAll finds').unitAt p)) :
    List.Forall₂ (fun a b => a.1 = b.1 ∧ R a.2 b.2) (empty.addAll finds).toList
      (empty.addAll finds').toList := by
  refine SortedMap.forall₂_entries_of_key? ?_ ?_
  · intro p
    refine rel_get?_addAll ?_ (alike p)
    rw [← List.head?_eq_none_iff, ← List.head?_eq_none_iff, ← Option.map_eq_none_iff (f := Prod.fst),
      heads, Option.map_eq_none_iff]
  · intro p
    show (empty.addAll finds).spelling? p = (empty.addAll finds').spelling? p
    rw [spelling?_addAll, spelling?_addAll, heads]

/-- **Searches that find the same for every path** leave the same units in the same spelling. -/
theorem sameTypes_of_findsAt (same : ∀ p, findsAt p finds = findsAt p finds') :
    List.Forall₂ (fun a b => a.1 = b.1 ∧ a.2.SameTypes b.2) (empty.addAll finds).toList
      (empty.addAll finds').toList := by
  refine forall₂_toList_of_head? (fun p => by rw [same]) ?_
  intro p kind direction
  rw [listed_addAll_empty, listed_addAll_empty, same]

/-- **Searches that find something for the same paths** leave units for the same paths. -/
theorem paths_of_findsAt (present : ∀ p, findsAt p finds = [] ↔ findsAt p finds' = []) :
    List.Forall₂ (fun a b => compare a.1 b.1 = .eq) (empty.addAll finds).toList
      (empty.addAll finds').toList := by
  have related := SortedMap.forall₂_entries (R := fun _ _ => True) fun p =>
    rel_get?_addAll (present p) trivial
  exact related.imp fun _ _ facts => facts.1

/-! ## A search for one path -/

/-- Of the finds of one path, another path has all or none. -/
theorem findsAt_findsAt (p q : Path) (finds : List Find) :
    findsAt q (findsAt p finds) = if compare p q = .eq then findsAt q finds else [] := by
  rw [findsAt, findsAt, List.filter_filter]
  split
  · next equal =>
    refine List.filter_congr ?_
    intro find _
    rw [Std.TransCmp.congr_left equal, Bool.and_self]
  · next other =>
    refine List.filter_eq_nil_iff.mpr ?_
    intro find _ both
    obtain ⟨there, here⟩ := Bool.and_eq_true_iff.mp both
    exact other (Std.TransCmp.eq_trans (of_decide_eq_true here)
      (Std.OrientedCmp.eq_symm (of_decide_eq_true there)))

/-- **The finds of one path make the unit of that path** and no other one. -/
theorem sameTypes_findsAt (p : Path) (finds : List Find) :
    List.Forall₂ (fun a b => a.1 = b.1 ∧ a.2.SameTypes b.2) (empty.addAll (findsAt p finds)).toList
      ((empty.addAll finds).toList.filter fun entry => compare p entry.1 = .eq) := by
  have decided (q q' : Path) (equal : compare q q' = .eq) :
      decide (compare p q' = .eq) = decide (compare p q = .eq) := by
    rw [Std.TransCmp.congr_right equal]
  show List.Forall₂ _ _
    ((empty.addAll finds).byPath.restrict fun q => compare p q = .eq).entries
  refine SortedMap.forall₂_entries_of_key? ?_ ?_
  · intro q
    rw [SortedMap.get?_restrict (decided q)]
    split
    · next equal =>
      have same := findsAt_findsAt p q finds
      rw [if_pos (of_decide_eq_true equal)] at same
      refine rel_get?_addAll (by rw [same]) ?_
      intro kind direction
      rw [listed_addAll_empty, listed_addAll_empty, same]
    · next other =>
      have absent : findsAt q (findsAt p finds) = [] := by
        rw [findsAt_findsAt, if_neg (by simpa using other)]
      show Option.Rel _ ((empty.addAll (findsAt p finds)).get? q) none
      rw [get?_addAll_empty_eq_none_iff.mpr absent]
      exact .none
  · intro q
    rw [SortedMap.key?_restrict (decided q)]
    show (empty.addAll (findsAt p finds)).spelling? q =
      if _ then (empty.addAll finds).spelling? q else none
    rw [spelling?_addAll, spelling?_addAll, findsAt_findsAt]
    have fresh : empty.spelling? q = none := rfl
    by_cases equal : compare p q = .eq <;> simp [equal, fresh]

end Units

end WireHeaders
