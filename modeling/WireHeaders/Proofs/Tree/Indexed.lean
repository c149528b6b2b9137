import Mathlib
import WireHeaders.Tree.Metadata

/-!
# Entries of single enumerators

What is read back from metadata that something was stored in.

## Main statements

* `Metadata.indexKey_inj` — **each ordinal has an index key of its own**
* `Metadata.getIndexed?_insertIndexed` — an entry of an enumerator is read at its own ordinal and key
* `Metadata.get?_insert` — an entry of the whole declaration is read at its own key
* `Metadata.has_insert` — an entry of the whole declaration is there under its own key
-/

namespace WireHeaders

namespace Metadata

/-- **Each ordinal has an index key of its own.** -/
theorem indexKey_inj {ordinal ordinal' : Int64} :
    indexKey ordinal = indexKey ordinal' ↔ ordinal = ordinal' := by
  constructor
  · intro same
    exact Int64.toInt_inj.mp (Int.repr_inj.mp same)
  · exact congrArg indexKey

/-- **An entry of an enumerator is read at its own ordinal and key**, and every other entry stays. -/
theorem getIndexed?_insertIndexed (m : Metadata) (key key' : String) (ordinal ordinal' : Int64)
    (value : String) :
    (m.insertIndexed key ordinal value).getIndexed? key' ordinal' =
      if ordinal' = ordinal ∧ key' = key then some value else m.getIndexed? key' ordinal' := by
  unfold getIndexed? insertIndexed
  rw [SortedMap.get?_upsert]
  simp only [Std.LawfulEqOrd.compare_eq_iff_eq, indexKey_inj]
  by_cases here : ordinal' = ordinal
  · subst here
    simp only [if_true, true_and, Option.bind_some, SortedMap.get?_insert,
      Std.LawfulEqOrd.compare_eq_iff_eq]
    cases m.indexed.get? (indexKey ordinal') <;> rfl
  · simp only [here, false_and, if_false]

/-- An entry of the whole declaration is read at its own key, and every other entry stays. -/
theorem get?_insert (m : Metadata) (key key' value : String) :
    (m.insert key value).get? key' = if key' = key then some value else m.get? key' := by
  unfold get? insert
  rw [SortedMap.get?_insert]
  simp only [Std.LawfulEqOrd.compare_eq_iff_eq]

/-- An entry of the whole declaration is there under its own key. -/
theorem has_insert (m : Metadata) (key key' value : String) :
    (m.insert key value).has key' = (decide (key' = key) || m.has key') := by
  rw [has_eq_isSome_get?, has_eq_isSome_get?, get?_insert]
  by_cases here : key' = key <;> simp [here]

@[simp]
theorem getIndexed?_insert (m : Metadata) (key key' value : String) (ordinal : Int64) :
    (m.insert key value).getIndexed? key' ordinal = m.getIndexed? key' ordinal := rfl

end Metadata

end WireHeaders
