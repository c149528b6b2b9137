import Mathlib.Data.List.Induction
import WireHeaders.Proofs.Data.Lookup
import WireHeaders.Proofs.Tree.Indexed

/-!
# Histories of metadata

What is read from metadata after any row of writes.  A value stands at a place, and a place belongs to
the whole declaration or to one ordinal.

## Main definitions

* `Metadata.Write` and `Metadata.Write.apply` — one write, and the metadata that it leaves
* `Metadata.Place` and `Metadata.read?` — where a value can stand, and the value that stands there
* `Metadata.after` — the metadata that a row of writes leaves
* `Metadata.latest?` — **the value of the last write at a place**

## Main statements

* `Metadata.read?_apply` — a write is read at its place, and **all other places stay**
* `Metadata.read?_after` — **what is read after a row of writes** is the latest value, or else what was
  there before
* `Metadata.reads_latest` — entries of the whole declaration and of single enumerators are two maps that
  know nothing of each other

## Design notes

That two places are apart is more than that two strings are: the values of enumerators are found under
the decimal text of their ordinal, in a map in which any other text may be a key as well.
-/

namespace WireHeaders

namespace Metadata

/-! ## Places and writes -/

/-- **A place at which a value can stand.** -/
inductive Place where
  /-- An entry of the whole declaration. -/
  | whole (key : String)
  /-- An entry of the enumerator with an ordinal. -/
  | indexed (key : String) (ordinal : Int64)
  deriving DecidableEq

/-- The value at a place. -/
def read? (m : Metadata) : Place → Option String
  | .whole key => m.get? key
  | .indexed key ordinal => m.getIndexed? key ordinal

/-- **A write to metadata.** -/
inductive Write where
  /-- Stores an entry. -/
  | insert (key value : String)
  /-- Stores an entry without a value. -/
  | flag (key : String)
  /-- Stores an entry of one enumerator. -/
  | insertIndexed (key : String) (ordinal : Int64) (value : String)

namespace Write

/-- **The metadata that a write leaves.** -/
def apply : Write → Metadata → Metadata
  | insert key value, m => m.insert key value
  | flag key, m => m.flag key
  | insertIndexed key ordinal value, m => m.insertIndexed key ordinal value

/-- The place that is written to. -/
def place : Write → Place
  | insert key _ => .whole key
  | flag key => .whole key
  | insertIndexed key ordinal _ => .indexed key ordinal

/-- The value that is written.  That of a flag is empty. -/
def value : Write → String
  | insert _ value => value
  | flag _ => ""
  | insertIndexed _ _ value => value

end Write

/-! ## One write -/

/-- **A write is read at its place**, and all other places stay as they were. -/
theorem read?_apply (m : Metadata) (write : Write) (place : Place) :
    (write.apply m).read? place = if write.place = place then some write.value else m.read? place := by
  have entry (key value : String) :
      (m.insert key value).read? place =
        if Place.whole key = place then some value else m.read? place := by
    cases place with
    | whole key' =>
        rw [read?, get?_insert]
        simp only [Place.whole.injEq, eq_comm, read?]
    | indexed key' ordinal => rfl
  cases write with
  | insert key value => exact entry key value
  | flag key => exact entry key ""
  | insertIndexed key ordinal value =>
      cases place with
      | whole key' => rfl
      | indexed key' ordinal' =>
          show (m.insertIndexed key ordinal value).getIndexed? key' ordinal' = _
          rw [getIndexed?_insertIndexed]
          simp only [Write.place, Place.indexed.injEq, eq_comm, and_comm, read?, Write.value]

/-- Metadata that something was written to has an entry. -/
theorem isEmpty_apply (m : Metadata) (write : Write) : (write.apply m).isEmpty = false := by
  have entry (key value : String) : (m.insert key value).isEmpty = false := by
    show ((m.entries.upsert key fun _ => value).isEmpty && m.indexed.isEmpty) = false
    rw [SortedMap.isEmpty_upsert, Bool.false_and]
  cases write with
  | insert key value => exact entry key value
  | flag key => exact entry key ""
  | insertIndexed key ordinal value =>
      show (m.entries.isEmpty && (m.indexed.upsert (indexKey ordinal) _).isEmpty) = false
      rw [SortedMap.isEmpty_upsert, Bool.and_false]

/-! ## Rows of writes -/

/-- **The metadata that a row of writes leaves.** -/
def after (m : Metadata) (writes : List Write) : Metadata :=
  writes.foldl (fun m write => write.apply m) m

@[simp]
theorem after_nil (m : Metadata) : m.after [] = m := rfl

@[simp]
theorem after_cons (m : Metadata) (write : Write) (writes : List Write) :
    m.after (write :: writes) = (write.apply m).after writes := rfl

/-- **The value of the last write at a place.** -/
def latest? (writes : List Write) (place : Place) : Option String :=
  (writes.filter fun write => write.place = place).getLast?.map Write.value

theorem latest?_cons (write : Write) (writes : List Write) (place : Place) :
    latest? (write :: writes) place =
      (latest? writes place).or (if write.place = place then some write.value else none) := by
  unfold latest?
  rw [List.filter_cons]
  by_cases here : write.place = place
  · rw [if_pos here, if_pos (decide_eq_true here), List.getLast?_cons]
    cases (writes.filter fun write => write.place = place).getLast? <;> rfl
  · rw [if_neg here, if_neg (by simpa using here), Option.or_none]

/-- **What is read after a row of writes** is the latest value that was written at the place, or else
what was there before. -/
theorem read?_after (m : Metadata) (writes : List Write) (place : Place) :
    (m.after writes).read? place = (latest? writes place).or (m.read? place) := by
  induction writes generalizing m with
  | nil => rfl
  | cons write writes ih =>
      rw [after_cons, ih, read?_apply, latest?_cons, Option.or_assoc]
      split <;> rfl

/-- A write at another place does not count. -/
theorem latest?_filter (writes : List Write) (place : Place) :
    latest? (writes.filter fun write => write.place = place) place = latest? writes place := by
  unfold latest?
  rw [List.filter_filter]
  simp only [Bool.and_self]

theorem isEmpty_after (m : Metadata) (writes : List Write) :
    (m.after writes).isEmpty ↔ m.isEmpty ∧ writes = [] := by
  cases writes using List.reverseRecOn with
  | nil => simp
  | append_singleton writes write =>
      have last : m.after (writes ++ [write]) = write.apply (m.after writes) := by simp [after]
      simp [last, isEmpty_apply]

/-- **Entries of the whole declaration and entries of single enumerators are two maps.**  Whatever
metadata there is at first, each place has the value of the last write there, or else the value that it
had at first.  All writes at other places could as well be left out: at another key, for another ordinal,
or in the other one of the two maps.  There is no entry iff there was none and nothing was written. -/
theorem reads_latest (m : Metadata) (writes : List Write) :
    (∀ key,
      (m.after writes).get? key = (latest? writes (.whole key)).or (m.get? key) ∧
      (m.after writes).get? key =
        (m.after (writes.filter fun write => write.place = .whole key)).get? key ∧
      ((m.after writes).has key ↔ ∃ value, (m.after writes).get? key = some value)) ∧
    (∀ key ordinal,
      (m.after writes).getIndexed? key ordinal =
        (latest? writes (.indexed key ordinal)).or (m.getIndexed? key ordinal) ∧
      (m.after writes).getIndexed? key ordinal =
        (m.after (writes.filter fun write => write.place = .indexed key ordinal)).getIndexed?
          key ordinal) ∧
    ((m.after writes).isEmpty ↔ m.isEmpty ∧ writes = []) := by
  have alone (place : Place) :
      (m.after writes).read? place =
        (m.after (writes.filter fun write => write.place = place)).read? place := by
    rw [read?_after, read?_after, latest?_filter]
  refine ⟨fun key => ⟨read?_after m writes (.whole key), alone (.whole key), ?_⟩,
    fun key ordinal => ⟨read?_after m writes (.indexed key ordinal), alone (.indexed key ordinal)⟩,
    isEmpty_after m writes⟩
  rw [has_eq_isSome_get?, Option.isSome_iff_exists]

/-- The smallest ordinal is another one than the largest, and a key that is no number is none of them. -/
example :
    let m : Metadata := ⟨.empty, .ofList [("+1", .ofList [("Rename", "kept")])]⟩
    let later := m.after [.insertIndexed "Rename" 1 "a", .insert "Rename" "b",
      .insertIndexed "Rename" Int64.minValue "c", .flag "Rename"]
    later.get? "Rename" = some "" ∧ later.getIndexed? "Rename" 1 = some "a" ∧
      later.getIndexed? "Rename" Int64.minValue = some "c" ∧
      later.getIndexed? "Rename" Int64.maxValue = none ∧
      later.indexed.get? "+1" = m.indexed.get? "+1" := by
  decide

end Metadata

end WireHeaders
