import WireHeaders.Data.SortedMap

/-!
# Looking up in a sorted map

How the look-up of a sorted map and the list of its entries determine each other.

## Main statements

* `SortedMap.get?_eq_some_iff` — a value is found iff it is listed under a key that compares equal
* `SortedMap.get?_congr` — keys that compare equal find the same
* `SortedMap.mem_entries_upsert` — where the keys of a map come from
* `SortedMap.ofList_entries` — **a map is put together again from its entries**
* `SortedMap.ofList_perm` — the entries may come in any order
-/

namespace WireHeaders

universe u v

namespace SortedMap

variable {κ : Type u} {ν : Type v} [Ord κ] [Std.TransOrd κ]

/-! ## Entries and look-ups -/

omit [Std.TransOrd κ] in
/-- What is found is listed, under a key that compares equal. -/
theorem exists_mem_of_lookup {k : κ} {v : ν} {l : List (κ × ν)} (found : lookup k l = some v) :
    ∃ k', (k', v) ∈ l ∧ compare k k' = .eq := by
  induction l with
  | nil => cases found
  | cons entry rest ih =>
      obtain ⟨k', v'⟩ := entry
      rw [lookup] at found
      split at found
      · next equal =>
        cases found
        exact ⟨k', List.mem_cons_self, equal⟩
      · obtain ⟨k₀, listed, equal⟩ := ih found
        exact ⟨k₀, List.mem_cons_of_mem _ listed, equal⟩

/-- What is listed is found under its key: no earlier key compares equal to it. -/
theorem lookup_of_mem {k : κ} {v : ν} {l : List (κ × ν)}
    (ascending : l.Pairwise (fun a b => compare a.1 b.1 = .lt)) (listed : (k, v) ∈ l) :
    lookup k l = some v := by
  induction l with
  | nil => cases listed
  | cons entry rest ih =>
      obtain ⟨below, ascendingRest⟩ := List.pairwise_cons.mp ascending
      rcases List.mem_cons.mp listed with rfl | later
      · simp [lookup, Std.ReflOrd.compare_self]
      · have above : compare k entry.1 = .gt := Std.OrientedCmp.gt_of_lt (below (k, v) later)
        simp [lookup, above, ih ascendingRest later]

/-- Keys that compare equal find the same in a list. -/
theorem lookup_congr {k k' : κ} (equal : compare k k' = .eq) (l : List (κ × ν)) :
    lookup k l = lookup k' l := by
  induction l with
  | nil => rfl
  | cons entry rest ih => rw [lookup, lookup, ih, Std.TransCmp.congr_left equal]

/-- **Keys that compare equal find the same.** -/
theorem get?_congr {k k' : κ} (equal : compare k k' = .eq) (m : SortedMap κ ν) :
    m.get? k = m.get? k' :=
  lookup_congr equal m.entries

theorem get?_of_mem {m : SortedMap κ ν} {entry : κ × ν} (listed : entry ∈ m.entries) :
    m.get? entry.1 = some entry.2 :=
  lookup_of_mem m.ascending listed

/-- **A value is found iff it is listed** under a key that compares equal. -/
theorem get?_eq_some_iff {m : SortedMap κ ν} {k : κ} {v : ν} :
    m.get? k = some v ↔ ∃ k', (k', v) ∈ m.entries ∧ compare k k' = .eq := by
  constructor
  · exact exists_mem_of_lookup
  · rintro ⟨k', listed, equal⟩
    rw [get?_congr equal]
    exact get?_of_mem listed

/-- Where the keys of a map come from. -/
theorem mem_entries_upsert {m : SortedMap κ ν} {k : κ} {f : Option ν → ν} {entry : κ × ν}
    (listed : entry ∈ (m.upsert k f).entries) :
    entry.1 = k ∨ ∃ earlier ∈ m.entries, entry.1 = earlier.1 :=
  mem_keys_upsertEntry listed

omit [Std.TransOrd κ] in
theorem upsertEntry_ne_nil (k : κ) (f : Option ν → ν) (l : List (κ × ν)) :
    upsertEntry k f l ≠ [] := by
  cases l with
  | nil => exact List.cons_ne_nil _ _
  | cons entry rest =>
      rw [upsertEntry]
      split <;> exact List.cons_ne_nil _ _

/-- A map that something was written to has an entry. -/
theorem isEmpty_upsert (m : SortedMap κ ν) (k : κ) (f : Option ν → ν) :
    (m.upsert k f).isEmpty = false :=
  List.isEmpty_eq_false_iff.mpr (upsertEntry_ne_nil k f m.entries)

/-! ## A map from its entries -/

/-- A key above all others goes to the end. -/
theorem upsertEntry_of_above {k : κ} {f : Option ν → ν} {l : List (κ × ν)}
    (above : ∀ entry ∈ l, compare entry.1 k = .lt) :
    upsertEntry k f l = l ++ [(k, f none)] := by
  induction l with
  | nil => rfl
  | cons entry rest ih =>
      obtain ⟨k', v⟩ := entry
      have greater : compare k k' = .gt :=
        Std.OrientedCmp.gt_of_lt (above (k', v) List.mem_cons_self)
      have tail := ih fun e later => above e (List.mem_cons_of_mem _ later)
      simp [upsertEntry, greater, tail]

/-- Entries that ascend above those of a map are appended to them. -/
theorem entries_foldl_insert (l : List (κ × ν)) (m : SortedMap κ ν)
    (ascending : (m.entries ++ l).Pairwise (fun a b => compare a.1 b.1 = .lt)) :
    (l.foldl (fun m e => m.insert e.1 e.2) m).entries = m.entries ++ l := by
  induction l generalizing m with
  | nil => simp
  | cons entry rest ih =>
      obtain ⟨-, -, across⟩ := List.pairwise_append.mp ascending
      have inserted : (m.insert entry.1 entry.2).entries = m.entries ++ [entry] :=
        upsertEntry_of_above fun e earlier => across e earlier entry List.mem_cons_self
      have split : m.entries ++ entry :: rest = m.entries ++ [entry] ++ rest := by simp
      rw [List.foldl_cons, ih, inserted, split]
      rw [inserted, ← split]
      exact ascending

/-- **A map is put together again from its entries.** -/
theorem ofList_entries (m : SortedMap κ ν) : ofList m.entries = m :=
  ext_entries (entries_foldl_insert m.entries empty m.ascending)

omit [Std.TransOrd κ] in
/-- A key that differs from all others is one more. -/
theorem upsertEntry_perm {k : κ} {f : Option ν → ν} {l : List (κ × ν)}
    (fresh : ∀ entry ∈ l, compare k entry.1 ≠ .eq) :
    (upsertEntry k f l).Perm ((k, f none) :: l) := by
  induction l with
  | nil => exact .refl _
  | cons entry rest ih =>
      obtain ⟨k', v⟩ := entry
      have later := ih fun e member => fresh e (List.mem_cons_of_mem _ member)
      rw [upsertEntry]
      split
      · exact .refl _
      · next equal => exact absurd equal (fresh (k', v) List.mem_cons_self)
      · exact (later.cons _).trans (.swap ..)

/-- Entries with keys that differ are all stored. -/
theorem foldl_insert_perm {l : List (κ × ν)} {m : SortedMap κ ν}
    (apart : l.Pairwise fun a b => compare a.1 b.1 ≠ .eq)
    (fresh : ∀ e ∈ l, ∀ entry ∈ m.entries, compare e.1 entry.1 ≠ .eq) :
    (l.foldl (fun m e => m.insert e.1 e.2) m).entries.Perm (l ++ m.entries) := by
  induction l generalizing m with
  | nil => exact .refl _
  | cons e rest ih =>
      obtain ⟨other, apart⟩ := List.pairwise_cons.mp apart
      have stored : (m.insert e.1 e.2).entries.Perm (e :: m.entries) :=
        upsertEntry_perm (fresh e List.mem_cons_self)
      refine (ih apart ?_).trans ((stored.append_left rest).trans List.perm_middle)
      intro later member entry listed
      rcases List.mem_cons.mp (stored.mem_iff.mp listed) with rfl | earlier
      · exact fun equal => other later member (Std.OrientedCmp.eq_symm equal)
      · exact fresh later (List.mem_cons_of_mem _ member) entry earlier

/-- **The entries of a map may come in any order.** -/
theorem ofList_perm {m : SortedMap κ ν} {l : List (κ × ν)} (order : l.Perm m.entries) :
    ofList l = m := by
  have apart : m.entries.Pairwise fun a b => compare a.1 b.1 ≠ .eq :=
    m.ascending.imp fun less => by simp [less]
  have stored : (ofList l).entries.Perm m.entries := by
    have all := foldl_insert_perm (m := empty)
      (order.symm.pairwise apart fun differ equal => differ (Std.OrientedCmp.eq_symm equal))
      (fun _ _ _ listed => nomatch listed)
    exact all.trans ((List.append_nil l).symm ▸ order)
  refine ext_entries (stored.eq_of_pairwise ?_ (ofList l).ascending m.ascending)
  intro a b _ _ less greater
  rw [Std.OrientedCmp.gt_of_lt less] at greater
  cases greater

end SortedMap

end WireHeaders
