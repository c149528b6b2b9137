/-!
# Sorted maps

A finite map kept as the list of its entries, strictly ascending by key.

## Main definitions

* `SortedMap` — entries with the proof that their keys strictly ascend
* `SortedMap.get?` — the value stored at a key
* `SortedMap.upsert` — insert-or-modify, the one operation every other write is made of
* `SortedMap.insert`, `SortedMap.erase`, `SortedMap.ofList`

## Main statements

* `SortedMap.get?_upsert` — a write is seen at its own key and nowhere else
* `SortedMap.ext_entries` — two maps with the same entries are equal

## Design notes

The list is canonical: a set of entries has exactly one ascending order, so equality of maps is
equality of lists, and printing a map in key order is printing its entries.
-/

namespace WireHeaders

universe u v

/-- **A finite map in key order.**  The entries strictly ascend by key, so no key occurs
twice and one set of entries makes one map.  Keys that compare equal count as one, even if
they are different. -/
structure SortedMap (κ : Type u) (ν : Type v) [Ord κ] where
  /-- The entries, smallest key first. -/
  entries : List (κ × ν)
  /-- Each key is smaller than every later one. -/
  ascending : entries.Pairwise (fun a b => compare a.1 b.1 = .lt)

namespace SortedMap

variable {κ : Type u} {ν : Type v} [Ord κ]

/-- Two maps with the same entries are equal. -/
theorem ext_entries {m n : SortedMap κ ν} (h : m.entries = n.entries) : m = n := by
  cases m
  cases n
  cases h
  rfl

instance [DecidableEq κ] [DecidableEq ν] : DecidableEq (SortedMap κ ν) := fun m n =>
  decidable_of_iff (m.entries = n.entries) ⟨ext_entries, fun h => h ▸ rfl⟩

def empty : SortedMap κ ν := ⟨[], List.Pairwise.nil⟩

instance : Inhabited (SortedMap κ ν) := ⟨empty⟩

def size (m : SortedMap κ ν) : Nat := m.entries.length

def isEmpty (m : SortedMap κ ν) : Bool := m.entries.isEmpty

def keys (m : SortedMap κ ν) : List κ := m.entries.map Prod.fst

/-- The value of the first entry whose key compares equal to `k`. -/
def lookup (k : κ) : List (κ × ν) → Option ν
  | [] => none
  | (k', v) :: rest => if compare k k' = .eq then some v else lookup k rest

/-- The value stored at `k`, under whatever key that compares equal to it. -/
def get? (m : SortedMap κ ν) (k : κ) : Option ν := lookup k m.entries

def contains (m : SortedMap κ ν) (k : κ) : Bool := (m.get? k).isSome

/-- **Insert or modify, on the list of entries.**  `f` gets the value stored at `k`, if any.  An
entry that is there keeps its own key, which may be another one that compares equal to `k`. -/
def upsertEntry (k : κ) (f : Option ν → ν) : List (κ × ν) → List (κ × ν)
  | [] => [(k, f none)]
  | (k', v) :: rest =>
    match compare k k' with
    | .lt => (k, f none) :: (k', v) :: rest
    | .eq => (k', f (some v)) :: rest
    | .gt => (k', v) :: upsertEntry k f rest

/-- A key after the write is the written key or was a key before. -/
theorem mem_keys_upsertEntry {k : κ} {f : Option ν → ν} {e : κ × ν} :
    ∀ {l : List (κ × ν)}, e ∈ upsertEntry k f l → e.1 = k ∨ ∃ e' ∈ l, e.1 = e'.1
  | [], h => by
    simp only [upsertEntry, List.mem_singleton] at h
    exact Or.inl (h ▸ rfl)
  | (k', v) :: rest, h => by
    rw [upsertEntry] at h
    split at h
    · rcases List.mem_cons.mp h with rfl | h
      · exact Or.inl rfl
      · exact Or.inr ⟨e, h, rfl⟩
    · rcases List.mem_cons.mp h with rfl | h
      · exact Or.inr ⟨(k', v), List.mem_cons_self, rfl⟩
      · exact Or.inr ⟨e, List.mem_cons_of_mem _ h, rfl⟩
    · rcases List.mem_cons.mp h with rfl | h
      · exact Or.inr ⟨(k', v), List.mem_cons_self, rfl⟩
      · rcases mem_keys_upsertEntry h with h | ⟨e', he', h⟩
        · exact Or.inl h
        · exact Or.inr ⟨e', List.mem_cons_of_mem _ he', h⟩

/-- Writing keeps the keys strictly ascending. -/
theorem ascending_upsertEntry [Std.TransOrd κ] (k : κ) (f : Option ν → ν) :
    ∀ {l : List (κ × ν)}, l.Pairwise (fun a b => compare a.1 b.1 = .lt) →
      (upsertEntry k f l).Pairwise (fun a b => compare a.1 b.1 = .lt)
  | [], _ => by simp [upsertEntry]
  | (k', v) :: rest, h => by
    have hrest := (List.pairwise_cons.mp h)
    rw [upsertEntry]
    split
    · next hlt =>
      refine List.pairwise_cons.mpr ⟨fun b hb => ?_, h⟩
      rcases List.mem_cons.mp hb with rfl | hb
      · exact hlt
      · exact Std.TransCmp.lt_trans hlt (hrest.1 b hb)
    · exact List.pairwise_cons.mpr ⟨fun b hb => hrest.1 b hb, hrest.2⟩
    · next hgt =>
      refine List.pairwise_cons.mpr ⟨fun b hb => ?_, ascending_upsertEntry k f hrest.2⟩
      rcases mem_keys_upsertEntry hb with hb | ⟨e', he', hb⟩
      · simpa [hb] using Std.OrientedCmp.lt_of_gt hgt
      · simpa [hb] using hrest.1 e' he'

variable [Std.TransOrd κ]

/-- **Insert or modify.**  The value at `k` becomes `f` of what was stored there.  Every other
write is made of this one, so what is proved of it holds for all of them. -/
def upsert (m : SortedMap κ ν) (k : κ) (f : Option ν → ν) : SortedMap κ ν :=
  ⟨upsertEntry k f m.entries, ascending_upsertEntry k f m.ascending⟩

/-- Stores `v` at `k`, replacing what was there. -/
def insert (m : SortedMap κ ν) (k : κ) (v : ν) : SortedMap κ ν := m.upsert k (fun _ => v)

/-- Takes the entry at `k` out. -/
def erase (m : SortedMap κ ν) (k : κ) : SortedMap κ ν :=
  ⟨m.entries.filter (fun e => compare k e.1 != .eq), m.ascending.filter _⟩

/-- Stores the pairs one after the other: of two values for one key the later one stays. -/
def ofList (l : List (κ × ν)) : SortedMap κ ν :=
  l.foldl (fun m e => m.insert e.1 e.2) empty

omit [Std.TransOrd κ] in
@[simp]
theorem get?_empty (k : κ) : (empty : SortedMap κ ν).get? k = none := rfl

omit [Std.TransOrd κ] in
/-- A key below all keys of the list is not found in it. -/
theorem lookup_eq_none {k : κ} :
    ∀ {l : List (κ × ν)}, (∀ e ∈ l, compare k e.1 = .lt) → lookup k l = none
  | [], _ => rfl
  | (k', v) :: rest, h => by
    have hk : compare k k' = .lt := h (k', v) List.mem_cons_self
    simp [lookup, hk, lookup_eq_none fun e he => h e (List.mem_cons_of_mem _ he)]

/-- A write at `k` is found when looking for a key equal to `k`. -/
theorem lookup_upsertEntry_of_eq {k k₀ : κ} (f : Option ν → ν) (h : compare k₀ k = .eq) :
    ∀ {l : List (κ × ν)}, l.Pairwise (fun a b => compare a.1 b.1 = .lt) →
      lookup k₀ (upsertEntry k f l) = some (f (lookup k l))
  | [], _ => by simp [upsertEntry, lookup, h]
  | (k', v) :: rest, hl => by
    have hrest := List.pairwise_cons.mp hl
    rw [upsertEntry]
    split
    · next hlt =>
      have hnone := lookup_eq_none fun e he => Std.TransCmp.lt_trans hlt (hrest.1 e he)
      simp [lookup, h, hlt, hnone]
    · next heq =>
      have hk₀ : compare k₀ k' = .eq := Std.TransCmp.eq_trans h heq
      simp [lookup, hk₀, heq]
    · next hgt =>
      have hk₀ : compare k₀ k' = .gt := by rw [Std.TransCmp.congr_left h]; exact hgt
      simp [lookup, hk₀, hgt, lookup_upsertEntry_of_eq f h hrest.2]

/-- A write at `k` changes nothing at a key that differs from `k`. -/
theorem lookup_upsertEntry_of_ne {k k₀ : κ} (f : Option ν → ν) (h : compare k₀ k ≠ .eq) :
    ∀ l : List (κ × ν), lookup k₀ (upsertEntry k f l) = lookup k₀ l
  | [] => by simp [upsertEntry, lookup, h]
  | (k', v) :: rest => by
    rw [upsertEntry]
    split
    · simp [lookup, h]
    · next heq =>
      have : compare k₀ k' ≠ .eq := fun h' =>
        h (Std.TransCmp.eq_trans h' (Std.OrientedCmp.eq_symm heq))
      simp [lookup, this]
    · simp [lookup, lookup_upsertEntry_of_ne f h rest]

/-- **A write is seen at its own key and nowhere else.** -/
theorem get?_upsert (m : SortedMap κ ν) (k k₀ : κ) (f : Option ν → ν) :
    (m.upsert k f).get? k₀ =
      if compare k₀ k = .eq then some (f (m.get? k)) else m.get? k₀ := by
  by_cases h : compare k₀ k = .eq
  · simp only [h, if_true]
    exact lookup_upsertEntry_of_eq f h m.ascending
  · simp only [h, if_false]
    exact lookup_upsertEntry_of_ne f h m.entries

/-- An inserted value is found at its key; every other key keeps its value. -/
theorem get?_insert (m : SortedMap κ ν) (k k₀ : κ) (v : ν) :
    (m.insert k v).get? k₀ = if compare k₀ k = .eq then some v else m.get? k₀ := by
  simp [insert, get?_upsert]

end SortedMap

end WireHeaders
