import Mathlib.Data.List.Forall2
import WireHeaders.Proofs.Data.Lookup

/-!
# Sorted maps side by side

When two maps that answer alike also list their entries alike.

## Main definitions

* `SortedMap.mapWithKey` — the same keys with other values
* `SortedMap.key?` — the spelling in which a map keeps a key
* `SortedMap.restrict`, `SortedMap.assign` — a map without some of its keys, and one with another
  value or none at a key

## Main statements

* `SortedMap.key?_upsert` — **a key keeps the spelling that it was first written in**
* `SortedMap.mem_entries_iff` — spellings and look-ups together are the entries
* `SortedMap.mem_upsert_of_mem` — a write keeps all entries under their spellings
* `SortedMap.forall₂_entries` — **maps whose look-ups are related list related entries**, one beside
  the other
* `SortedMap.forall₂_entries_of_key?` — the same with equal keys, where the spellings agree

## Design notes

Keys that compare equal need not be equal, so a look-up says less than a list of entries: it forgets
how a key is spelled.  What it forgets is `key?`.
-/

namespace WireHeaders

universe u v w

namespace SortedMap

variable {κ : Type u} {ν : Type v} {ν' : Type w} [Ord κ]

/-! ## Other values for the same keys -/

/-- **The same keys with other values.** -/
def mapWithKey (f : κ → ν → ν') (m : SortedMap κ ν) : SortedMap κ ν' :=
  ⟨m.entries.map fun e => (e.1, f e.1 e.2), List.pairwise_map.mpr m.ascending⟩

variable [Std.TransOrd κ]

/-- A write behind a change of values is a write before it, if the written values agree. -/
theorem mapWithKey_upsert {f : κ → ν → ν'} {k : κ} {g : Option ν → ν} {g' : Option ν' → ν'}
    (new : f k (g none) = g' none) (old : ∀ k' v, f k' (g (some v)) = g' (some (f k' v)))
    (m : SortedMap κ ν) : (m.upsert k g).mapWithKey f = (m.mapWithKey f).upsert k g' := by
  refine ext_entries ?_
  show (upsertEntry k g m.entries).map _ = upsertEntry k g' (m.entries.map _)
  generalize m.entries = l
  induction l with
  | nil => simp [upsertEntry, new]
  | cons entry rest ih =>
      obtain ⟨k', v⟩ := entry
      rw [upsertEntry, List.map_cons, upsertEntry]
      cases compare k k' with
      | lt => simp [new]
      | eq => simp [old]
      | gt => simp [ih]

/-! ## Spellings of keys -/

omit [Std.TransOrd κ] in
/-- **The spelling in which a map keeps a key.** -/
def key? (m : SortedMap κ ν) (k : κ) : Option κ := (m.mapWithKey fun k' _ => k').get? k

/-- **A key keeps the spelling that it was first written in.** -/
theorem key?_upsert (m : SortedMap κ ν) (k k₀ : κ) (f : Option ν → ν) :
    (m.upsert k f).key? k₀ =
      if compare k₀ k = .eq then some ((m.key? k).getD k) else m.key? k₀ := by
  have keys : (m.upsert k f).mapWithKey (fun k' _ => k') =
      (m.mapWithKey fun k' _ => k').upsert k fun spelled => spelled.getD k :=
    mapWithKey_upsert rfl (fun _ _ => rfl) m
  unfold key?
  rw [keys, get?_upsert]

theorem key?_of_mem {m : SortedMap κ ν} {entry : κ × ν} (listed : entry ∈ m.entries) :
    m.key? entry.1 = some entry.1 :=
  get?_of_mem (m := m.mapWithKey fun k' _ => k') (List.mem_map_of_mem listed)

theorem key?_congr {k k' : κ} (equal : compare k k' = .eq) (m : SortedMap κ ν) :
    m.key? k = m.key? k' :=
  get?_congr equal _

omit [Std.TransOrd κ] in
/-- A key has a spelling iff it has a value. -/
theorem key?_eq_none_iff {m : SortedMap κ ν} {k : κ} : m.key? k = none ↔ m.get? k = none := by
  show lookup k (m.entries.map _) = none ↔ lookup k m.entries = none
  induction m.entries with
  | nil => simp [lookup]
  | cons entry rest ih =>
      rw [List.map_cons, lookup, lookup]
      split
      · simp only [reduceCtorEq]
      · exact ih

/-- There is one entry for all spellings of a key. -/
theorem eq_of_mem_of_compare {m : SortedMap κ ν} {e e' : κ × ν} (listed : e ∈ m.entries)
    (listed' : e' ∈ m.entries) (equal : compare e.1 e'.1 = .eq) : e = e' := by
  have keys : some e.1 = some e'.1 := by
    rw [← key?_of_mem listed, ← key?_of_mem listed', key?_congr equal]
  have values : some e.2 = some e'.2 := by
    rw [← get?_of_mem listed, ← get?_of_mem listed', get?_congr equal]
  exact Prod.ext (Option.some.inj keys) (Option.some.inj values)

/-- An entry is listed iff its key is found under its own spelling, with its value. -/
theorem mem_entries_iff {m : SortedMap κ ν} {k : κ} {v : ν} :
    (k, v) ∈ m.entries ↔ m.key? k = some k ∧ m.get? k = some v := by
  constructor
  · intro listed
    exact ⟨key?_of_mem listed, get?_of_mem listed⟩
  · rintro ⟨spelled, found⟩
    obtain ⟨k', listed, equal⟩ := get?_eq_some_iff.mp found
    rw [key?_congr equal, key?_of_mem listed] at spelled
    rwa [← Option.some.inj spelled]

/-- **A write keeps every entry under its spelling** and changes no value but that of its own key. -/
theorem mem_upsert_of_mem {m : SortedMap κ ν} {e : κ × ν} (listed : e ∈ m.entries) (k : κ)
    (f : Option ν → ν) :
    (e.1, if compare e.1 k = .eq then f (some e.2) else e.2) ∈ (m.upsert k f).entries := by
  obtain ⟨spelled, found⟩ := mem_entries_iff.mp listed
  refine mem_entries_iff.mpr ⟨?_, ?_⟩
  · rw [key?_upsert]
    split
    · next equal => rw [← key?_congr equal, spelled, Option.getD_some]
    · exact spelled
  · rw [get?_upsert]
    split
    · next equal => rw [← get?_congr equal, found]
    · exact found

/-! ## Fewer keys -/

omit [Std.TransOrd κ] in
/-- **A map without some of its keys.** -/
def restrict (keep : κ → Bool) (m : SortedMap κ ν) : SortedMap κ ν :=
  ⟨m.entries.filter fun e => keep e.1, m.ascending.filter _⟩

omit [Std.TransOrd κ] in
/-- **What is kept is found as before**, and nothing else is found. -/
theorem get?_restrict {keep : κ → Bool} {k : κ}
    (decided : ∀ k', compare k k' = .eq → keep k' = keep k) (m : SortedMap κ ν) :
    (m.restrict keep).get? k = if keep k then m.get? k else none := by
  show lookup k (m.entries.filter _) = if keep k then lookup k m.entries else none
  induction m.entries with
  | nil => simp [lookup]
  | cons entry rest ih =>
      obtain ⟨k', v⟩ := entry
      rw [List.filter_cons]
      by_cases equal : compare k k' = .eq
      · cases kept : keep k <;> simp [lookup, equal, decided k' equal, kept, ih]
      · cases kept : keep k' <;> simp [lookup, equal, ih]

omit [Std.TransOrd κ] in
/-- **What is kept keeps its spelling.** -/
theorem key?_restrict {keep : κ → Bool} {k : κ}
    (decided : ∀ k', compare k k' = .eq → keep k' = keep k) (m : SortedMap κ ν) :
    (m.restrict keep).key? k = if keep k then m.key? k else none := by
  have keys : (m.restrict keep).mapWithKey (fun k' _ => k') =
      (m.mapWithKey fun k' _ => k').restrict keep := by
    refine ext_entries ?_
    show (m.entries.filter _).map _ = (m.entries.map _).filter _
    rw [List.filter_map]
    rfl
  unfold key?
  rw [keys, get?_restrict decided]

/-- **What is taken out is not found**, and everything else is found as before. -/
theorem get?_erase (m : SortedMap κ ν) (k k₀ : κ) :
    (m.erase k).get? k₀ = if compare k₀ k = .eq then none else m.get? k₀ := by
  have decided (k' : κ) (equal : compare k₀ k' = .eq) :
      (compare k k' != .eq) = (compare k k₀ != .eq) := by
    rw [Std.TransCmp.congr_right equal]
  have taken : (m.erase k).get? k₀ = if compare k k₀ != .eq then m.get? k₀ else none :=
    get?_restrict decided m
  rw [taken]
  by_cases equal : compare k₀ k = .eq
  · simp [equal, Std.OrientedCmp.eq_symm equal]
  · have other : compare k k₀ ≠ .eq := fun equal' => equal (Std.OrientedCmp.eq_symm equal')
    simp [equal, other]

/-- **Stores a value at a key**, or takes the entry out. -/
def assign (m : SortedMap κ ν) (k : κ) : Option ν → SortedMap κ ν
  | some v => m.insert k v
  | none => m.erase k

/-- What was assigned to a key is found there. -/
theorem get?_assign (m : SortedMap κ ν) (k k₀ : κ) (v? : Option ν) :
    (m.assign k v?).get? k₀ = if compare k₀ k = .eq then v? else m.get? k₀ := by
  cases v? with
  | none => exact get?_erase m k k₀
  | some v => exact get?_insert m k k₀ v

/-! ## Entries side by side -/

/-- What stands side by side in two lists is a member of each. -/
theorem forall₂_mem {α : Type u} {β : Type v} {R : α → β → Prop} {l : List α} {l' : List β}
    (related : List.Forall₂ R l l') :
    List.Forall₂ (fun a b => a ∈ l ∧ b ∈ l' ∧ R a b) l l' := by
  have right : List.Forall₂ (fun a b => b ∈ l' ∧ R a b) l l' :=
    ((List.forall₂_and_left l' l).mpr ⟨fun _ member => member, related.flip⟩).flip
  exact (List.forall₂_and_left l l').mpr ⟨fun _ member => member, right⟩

/-- The first keys of lists whose look-ups are related compare equal. -/
theorem compare_heads {R : ν → ν' → Prop} {a : κ × ν} {b : κ × ν'} {l : List (κ × ν)}
    {l' : List (κ × ν')}
    (ascending : (a :: l).Pairwise fun a b => compare a.1 b.1 = .lt)
    (ascending' : (b :: l').Pairwise fun a b => compare a.1 b.1 = .lt)
    (related : ∀ k, Option.Rel R (lookup k (a :: l)) (lookup k (b :: l'))) :
    compare a.1 b.1 = .eq := by
  have here : lookup a.1 (a :: l) = some a.2 := lookup_of_mem ascending List.mem_cons_self
  have there : lookup b.1 (b :: l') = some b.2 := lookup_of_mem ascending' List.mem_cons_self
  -- Of two different keys the smaller one would be found on one side only.
  cases order : compare a.1 b.1 with
  | eq => rfl
  | lt =>
      have below : ∀ e ∈ b :: l', compare a.1 e.1 = .lt := by
        refine List.forall_mem_cons.mpr ⟨order, ?_⟩
        intro e later
        exact Std.TransCmp.lt_trans order ((List.pairwise_cons.mp ascending').1 e later)
      have found := related a.1
      rw [here, lookup_eq_none below] at found
      cases found
  | gt =>
      have below : ∀ e ∈ a :: l, compare b.1 e.1 = .lt := by
        have less : compare b.1 a.1 = .lt := Std.OrientedCmp.lt_of_gt order
        refine List.forall_mem_cons.mpr ⟨less, ?_⟩
        intro e later
        exact Std.TransCmp.lt_trans less ((List.pairwise_cons.mp ascending).1 e later)
      have found := related b.1
      rw [there, lookup_eq_none below] at found
      cases found

theorem forall₂_of_lookup {R : ν → ν' → Prop} {l : List (κ × ν)} {l' : List (κ × ν')}
    (ascending : l.Pairwise fun a b => compare a.1 b.1 = .lt)
    (ascending' : l'.Pairwise fun a b => compare a.1 b.1 = .lt)
    (related : ∀ k, Option.Rel R (lookup k l) (lookup k l')) :
    List.Forall₂ (fun a b => compare a.1 b.1 = .eq ∧ R a.2 b.2) l l' := by
  induction l generalizing l' with
  | nil =>
      cases l' with
      | nil => exact .nil
      | cons b l' =>
          have found := related b.1
          rw [lookup_of_mem ascending' List.mem_cons_self] at found
          cases found
  | cons a l ih =>
      cases l' with
      | nil =>
          have found := related a.1
          rw [lookup_of_mem ascending List.mem_cons_self] at found
          cases found
      | cons b l' =>
          have equal := compare_heads ascending ascending' related
          obtain ⟨above, ascendingRest⟩ := List.pairwise_cons.mp ascending
          obtain ⟨above', ascendingRest'⟩ := List.pairwise_cons.mp ascending'
          refine .cons ⟨equal, ?_⟩ (ih ascendingRest ascendingRest' ?_)
          · have found := related a.1
            rw [lookup_of_mem ascending List.mem_cons_self, lookup, if_pos equal] at found
            cases found with
            | some value => exact value
          · intro k
            have found := related k
            by_cases first : compare k a.1 = .eq
            · have first' : compare k b.1 = .eq := Std.TransCmp.eq_trans first equal
              have absent : lookup k l = none := lookup_eq_none fun e later => by
                rw [Std.TransCmp.congr_left first]
                exact above e later
              have absent' : lookup k l' = none := lookup_eq_none fun e later => by
                rw [Std.TransCmp.congr_left first']
                exact above' e later
              rw [absent, absent']
              exact .none
            · have other : ¬compare k b.1 = .eq := fun equal' =>
                first (Std.TransCmp.eq_trans equal' (Std.OrientedCmp.eq_symm equal))
              rw [lookup, lookup, if_neg first, if_neg other] at found
              exact found

variable {R : ν → ν' → Prop} {m : SortedMap κ ν} {m' : SortedMap κ ν'}

/-- **Maps whose look-ups are related list related entries**, one beside the other. -/
theorem forall₂_entries (related : ∀ k, Option.Rel R (m.get? k) (m'.get? k)) :
    List.Forall₂ (fun a b => compare a.1 b.1 = .eq ∧ R a.2 b.2) m.entries m'.entries :=
  forall₂_of_lookup m.ascending m'.ascending related

/-- The same with equal keys, where the spellings agree. -/
theorem forall₂_entries_of_key? (related : ∀ k, Option.Rel R (m.get? k) (m'.get? k))
    (spelled : ∀ k, m.key? k = m'.key? k) :
    List.Forall₂ (fun a b => a.1 = b.1 ∧ R a.2 b.2) m.entries m'.entries := by
  refine (forall₂_mem (forall₂_entries related)).imp ?_
  rintro a b ⟨here, there, equal, values⟩
  have same := key?_of_mem here
  rw [spelled, key?_congr equal, key?_of_mem there] at same
  exact ⟨(Option.some.inj same).symm, values⟩

end SortedMap

end WireHeaders
