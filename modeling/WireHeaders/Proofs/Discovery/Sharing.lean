import Mathlib.Data.List.Nodup
import WireHeaders.Proofs.Discovery.Walk

/-!
# Shared records

A type that is tagged for both directions has one record in both lists of its unit, and no record is
anywhere else.

## Main definitions

* `Records.Shared` — **how the two lists of one kind share their records**
* `SourceUnit.serials` — the numbers of all records of a unit
* `Records.Views` — records as the two views of all finds of their kind

## Main statements

* `Records.Views.shared` — views of one list share their records
* `Units.Sound.entry`, `Units.Sound.add` — what the two ways to grow preserve
* `Units.shared_after` — **how records are shared after any row of steps**

## Implementation notes

The lists of the two directions grow on their own, so neither tells what the other has.  The invariant
names the list of all finds of a kind instead, of which each of the two is a filter.  That list ascends
by serial numbers, which makes one record of two with the same number.
-/

namespace WireHeaders

/-! ## Lists that share records -/

namespace Records

variable {δ : Type}

/-- **How the lists of the two directions share their records.**  Two records are the same one iff they
have the same serial number. -/
structure Shared (metadata : δ → Metadata) (rs : Records δ) : Prop where
  /-- A record to read back is also one to write iff its type is tagged for that. -/
  partner_iff : ∀ r ∈ rs.deserializable,
    (∃ s ∈ rs.serializable, s.serial = r.serial) ↔ (metadata r.decl).has Key.serialize
  /-- What has the same number is the same record. -/
  same : ∀ s ∈ rs.serializable, ∀ r ∈ rs.deserializable, s.serial = r.serial → s = r
  /-- Partners stand in the same order in both lists. -/
  increasing : ∀ {i j : Fin rs.deserializable.length} {a b : Fin rs.serializable.length}, i < j →
    rs.serializable[a].serial = rs.deserializable[i].serial →
    rs.serializable[b].serial = rs.deserializable[j].serial → a < b
  /-- A record to write that is none to read back belongs to a type that is not tagged for that. -/
  alone : ∀ s ∈ rs.serializable, (∀ r ∈ rs.deserializable, r.serial ≠ s.serial) →
    (metadata s.decl).has Key.deserialize = false
  /-- No record stands twice in one list. -/
  distinct : ∀ direction, ((rs.inDirection direction).map Record.serial).Nodup

/-- **Records as views** of all finds of their kind, which were found one after the other before the
number `next`. -/
structure Views (metadata : δ → Metadata) (next : Nat) (found : List (Record δ)) (rs : Records δ) :
    Prop where
  view : ∀ direction,
    rs.inDirection direction = found.filter fun r => (metadata r.decl).allows direction
  ascending : (found.map Record.serial).Pairwise (· < ·)
  below : ∀ r ∈ found, r.serial < next

namespace Views

variable {metadata : δ → Metadata} {next : Nat} {found : List (Record δ)} {rs : Records δ}

theorem empty : (Records.empty : Records δ).Views metadata next [] :=
  ⟨inDirection_empty, List.Pairwise.nil, nofun⟩

theorem mono {next' : Nat} (views : rs.Views metadata next found) (le : next ≤ next') :
    rs.Views metadata next' found :=
  ⟨views.view, views.ascending, fun r listed => Nat.lt_of_lt_of_le (views.below r listed) le⟩

/-- **One more find** has the next number and goes to the end of all finds. -/
theorem add (views : rs.Views metadata next found) (d : δ) (convention : Option Convention) :
    (rs.add (metadata d) ⟨next, d, convention⟩).Views metadata (next + 1)
      (found ++ [⟨next, d, convention⟩]) where
  view direction := by
    rw [inDirection_add, views.view, List.filter_append, List.filter_singleton, Bool.cond_eq_ite]
  ascending := by
    rw [List.map_append, List.map_singleton, List.pairwise_append]
    refine ⟨views.ascending, List.pairwise_singleton _ _, ?_⟩
    intro serial earlier last now
    obtain ⟨r, listed, rfl⟩ := List.mem_map.mp earlier
    obtain rfl := List.mem_singleton.mp now
    exact views.below r listed
  below r listed := by
    rcases List.mem_append.mp listed with earlier | now
    · exact Nat.lt_succ_of_lt (views.below r earlier)
    · rw [List.mem_singleton.mp now]
      exact Nat.lt_succ_self next

/-- A record of a direction is a find that is tagged for it. -/
theorem mem_iff (views : rs.Views metadata next found) (direction : Direction) {r : Record δ} :
    r ∈ rs.inDirection direction ↔ r ∈ found ∧ (metadata r.decl).allows direction := by
  rw [views.view, List.mem_filter]

/-- Two finds with the same number are one. -/
theorem eq_of_serial (views : rs.Views metadata next found) {r s : Record δ} (listed : r ∈ found)
    (listed' : s ∈ found) (same : r.serial = s.serial) : r = s :=
  List.inj_on_of_nodup_map (views.ascending.imp Nat.ne_of_lt) listed listed' same

/-- Each direction ascends by serial numbers. -/
theorem ascending_inDirection (views : rs.Views metadata next found) (direction : Direction) :
    (rs.inDirection direction).Pairwise fun r s => r.serial < s.serial := by
  rw [views.view]
  exact (List.pairwise_map.mp views.ascending).filter _

/-- **Views of one list share their records.** -/
theorem shared (views : rs.Views metadata next found) : rs.Shared metadata where
  partner_iff r back := by
    obtain ⟨listed, -⟩ := (views.mem_iff .deserialize).mp back
    constructor
    · rintro ⟨s, out, same⟩
      obtain ⟨listed', tagged⟩ := (views.mem_iff .serialize).mp out
      rwa [views.eq_of_serial listed' listed same] at tagged
    · intro tagged
      exact ⟨r, (views.mem_iff .serialize).mpr ⟨listed, tagged⟩, rfl⟩
  same s out r back same := by
    obtain ⟨listed, -⟩ := (views.mem_iff .serialize).mp out
    obtain ⟨listed', -⟩ := (views.mem_iff .deserialize).mp back
    exact views.eq_of_serial listed listed' same
  increasing := by
    intro i j a b before same same'
    -- Serial numbers ascend along both lists, so they put the partners in order.
    have serials : rs.serializable[a].serial < rs.serializable[b].serial := by
      rw [same, same']
      exact List.pairwise_iff_getElem.mp (views.ascending_inDirection .deserialize)
        i j i.isLt j.isLt before
    rcases Nat.lt_trichotomy a b with lt | eq | gt
    · exact lt
    · rw [Fin.ext eq] at serials
      exact absurd serials (Nat.lt_irrefl _)
    · have back := List.pairwise_iff_getElem.mp (views.ascending_inDirection .serialize)
        b a b.isLt a.isLt gt
      exact absurd serials (Nat.lt_asymm back)
  alone s out unpartnered := by
    obtain ⟨listed, -⟩ := (views.mem_iff .serialize).mp out
    by_contra tagged
    have back : s ∈ rs.deserializable :=
      (views.mem_iff .deserialize).mpr ⟨listed, Bool.of_not_eq_false tagged⟩
    exact unpartnered s back rfl
  distinct direction :=
    List.pairwise_map.mpr ((views.ascending_inDirection direction).imp Nat.ne_of_lt)

end Views

/-- The numbers of all records of one kind. -/
def serials (rs : Records δ) : List Nat :=
  (rs.inDirection .serialize ++ rs.inDirection .deserialize).map Record.serial

theorem mem_serials_iff {rs : Records δ} {n : Nat} :
    n ∈ rs.serials ↔ ∃ direction, ∃ r ∈ rs.inDirection direction, r.serial = n := by
  rw [serials, List.mem_map]
  constructor
  · rintro ⟨r, listed, rfl⟩
    rcases List.mem_append.mp listed with out | back
    · exact ⟨.serialize, r, out, rfl⟩
    · exact ⟨.deserialize, r, back, rfl⟩
  · rintro ⟨direction, r, listed, rfl⟩
    refine ⟨r, List.mem_append.mpr ?_, rfl⟩
    cases direction with
    | serialize => exact Or.inl listed
    | deserialize => exact Or.inr listed

/-- One more record brings no number but its own. -/
theorem mem_serials_add {rs : Records δ} {metadata : Metadata} {r : Record δ} {n : Nat}
    (listed : n ∈ (rs.add metadata r).serials) : n ∈ rs.serials ∨ n = r.serial := by
  obtain ⟨direction, s, stored, rfl⟩ := mem_serials_iff.mp listed
  rw [inDirection_add] at stored
  rcases List.mem_append.mp stored with earlier | now
  · exact Or.inl (mem_serials_iff.mpr ⟨direction, s, earlier, rfl⟩)
  · split at now
    · exact Or.inr (congrArg Record.serial (List.mem_singleton.mp now))
    · cases now

/-- Views have numbers before the next one only. -/
theorem Views.serials_lt {metadata : δ → Metadata} {next : Nat} {found : List (Record δ)}
    {rs : Records δ} (views : rs.Views metadata next found) {n : Nat} (listed : n ∈ rs.serials) :
    n < next := by
  obtain ⟨direction, r, stored, rfl⟩ := mem_serials_iff.mp listed
  exact views.below r ((views.mem_iff direction).mp stored).1

end Records

/-! ## Units -/

namespace SourceUnit

/-- **The numbers of all records of a unit.** -/
def serials (u : SourceUnit) : List Nat := u.structs.serials ++ u.enums.serials

/-- One more type brings no number but its own. -/
theorem mem_serials_add {u : SourceUnit} {serial : Nat} {d : TypeDecl} {n : Nat}
    (listed : n ∈ (u.add serial d).serials) : n ∈ u.serials ∨ n = serial := by
  simp only [serials, List.mem_append] at listed ⊢
  cases d with
  | struct decl =>
      rcases listed with structs | enums
      · exact (Records.mem_serials_add structs).imp_left Or.inl
      · exact Or.inl (Or.inr enums)
  | enum decl =>
      rcases listed with structs | enums
      · exact Or.inl (Or.inl structs)
      · exact (Records.mem_serials_add enums).imp_left Or.inr

/-- **A unit of finds** before the number `next`. -/
structure Sound (next : Nat) (u : SourceUnit) : Prop where
  structs : ∃ found, u.structs.Views StructDecl.metadata next found
  enums : ∃ found, u.enums.Views EnumDecl.metadata next found

namespace Sound

variable {next : Nat} {u : SourceUnit}

theorem empty : SourceUnit.empty.Sound next := ⟨⟨[], .empty⟩, ⟨[], .empty⟩⟩

theorem mono {next' : Nat} (sound : u.Sound next) (le : next ≤ next') : u.Sound next' :=
  ⟨sound.structs.imp fun _ views => views.mono le, sound.enums.imp fun _ views => views.mono le⟩

theorem add (sound : u.Sound next) (d : TypeDecl) : (u.add next d).Sound (next + 1) := by
  have later := sound.mono (Nat.le_succ next)
  cases d with
  | struct decl =>
      obtain ⟨found, views⟩ := sound.structs
      exact ⟨⟨_, views.add decl decl.metadata.convention⟩, later.enums⟩
  | enum decl =>
      obtain ⟨found, views⟩ := sound.enums
      exact ⟨later.structs, ⟨_, views.add decl decl.metadata.convention⟩⟩

theorem serials_lt (sound : u.Sound next) {n : Nat} (listed : n ∈ u.serials) : n < next := by
  obtain ⟨found, structs⟩ := sound.structs
  obtain ⟨found', enums⟩ := sound.enums
  rcases List.mem_append.mp listed with listed | listed
  · exact structs.serials_lt listed
  · exact enums.serials_lt listed

end Sound

end SourceUnit

namespace Units

@[simp]
theorem unitAt_entry (units : Units) (path p : Path) :
    (units.entry path).unitAt p = units.unitAt p := by
  rw [unitAt, get?_entry]
  split
  · next same =>
    have one : units.get? p = units.get? path := SortedMap.get?_congr same _
    simp [unitAt, one]
  · rfl

/-- **Units of finds**, each find in one unit only. -/
structure Sound (units : Units) : Prop where
  each : ∀ p, (units.unitAt p).Sound units.next
  apart : ∀ p q, compare p q ≠ .eq → (units.unitAt p).serials.Disjoint (units.unitAt q).serials

namespace Sound

variable {units : Units}

theorem empty : Units.empty.Sound := ⟨fun _ => .empty, fun _ _ _ => List.disjoint_nil_left _⟩

/-- A unit without records is asked for. -/
theorem entry (sound : units.Sound) (path : Path) : (units.entry path).Sound where
  each p := by
    rw [unitAt_entry]
    exact sound.each p
  apart p q distinct := by
    rw [unitAt_entry, unitAt_entry]
    exact sound.apart p q distinct

/-- **The next find** is in the unit of its path and nowhere else. -/
theorem add (sound : units.Sound) (path : Path) (d : TypeDecl) : (units.add path d).Sound where
  each p := by
    rw [unitAt_add]
    split
    · exact (sound.each p).add d
    · exact (sound.each p).mono (Nat.le_succ units.next)
  apart p q distinct := by
    have fresh : ∀ p, units.next ∉ (units.unitAt p).serials := fun p listed =>
      Nat.lt_irrefl _ ((sound.each p).serials_lt listed)
    intro n here there
    rw [unitAt_add] at here there
    split at here <;> split at there
    · next same same' =>
      exact distinct (Std.TransCmp.eq_trans same (Std.OrientedCmp.eq_symm same'))
    · rcases SourceUnit.mem_serials_add here with earlier | rfl
      · exact sound.apart p q distinct earlier there
      · exact fresh q there
    · rcases SourceUnit.mem_serials_add there with earlier | rfl
      · exact sound.apart p q distinct here earlier
      · exact fresh p here
    · exact sound.apart p q distinct here there

end Sound

/-- **How records are shared after any row of steps.**  In each unit the two lists of a kind share the
records of the types that are tagged for both directions, in the same order, and no record is in two
units. -/
theorem shared_after (steps : List WalkStep) :
    (∀ entry ∈ (after steps).toList, entry.2.structs.Shared StructDecl.metadata ∧
      entry.2.enums.Shared EnumDecl.metadata) ∧
    (after steps).toList.Pairwise fun a b => a.2.serials.Disjoint b.2.serials := by
  have sound : (after steps).Sound :=
    after_induction .empty (fun _ path sound => sound.entry path)
      (fun _ path d sound => sound.add path d) steps
  have listed : ∀ entry ∈ (after steps).toList, (after steps).unitAt entry.1 = entry.2 :=
    fun entry listed => unitAt_of_get? (SortedMap.get?_of_mem listed)
  constructor
  · intro entry stored
    obtain ⟨⟨found, structs⟩, ⟨found', enums⟩⟩ := listed entry stored ▸ sound.each entry.1
    exact ⟨structs.shared, enums.shared⟩
  · refine (after steps).byPath.ascending.imp_of_mem ?_
    intro a b stored stored' before
    rw [← listed a stored, ← listed b stored']
    exact sound.apart a.1 b.1 (by simp [before])

/-- A struct that is tagged for both directions. -/
def twoWay : StructDecl :=
  ⟨"FTwoWay", "a", (Metadata.empty.flag Key.serialize).flag Key.deserialize, []⟩

/-- A struct that is tagged for writing only. -/
def oneWay : StructDecl := ⟨"FOneWay", "a", Metadata.empty.flag Key.serialize, []⟩

/-- The unit of the two, the second of which was found first. -/
def bothWays : SourceUnit := (SourceUnit.empty.add 0 (.struct oneWay)).add 1 (.struct twoWay)

/-- The record of a struct that is tagged for both directions is in both lists. -/
theorem shared_after_bothWays :
    let steps : List WalkStep :=
      [.discover (.container "r" [.struct oneWay [], .struct twoWay []])
        (SortedMap.empty.insert "a" ⟨"A.h"⟩)]
    (⟨"A.h"⟩, bothWays) ∈ (after steps).toList ∧
      ⟨1, twoWay, none⟩ ∈ bothWays.structs.deserializable ∧
      ⟨1, twoWay, none⟩ ∈ bothWays.structs.serializable := by
  intro steps
  have stored : (⟨"A.h"⟩, bothWays) ∈ (after steps).toList := by decide +kernel
  have back : ⟨1, twoWay, none⟩ ∈ bothWays.structs.deserializable := by decide
  refine ⟨stored, back, ?_⟩
  have shared := ((shared_after steps).1 _ stored).1
  obtain ⟨partner, listed, number⟩ := (shared.partner_iff _ back).mpr rfl
  rw [shared.same partner listed _ back number] at listed
  exact listed

end Units

end WireHeaders
