import Mathlib.Data.List.Nodup
import WireHeaders.Proofs.Json.Decoding

/-!
# Ways to write a record

Which values a host may write for a list, for a map and for a record.  Objects may have their members
in any order; a record may also leave out fields and hold members that it does not know, and it may be an
array of all its fields.

## Main definitions

* `Json.WritesList`, `Json.WritesMap` — the values for a list and for a map
* `Json.Part` — a field of a record, with the values that may stand in it
* `Json.Chosen` — members for the fields of a record, some of which may be left out
* `Json.WritesRecord` — **the values for a record**
* `Json.Holds` — members among which each field stands once at most

## Main statements

* `Json.Chosen.holds` — the members of a record hold its fields, **in whatever order they stand**

## Design notes

**Fields as predicates.**  What may stand in a field is a predicate on values, so a field of a record
may itself be written in all ways, and so may what is inside of it.
-/

namespace WireHeaders.Json

/-- **The values for a list**: an array of values for its items. -/
def WritesList {α : Type} (writes : α → Value → Prop) (xs : List α) (v : Value) : Prop :=
  ∃ items, v = .array items ∧ List.Forall₂ writes xs items

/-- **The values for a map**: an object of values for its entries, in any order. -/
def WritesMap {α : Type} (writes : α → Value → Prop) (m : SortedMap String α) (v : Value) : Prop :=
  ∃ members written, v = .object members ∧ members.Perm written ∧
    List.Forall₂ (fun e member => member.1 = e.1 ∧ writes e.2 member.2) m.entries written

/-- **A field of a record.** -/
structure Part where
  name : String
  /-- The values that may stand in the field. -/
  Writes : Value → Prop
  /-- Whether the field may be left out. -/
  Omissible : Prop

/-- A field with a text, which may not be left out; so is the tag of a choice. -/
def Part.text (name content : String) : Part := ⟨name, (· = .string content), False⟩

/-- **Members for the fields of a record**, in the order of the fields. -/
inductive Chosen : List Part → List (String × Value) → Prop where
  | done : Chosen [] []
  | keep {part : Part} {v : Value} {parts : List Part} {members : List (String × Value)}
      (writes : part.Writes v) (rest : Chosen parts members) :
      Chosen (part :: parts) ((part.name, v) :: members)
  | leave {part : Part} {parts : List Part} {members : List (String × Value)}
      (omissible : part.Omissible) (rest : Chosen parts members) : Chosen (part :: parts) members

/-- **The values for a record.** -/
inductive WritesRecord (parts : List Part) : Value → Prop where
  /-- An object has a member for each field that is not left out, and further ones that may hold
  anything.  They may stand in any order. -/
  | object {chosen further members : List (String × Value)} (fields : Chosen parts chosen)
      (unknown : ∀ m ∈ further, ∀ part ∈ parts, m.1 ≠ part.name)
      (inRange : ∀ m ∈ further, m.2.InRange) (order : members.Perm (chosen ++ further)) :
      WritesRecord parts (.object members)
  /-- An array has an item for each field, in the order of the fields. -/
  | array {items : List Value} (each : List.Forall₂ Part.Writes parts items) :
      WritesRecord parts (.array items)

/-! ## The usual way -/

section Usual

variable {α : Type} {writes : α → Value → Prop} (write : α → Value)

/-- A list may be written item by item. -/
theorem writesList_map {xs : List α} (each : ∀ x ∈ xs, writes x (write x)) :
    WritesList writes xs (.array (xs.map write)) :=
  ⟨_, rfl, List.forall₂_map_right_iff.mpr (List.forall₂_same.mpr each)⟩

/-- A map may be written in the order of its keys. -/
theorem writesMap_entries {m : SortedMap String α} (each : ∀ e ∈ m.entries, writes e.2 (write e.2)) :
    WritesMap writes m (.object (m.entries.map fun e => (e.1, write e.2))) :=
  ⟨_, _, rfl, .refl _, List.forall₂_map_right_iff.mpr
    (List.forall₂_same.mpr fun e listed => ⟨rfl, each e listed⟩)⟩

/-- A record may be written as an object of its fields, in their order. -/
theorem WritesRecord.of_chosen {parts : List Part} {members : List (String × Value)}
    (fields : Chosen parts members) : WritesRecord parts (.object members) := by
  refine .object fields (List.forall_mem_nil _) (List.forall_mem_nil _) ?_
  rw [List.append_nil]

end Usual

/-! ## Members in any order -/

/-- **Members among which each field stands once at most.** -/
structure Holds (parts : List Part) (members : List (String × Value)) : Prop where
  /-- A member writes a field, or it is none and may hold anything. -/
  each : ∀ m ∈ members, (∃ part ∈ parts, part.name = m.1 ∧ part.Writes m.2) ∨
    (∀ part ∈ parts, m.1 ≠ part.name) ∧ m.2.InRange
  once : members.Pairwise fun a b => a.1 = b.1 → ∀ part ∈ parts, a.1 ≠ part.name
  /-- What is missing may be left out. -/
  complete : ∀ part ∈ parts, (∃ m ∈ members, m.1 = part.name) ∨ part.Omissible

variable {parts : List Part} {chosen further members : List (String × Value)}

/-- A member for a field stands under the name of the field. -/
theorem Chosen.exists_part (fields : Chosen parts chosen) :
    ∀ m ∈ chosen, ∃ part ∈ parts, part.name = m.1 ∧ part.Writes m.2 := by
  induction fields with
  | done => exact nofun
  | keep writes rest ih =>
      refine List.forall_mem_cons.mpr ⟨⟨_, List.mem_cons_self, rfl, writes⟩, ?_⟩
      intro m member
      obtain ⟨part, listed, written⟩ := ih m member
      exact ⟨part, List.mem_cons_of_mem _ listed, written⟩
  | leave omissible rest ih =>
      intro m member
      obtain ⟨part, listed, written⟩ := ih m member
      exact ⟨part, List.mem_cons_of_mem _ listed, written⟩

/-- The members for the fields have the names of fields, in their order. -/
theorem Chosen.sublist_names (fields : Chosen parts chosen) :
    (chosen.map Prod.fst).Sublist (parts.map Part.name) := by
  induction fields with
  | done => exact .slnil
  | keep writes rest ih => exact ih.cons_cons _
  | leave omissible rest ih => exact ih.cons _

theorem Chosen.complete (fields : Chosen parts chosen) :
    ∀ part ∈ parts, (∃ m ∈ chosen, m.1 = part.name) ∨ part.Omissible := by
  induction fields with
  | done => exact nofun
  | keep writes rest ih =>
      refine List.forall_mem_cons.mpr ⟨.inl ⟨_, List.mem_cons_self, rfl⟩, ?_⟩
      intro part listed
      refine (ih part listed).imp_left ?_
      rintro ⟨m, member, named⟩
      exact ⟨m, List.mem_cons_of_mem _ member, named⟩
  | leave omissible rest ih => exact List.forall_mem_cons.mpr ⟨.inr omissible, ih⟩

/-- **The members of a record hold its fields**, in whatever order they stand. -/
theorem Chosen.holds (distinct : (parts.map Part.name).Nodup) (fields : Chosen parts chosen)
    (unknown : ∀ m ∈ further, ∀ part ∈ parts, m.1 ≠ part.name)
    (inRange : ∀ m ∈ further, m.2.InRange) (order : members.Perm (chosen ++ further)) :
    Holds parts members := by
  refine ⟨?_, ?_, ?_⟩
  · intro m member
    rcases List.mem_append.mp (order.mem_iff.mp member) with known | other
    · exact .inl (fields.exists_part m known)
    · exact .inr ⟨unknown m other, inRange m other⟩
  · have apart : chosen.Pairwise fun a b => a.1 ≠ b.1 :=
      List.pairwise_map.mp (distinct.sublist fields.sublist_names)
    have once : (chosen ++ further).Pairwise fun a b =>
        a.1 = b.1 → ∀ part ∈ parts, a.1 ≠ part.name := by
      refine List.pairwise_append.mpr ⟨apart.imp fun differ same => absurd same differ, ?_, ?_⟩
      · exact List.pairwise_of_forall_mem_list fun a other b _ _ => unknown a other
      · intro a _ b other same
        rw [same]
        exact unknown b other
    refine order.symm.pairwise once ?_
    intro a b known same
    rw [same]
    exact known same.symm
  · intro part listed
    refine (fields.complete part listed).imp_left ?_
    rintro ⟨m, member, named⟩
    exact ⟨m, order.mem_iff.mpr (List.mem_append_left _ member), named⟩

end WireHeaders.Json
