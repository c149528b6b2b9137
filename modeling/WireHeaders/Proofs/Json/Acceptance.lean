import Mathlib.Data.List.Perm.Basic
import Mathlib.Logic.Function.Basic
import WireHeaders.Proofs.Data.Alignment
import WireHeaders.Proofs.Json.Records
import WireHeaders.Proofs.Json.Writings

/-!
# Decoders that take every way to write a value

A decoder takes a list, a map or a record in each way in which a host may write it, whether it decodes
the text while it is read or after it was held back.

## Main definitions

* `Json.Decoder.Accepts` — **a decoder that makes `x` of a value**, as far as the value may be read
* `Json.Shape.Takes` — a slot that takes a field of a record
* `Json.Shape.Describes` — fields that describe a record to its shape

## Main statements

* `Json.accepts_list`, `Json.accepts_map` — lists and maps
* `Json.Shape.accepts_record` — **a record is accepted in each way to write it**
* `Json.accepts_tagged` — so is a choice between records, wherever its tag stands

## Design notes

**One direction.**  A member of a record that is not known is passed over without a look at its depth, so
a decoder may take a value that is nested too deeply for a text.  `Decoder.Reads` has equations for such
values as well; `Decoder.Accepts` says nothing of them.

**Drafts by names.**  The fields of a record come in any order, so the drafts on the way are told
apart by the names of the fields that they have.
-/

namespace WireHeaders.Json

variable {α β : Type}

/-! ## Readings that allow a depth -/

namespace Reading

variable {reading : Reading} {depth : Nat}

theorem Fits.mono (fits : reading.Fits depth) {smaller : Nat} (below : smaller ≤ depth) :
    reading.Fits smaller := by
  cases reading with
  | streamed room => exact Nat.le_trans below fits
  | held => exact trivial

theorem Fits.allow_eq (fits : reading.Fits depth) (x : α) : reading.allow depth x = .ok x := by
  cases reading with
  | streamed room => exact if_pos fits
  | held => rfl

/-- A reading that allows a level can enter it. -/
theorem Fits.enter (fits : reading.Fits (depth + 1)) :
    ∃ inner, reading.enter = .ok inner ∧ inner.Fits depth := by
  cases reading with
  | held => exact ⟨.held, rfl, trivial⟩
  | streamed room =>
      cases room with
      | zero => exact absurd fits (Nat.not_succ_le_zero depth)
      | succ room => exact ⟨.streamed room, rfl, Nat.le_of_succ_le_succ fits⟩

end Reading

namespace Document

mutual

/-- Nothing is wrong with a value that is skipped over. -/
theorem skip_ofValue : (v : Value) → skip (ofValue v) = .ok ()
  | .null => rfl
  | .bool b => rfl
  | .int n => rfl
  | .string s => rfl
  | .array items => by
    rw [ofValue, skip]
    exact skipItems_ofItems items
  | .object members => by
    rw [ofValue, skip]
    exact skipMembers_ofMembers members

theorem skipItems_ofItems : (items : List Value) → skipItems (ofItems items) = .ok ()
  | [] => rfl
  | v :: rest => by
    rw [ofItems, skipItems, skip_ofValue v]
    exact skipItems_ofItems rest

theorem skipMembers_ofMembers :
    (members : List (String × Value)) → skipMembers (ofMembers members) = .ok ()
  | [] => rfl
  | (key, v) :: rest => by
    rw [ofMembers, skipMembers, skip_ofValue v]
    exact skipMembers_ofMembers rest

end

end Document

namespace Reading

variable {reading : Reading}

/-- **A value in an unknown field is passed over**, whatever it is. -/
theorem pass_ofValue (reading : Reading) (v : Value) :
    reading.pass (Document.ofValue v) = .ok () := by
  cases reading with
  | held => rfl
  | streamed room =>
      rw [pass, Document.skip_ofValue]
      rfl

/-- A value that is read to its end has nothing wrong with it but its depth. -/
theorem Fits.hold_eq {v : Value} (fits : reading.Fits v.depth) (inRange : v.InRange) :
    reading.hold (Document.ofValue v) = .ok () := by
  cases reading with
  | held => rfl
  | streamed room =>
      have shallow : v.depth ≤ room := fits
      rw [hold, Document.check_ofValue inRange, Document.checkDepth, if_pos shallow]
      rfl

theorem Fits.holdItems_eq {items : List Value} (fits : reading.Fits (Value.itemsDepth items))
    (inRange : ∀ v ∈ items, v.InRange) :
    reading.holdItems (Document.ofItems items) = .ok () := by
  cases reading with
  | held => rfl
  | streamed room =>
      have shallow : Value.itemsDepth items ≤ room := fits
      rw [holdItems, Document.checkItems_ofItems fun v member =>
        Document.check_ofValue (inRange v member) room, Document.checkDepth, if_pos shallow]
      rfl

end Reading

/-! ## Decoders -/

/-- **A decoder that makes `x` of a value**, in any reading that allows the depth of the value; up to a
limit of the depth, and with integers in range. -/
structure Decoder.Accepts (decoder : Decoder α) (limit : Nat) (v : Value) (x : α) : Prop where
  decode_eq : ∀ reading : Reading, reading.Fits v.depth → v.depth ≤ limit →
    decoder reading (Document.ofValue v) = .ok x
  inRange : v.InRange

namespace Decoder.Accepts

variable {decoder : Decoder α} {limit : Nat} {v : Value} {x : α}

theorem mono (accepts : decoder.Accepts limit v x) {smaller : Nat} (below : smaller ≤ limit) :
    decoder.Accepts smaller v x :=
  ⟨fun reading fits within => accepts.decode_eq reading fits (Nat.le_trans within below),
    accepts.inRange⟩

/-- A decoder that reads a value back accepts it. -/
theorem of_reads (reads : ∀ limit, decoder.Reads limit v x) : decoder.Accepts limit v x := by
  refine ⟨?_, (reads 0).inRange⟩
  intro reading fits within
  cases reading with
  | held => exact (reads limit).decode_eq .held within
  | streamed room =>
      rw [(reads room).decode_eq (.streamed room) (Nat.le_refl room), Reading.Fits.allow_eq fits]

theorem bind (accepts : decoder.Accepts limit v x) {f : α → Except Fault β} {y : β}
    (next : f x = .ok y) :
    Decoder.Accepts (fun reading document => decoder reading document >>= f) limit v y := by
  refine ⟨?_, accepts.inRange⟩
  intro reading fits within
  show (decoder reading (Document.ofValue v) >>= f) = _
  rw [accepts.decode_eq reading fits within]
  exact next

theorem map (accepts : decoder.Accepts limit v x) (f : α → β) :
    Decoder.Accepts (fun reading document => do return f (← decoder reading document)) limit v
      (f x) :=
  accepts.bind rfl

/-- **A whole text is decoded** if no more arrays and objects are open in it than a reader takes. -/
theorem run_eq (accepts : decoder.Accepts limit v x) (shallow : v.depth ≤ 127)
    (within : v.depth ≤ limit) : decoder.run ⟨Document.ofValue v, false⟩ = .ok x := by
  have decoded := accepts.decode_eq .whole shallow within
  unfold Decoder.run
  simp only [decoded]
  rfl

end Decoder.Accepts

/-! ## Lists and maps -/

/-- What holds of everything on the right of a relation holds of a list on its right. -/
theorem forall_of_forall₂ {R : α → β → Prop} {P : β → Prop} {xs : List α} {ys : List β}
    (each : List.Forall₂ R xs ys) (right : ∀ x y, R x y → P y) : ∀ y ∈ ys, P y :=
  ((List.forall₂_and_left ..).mp (each.flip.imp fun y x related => ⟨right x y related, related⟩)).1

section Uniform

variable {item : Decoder α} {writes : α → Value → Prop} {limit : Nat}

theorem listItems_of_forall₂ {xs : List α} {items : List Value}
    (each : List.Forall₂ (fun x v => item.Accepts limit v x) xs items) {reading : Reading}
    (fits : reading.Fits (Value.itemsDepth items)) (within : Value.itemsDepth items ≤ limit) :
    listItems item reading (Document.ofItems items) = .ok xs := by
  induction each with
  | nil => rfl
  | cons accepts _ ih =>
      rw [Value.itemsDepth] at fits within
      have first := accepts.decode_eq reading (fits.mono (Nat.le_max_left _ _))
        (Nat.le_trans (Nat.le_max_left _ _) within)
      have later := ih (fits.mono (Nat.le_max_right _ _))
        (Nat.le_trans (Nat.le_max_right _ _) within)
      rw [Document.ofItems, listItems, first, later]
      rfl

/-- **A list is accepted** if its items are. -/
theorem accepts_list {xs : List α} {v : Value}
    (each : ∀ x ∈ xs, ∀ v, writes x v → item.Accepts limit v x) (written : WritesList writes xs v) :
    (list item).Accepts (limit + 1) v xs := by
  obtain ⟨items, rfl, written⟩ := written
  have accepted : List.Forall₂ (fun x v => item.Accepts limit v x) xs items :=
    (SortedMap.forall₂_mem written).imp fun x v ⟨member, _, writes⟩ => each x member v writes
  refine ⟨?_, .array (forall_of_forall₂ accepted fun x v accepts => accepts.inRange)⟩
  intro reading fits within
  rw [Value.depth] at fits within
  obtain ⟨inner, entered, fits⟩ := fits.enter
  rw [Document.ofValue]
  show (reading.enter >>= fun inner => listItems item inner (Document.ofItems items)) = _
  rw [entered]
  exact listItems_of_forall₂ accepted fits (Nat.le_of_succ_le_succ within)

theorem dictionaryMembers_of_forall₂ {entries : List (String × α)}
    {members : List (String × Value)}
    (each : List.Forall₂ (fun e m => m.1 = e.1 ∧ item.Accepts limit m.2 e.2) entries members)
    {reading : Reading} (fits : reading.Fits (Value.membersDepth members))
    (within : Value.membersDepth members ≤ limit) :
    dictionaryMembers item reading (Document.ofMembers members) = .ok entries := by
  induction each with
  | nil => rfl
  | @cons e m _ _ related _ ih =>
      obtain ⟨key, v⟩ := m
      obtain ⟨rfl, accepts⟩ := related
      rw [Value.membersDepth] at fits within
      have first := accepts.decode_eq reading (fits.mono (Nat.le_max_left _ _))
        (Nat.le_trans (Nat.le_max_left _ _) within)
      have later := ih (fits.mono (Nat.le_max_right _ _))
        (Nat.le_trans (Nat.le_max_right _ _) within)
      rw [Document.ofMembers, dictionaryMembers, first, later]
      rfl

/-- **A map is accepted** if its values are, in whatever order they stand. -/
theorem accepts_map {m : SortedMap String α} {v : Value}
    (each : ∀ e ∈ m.entries, ∀ v, writes e.2 v → item.Accepts limit v e.2)
    (written : WritesMap writes m v) : (dictionary item).Accepts (limit + 1) v m := by
  obtain ⟨members, inOrder, rfl, order, written⟩ := written
  have accepted : List.Forall₂ (fun m e => m.1 = e.1 ∧ item.Accepts limit m.2 e.2) inOrder
      m.entries :=
    ((SortedMap.forall₂_mem written).imp fun e member ⟨listed, _, named, writes⟩ =>
      And.intro named (each e listed member.2 writes)).flip
  -- The entries of the map are taken in the order in which the members stand.
  obtain ⟨entries, decoded, reordered⟩ := List.perm_comp_forall₂ order accepted
  have decoded := decoded.flip
  refine ⟨?_, .object (forall_of_forall₂ decoded fun e member accepts => accepts.2.inRange)⟩
  intro reading fits within
  rw [Value.depth] at fits within
  obtain ⟨inner, entered, fits⟩ := fits.enter
  rw [Document.ofValue]
  show (reading.enter >>= fun inner =>
    dictionaryMembers item inner (Document.ofMembers members) >>= fun entries =>
      pure (SortedMap.ofList entries)) = _
  rw [entered]
  show (dictionaryMembers item inner (Document.ofMembers members) >>= fun entries =>
    pure (SortedMap.ofList entries)) = _
  rw [dictionaryMembers_of_forall₂ decoded fits (Nat.le_of_succ_le_succ within)]
  exact congrArg Except.ok (SortedMap.ofList_perm reordered)

end Uniform

/-! ## Records -/

namespace Shape

variable {σ : Type} {shape : Shape σ α} {limit : Nat} {draft : (String → Bool) → σ}
  {slots : List (Slot σ)} {parts : List Part} {reading : Reading}

/-- **A slot that takes a field of a record**, where drafts are known by the names of their fields. -/
structure Takes (limit : Nat) (draft : (String → Bool) → σ) (slot : Slot σ) (part : Part) : Prop where
  name_eq : slot.name = part.name
  given_eq : ∀ given, slot.given (draft given) = given part.name
  fill : ∀ v, part.Writes v → ∃ change, slot.fill.Accepts limit v change ∧
    ∀ given, change (draft given) = draft (Function.update given part.name true)

/-- **Fields that describe a record to its shape.** -/
structure Describes (shape : Shape σ α) (limit : Nat) (parts : List Part)
    (draft : (String → Bool) → σ) (x : α) : Prop where
  blank : draft (fun _ => false) = shape.blank
  slots : List.Forall₂ (Takes limit draft) shape.slots parts
  distinct : (parts.map Part.name).Nodup
  /-- What may be left out is built all the same. -/
  build : ∀ given : String → Bool, (∀ part ∈ parts, given part.name = true ∨ part.Omissible) →
    shape.build (draft given) = .ok x

/-- The slot of a field is found by the name of the field. -/
theorem exists_slot (takes : List.Forall₂ (Takes limit draft) slots parts)
    (distinct : (parts.map Part.name).Nodup) {part : Part} (listed : part ∈ parts) :
    ∃ slot, slots.find? (fun slot => slot.name == part.name) = some slot ∧
      Takes limit draft slot part := by
  induction takes with
  | nil => cases listed
  | @cons slot head slots parts taken _ ih =>
      obtain ⟨apart, distinct⟩ := List.nodup_cons.mp distinct
      rcases List.mem_cons.mp listed with rfl | later
      · exact ⟨slot, List.find?_cons_of_pos (beq_iff_eq.mpr taken.name_eq), taken⟩
      · have other : ¬(slot.name == part.name) = true := by
          rw [beq_iff_eq, taken.name_eq]
          intro same
          exact apart (same ▸ List.mem_map_of_mem later)
        rw [List.find?_cons_of_neg (p := fun slot : Slot σ => slot.name == part.name) other]
        exact ih distinct later

/-- No slot has the name of an unknown member. -/
theorem find?_slots_eq_none (takes : List.Forall₂ (Takes limit draft) slots parts) {name : String}
    (unknown : ∀ part ∈ parts, name ≠ part.name) :
    slots.find? (fun slot => slot.name == name) = none := by
  induction takes with
  | nil => rfl
  | @cons slot head slots parts taken _ ih =>
      obtain ⟨other, unknown⟩ := List.forall_mem_cons.mp unknown
      have differs : ¬(slot.name == name) = true := by
        rw [beq_iff_eq, taken.name_eq]
        exact other.symm
      rw [List.find?_cons_of_neg (p := fun slot : Slot σ => slot.name == name) differs]
      exact ih unknown

/-- A field that is given stays so when another one is. -/
theorem update_true {given : String → Bool} {name other : String} (had : given name = true) :
    Function.update given other true name = true := by
  by_cases same : name = other
  · rw [same, Function.update_self]
  · rw [Function.update_of_ne same]
    exact had

/-- **A member for a field that is still empty fills it.** -/
theorem members_of_part (takes : List.Forall₂ (Takes limit draft) shape.slots parts)
    (distinct : (parts.map Part.name).Nodup) {part : Part} {v : Value} (listed : part ∈ parts)
    (writes : part.Writes v) (fits : reading.Fits v.depth) (within : v.depth ≤ limit)
    {given : String → Bool} (empty : given part.name = false) (later : Members) :
    shape.members reading (draft given) (.member (.ok part.name) (Document.ofValue v) later) =
      shape.members reading (draft (Function.update given part.name true)) later := by
  obtain ⟨slot, found, taken⟩ := exists_slot takes distinct listed
  obtain ⟨change, accepts, changed⟩ := taken.fill v writes
  rw [members_of_found found (by rw [taken.given_eq, empty]), accepts.decode_eq reading fits within]
  show shape.members reading (change (draft given)) later = _
  rw [changed]

/-- **Members bring a draft to one that has their fields**, in whatever order they stand. -/
theorem members_of_each (given : String → Bool)
    (takes : List.Forall₂ (Takes limit draft) shape.slots parts)
    (distinct : (parts.map Part.name).Nodup) {members : List (String × Value)}
    (each : ∀ m ∈ members, (∃ part ∈ parts, part.name = m.1 ∧ part.Writes m.2) ∨
      (∀ part ∈ parts, m.1 ≠ part.name) ∧ m.2.InRange)
    (once : members.Pairwise fun a b => a.1 = b.1 → ∀ part ∈ parts, a.1 ≠ part.name)
    (missing : ∀ m ∈ members, ∀ part ∈ parts, m.1 = part.name → given part.name = false)
    (fits : reading.Fits (Value.membersDepth members))
    (within : Value.membersDepth members ≤ limit) :
    ∃ given', shape.members reading (draft given) (Document.ofMembers members) =
        .ok (draft given') ∧
      (∀ name, given name = true → given' name = true) ∧
      ∀ m ∈ members, ∀ part ∈ parts, m.1 = part.name → given' part.name = true := by
  induction members generalizing given with
  | nil => exact ⟨given, rfl, fun _ had => had, nofun⟩
  | cons m members ih =>
      obtain ⟨name, v⟩ := m
      obtain ⟨here, eachLater⟩ := List.forall_mem_cons.mp each
      obtain ⟨apart, onceLater⟩ := List.pairwise_cons.mp once
      obtain ⟨missingHere, missingLater⟩ := List.forall_mem_cons.mp missing
      rw [Value.membersDepth] at fits within
      have fitsLater := fits.mono (Nat.le_max_right _ _)
      have withinLater := Nat.le_trans (Nat.le_max_right _ _) within
      rw [Document.ofMembers]
      rcases here with ⟨part, listed, rfl, writes⟩ | ⟨unknown, -⟩
      · -- No later member has the name of this field, so what they miss is still missing.
        have stillMissing : ∀ m ∈ members, ∀ other ∈ parts, m.1 = other.name →
            Function.update given part.name true other.name = false := by
          intro m member other listed' named
          have differs : other.name ≠ part.name := fun same =>
            apart m member (named.trans same).symm part listed rfl
          rw [Function.update_of_ne differs]
          exact missingLater m member other listed' named
        obtain ⟨given', read, kept, has⟩ :=
          ih _ eachLater onceLater stillMissing fitsLater withinLater
        refine ⟨given', ?_, fun name had => kept name (update_true had), ?_⟩
        · rw [members_of_part takes distinct listed writes (fits.mono (Nat.le_max_left _ _))
            (Nat.le_trans (Nat.le_max_left _ _) within) (missingHere part listed rfl)]
          exact read
        · refine List.forall_mem_cons.mpr ⟨?_, has⟩
          intro other _ same
          exact kept other.name (by rw [← same, Function.update_self])
      · obtain ⟨given', read, kept, has⟩ :=
          ih given eachLater onceLater missingLater fitsLater withinLater
        refine ⟨given', ?_, kept, List.forall_mem_cons.mpr ⟨?_, has⟩⟩
        · rw [members_of_unknown (find?_slots_eq_none takes unknown), Reading.pass_ofValue]
          exact read
        · intro part listed named
          exact absurd named (unknown part listed)

/-- **Items bring a draft to one that has all fields.** -/
theorem items_of_forall₂ (given : String → Bool)
    (takes : List.Forall₂ (Takes limit draft) slots parts) {items : List Value}
    (each : List.Forall₂ Part.Writes parts items)
    (fits : reading.Fits (Value.itemsDepth items)) (within : Value.itemsDepth items ≤ limit) :
    ∃ given', Shape.items reading slots (draft given) (Document.ofItems items) =
        .ok (draft given', .closed) ∧
      (∀ name, given name = true → given' name = true) ∧
      ∀ part ∈ parts, given' part.name = true := by
  induction takes generalizing given items with
  | nil =>
      cases each
      exact ⟨given, rfl, fun _ had => had, nofun⟩
  | @cons slot part slots parts taken _ ih =>
      cases each with
      | @cons _ v _ items writes each =>
          rw [Value.itemsDepth] at fits within
          obtain ⟨change, accepts, changed⟩ := taken.fill v writes
          obtain ⟨given', read, kept, has⟩ :=
            ih (Function.update given part.name true) each
              (fits.mono (Nat.le_max_right _ _)) (Nat.le_trans (Nat.le_max_right _ _) within)
          refine ⟨given', ?_, fun name had => kept name (update_true had), ?_⟩
          · rw [Document.ofItems, Shape.items, accepts.decode_eq reading
              (fits.mono (Nat.le_max_left _ _)) (Nat.le_trans (Nat.le_max_left _ _) within)]
            show Shape.items reading slots (change (draft given)) _ = _
            rw [changed]
            exact read
          · refine List.forall_mem_cons.mpr ⟨kept _ ?_, has⟩
            rw [Function.update_self]

/-- **A record is accepted in each way to write it.** -/
theorem accepts_record {x : α} {v : Value} (describes : shape.Describes limit parts draft x)
    (written : WritesRecord parts v) : shape.decode.Accepts (limit + 1) v x := by
  have takes := describes.slots
  cases written with
  | @object chosen further members fields unknown inRange order =>
      have holds := fields.holds describes.distinct unknown inRange order
      refine ⟨?_, .object ?_⟩
      · intro reading fits within
        rw [Value.depth] at fits within
        obtain ⟨inner, entered, fits⟩ := fits.enter
        obtain ⟨given, read, -, has⟩ :=
          members_of_each (fun _ => false) takes describes.distinct holds.each holds.once
            (fun _ _ _ _ _ => rfl) fits (Nat.le_of_succ_le_succ within)
        have built : shape.build (draft given) = .ok x := by
          refine describes.build given ?_
          intro part listed
          refine (holds.complete part listed).imp_left ?_
          rintro ⟨m, member, named⟩
          exact has m member part listed named
        rw [Document.ofValue]
        show (reading.enter >>= fun inner =>
          shape.ofMembers inner (Document.ofMembers members)) = _
        rw [entered]
        show shape.ofMembers inner (Document.ofMembers members) = _
        rw [ofMembers, ← describes.blank, read]
        show (shape.build (draft given)).mapError _ = _
        rw [built]
        rfl
      · intro m member
        rcases holds.each m member with ⟨part, listed, -, writes⟩ | ⟨-, inRange⟩
        · obtain ⟨slot, -, taken⟩ := exists_slot takes describes.distinct listed
          obtain ⟨change, accepts, -⟩ := taken.fill m.2 writes
          exact accepts.inRange
        · exact inRange
  | @array items each =>
      refine ⟨?_, .array ?_⟩
      · intro reading fits within
        rw [Value.depth] at fits within
        obtain ⟨inner, entered, fits⟩ := fits.enter
        obtain ⟨given, read, -, has⟩ := items_of_forall₂ (fun _ => false) takes each fits
          (Nat.le_of_succ_le_succ within)
        have built : shape.build (draft given) = .ok x :=
          describes.build given fun part listed => .inl (has part listed)
        have finished : shape.finish inner .closed = .ok () := by cases inner <;> rfl
        rw [Document.ofValue]
        show (reading.enter >>= fun inner => shape.ofItems inner (Document.ofItems items)) = _
        rw [entered]
        show shape.ofItems inner (Document.ofItems items) = _
        rw [ofItems, ← describes.blank, read]
        show ((shape.build (draft given)).mapError _ >>= fun record =>
          shape.finish inner .closed >>= fun _ => pure record) = _
        rw [built, finished]
        rfl
      · -- Each item fills a slot, which takes values in range only.
        have taken : List.Forall₂ (fun part v => part ∈ parts ∧ v ∈ items ∧ part.Writes v) parts
            items := SortedMap.forall₂_mem each
        refine forall_of_forall₂ taken ?_
        rintro part v ⟨listed, -, writes⟩
        obtain ⟨slot, -, taken⟩ := exists_slot takes describes.distinct listed
        obtain ⟨change, accepts, -⟩ := taken.fill v writes
        exact accepts.inRange

end Shape

/-! ## Choices -/

theorem Value.membersDepth_append (members later : List (String × Value)) :
    membersDepth (members ++ later) = max (membersDepth members) (membersDepth later) := by
  induction members with
  | nil => exact (Nat.zero_max _).symm
  | cons m members ih => rw [List.cons_append, membersDepth, membersDepth, ih, Nat.max_assoc]

section Choices

variable {tag : String} {tags : Decoder β} {limit : Nat} {reading : Reading}

/-- **Members before the tag are only read to their end.** -/
theorem findTag_append {before later : List (String × Value)} (apart : ∀ m ∈ before, m.1 ≠ tag)
    (inRange : ∀ m ∈ before, m.2.InRange)
    (fits : reading.Fits (Value.membersDepth (before ++ later))) (found : Option β) :
    findTag tag tags reading found (Document.ofMembers (before ++ later)) =
      findTag tag tags reading found (Document.ofMembers later) := by
  induction before with
  | nil => rfl
  | cons m before ih =>
      obtain ⟨key, v⟩ := m
      obtain ⟨other, apart⟩ := List.forall_mem_cons.mp apart
      obtain ⟨inRangeHere, inRange⟩ := List.forall_mem_cons.mp inRange
      rw [List.cons_append, Value.membersDepth] at fits
      have held := (fits.mono (Nat.le_max_left _ _)).hold_eq inRangeHere
      rw [List.cons_append, Document.ofMembers, findTag]
      simp only [Except.mapError, bind, Except.bind, if_neg other, held]
      exact ih apart inRange (fits.mono (Nat.le_max_right _ _))

section Tagged

variable {title name : String} {variants : List (String × Decoder α)} {decoder : Decoder α}

/-- A variant is chosen by its name. -/
theorem variant_of_named (named : variants.find? (fun v => v.1 == name) = some (name, decoder))
    (reading : Reading) : variant variants reading (.string (.ok name)) = .ok decoder := by
  cases reading <;> simp only [variant, variantNamed, named]

/-- **An object is held until its tag is found**, and then decoded as what the tag names. -/
theorem tagged_object (named : variants.find? (fun v => v.1 == name) = some (name, decoder))
    {before after : List (String × Value)} (apart : ∀ m ∈ before ++ after, m.1 ≠ tag)
    (inRange : ∀ m ∈ before ++ (tag, .string name) :: after, m.2.InRange)
    (fits : reading.Fits (Value.object (before ++ (tag, .string name) :: after)).depth) :
    tagged title tag variants reading
        (Document.ofValue (.object (before ++ (tag, .string name) :: after))) =
      decoder .held (Document.ofValue (.object (before ++ (tag, .string name) :: after))) := by
  obtain ⟨apartBefore, apartAfter⟩ := List.forall_mem_append.mp apart
  obtain ⟨inRangeBefore, inRangeAfter⟩ := List.forall_mem_append.mp inRange
  rw [Value.depth] at fits
  obtain ⟨inner, entered, fits⟩ := fits.enter
  have fitsAfter : inner.Fits (Value.membersDepth after) := by
    refine fits.mono ?_
    rw [Value.membersDepth_append, Value.membersDepth]
    omega
  have tagFound : findTag tag (variant variants) inner none
      (Document.ofMembers (before ++ (tag, .string name) :: after)) = .ok (some decoder) := by
    rw [findTag_append apartBefore inRangeBefore fits, Document.ofMembers, Document.ofValue, findTag]
    simp only [Except.mapError, bind, Except.bind, variant_of_named named]
    show findTag tag (variant variants) inner (some decoder) (Document.ofMembers after) = _
    rw [findTag_ofMembers apartAfter fun m member => inRangeAfter m (List.mem_cons_of_mem _ member),
      fitsAfter.allow_eq]
  rw [Document.ofValue]
  generalize Document.ofMembers (before ++ (tag, .string name) :: after) = document at tagFound ⊢
  rw [tagged, entered]
  show (findTag tag (variant variants) inner none document >>= _) = _
  rw [tagFound]
  rfl

/-- An array is decoded as what its first item names. -/
theorem tagged_array (named : variants.find? (fun v => v.1 == name) = some (name, decoder))
    {items : List Value} (inRange : ∀ v ∈ items, v.InRange)
    (fits : reading.Fits (Value.array (.string name :: items)).depth) :
    tagged title tag variants reading (Document.ofValue (.array (.string name :: items))) =
      decoder .held (Document.ofValue (.array items)) := by
  rw [Value.depth] at fits
  obtain ⟨inner, entered, fits⟩ := fits.enter
  have fitsRest : inner.Fits (Value.itemsDepth items) := by
    refine fits.mono ?_
    rw [Value.itemsDepth]
    exact Nat.le_max_right _ _
  rw [Document.ofValue, Document.ofItems, Document.ofValue, tagged, entered]
  show (variant variants inner (.string (.ok name)) >>= fun decoder =>
    inner.holdItems (Document.ofItems items) >>= fun _ =>
      decoder .held (.array (Document.ofItems items))) = _
  rw [variant_of_named named, fitsRest.holdItems_eq inRange, Document.ofValue]
  rfl

/-- **A choice is accepted in each way to write its record**, wherever the tag stands in it. -/
theorem accepts_tagged {parts : List Part} {x : α} {v : Value}
    (named : variants.find? (fun v => v.1 == name) = some (name, decoder))
    (apart : ∀ part ∈ parts, part.name ≠ tag)
    (content : ∀ v, WritesRecord parts v → decoder.Accepts limit v x)
    (written : WritesRecord (Part.text tag name :: parts) v) :
    (tagged title tag variants).Accepts limit v x := by
  cases written with
  | @object _ further members fields unknown inRange order =>
      cases fields with
      | leave impossible _ => exact absurd impossible id
      | @keep _ tagValue _ fieldMembers writes fields =>
          cases writes
          -- Among the fields of the record the tag is one more member that is not known.
          have further : ∀ m ∈ (tag, Value.string name) :: further, ∀ part ∈ parts,
              m.1 ≠ part.name :=
            List.forall_mem_cons.mpr ⟨fun part listed => (apart part listed).symm,
              fun m other part listed => unknown m other part (List.mem_cons_of_mem _ listed)⟩
          have accepts := content (.object members) (.object fields further
            (List.forall_mem_cons.mpr ⟨.string name, inRange⟩) (order.trans List.perm_middle.symm))
          obtain ⟨before, after, rfl⟩ := List.append_of_mem
            (order.mem_iff.mpr (List.mem_cons_self (a := (tag, Value.string name))))
          have others : ∀ m ∈ before ++ after, m.1 ≠ tag := by
            intro m member
            have rest := (List.perm_middle.symm.trans order).cons_inv.mem_iff.mp member
            rcases List.mem_append.mp rest with known | other
            · obtain ⟨part, listed, named, -⟩ := fields.exists_part m known
              rw [← named]
              exact apart part listed
            · exact unknown m other _ List.mem_cons_self
          refine ⟨?_, accepts.inRange⟩
          intro reading fits within
          rw [tagged_object named others accepts.inRange.of_mem fits]
          exact accepts.decode_eq .held trivial within
  | @array items each =>
      cases each with
      | @cons _ tagValue _ items writes each =>
          cases writes
          have accepts := content (.array items) (.array each)
          have inRange : ∀ v ∈ items, v.InRange := by
            cases accepts.inRange with
            | array each => exact each
          have deep : (Value.array (.string name :: items)).depth = (Value.array items).depth := by
            rw [Value.depth, Value.itemsDepth, Value.depth]
            exact congrArg (· + 1) (Nat.zero_max _)
          refine ⟨?_, .array (List.forall_mem_cons.mpr ⟨.string name, inRange⟩)⟩
          intro reading fits within
          rw [tagged_array named inRange fits]
          exact accepts.decode_eq .held trivial (deep ▸ within)

end Tagged

end Choices

end WireHeaders.Json
