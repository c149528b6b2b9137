import WireHeaders.Proofs.Json.Decoding
import WireHeaders.Proofs.Log.Results

/-!
# Records and choices read back

What the members of an object make of a record, and how a choice between records is found again
by its tag.

## Main definitions

* `Json.Shape.Fills` — members that bring one draft of a record to another

## Main statements

* `Json.Shape.Fills.members_eq` — **members that fill a draft are read into it**
* `Json.Shape.reads_object` — **a record is read back** from members that fill a complete draft
* `Json.reads_tagged` — **a choice is read back** through the tag that stands first

## Design notes

**Omitted fields.**  `Shape.Fills` speaks about the members that are there.  A member that was left
out when the record was written leaves its field of the draft empty, and it is up to `Shape.build`
to make the same of an empty field and of the value that was left out.
-/

namespace WireHeaders.Json

variable {α : Type}

namespace Shape

variable {σ : Type} {shape : Shape σ α} {limit : Nat}

theorem members_of_unknown {reading : Reading} {draft : σ} {name : String} {document : Document}
    {later : Members} (unknown : shape.slots.find? (fun slot => slot.name == name) = none) :
    shape.members reading draft (.member (.ok name) document later) =
      (do reading.pass document; shape.members reading draft later) := by
  rw [Shape.members]
  simp only [Except.mapError, bind, Except.bind, unknown]

theorem members_of_found {reading : Reading} {draft : σ} {name : String} {document : Document}
    {later : Members} {slot : Slot σ}
    (found : shape.slots.find? (fun slot => slot.name == name) = some slot)
    (empty : slot.given draft = false) :
    shape.members reading draft (.member (.ok name) document later) =
      (do
        let fill ← slot.fill reading document
        shape.members reading (fill draft) later) := by
  rw [Shape.members]
  simp only [Except.mapError, bind, Except.bind, found, empty]
  rfl

/-- **Members that bring one draft of a record to another**, each by filling a field that was still
empty. -/
inductive Fills (shape : Shape σ α) (limit : Nat) : σ → List (String × Value) → σ → Prop where
  | done (draft : σ) : Fills shape limit draft [] draft
  /-- A text of another name is passed over. -/
  | pass {draft final : σ} {name text : String} {later : List (String × Value)}
      (unknown : shape.slots.find? (fun slot => slot.name == name) = none)
      (rest : Fills shape limit draft later final) :
      Fills shape limit draft ((name, .string text) :: later) final
  | fill {draft final : σ} {name : String} {v : Value} {later : List (String × Value)}
      {slot : Slot σ} {change : σ → σ}
      (found : shape.slots.find? (fun slot => slot.name == name) = some slot)
      (empty : slot.given draft = false) (reads : slot.fill.Reads limit v change)
      (rest : Fills shape limit (change draft) later final) :
      Fills shape limit draft ((name, v) :: later) final

/-- **Members that fill a draft are read into it.** -/
theorem Fills.members_eq {draft final : σ} {members : List (String × Value)}
    (fills : shape.Fills limit draft members final) {reading : Reading}
    (within : reading.Within limit (Value.membersDepth members)) :
    shape.members reading draft (Document.ofMembers members) =
      reading.allow (Value.membersDepth members) final := by
  induction fills with
  | done draft => rw [Document.ofMembers, Shape.members, Value.membersDepth, Reading.allow_zero]
  | @pass draft final name text later unknown rest ih =>
      have depth : Value.membersDepth ((name, .string text) :: later) =
          Value.membersDepth later := by
        rw [Value.membersDepth]
        exact Nat.zero_max _
      have passed : reading.pass (.string (.ok text)) = .ok () := by
        cases reading with
        | streamed room => rfl
        | held => rfl
      rw [depth] at within ⊢
      rw [Document.ofMembers, Document.ofValue, members_of_unknown unknown, passed]
      exact ih within
  | @fill draft final name v later slot change found empty reads rest ih =>
      rw [Value.membersDepth] at within ⊢
      have read := reads.decode_eq reading (within.mono (Nat.le_max_left _ _))
      have others := ih (within.mono (Nat.le_max_right _ _))
      rw [Document.ofMembers, members_of_found found empty, read]
      exact Reading.allow_bind others

theorem Fills.inRange {draft final : σ} {members : List (String × Value)}
    (fills : shape.Fills limit draft members final) : ∀ m ∈ members, m.2.InRange := by
  induction fills with
  | done draft => simp
  | @pass draft final name text later unknown rest ih =>
      exact List.forall_mem_cons.mpr ⟨.string text, ih⟩
  | @fill draft final name v later slot change found empty reads rest ih =>
      exact List.forall_mem_cons.mpr ⟨reads.inRange, ih⟩

/-- **A record is read back** from members that fill a complete draft. -/
theorem reads_object {members : List (String × Value)} {final : σ} {x : α}
    (fills : shape.Fills limit shape.blank members final) (built : shape.build final = .ok x) :
    shape.decode.Reads (limit + 1) (.object members) x := by
  refine ⟨?_, Value.InRange.object fills.inRange⟩
  intro reading within
  rw [Value.depth] at within ⊢
  rw [Document.ofValue]
  refine Reading.enter_bind within ?_
  intro inner inside
  unfold ofMembers
  rw [fills.members_eq inside]
  refine Reading.allow_last ?_
  intro _
  rw [built]
  rfl

end Shape

/-! ## Choices -/

section Choices

variable {β : Type} {tag : String} {tags : Decoder β} {limit : Nat}

/-- **Members without the tag are only read in full.** -/
theorem findTag_ofMembers {members : List (String × Value)}
    (apart : ∀ m ∈ members, m.1 ≠ tag) (each : ∀ m ∈ members, m.2.InRange) (reading : Reading)
    (found : Option β) :
    findTag tag tags reading found (Document.ofMembers members) =
      reading.allow (Value.membersDepth members) found := by
  induction members with
  | nil => rw [Document.ofMembers, findTag, Value.membersDepth, Reading.allow_zero]
  | cons m members ih =>
      obtain ⟨key, v⟩ := m
      have other : key ≠ tag := apart (key, v) List.mem_cons_self
      have inRange : v.InRange := each (key, v) List.mem_cons_self
      have later := ih (fun m member => apart m (List.mem_cons_of_mem _ member))
        (fun m member => each m (List.mem_cons_of_mem _ member))
      -- A member with another key is held for later, which only asks whether it is too deep.
      have held : reading.hold (Document.ofValue v) = reading.allow v.depth () := by
        cases reading with
        | held => rfl
        | streamed room =>
            simp only [Reading.hold, Reading.allow, Document.check_ofValue inRange,
              Document.checkDepth]
            split
            · rfl
            · rfl
      rw [Document.ofMembers, findTag, Value.membersDepth]
      simp only [Except.mapError, bind, Except.bind, if_neg other]
      show (reading.hold (Document.ofValue v) >>= fun _ =>
        findTag tag tags reading found (Document.ofMembers members)) = _
      rw [held]
      exact Reading.allow_bind later

/-- **A choice is read back** through the tag that stands first among the members. -/
theorem reads_tagged {title name : String} {variants : List (String × Decoder α)}
    {decoder : Decoder α} {members : List (String × Value)} {x : α}
    (named : variants.find? (fun v => v.1 == name) = some (name, decoder))
    (apart : ∀ m ∈ members, m.1 ≠ tag)
    (content : decoder.Reads (limit + 1) (.object ((tag, .string name) :: members)) x) :
    (tagged title tag variants).Reads (limit + 1) (.object ((tag, .string name) :: members)) x := by
  refine ⟨?_, content.inRange⟩
  intro reading within
  have deep : (Value.object ((tag, .string name) :: members)).depth =
      Value.membersDepth members + 1 := by
    rw [Value.depth, Value.membersDepth]
    exact congrArg (· + 1) (Nat.zero_max _)
  have each : ∀ m ∈ members, m.2.InRange := fun m member =>
    content.inRange.of_mem m (List.mem_cons_of_mem _ member)
  have contentHeld := content.decode_eq .held
  rw [deep] at within contentHeld ⊢
  rw [Document.ofValue, Document.ofMembers, Document.ofValue] at contentHeld ⊢
  refine Reading.enter_bind within ?_
  intro inner inside
  have chosen : variant variants inner (.string (.ok name)) = .ok decoder := by
    unfold variant variantNamed
    simp only [named]
  have tagFound : findTag tag (variant variants) inner none
      (.member (.ok tag) (.string (.ok name)) (Document.ofMembers members)) =
      inner.allow (Value.membersDepth members) (some decoder) := by
    rw [findTag, ← findTag_ofMembers apart each]
    simp only [Except.mapError, bind, Except.bind, chosen]
    rfl
  rw [tagFound]
  -- What is allowed inside is within the limit, so the held content may be decoded.
  exact Reading.allow_last fun fits => contentHeld (Nat.succ_le_succ (inside.le fits))

end Choices

end WireHeaders.Json
