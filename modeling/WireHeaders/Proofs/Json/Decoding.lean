import WireHeaders.Json.Decode
import WireHeaders.Proofs.Data.Lookup
import WireHeaders.Proofs.Json.Numerals

/-!
# Decoders that read values back

When a decoder gives back what a value was made from, and when it refuses the value as nested too
deeply.

## Main definitions

* `Json.Reading.allow` — what a reading makes of a result that needs some depth
* `Json.Reading.Fits` — a reading that allows some depth
* `Json.Reading.Within` — a reading that asks for no more depth than a limit
* `Json.Value.InRange` — a value whose integers all fit 64 bits
* `Json.Decoder.Reads` — **a decoder that reads a value as `x`, unless it is too deep**

## Main statements

* `Json.Document.check_ofValue` — nothing is wrong with such a value but its depth
* `Json.reads_string`, `Json.reads_boolean`, `Json.reads_int64` — the plain decoders
* `Json.reads_list`, `Json.reads_dictionary` — arrays and objects of one type

## Design notes

**One law for both readings.**  A document is decoded while its text is read, with a bound on the
open containers, or later, without one.  `Reading.allow` puts the bound into the result, so a law
of a decoder is one equation, and depths are added up by `Reading.allow_bind`.
-/

namespace WireHeaders.Json

variable {α β : Type}

namespace Reading

/-- **What a reading makes of a result that needs some depth.** -/
def allow (reading : Reading) (depth : Nat) (x : α) : Except Fault α :=
  match reading with
  | .streamed room => if depth ≤ room then .ok x else .error (.text .tooDeep)
  | .held => .ok x

/-- Whether a reading allows some depth. -/
def Fits (depth : Nat) : Reading → Prop
  | .streamed room => depth ≤ room
  | .held => True

/-- **A reading that asks for no more depth than a limit**: a text by the room that is left, a held
document by the depth that it has. -/
def Within (limit depth : Nat) : Reading → Prop
  | .streamed room => room ≤ limit
  | .held => depth ≤ limit

variable {reading : Reading} {limit depth : Nat}

@[simp]
theorem allow_zero (x : α) : reading.allow 0 x = .ok x := by
  cases reading with
  | streamed room => simp [allow]
  | held => rfl

/-- What is made of a result needs no more depth, and is made of it only if it was allowed. -/
theorem allow_last {x : α} {y : β} {f : α → Except Fault β}
    (last : reading.Fits depth → f x = .ok y) :
    (reading.allow depth x >>= f) = reading.allow depth y := by
  cases reading with
  | held => exact last trivial
  | streamed room =>
      unfold allow
      by_cases fits : depth ≤ room
      · simp only [if_pos fits]
        exact last fits
      · simp only [if_neg fits]
        rfl

theorem allow_map (x : α) (f : α → β) :
    (reading.allow depth x >>= fun y => pure (f y)) = reading.allow depth (f x) :=
  allow_last fun _ => rfl

/-- **Depths are added up**: one result after another needs the greater depth of the two. -/
theorem allow_bind {first second : Nat} {x : α} {y : β} {f : α → Except Fault β}
    (next : f x = reading.allow second y) :
    (reading.allow first x >>= f) = reading.allow (max first second) y := by
  cases reading with
  | held => exact next
  | streamed room =>
      unfold allow at next ⊢
      by_cases fits : first ≤ room
      · have both : max first second ≤ room ↔ second ≤ room := by omega
        simp only [if_pos fits, both]
        exact next
      · have both : ¬max first second ≤ room := by omega
        simp only [if_neg fits, if_neg both]
        rfl

theorem Within.mono {other : Nat} (within : reading.Within limit depth) (smaller : other ≤ depth) :
    reading.Within limit other := by
  cases reading with
  | streamed room => exact within
  | held => exact Nat.le_trans smaller within

/-- What is allowed within a limit is no deeper than the limit. -/
theorem Within.le (within : reading.Within limit depth) (fits : reading.Fits depth) :
    depth ≤ limit := by
  cases reading with
  | streamed room => exact Nat.le_trans fits within
  | held => exact within

/-- **An array or an object takes one level** of what is allowed. -/
theorem enter_bind {x : α} {f : Reading → Except Fault α}
    (within : reading.Within (limit + 1) (depth + 1))
    (inside : ∀ inner : Reading, inner.Within limit depth → f inner = inner.allow depth x) :
    (reading.enter >>= f) = reading.allow (depth + 1) x := by
  cases reading with
  | held => exact inside .held (Nat.le_of_succ_le_succ within)
  | streamed room =>
      cases room with
      | zero => rfl
      | succ room =>
          -- One level of the room is taken, so the rest of the depth is asked of what is left.
          have opened : (enter (.streamed (room + 1)) >>= f) = f (.streamed room) := rfl
          rw [opened, inside (.streamed room) (Nat.le_of_succ_le_succ within)]
          simp [allow]

end Reading

/-! ## Values that are read in full -/

/-- **A value whose integers all fit 64 bits.** -/
inductive Value.InRange : Value → Prop where
  | null : InRange .null
  | bool (b : Bool) : InRange (.bool b)
  | int {n : Int} (lower : -2 ^ 63 ≤ n) (upper : n < 2 ^ 64) : InRange (.int n)
  | string (s : String) : InRange (.string s)
  | array {vs : List Value} (each : ∀ v ∈ vs, InRange v) : InRange (.array vs)
  | object {members : List (String × Value)} (each : ∀ m ∈ members, InRange m.2) :
      InRange (.object members)

theorem Value.InRange.of_mem {members : List (String × Value)}
    (inRange : (Value.object members).InRange) : ∀ m ∈ members, m.2.InRange := by
  cases inRange with
  | object each => exact each

namespace Document

/-- What reading a value in full comes to, if nothing is wrong with it but its depth. -/
def checkDepth (room depth : Nat) : Except TextFault Unit :=
  if depth ≤ room then .ok () else .error .tooDeep

theorem checkDepth_zero (room : Nat) : checkDepth room 0 = .ok () := if_pos (Nat.zero_le room)

theorem checkDepth_succ (room depth : Nat) :
    checkDepth (room + 1) (depth + 1) = checkDepth room depth := by
  simp [checkDepth]

/-- One part after another: the greater depth of the two counts. -/
theorem checkDepth_bind (room first second : Nat) :
    (checkDepth room first >>= fun _ => checkDepth room second) =
      checkDepth room (max first second) := by
  unfold checkDepth
  by_cases fits : first ≤ room
  · have both : max first second ≤ room ↔ second ≤ room := by omega
    simp only [if_pos fits, both]
    rfl
  · have both : ¬max first second ≤ room := by omega
    simp only [if_neg fits, if_neg both]
    rfl

theorem checkItems_ofItems {room : Nat} {vs : List Value}
    (each : ∀ v ∈ vs, check room (ofValue v) = checkDepth room v.depth) :
    checkItems room (ofItems vs) = checkDepth room (Value.itemsDepth vs) := by
  induction vs with
  | nil => rw [ofItems, checkItems, Value.itemsDepth, checkDepth_zero]
  | cons v vs ih =>
      have later := ih fun v member => each v (List.mem_cons_of_mem _ member)
      rw [ofItems, checkItems, Value.itemsDepth, each v List.mem_cons_self, later]
      exact checkDepth_bind room _ _

theorem checkMembers_ofMembers {room : Nat} {members : List (String × Value)}
    (each : ∀ m ∈ members, check room (ofValue m.2) = checkDepth room m.2.depth) :
    checkMembers room (ofMembers members) = checkDepth room (Value.membersDepth members) := by
  induction members with
  | nil => rw [ofMembers, checkMembers, Value.membersDepth, checkDepth_zero]
  | cons m members ih =>
      have later := ih fun m member => each m (List.mem_cons_of_mem _ member)
      rw [ofMembers, checkMembers, Value.membersDepth, each m List.mem_cons_self, later]
      exact checkDepth_bind room _ _

/-- **Nothing is wrong with a value but its depth**, if its integers fit 64 bits. -/
theorem check_ofValue {v : Value} (inRange : v.InRange) (room : Nat) :
    check room (ofValue v) = checkDepth room v.depth := by
  induction inRange generalizing room with
  | null =>
      rw [ofValue, check]
      exact (checkDepth_zero room).symm
  | bool b =>
      rw [ofValue, check]
      exact (checkDepth_zero room).symm
  | string s =>
      rw [ofValue, check]
      exact (checkDepth_zero room).symm
  | int lower upper =>
      rw [ofValue, check, Numeral.value_ofInt lower upper]
      exact (checkDepth_zero room).symm
  | array each ih =>
      rw [ofValue, Value.depth]
      cases room with
      | zero => rfl
      | succ room => rw [check, checkItems_ofItems fun v member => ih v member room, checkDepth_succ]
  | object each ih =>
      rw [ofValue, Value.depth]
      cases room with
      | zero => rfl
      | succ room =>
          rw [check, checkMembers_ofMembers fun m member => ih m member room, checkDepth_succ]

end Document

/-! ## Decoders -/

/-- **A decoder that reads a value as `x`**, unless the value is nested too deeply; up to a limit of
the depth, and with integers in range. -/
structure Decoder.Reads (decoder : Decoder α) (limit : Nat) (v : Value) (x : α) : Prop where
  decode_eq : ∀ reading : Reading, reading.Within limit v.depth →
    decoder reading (Document.ofValue v) = reading.allow v.depth x
  inRange : v.InRange

namespace Decoder.Reads

variable {decoder : Decoder α} {limit : Nat} {v : Value} {x : α}

theorem mono (reads : decoder.Reads limit v x) {smaller : Nat} (below : smaller ≤ limit) :
    decoder.Reads smaller v x := by
  refine ⟨fun reading within => reads.decode_eq reading ?_, reads.inRange⟩
  cases reading with
  | streamed room => exact Nat.le_trans within below
  | held => exact Nat.le_trans within below

/-- What follows a decoder follows the value that it reads. -/
theorem bind (reads : decoder.Reads limit v x) {f : α → Except Fault β} {y : β}
    (next : f x = .ok y) :
    Decoder.Reads (fun reading document => decoder reading document >>= f) limit v y := by
  refine ⟨?_, reads.inRange⟩
  intro reading within
  show (decoder reading (Document.ofValue v) >>= f) = _
  rw [reads.decode_eq reading within]
  exact Reading.allow_last fun _ => next

theorem map (reads : decoder.Reads limit v x) (f : α → β) :
    Decoder.Reads (fun reading document => do return f (← decoder reading document)) limit v
      (f x) :=
  reads.bind rfl

/-- **A whole text is decoded** if no more arrays and objects are open in it than a reader takes. -/
theorem run_eq (reads : decoder.Reads 127 v x) :
    decoder.run ⟨Document.ofValue v, false⟩ =
      if v.depth ≤ 127 then .ok x else .error (.text .tooDeep) := by
  have decoded := reads.decode_eq .whole (Nat.le_refl 127)
  -- The text has no break and nothing is left of it, so only the depth can stop the decoder.
  unfold Decoder.run
  simp only [decoded]
  exact Reading.allow_map x id

end Decoder.Reads

/-! ## Plain values -/

theorem reads_stringAs (expected : String) (limit : Nat) (s : String) :
    (stringAs expected).Reads limit (.string s) s := by
  refine ⟨?_, Value.InRange.string s⟩
  intro reading _
  rw [Document.ofValue]
  exact (Reading.allow_zero s).symm

theorem reads_string (limit : Nat) (s : String) : string.Reads limit (.string s) s :=
  reads_stringAs "a string" limit s

theorem reads_boolean (limit : Nat) (b : Bool) : boolean.Reads limit (.bool b) b := by
  refine ⟨?_, Value.InRange.bool b⟩
  intro reading _
  rw [Document.ofValue]
  exact (Reading.allow_zero b).symm

/-- **Every integer of 64 bits is read back**, the smallest one included. -/
theorem reads_int64 (limit : Nat) (i : Int64) : int64.Reads limit (.int i.toInt) i := by
  have lower := i.le_toInt
  have upper := i.toInt_lt
  have word : i.toInt < 2 ^ 64 := by omega
  refine ⟨?_, Value.InRange.int lower word⟩
  intro reading _
  have read : int64 reading (.number (Numeral.ofInt i.toInt)) = .ok i := by
    unfold int64
    by_cases negative : i.toInt < 0
    · have absolute : -(i.toInt.natAbs : Int) = i.toInt := by omega
      simp only [Numeral.value_ofInt_of_neg negative lower]
      rw [absolute, Int64.ofInt_toInt]
    -- The magnitude of a number that is not negative is below that of the smallest one.
    · have absolute : (i.toInt.natAbs : Int) = i.toInt := by omega
      have small : i.toInt.natAbs < Nat.pow 2 63 := by
        show _ < 9223372036854775808
        omega
      simp only [Numeral.value_ofInt_of_nonneg (Int.not_lt.mp negative) word, if_pos small]
      rw [← Int64.ofInt_eq_ofNat, absolute, Int64.ofInt_toInt]
  rw [Document.ofValue, read]
  exact (Reading.allow_zero i).symm

/-! ## Arrays and objects of one type -/

section Uniform

variable {item : Decoder α} (write : α → Value) {limit : Nat}

theorem listItems_ofItems {xs : List α} (each : ∀ x ∈ xs, item.Reads limit (write x) x)
    {reading : Reading} (within : reading.Within limit (Value.itemsDepth (xs.map write))) :
    listItems item reading (Document.ofItems (xs.map write)) =
      reading.allow (Value.itemsDepth (xs.map write)) xs := by
  induction xs with
  | nil =>
      rw [List.map_nil, Document.ofItems, listItems, Value.itemsDepth, Reading.allow_zero]
  | cons x xs ih =>
      rw [List.map_cons, Value.itemsDepth] at within
      have first := (each x List.mem_cons_self).decode_eq reading
        (within.mono (Nat.le_max_left _ _))
      have later := ih (fun y member => each y (List.mem_cons_of_mem x member))
        (within.mono (Nat.le_max_right _ _))
      rw [List.map_cons, Document.ofItems, listItems, Value.itemsDepth, first, later]
      exact Reading.allow_bind (Reading.allow_map xs fun later => x :: later)

/-- **A list is read back** if its items are. -/
theorem reads_list {xs : List α} (each : ∀ x ∈ xs, item.Reads limit (write x) x) :
    (list item).Reads (limit + 1) (.array (xs.map write)) xs := by
  constructor
  · intro reading within
    rw [Value.depth] at within ⊢
    rw [Document.ofValue]
    exact Reading.enter_bind within fun inner => listItems_ofItems write each
  · refine Value.InRange.array ?_
    intro v member
    obtain ⟨x, present, rfl⟩ := List.mem_map.mp member
    exact (each x present).inRange

theorem dictionaryMembers_ofMembers {entries : List (String × α)}
    (each : ∀ e ∈ entries, item.Reads limit (write e.2) e.2) {reading : Reading}
    (within : reading.Within limit
      (Value.membersDepth (entries.map fun e => (e.1, write e.2)))) :
    dictionaryMembers item reading (Document.ofMembers (entries.map fun e => (e.1, write e.2))) =
      reading.allow (Value.membersDepth (entries.map fun e => (e.1, write e.2))) entries := by
  induction entries with
  | nil =>
      rw [List.map_nil, Document.ofMembers, dictionaryMembers, Value.membersDepth,
        Reading.allow_zero]
  | cons e entries ih =>
      rw [List.map_cons, Value.membersDepth] at within
      have first := (each e List.mem_cons_self).decode_eq reading
        (within.mono (Nat.le_max_left _ _))
      have later := ih (fun f member => each f (List.mem_cons_of_mem e member))
        (within.mono (Nat.le_max_right _ _))
      rw [List.map_cons, Document.ofMembers, dictionaryMembers, Value.membersDepth, first, later]
      exact Reading.allow_bind (Reading.allow_map entries fun later => e :: later)

/-- **A map is read back** if its values are: its keys ascend, so none is written twice. -/
theorem reads_dictionary {m : SortedMap String α}
    (each : ∀ e ∈ m.entries, item.Reads limit (write e.2) e.2) :
    (dictionary item).Reads (limit + 1) (.object (m.entries.map fun e => (e.1, write e.2))) m := by
  constructor
  · intro reading within
    rw [Value.depth] at within ⊢
    rw [Document.ofValue]
    refine Reading.enter_bind within ?_
    intro inner inside
    rw [dictionaryMembers_ofMembers write each inside, Reading.allow_map, SortedMap.ofList_entries]
  · refine Value.InRange.object ?_
    intro member present
    obtain ⟨e, listed, rfl⟩ := List.mem_map.mp present
    exact (each e listed).inRange

end Uniform

end WireHeaders.Json
