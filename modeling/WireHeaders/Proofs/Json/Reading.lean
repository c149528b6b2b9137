import WireHeaders.Proofs.Json.Numerals
import WireHeaders.Proofs.Json.Strings

/-!
# The compact text of a value read back

Reading the text that a value is written as gives the document of that value, without breaks and
with nothing behind it.

## Main definitions

* `Json.Reader.Completes` — a state from which reading goes on as if a value were complete

## Main statements

* `Json.Reader.completes_chars` — **the text of a value, read inside any open containers, completes
  the document of the value**
* `Json.readText_text` — **the text of a value is read as the document of the value**

## Design notes

**Numerals.**  A numeral has no closing character: only what follows it shows that it has ended.
So the state behind a value need not be the state in which the value is complete, but the two agree
on all that can follow a value in a compact text.
-/

namespace WireHeaders.Json

namespace Reader

variable {stack : List Frame}

/-! ## The first character of a value -/

/-- **A value starts at its first character**, and not with the end of an array. -/
theorem exists_chars_eq_cons (v : Value) :
    ∃ c cs, v.chars = c :: cs ∧ isBlank c = false ∧ c ≠ ']' := by
  cases v with
  | null => exact ⟨'n', _, by rw [Value.chars], rfl, by decide⟩
  | bool b =>
      cases b with
      | false => exact ⟨'f', _, by rw [Value.chars], rfl, by decide⟩
      | true => exact ⟨'t', _, by rw [Value.chars], rfl, by decide⟩
  | int n =>
      obtain ⟨c, cs, text, opens⟩ := exists_intChars_eq_cons n
      exact ⟨c, cs, by rw [Value.chars, text], opens.isBlank, opens.ne (by decide) (by decide)⟩
  | string s => exact ⟨'"', _, by rw [Value.chars, quote]; rfl, rfl, by decide⟩
  | array items =>
      cases items with
      | nil => exact ⟨'[', _, by rw [Value.chars], rfl, by decide⟩
      | cons v rest => exact ⟨'[', _, by rw [Value.chars]; rfl, rfl, by decide⟩
  | object members =>
      cases members with
      | nil => exact ⟨'\x7b', _, by rw [Value.chars], rfl, by decide⟩
      | cons m rest => exact ⟨'\x7b', _, by rw [Value.chars]; rfl, rfl, by decide⟩

/-- **Where an item may start, it is read like any value** inside one more container. -/
theorem foldl_chars_item {r : Reader} {done : List Document} (v : Value)
    (starts : ∀ c, isBlank c = false → c ≠ ']' → r.step c = startValue (.items done :: stack) c) :
    v.chars.foldl step r = v.chars.foldl step ⟨.items done :: stack, .start⟩ := by
  obtain ⟨c, cs, text, blank, bracket⟩ := exists_chars_eq_cons v
  have started : step ⟨.items done :: stack, .start⟩ c = startValue (.items done :: stack) c := by
    simp [step, stepSettled, blank]
  rw [text, List.foldl_cons, List.foldl_cons, starts c blank bracket, started]

theorem step_firstItem (c : Char) (blank : isBlank c = false) (bracket : c ≠ ']') :
    step ⟨stack, .firstItem⟩ c = startValue (.items [] :: stack) c := by
  simp [step, stepSettled, blank, bracket]

theorem step_nextItem (done : List Document) (c : Char) (blank : isBlank c = false)
    (bracket : c ≠ ']') :
    step ⟨stack, .nextItem done⟩ c = startValue (.items done :: stack) c := by
  simp [step, stepSettled, blank, bracket]

/-! ## Complete values -/

/-- **A state from which reading goes on as if a value were complete.** -/
structure Completes (r : Reader) (stack : List Frame) (d : Document) : Prop where
  /-- A comma and a closing bracket do not tell the two apart. -/
  step_eq : ∀ c, c = ',' ∨ c = ']' ∨ c = '\x7d' → r.step c = (complete stack d).step c
  /-- The end of the text does not tell the two apart. -/
  finish_eq : r.finish = (complete stack d).finish

theorem completes_complete (d : Document) : Completes (complete stack d) stack d :=
  ⟨fun _ _ => rfl, rfl⟩

/-- No numeral is being read where a value is complete. -/
theorem step_complete (stack : List Frame) (d : Document) (c : Char) :
    (complete stack d).step c = (complete stack d).stepSettled c := by
  cases stack with
  | nil => rfl
  | cons frame outer =>
      cases frame with
      | items done => rfl
      | members done key => rfl

theorem finish_complete (stack : List Frame) (d : Document) :
    (complete stack d).finish = (complete stack d).finishSettled := by
  cases stack with
  | nil => rfl
  | cons frame outer =>
      cases frame with
      | items done => rfl
      | members done key => rfl

/-- **An integer is complete**, although no character has ended it yet. -/
theorem completes_numeral (n : Nat) (numeral : Numeral) :
    Completes ⟨stack, .numeral ⟨endPlace n, numeral⟩⟩ stack (.number numeral) := by
  have accepts : (endPlace n).accepts = true := by
    unfold endPlace
    split
    · rfl
    · rfl
  constructor
  · intro c follows
    -- None of the three goes on with a numeral, so all of them end it before they are taken.
    have ended : NumeralSpelling.step ⟨endPlace n, numeral⟩ c = .ended := by
      unfold endPlace
      split
      · rcases follows with rfl | rfl | rfl
        all_goals rfl
      · rcases follows with rfl | rfl | rfl
        all_goals rfl
    rw [step_complete]
    simp [step, ended]
  · rw [finish_complete]
    simp [finish, accepts]

/-! ## Texts of values -/

/-- What follows an item, wherever the item is complete. -/
theorem Completes.foldl_laterItems {r : Reader} {d : Document} (completes : Completes r stack d)
    (vs : List Value) :
    (Value.laterItems vs).foldl step r = (Value.laterItems vs).foldl step (complete stack d) := by
  cases vs with
  | nil =>
      rw [Value.laterItems, List.foldl_cons, List.foldl_cons, completes.step_eq _ (by simp)]
  | cons v vs =>
      rw [Value.laterItems, List.cons_append, List.foldl_cons, List.foldl_cons,
        completes.step_eq _ (by simp)]

/-- What follows a member, wherever its value is complete. -/
theorem Completes.foldl_laterMembers {r : Reader} {d : Document}
    (completes : Completes r stack d) (members : List (String × Value)) :
    (Value.laterMembers members).foldl step r =
      (Value.laterMembers members).foldl step (complete stack d) := by
  cases members with
  | nil =>
      rw [Value.laterMembers, List.foldl_cons, List.foldl_cons, completes.step_eq _ (by simp)]
  | cons m members =>
      obtain ⟨key, v⟩ := m
      rw [Value.laterMembers]
      simp only [List.cons_append, List.foldl_cons, completes.step_eq ',' (by simp)]

/-- The text of a member is that of its key, its value and what follows. -/
theorem foldl_member {r : Reader} {done : List Member} (key : String) (cs : List Char)
    (opened : r.step '"' = ⟨stack, .key done (Spelling.holding [])⟩) :
    (quote key ++ ':' :: cs).foldl step r =
      cs.foldl step ⟨.members done (.ok key) :: stack, .start⟩ := by
  have split : quote key ++ ':' :: cs = (quote key ++ [':']) ++ cs := by simp
  rw [split, List.foldl_append, foldl_key key opened]

mutual

/-- **The text of a value completes its document**, inside any open containers. -/
theorem completes_chars (stack : List Frame) : (v : Value) →
    Completes (v.chars.foldl step ⟨stack, .start⟩) stack (Document.ofValue v)
  | .null => by
    rw [Value.chars, Document.ofValue]
    exact completes_complete .null
  | .bool true => by
    rw [Value.chars, Document.ofValue]
    exact completes_complete (.bool true)
  | .bool false => by
    rw [Value.chars, Document.ofValue]
    exact completes_complete (.bool false)
  | .int n => by
    rw [Value.chars, Document.ofValue, foldl_intChars]
    exact completes_numeral n.natAbs (Numeral.ofInt n)
  | .string s => by
    rw [Value.chars, Document.ofValue, foldl_quote]
    exact completes_complete (.string (.ok s))
  | .array [] => by
    rw [Value.chars, Document.ofValue, Document.ofItems]
    exact completes_complete (.array .closed)
  | .array (v :: vs) => by
    have opened : step ⟨stack, .start⟩ '[' = ⟨stack, .firstItem⟩ := rfl
    have item := completes_chars (.items [] :: stack) v
    -- An item may start here, so it is read like any value inside the array, and what follows it
    -- is read as if the item were complete.
    rw [Value.chars, Document.ofValue, Document.ofItems, List.cons_append, List.foldl_cons, opened,
      List.foldl_append, foldl_chars_item v step_firstItem, item.foldl_laterItems]
    show Completes ((Value.laterItems vs).foldl step ⟨stack, .afterItem [Document.ofValue v]⟩)
      stack _
    rw [foldl_laterItems stack [Document.ofValue v] vs]
    exact completes_complete (.array (.item (Document.ofValue v) (Document.ofItems vs)))
  | .object [] => by
    rw [Value.chars, Document.ofValue, Document.ofMembers]
    exact completes_complete (.object .closed)
  | .object ((key, v) :: members) => by
    have opened : step ⟨stack, .start⟩ '\x7b' = ⟨stack, .firstKey⟩ := rfl
    have value := completes_chars (.members [] (.ok key) :: stack) v
    rw [Value.chars, Document.ofValue, Document.ofMembers, List.cons_append, List.cons_append,
      List.append_assoc, List.foldl_cons, opened, List.cons_append, foldl_member key _ rfl,
      List.foldl_append, value.foldl_laterMembers]
    show Completes ((Value.laterMembers members).foldl step
      ⟨stack, .afterMember [(.ok key, Document.ofValue v)]⟩) stack _
    rw [foldl_laterMembers stack [(.ok key, Document.ofValue v)] members]
    exact completes_complete
      (.object (.member (.ok key) (Document.ofValue v) (Document.ofMembers members)))

/-- **Behind some items the rest of an array completes it.** -/
theorem foldl_laterItems (stack : List Frame) (done : List Document) : (vs : List Value) →
    (Value.laterItems vs).foldl step ⟨stack, .afterItem done⟩ =
      complete stack (.array (Items.ofReversed done (Document.ofItems vs)))
  | [] => by
    rw [Value.laterItems, Document.ofItems]
    rfl
  | v :: vs => by
    have comma : step ⟨stack, .afterItem done⟩ ',' = ⟨stack, .nextItem done⟩ := rfl
    have item := completes_chars (.items done :: stack) v
    rw [Value.laterItems, Document.ofItems, List.cons_append, List.foldl_cons, comma,
      List.foldl_append, foldl_chars_item v (step_nextItem done), item.foldl_laterItems]
    exact foldl_laterItems stack (Document.ofValue v :: done) vs

/-- **Behind some members the rest of an object completes it.** -/
theorem foldl_laterMembers (stack : List Frame) (done : List Member) :
    (members : List (String × Value)) →
    (Value.laterMembers members).foldl step ⟨stack, .afterMember done⟩ =
      complete stack (.object (Members.ofReversed done (Document.ofMembers members)))
  | [] => by
    rw [Value.laterMembers, Document.ofMembers]
    rfl
  | (key, v) :: members => by
    have comma : step ⟨stack, .afterMember done⟩ ',' = ⟨stack, .nextKey done⟩ := rfl
    have value := completes_chars (.members done (.ok key) :: stack) v
    rw [Value.laterMembers, Document.ofMembers, List.cons_append, List.cons_append,
      List.append_assoc, List.foldl_cons, comma, List.cons_append, foldl_member key _ rfl,
      List.foldl_append, value.foldl_laterMembers]
    exact foldl_laterMembers stack ((.ok key, Document.ofValue v) :: done) members

end

end Reader

/-- **The text of a value is read as the document of the value**, and nothing is left over. -/
theorem readText_text (v : Value) : readText v.text = ⟨Document.ofValue v, false⟩ := by
  have finished : (v.chars.foldl Reader.step Reader.initial).finish = (Document.ofValue v, false) :=
    (Reader.completes_chars [] v).finish_eq
  unfold readText Value.text
  rw [String.toList_ofList, finished]

end WireHeaders.Json
