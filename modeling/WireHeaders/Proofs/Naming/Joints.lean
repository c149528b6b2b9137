import WireHeaders.Proofs.Naming.Cuts

/-!
# Where capitalized words meet

Whether words are found again when they stand side by side, each with a capital at its start, depends on
nothing but which of them are numbers and which are single letters.

## Main definitions

* `Words.AllDigits`, `Words.OneLetter` — the words that may be lost
* `Words.Uniform` — a word of letters or of digits
* `Words.Apart` — **no two words of a kind are adjacent**

## Main statements

* `Words.Piece.solid_lowercase`, `Words.Piece.solid_capitalize` — nothing is cut in a word in lower case
  or with a capital
* `Words.Piece.uniform` — a word of letters and digits has only letters or only digits
* `Words.opens_capitalize_iff` — where a capitalized word begins
* `Words.parted_capitalize_iff`, `Words.parted_lowercase_iff` — **capitalized words are parted iff their
  numbers and single letters are apart**, and a first word in lower case may be a letter before another
-/

namespace WireHeaders

namespace Words

variable {a b before c : Char} {after : Option Char} {cs u v w : List Char} {ws : List (List Char)}

/-! ## Letters and digits -/

theorem isDigit_of_isAlpha (letter : c.isAlpha = true) : c.isDigit = false := by
  simp only [Char.isAlpha, Char.isUpper, Char.isLower, Bool.or_eq_true, decide_eq_true_eq,
    UInt32.le_iff_toNat_le] at letter
  simp only [Char.isDigit, Bool.and_eq_false_iff, decide_eq_false_iff_not, UInt32.le_iff_toNat_le]
  have low : ('A'.val.toNat, 'a'.val.toNat, '9'.val.toNat) = (65, 97, 57) := rfl
  grind

@[simp]
theorem isDigit_toLower (c : Char) : c.toLower.isDigit = c.isDigit := by
  by_cases upper : c.isUpper
  · have letter : c.isAlpha = true := by simp [Char.isAlpha, upper]
    rw [isDigit_of_isAlpha letter, isDigit_of_isAlpha]
    rw [Char.isAlpha_toLower_eq_isAlpha, letter]
  · rw [Char.toLower_eq_of_not_isUpper upper]

@[simp]
theorem isDigit_toUpper (c : Char) : c.toUpper.isDigit = c.isDigit := by
  rw [← isDigit_toLower, Char.toLower_toUpper_eq_toLower, isDigit_toLower]

/-- Letters, digits and gaps are ASCII characters. -/
theorem isAscii_of_plain (plain : ∀ c ∈ cs, c.isAlphanum ∨ isGap c) : IsAscii cs := by
  intro c member
  rcases plain c member with alphanumeric | gap
  · simp only [Char.isAlphanum, Char.isAlpha, Char.isUpper, Char.isLower, Char.isDigit,
      Bool.or_eq_true, Bool.and_eq_true, decide_eq_true_eq, UInt32.le_iff_toNat_le, ge_iff_le]
      at alphanumeric
    have bounds : ('Z'.val.toNat, 'z'.val.toNat, '9'.val.toNat) = (90, 122, 57) := rfl
    have same : c.toNat = c.val.toNat := rfl
    grind
  · rcases isGap_iff.mp gap with rfl | rfl | rfl <;> decide

/-- A letter and a digit, or a digit and a letter. -/
def Mixed (a b : Char) : Prop := (a.isDigit ∧ b.isAlpha) ∨ (a.isAlpha ∧ b.isDigit)

/-- A word begins wherever letters and digits meet. -/
theorem turns_of_mixed (mixed : Mixed a b) (after : Option Char) : Turns a b after := by
  simp only [Mixed, Char.isAlpha, Bool.or_eq_true] at mixed
  unfold Turns
  tauto

theorem mixed_of_turns_lower (turns : Turns a.toLower b.toLower after) : Mixed a b := by
  simpa [Turns, Mixed] using turns

theorem mixed_of_turns_upper_lower (turns : Turns a.toUpper b.toLower after) : Mixed a b := by
  simpa [Turns, Mixed, or_comm] using turns

/-! ## Recased pieces -/

/-- Letters and digits never meet in a piece. -/
theorem Piece.unmixed (piece : Piece w) : w.IsChain fun a b => ¬Mixed a b := by
  refine piece.row.imp ?_
  rintro a b ⟨after, onward⟩ mixed
  exact onward (turns_of_mixed mixed after)

/-- **Nothing is cut in a piece in lower case.** -/
theorem Piece.solid_lowercase (piece : Piece w) : Solid (Casing.lowercase w) := by
  rw [Casing.lowercase_of_ascii piece.ascii]
  refine ⟨by simpa using piece.nonempty, ?_, ?_⟩
  · intro c member
    obtain ⟨d, inside, rfl⟩ := List.mem_map.mp member
    rw [isGap_toLower, piece.plain d inside]
  · rw [List.isChain_map]
    exact piece.unmixed.imp fun a b unmixed after turns => unmixed (mixed_of_turns_lower turns)

/-- **Nothing is cut in a capitalized piece.** -/
theorem Piece.solid_capitalize (piece : Piece w) : Solid (Casing.capitalize w) := by
  have small := piece.solid_lowercase
  have unmixed := piece.unmixed
  obtain ⟨nonempty, ascii, plain, -⟩ := piece
  obtain ⟨c, rest, rfl⟩ := List.exists_cons_of_ne_nil nonempty
  rw [Casing.lowercase_of_ascii ascii] at small
  rw [Casing.capitalize_of_ascii ascii]
  refine ⟨List.cons_ne_nil _ _, ?_, ?_⟩
  · intro d member
    rcases List.mem_cons.mp member with rfl | later
    · rw [isGap_toUpper, plain c List.mem_cons_self]
    · exact small.plain d (List.mem_cons_of_mem _ later)
  · refine small.joined.tail.cons ?_
    intro d first after turns
    rw [List.map_cons, List.tail_cons, List.head?_map] at first
    obtain ⟨e, head, rfl⟩ := Option.map_eq_some_iff.mp first
    exact unmixed.rel_head? head (mixed_of_turns_upper_lower turns)

/-! ## Kinds of words -/

/-- A number. -/
def AllDigits (w : List Char) : Prop := ∀ c ∈ w, c.isDigit

instance (w : List Char) : Decidable (AllDigits w) := List.decidableBAll _ w

/-- A single letter. -/
def OneLetter (w : List Char) : Prop := w.length = 1 ∧ ∀ c ∈ w, c.isAlpha

instance (w : List Char) : Decidable (OneLetter w) :=
  let _ : Decidable (∀ c ∈ w, c.isAlpha) := List.decidableBAll _ w
  inferInstanceAs (Decidable (_ ∧ _))

/-- A word of letters or of digits. -/
structure Uniform (w : List Char) : Prop where
  nonempty : w ≠ []
  ascii : IsAscii w
  kind : (∀ c ∈ w, c.isAlpha) ∨ AllDigits w

/-- **A piece of letters and digits** has only letters or only digits. -/
theorem Piece.uniform (piece : Piece w) (alphanumeric : ∀ c ∈ w, c.isAlphanum) : Uniform w := by
  refine ⟨piece.nonempty, piece.ascii, ?_⟩
  have unmixed := piece.unmixed
  clear piece
  induction w with
  | nil => exact Or.inl nofun
  | cons c w ih =>
      have here : c.isAlpha ∨ c.isDigit := by
        simpa [Char.isAlphanum] using alphanumeric c List.mem_cons_self
      cases w with
      | nil => simpa [AllDigits] using here
      | cons d w =>
          have next := unmixed.rel_head? List.head?_cons
          have later := ih (fun e member => alphanumeric e (List.mem_cons_of_mem c member))
            unmixed.tail
          rcases later with letters | digits
          · refine Or.inl (List.forall_mem_cons.mpr ⟨?_, letters⟩)
            exact here.resolve_right fun digit =>
              next (Or.inl ⟨digit, letters d List.mem_cons_self⟩)
          · refine Or.inr (List.forall_mem_cons.mpr ⟨?_, digits⟩)
            exact here.resolve_left fun letter =>
              next (Or.inr ⟨letter, digits d List.mem_cons_self⟩)

/-! ## How recased words end -/

/-- A recased word ends as the word does, but for the case. -/
theorem exists_getLastD (same : u.map Char.toLower = w.map Char.toLower) (nonempty : w ≠ [])
    (before : Char) : ∃ d ∈ w, d.toLower = (u.getLastD before).toLower := by
  have nonempty : u ≠ [] := by
    rintro rfl
    exact nonempty (List.map_eq_nil_iff.mp same.symm)
  obtain ⟨c, rest, rfl⟩ := List.exists_cons_of_ne_nil nonempty
  have last : (c :: rest).getLastD before ∈ c :: rest := by
    rw [List.getLastD_cons]
    exact List.getLastD_mem_cons
  exact List.mem_map.mp (same ▸ List.mem_map_of_mem last)

theorem isDigit_getLastD (uniform : Uniform w) (same : u.map Char.toLower = w.map Char.toLower)
    (before : Char) : (u.getLastD before).isDigit ↔ AllDigits w := by
  obtain ⟨d, member, alike⟩ := exists_getLastD same uniform.nonempty before
  rw [← isDigit_toLower, ← alike, isDigit_toLower]
  rcases uniform.kind with letters | digits
  · have letter := isDigit_of_isAlpha (letters d member)
    constructor
    · intro digit
      rw [letter] at digit
      cases digit
    · intro digits
      exact digits d member
  · exact iff_of_true (digits d member) digits

theorem isAlphanum_getLastD (uniform : Uniform w) (same : u.map Char.toLower = w.map Char.toLower)
    (before : Char) : (u.getLastD before).isAlphanum := by
  obtain ⟨d, member, alike⟩ := exists_getLastD same uniform.nonempty before
  rw [Char.isAlphanum, ← isDigit_toLower, ← Char.isAlpha_toLower_eq_isAlpha, ← alike,
    isDigit_toLower, Char.isAlpha_toLower_eq_isAlpha, Bool.or_eq_true]
  exact uniform.kind.imp (fun letters => letters d member) (fun digits => digits d member)

/-- **A capitalized word ends with a capital iff it is a single letter.** -/
theorem isUpper_getLastD_capitalize (uniform : Uniform w) (before : Char) :
    ((Casing.capitalize w).getLastD before).isUpper ↔ OneLetter w := by
  obtain ⟨nonempty, ascii, -⟩ := uniform
  obtain ⟨c, rest, rfl⟩ := List.exists_cons_of_ne_nil nonempty
  rw [Casing.capitalize_of_ascii ascii, List.getLastD_cons]
  cases rest with
  | nil => simp [OneLetter]
  | cons d rest =>
      have two : ¬OneLetter (c :: d :: rest) := fun single => by simp [OneLetter] at single
      rw [List.map_cons, List.getLastD_cons, List.getLastD_map, Char.isUpper_toLower_eq_false]
      exact iff_of_false Bool.false_ne_true two

theorem isUpper_getLastD_lowercase (uniform : Uniform w) (before : Char) :
    ((Casing.lowercase w).getLastD before).isUpper = false := by
  obtain ⟨nonempty, ascii, -⟩ := uniform
  obtain ⟨c, rest, rfl⟩ := List.exists_cons_of_ne_nil nonempty
  rw [Casing.lowercase_of_ascii ascii, List.map_cons, List.getLastD_cons, List.getLastD_map,
    Char.isUpper_toLower_eq_false]

/-! ## Where a capitalized word begins -/

/-- A letter or digit is of one kind. -/
theorem kind_of_isAlphanum (alphanumeric : c.isAlphanum) :
    (c.isUpper = true ∧ c.isLower = false ∧ c.isDigit = false) ∨
    (c.isUpper = false ∧ c.isLower = true ∧ c.isDigit = false) ∨
    (c.isUpper = false ∧ c.isLower = false ∧ c.isDigit = true) := by
  have digit := @isDigit_of_isAlpha c
  have lower := @Char.not_isLower_of_isUpper c
  simp only [Char.isAlphanum, Char.isAlpha, Bool.or_eq_true] at alphanumeric digit
  grind

/-- **A capitalized word begins** behind all but a number if it is one itself, and behind all but a
capital if it is a single letter. -/
theorem opens_capitalize_iff {rest : List Char} (uniform : Uniform w) (alphanumeric : a.isAlphanum)
    (capital : ∀ d ∈ rest.head?, d.isLower = false) :
    Opens a (Casing.capitalize w ++ rest) ↔
      ¬(a.isDigit ∧ AllDigits w) ∧ ¬(a.isUpper ∧ OneLetter w) := by
  obtain ⟨nonempty, ascii, kind⟩ := uniform
  obtain ⟨c, later, rfl⟩ := List.exists_cons_of_ne_nil nonempty
  rw [Casing.capitalize_of_ascii ascii, List.cons_append]
  show Turns a c.toUpper (later.map Char.toLower ++ rest).head? ↔ _
  have small : (∃ d ∈ (later.map Char.toLower ++ rest).head?, d.isLower) ↔
      ∃ d ∈ later.head?, d.isAlpha := by
    cases later with
    | nil => simpa using capital
    | cons d later => simp
  rw [Turns, small]
  rcases kind with letters | digits
  · have letter := letters c List.mem_cons_self
    have notDigit := isDigit_of_isAlpha letter
    have notDigits : ¬AllDigits (c :: later) := fun digits => by
      rw [digits c List.mem_cons_self] at notDigit
      cases notDigit
    have single : OneLetter (c :: later) ↔ ¬∃ d ∈ later.head?, d.isAlpha := by
      cases later with
      | nil => simp [OneLetter, letter]
      | cons d later => simp [OneLetter, letters d (by simp)]
    rw [single]
    rcases kind_of_isAlphanum alphanumeric with ⟨upper, lower, number⟩ | ⟨upper, lower, number⟩ |
      ⟨upper, lower, number⟩ <;>
      simp [upper, lower, number, letter, notDigit, notDigits]
  · have digit := digits c List.mem_cons_self
    have notLetter : c.isAlpha = false :=
      Bool.eq_false_iff.mpr fun letter => by simp [isDigit_of_isAlpha letter] at digit
    have notSingle : ¬OneLetter (c :: later) := fun single => by
      simp [single.2 c List.mem_cons_self] at notLetter
    rcases kind_of_isAlphanum alphanumeric with ⟨upper, lower, number⟩ | ⟨upper, lower, number⟩ |
      ⟨upper, lower, number⟩ <;>
      simp [upper, lower, number, digit, notLetter, notSingle, digits]

/-! ## Parted words -/

/-- Capitalized words side by side begin with no small letter. -/
theorem isLower_of_mem_head?_flatten (uniform : ∀ w ∈ ws, Uniform w) :
    ∀ d ∈ ((ws.map Casing.capitalize).flatten).head?, d.isLower = false := by
  cases ws with
  | nil => exact nofun
  | cons w ws =>
      obtain ⟨nonempty, ascii, -⟩ := uniform w List.mem_cons_self
      obtain ⟨c, rest, rfl⟩ := List.exists_cons_of_ne_nil nonempty
      rw [List.map_cons, List.flatten_cons, Casing.capitalize_of_ascii ascii]
      rintro d ⟨⟩
      exact Char.isLower_toUpper_eq_false c

/-- **No two words of a kind are adjacent.** -/
def Apart (kind : List Char → Prop) (ws : List (List Char)) : Prop :=
  ws.IsChain fun v w => ¬(kind v ∧ kind w)

instance (kind : List Char → Prop) [DecidablePred kind] (ws : List (List Char)) :
    Decidable (Apart kind ws) :=
  inferInstanceAs (Decidable (ws.IsChain _))

theorem apart_cons {kind : List Char → Prop} : Apart kind (w :: ws) ↔
    (∀ v ∈ ws.head?, ¬(kind w ∧ kind v)) ∧ Apart kind ws :=
  List.isChain_cons

/-- **Capitalized words behind a letter or digit are parted** iff neither numbers nor single letters
meet, where a digit counts as a number and a capital as a single letter. -/
theorem parted_map_capitalize_iff (uniform : ∀ w ∈ ws, Uniform w) (alphanumeric : before.isAlphanum) :
    Parted before (ws.map Casing.capitalize) ↔
      ((∀ w ∈ ws.head?, ¬(before.isDigit ∧ AllDigits w)) ∧ Apart AllDigits ws) ∧
        (∀ w ∈ ws.head?, ¬(before.isUpper ∧ OneLetter w)) ∧ Apart OneLetter ws := by
  induction ws generalizing before with
  | nil => simp [Parted, Apart]
  | cons w ws ih =>
      have here := uniform w List.mem_cons_self
      have uniformLater : ∀ v ∈ ws, Uniform v :=
        fun v member => uniform v (List.mem_cons_of_mem w member)
      have same := Casing.map_toLower_capitalize here.ascii
      have later := ih uniformLater (isAlphanum_getLastD here same before)
      rw [isDigit_getLastD here same, isUpper_getLastD_capitalize here, ← apart_cons,
        ← apart_cons] at later
      have opens := opens_capitalize_iff here alphanumeric (isLower_of_mem_head?_flatten uniformLater)
      rw [List.map_cons, Parted, opens, later, and_and_and_comm]
      simp only [List.head?_cons, Option.mem_some_iff, forall_eq']

/-- **Capitalized words are parted** iff their numbers and their single letters are apart. -/
theorem parted_capitalize_iff (uniform : ∀ v ∈ w :: ws, Uniform v) (before : Char) :
    Parted ((Casing.capitalize w).getLastD before) (ws.map Casing.capitalize) ↔
      Apart AllDigits (w :: ws) ∧ Apart OneLetter (w :: ws) := by
  have here := uniform w List.mem_cons_self
  have same := Casing.map_toLower_capitalize here.ascii
  rw [parted_map_capitalize_iff (fun v member => uniform v (List.mem_cons_of_mem w member))
      (isAlphanum_getLastD here same before), isDigit_getLastD here same,
    isUpper_getLastD_capitalize here, ← apart_cons, ← apart_cons]

/-- **Capitalized words behind a word in lower case are parted** also if it is a letter before another
one. -/
theorem parted_lowercase_iff (uniform : ∀ v ∈ w :: ws, Uniform v) (before : Char) :
    Parted ((Casing.lowercase w).getLastD before) (ws.map Casing.capitalize) ↔
      Apart AllDigits (w :: ws) ∧ Apart OneLetter ws := by
  have here := uniform w List.mem_cons_self
  have same := Casing.map_toLower_lowercase here.ascii
  rw [parted_map_capitalize_iff (fun v member => uniform v (List.mem_cons_of_mem w member))
      (isAlphanum_getLastD here same before), isDigit_getLastD here same,
    isUpper_getLastD_lowercase here, ← apart_cons]
  simp

end Words

end WireHeaders
