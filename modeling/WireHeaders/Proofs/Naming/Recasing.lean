import WireHeaders.Proofs.Naming.Shape

/-!
# Names converted twice

A convention sees nothing of a name but its words in lower case.  A name that was converted before is
converted to the same unless its words are no longer found.

## Main statements

* `Convention.joinWords_congr` — words that differ in case only are written alike
* `Convention.forall_apply_eq_iff` — **names are alike under all conventions iff their words are**
* `Convention.words_snake_apply`, `Convention.words_kebab_apply` — gaps keep words apart
* `Convention.pascal_composes_iff`, `Convention.camel_composes_iff` — capitals keep them apart **unless
  two numbers or two single letters meet**
* `Convention.apply_apply` — **conversions compose**
-/

namespace WireHeaders

open Words (isGap Piece Solid Parted Uniform AllDigits OneLetter Apart)

variable {s : Char} {cs u w : List Char} {us vs ws : List (List Char)}

/-! ## ASCII words, joined and recased -/

theorem isAscii_flatten (ascii : ∀ w ∈ ws, IsAscii w) : IsAscii ws.flatten := by
  intro c member
  obtain ⟨w, listed, inside⟩ := List.mem_flatten.mp member
  exact ascii w listed c inside

theorem isAscii_intercalate (here : s.toNat < 0x80) (ascii : ∀ w ∈ ws, IsAscii w) :
    IsAscii ([s].intercalate ws) := by
  intro c member
  rcases mem_intercalate member with rfl | ⟨w, listed, inside⟩
  · exact here
  · exact ascii w listed c inside

namespace Casing

theorem isAscii_lowercase (ascii : IsAscii cs) : IsAscii (lowercase cs) := by
  rw [lowercase_of_ascii ascii]
  exact ascii.map_toLower

theorem isAscii_capitalize (ascii : IsAscii cs) : IsAscii (capitalize cs) := by
  cases cs with
  | nil => exact ascii
  | cons c cs =>
      rw [capitalize_of_ascii ascii]
      exact .cons (IsAscii.toUpper ascii.head) ascii.tail.map_toLower

theorem lowercase_lowercase (ascii : IsAscii cs) : lowercase (lowercase cs) = lowercase cs := by
  rw [lowercase_of_ascii (isAscii_lowercase ascii), map_toLower_lowercase ascii,
    lowercase_of_ascii ascii]

theorem lowercase_capitalize (ascii : IsAscii cs) : lowercase (capitalize cs) = lowercase cs := by
  rw [lowercase_of_ascii (isAscii_capitalize ascii), map_toLower_capitalize ascii,
    lowercase_of_ascii ascii]

theorem capitalize_lowercase (ascii : IsAscii cs) : capitalize (lowercase cs) = capitalize cs := by
  have small := isAscii_lowercase ascii
  cases cs with
  | nil => rfl
  | cons c cs =>
      rw [lowercase_of_ascii ascii, List.map_cons] at small ⊢
      rw [capitalize_of_ascii small, capitalize_of_ascii ascii, Char.toUpper_toLower_eq_toUpper,
        ← lowercase_of_ascii ascii.tail, map_toLower_lowercase ascii.tail,
        lowercase_of_ascii ascii.tail]

theorem isAscii_map_lowercase (ascii : ∀ w ∈ ws, IsAscii w) : ∀ w ∈ ws.map lowercase, IsAscii w :=
  List.forall_mem_map.mpr fun w member => isAscii_lowercase (ascii w member)

theorem isAscii_map_capitalize (ascii : ∀ w ∈ ws, IsAscii w) : ∀ w ∈ ws.map capitalize, IsAscii w :=
  List.forall_mem_map.mpr fun w member => isAscii_capitalize (ascii w member)

end Casing

namespace Convention

/-! ## Words in lower case -/

/-- **A convention sees nothing of words but their lower case.** -/
theorem joinWords_map_lowercase (convention : Convention) (ascii : ∀ w ∈ ws, IsAscii w) :
    convention.joinWords (ws.map Casing.lowercase) = convention.joinWords ws := by
  have lower : (ws.map Casing.lowercase).map Casing.lowercase = ws.map Casing.lowercase := by
    rw [List.map_map]
    exact List.map_congr_left fun w member => Casing.lowercase_lowercase (ascii w member)
  have capital {ws : List (List Char)} (ascii : ∀ w ∈ ws, IsAscii w) :
      (ws.map Casing.lowercase).map Casing.capitalize = ws.map Casing.capitalize := by
    rw [List.map_map]
    exact List.map_congr_left fun w member => Casing.capitalize_lowercase (ascii w member)
  cases convention with
  | kebab => rw [joinWords, joinWords, lower]
  | snake => rw [joinWords, joinWords, lower]
  | pascal => rw [joinWords, joinWords, capital ascii]
  | camel =>
      cases ws with
      | nil => rfl
      | cons w ws =>
          rw [List.map_cons, joinWords, joinWords,
            Casing.lowercase_lowercase (ascii w List.mem_cons_self),
            capital fun v member => ascii v (List.mem_cons_of_mem w member)]

/-- Words that differ in case only are written alike. -/
theorem joinWords_congr (asciiVs : ∀ v ∈ vs, IsAscii v) (asciiWs : ∀ w ∈ ws, IsAscii w)
    (same : vs.map Casing.lowercase = ws.map Casing.lowercase) (convention : Convention) :
    convention.joinWords vs = convention.joinWords ws := by
  rw [← joinWords_map_lowercase convention asciiVs, same, joinWords_map_lowercase convention asciiWs]

theorem isAscii_joinWords (convention : Convention) (ascii : ∀ w ∈ ws, IsAscii w) :
    IsAscii (convention.joinWords ws) := by
  have lower := Casing.isAscii_map_lowercase ascii
  cases convention with
  | kebab => exact isAscii_intercalate (by decide) lower
  | snake => exact isAscii_intercalate (by decide) lower
  | pascal => exact isAscii_flatten (Casing.isAscii_map_capitalize ascii)
  | camel =>
      cases ws with
      | nil => exact .nil
      | cons w ws =>
          refine (Casing.isAscii_lowercase (ascii w List.mem_cons_self)).append (isAscii_flatten ?_)
          exact Casing.isAscii_map_capitalize fun v member => ascii v (List.mem_cons_of_mem w member)

section Names

variable {name a b : String}

theorem isAscii_apply (ascii : IsAscii name.toList) (convention : Convention) :
    IsAscii (convention.apply name).toList := by
  rw [toList_apply]
  exact isAscii_joinWords convention (isAscii_of_mem_words ascii)

/-- Words in lower case with gaps between them are found again. -/
theorem words_intercalate (ascii : IsAscii name.toList) (gap : isGap s = true) (here : s.toNat < 0x80) :
    words ([s].intercalate ((words name.toList).map Casing.lowercase)) =
      (words name.toList).map Casing.lowercase := by
  have asciiText := isAscii_intercalate here
    (Casing.isAscii_map_lowercase (isAscii_of_mem_words ascii))
  rw [words_eq_cut asciiText, Words.cut_intercalate _ gap (by decide)]
  exact List.forall_mem_map.mpr fun w member => (piece_of_mem_words ascii member).solid_lowercase

/-- **The words of a name in snake case** are its words in lower case. -/
theorem words_snake_apply (ascii : IsAscii name.toList) :
    words (snake.apply name).toList = (words name.toList).map Casing.lowercase := by
  rw [toList_apply, joinWords, words_intercalate ascii (by decide) (by decide)]

/-- **The words of a name in kebab case** are its words in lower case. -/
theorem words_kebab_apply (ascii : IsAscii name.toList) :
    words (kebab.apply name).toList = (words name.toList).map Casing.lowercase := by
  rw [toList_apply, joinWords, words_intercalate ascii (by decide) (by decide)]

/-- Names that are alike in snake case have the same words, but for their case. -/
theorem map_lowercase_words_of_snake (asciiA : IsAscii a.toList) (asciiB : IsAscii b.toList)
    (alike : snake.apply a = snake.apply b) :
    (words a.toList).map Casing.lowercase = (words b.toList).map Casing.lowercase := by
  rw [← words_snake_apply asciiA, alike, words_snake_apply asciiB]

/-- **Names are alike under all conventions** iff their words differ in case only. -/
theorem forall_apply_eq_iff (asciiA : IsAscii a.toList) (asciiB : IsAscii b.toList) :
    (∀ convention : Convention, convention.apply a = convention.apply b) ↔
      (words a.toList).map Casing.lowercase = (words b.toList).map Casing.lowercase := by
  constructor
  · intro alike
    exact map_lowercase_words_of_snake asciiA asciiB (alike snake)
  · intro same convention
    rw [apply, apply,
      joinWords_congr (isAscii_of_mem_words asciiA) (isAscii_of_mem_words asciiB) same convention]

/-- **A name in lower-case words is converted as before.** -/
theorem apply_apply_of_words {first : Convention} (ascii : IsAscii name.toList)
    (lower : words (first.apply name).toList = (words name.toList).map Casing.lowercase)
    (later : Convention) : later.apply (first.apply name) = later.apply name := by
  rw [apply, lower, joinWords_map_lowercase later (isAscii_of_mem_words ascii), apply]

/-- **A convention is stable on a name and keeps its words** iff it can precede any other. -/
theorem stable_iff_composes (ascii : IsAscii name.toList) (convention : Convention) :
    (convention.apply (convention.apply name) = convention.apply name ∧
        snake.apply (convention.apply name) = snake.apply name) ↔
      ∀ later : Convention, later.apply (convention.apply name) = later.apply name := by
  have asciiText := isAscii_apply ascii convention
  constructor
  · rintro ⟨-, alike⟩
    exact (forall_apply_eq_iff asciiText ascii).mpr (map_lowercase_words_of_snake asciiText ascii alike)
  · intro composes
    exact ⟨composes convention, composes snake⟩

/-! ## Words side by side -/

/-- **Capitalized words side by side are found again**, but for their case, iff they are parted behind
the first.  The first may be in another case. -/
theorem map_lowercase_words_iff (pieces : ∀ v ∈ w :: ws, Piece v) (solid : Solid u) (ascii : IsAscii u)
    (same : Casing.lowercase u = Casing.lowercase w) :
    (words (u ++ (ws.map Casing.capitalize).flatten)).map Casing.lowercase =
        (w :: ws).map Casing.lowercase ↔
      Parted (u.getLastD ' ') (ws.map Casing.capitalize) := by
  have piecesLater : ∀ v ∈ ws, Piece v := fun v member => pieces v (List.mem_cons_of_mem w member)
  have solidText : ∀ v ∈ u :: ws.map Casing.capitalize, Solid v :=
    List.forall_mem_cons.mpr ⟨solid, List.forall_mem_map.mpr fun v member =>
      (piecesLater v member).solid_capitalize⟩
  have asciiText : IsAscii (u :: ws.map Casing.capitalize).flatten :=
    ascii.append (isAscii_flatten
      (Casing.isAscii_map_capitalize fun v member => (piecesLater v member).ascii))
  rw [← List.flatten_cons]
  constructor
  · intro found
    have lengths := congrArg List.length found
    rw [List.length_map, List.length_map, List.length_cons] at lengths
    refine Words.parted_of_length_words asciiText solidText ?_
    rw [List.length_map]
    omega
  · intro parted
    rw [Words.words_flatten_of_parted asciiText solidText parted, List.map_cons, List.map_cons, same,
      List.map_map]
    exact congrArg _ (List.map_congr_left fun v member =>
      Casing.lowercase_capitalize (piecesLater v member).ascii)

/-- A name of letters, digits and gaps has words of letters and words of digits. -/
theorem uniform_of_mem_words (plain : ∀ c ∈ name.toList, c.isAlphanum ∨ isGap c) :
    ∀ w ∈ words name.toList, Uniform w := by
  intro w member
  have ascii := Words.isAscii_of_plain plain
  refine (piece_of_mem_words ascii member).uniform ?_
  intro c inside
  obtain ⟨listed, notGap⟩ := mem_of_mem_words ascii member c inside
  exact (plain c listed).resolve_right (by simp [notGap])

/-- **Pascal case can precede any convention** iff no two numbers and no two single letters are
adjacent. -/
theorem pascal_composes_iff (plain : ∀ c ∈ name.toList, c.isAlphanum ∨ isGap c) :
    (∀ later : Convention, later.apply (pascal.apply name) = later.apply name) ↔
      Apart AllDigits (words name.toList) ∧ Apart OneLetter (words name.toList) := by
  have ascii := Words.isAscii_of_plain plain
  have pieces := fun w => @piece_of_mem_words name.toList w ascii
  have uniform := uniform_of_mem_words plain
  rw [forall_apply_eq_iff (isAscii_apply ascii pascal) ascii, toList_apply]
  cases split : words name.toList with
  | nil => exact iff_of_true rfl ⟨.nil, .nil⟩
  | cons w ws =>
      rw [split] at pieces uniform
      have piece := pieces w List.mem_cons_self
      rw [joinWords, List.map_cons, List.flatten_cons,
        map_lowercase_words_iff pieces piece.solid_capitalize (Casing.isAscii_capitalize piece.ascii)
          (Casing.lowercase_capitalize piece.ascii),
        Words.parted_capitalize_iff uniform]

/-- **Camel case can precede any convention** iff no two numbers are adjacent, and no two single letters
but the first two words. -/
theorem camel_composes_iff (plain : ∀ c ∈ name.toList, c.isAlphanum ∨ isGap c) :
    (∀ later : Convention, later.apply (camel.apply name) = later.apply name) ↔
      Apart AllDigits (words name.toList) ∧ Apart OneLetter (words name.toList).tail := by
  have ascii := Words.isAscii_of_plain plain
  have pieces := fun w => @piece_of_mem_words name.toList w ascii
  have uniform := uniform_of_mem_words plain
  rw [forall_apply_eq_iff (isAscii_apply ascii camel) ascii, toList_apply]
  cases split : words name.toList with
  | nil => exact iff_of_true rfl ⟨.nil, .nil⟩
  | cons w ws =>
      rw [split] at pieces uniform
      have piece := pieces w List.mem_cons_self
      rw [joinWords,
        map_lowercase_words_iff pieces piece.solid_lowercase (Casing.isAscii_lowercase piece.ascii)
          (Casing.lowercase_lowercase piece.ascii),
        Words.parted_lowercase_iff uniform, List.tail_cons]

/-- **All conventions are stable on a name and keep its words** iff Pascal case can precede any. -/
theorem forall_stable_iff (plain : ∀ c ∈ name.toList, c.isAlphanum ∨ isGap c) :
    (∀ convention : Convention,
        convention.apply (convention.apply name) = convention.apply name ∧
          snake.apply (convention.apply name) = snake.apply name) ↔
      Apart AllDigits (words name.toList) ∧ Apart OneLetter (words name.toList) := by
  have ascii := Words.isAscii_of_plain plain
  constructor
  · intro stable
    exact (pascal_composes_iff plain).mp ((stable_iff_composes ascii pascal).mp (stable pascal))
  · rintro ⟨digits, letters⟩ convention
    refine (stable_iff_composes ascii convention).mpr ?_
    cases convention with
    | kebab => exact apply_apply_of_words ascii (words_kebab_apply ascii)
    | snake => exact apply_apply_of_words ascii (words_snake_apply ascii)
    | pascal => exact (pascal_composes_iff plain).mpr ⟨digits, letters⟩
    | camel => exact (camel_composes_iff plain).mpr ⟨digits, letters.tail⟩

/-- **Conversions compose.**  Snake and kebab case can precede any convention on an ASCII name.  On a name
of letters, digits and gaps, Pascal case can iff no two numbers and no two single letters are adjacent
words, and camel case also if the first two words are single letters.  That a convention can precede any
is the same as that it is stable and keeps the words. -/
theorem apply_apply (name : String) :
    (IsAscii name.toList →
      (∀ later : Convention, later.apply (snake.apply name) = later.apply name) ∧
      (∀ later : Convention, later.apply (kebab.apply name) = later.apply name) ∧
      ∀ convention : Convention,
        (convention.apply (convention.apply name) = convention.apply name ∧
            snake.apply (convention.apply name) = snake.apply name) ↔
          ∀ later : Convention, later.apply (convention.apply name) = later.apply name) ∧
    ((∀ c ∈ name.toList, c.isAlphanum ∨ isGap c) →
      ((∀ later : Convention, later.apply (pascal.apply name) = later.apply name) ↔
        Apart AllDigits (words name.toList) ∧ Apart OneLetter (words name.toList)) ∧
      ((∀ later : Convention, later.apply (camel.apply name) = later.apply name) ↔
        Apart AllDigits (words name.toList) ∧ Apart OneLetter (words name.toList).tail) ∧
      ((∀ convention : Convention,
          convention.apply (convention.apply name) = convention.apply name ∧
            snake.apply (convention.apply name) = snake.apply name) ↔
        Apart AllDigits (words name.toList) ∧ Apart OneLetter (words name.toList))) := by
  constructor
  · intro ascii
    exact ⟨apply_apply_of_words ascii (words_snake_apply ascii),
      apply_apply_of_words ascii (words_kebab_apply ascii), stable_iff_composes ascii⟩
  · intro plain
    exact ⟨pascal_composes_iff plain, camel_composes_iff plain, forall_stable_iff plain⟩

/-- Two single letters at the start are kept apart by camel case, but not by Pascal case. -/
theorem apply_apply_twoLetters :
    (∀ c ∈ "x_y_id".toList, c.isAlphanum ∨ isGap c) ∧
      (∀ later : Convention, later.apply (camel.apply "x_y_id") = later.apply "x_y_id") ∧
      ¬∀ later : Convention, later.apply (pascal.apply "x_y_id") = later.apply "x_y_id" := by
  have plain : ∀ c ∈ "x_y_id".toList, c.isAlphanum ∨ isGap c := by simp [isGap, Char.isAlphanum]
  obtain ⟨throughPascal, throughCamel, -⟩ := (apply_apply "x_y_id").2 plain
  refine ⟨plain, throughCamel.mpr (by decide), ?_⟩
  rw [throughPascal]
  decide

end Names

end Convention

end WireHeaders
