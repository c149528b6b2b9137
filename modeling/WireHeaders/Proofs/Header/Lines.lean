import Mathlib.Data.List.Basic
import WireHeaders.Header.Serializer

/-!
# Lines of a text

A header is put together from lines, and it is read line by line.  Reading gives back the lines that
were put together, as long as none of them holds a line feed of its own.

## Main definitions

* `textLines` — **the lines of a text**
* `OneLine` — a text that fits on a line
* `beginsWith` — how a line is recognized
* `between?` — what a line holds between its first and its last characters
* `blocks` — the lines of some kind, each with some lines behind it

## Main statements

* `textLines_linesText` — **lines that are put together are read back**
* `blocks_of_frame` — blocks that stand between other lines are found, in their order
-/

namespace WireHeaders

/-! ## Lines that are read -/

/-- **The lines of a text**, each without the line feed at its end.  What stands behind the last line
feed is no line. -/
def textLines (text : String) : List String :=
  ((text.toList.splitOn '\n').dropLast).map String.ofList

/-- **A text that fits on a line.** -/
def OneLine (text : String) : Prop := '\n' ∉ text.toList

instance (text : String) : Decidable (OneLine text) :=
  inferInstanceAs (Decidable ('\n' ∉ text.toList))

@[simp]
theorem oneLine_append {s t : String} : OneLine (s ++ t) ↔ OneLine s ∧ OneLine t := by
  unfold OneLine
  rw [String.toList_append, List.mem_append, not_or]

theorem toList_linesText_cons (line : String) (lines : List String) :
    (linesText (line :: lines)).toList = line.toList ++ '\n' :: (linesText lines).toList := by
  unfold linesText
  rw [List.map_cons, String.join_cons, String.toList_append, String.toList_append,
    List.append_assoc]
  rfl

/-- A text of lines ends with a line feed. -/
theorem getLast?_linesText {lines : List String} (nonempty : lines ≠ []) :
    (linesText lines).toList.getLast? = some '\n' := by
  induction lines with
  | nil => exact absurd rfl nonempty
  | cons line lines ih =>
      rw [toList_linesText_cons, List.getLast?_append_cons, List.getLast?_cons]
      cases lines with
      | nil => rfl
      | cons next rest =>
          rw [ih (List.cons_ne_nil next rest)]
          rfl

/-- **Lines that are put together are read back.** -/
theorem textLines_linesText {lines : List String} (oneLine : ∀ line ∈ lines, OneLine line) :
    textLines (linesText lines) = lines := by
  have cut : (linesText lines).toList.splitOn '\n' = lines.map String.toList ++ [[]] := by
    induction lines with
    | nil => rfl
    | cons line lines ih =>
        obtain ⟨here, later⟩ := List.forall_mem_cons.mp oneLine
        rw [toList_linesText_cons, List.splitOn_append_cons_self_of_not_mem here, ih later]
        rfl
  rw [textLines, cut, List.dropLast_concat, List.map_map]
  exact (List.map_congr_left fun line _ => String.ofList_toList).trans (List.map_id lines)

/-! ## Kinds of lines -/

/-- **How a line is recognized**: by its first characters. -/
def beginsWith (start line : String) : Bool := start.toList.isPrefixOf line.toList

theorem beginsWith_append_self (start rest : String) : beginsWith start (start ++ rest) = true := by
  rw [beginsWith, String.toList_append, List.isPrefixOf_iff_prefix]
  exact List.prefix_append _ _

/-- A line with another beginning is of another kind, whatever follows. -/
theorem beginsWith_append {start other : String} (rest : String)
    (apart : beginsWith start other = false) (apart' : beginsWith other start = false) :
    beginsWith start (other ++ rest) = false := by
  unfold beginsWith at apart apart' ⊢
  rw [Bool.eq_false_iff, ne_eq, List.isPrefixOf_iff_prefix] at apart apart' ⊢
  rw [String.toList_append]
  intro begun
  rcases List.prefix_or_prefix_of_prefix begun (List.prefix_append _ _) with first | first
  · exact apart first
  · exact apart' first

/-- **The lines before the body of a serializer** are of no other kind, whatever its type is called. -/
theorem Serializer.not_beginsWith_opening {start : String}
    (apart : ∀ other ∈ ["template <> \\", "struct GenJson::TSerializer<::", "\x7b \\",
        "\tstatic bool Write(const "],
      beginsWith start other = false ∧ beginsWith other start = false) (name : String) :
    ∀ line ∈ opening name, beginsWith start line = false := by
  simp only [List.forall_mem_cons] at apart
  obtain ⟨template, struct, brace, static, -⟩ := apart
  simp only [opening, List.forall_mem_cons, String.append_assoc]
  exact ⟨template.1, beginsWith_append _ struct.1 struct.2, brace.1,
    beginsWith_append _ static.1 static.2, brace.1, List.forall_mem_nil _⟩

/-- There is one line of a kind, if no other line is of it. -/
theorem countP_beginsWith_eq_one {start line : String} {before after : List String}
    (here : beginsWith start line = true)
    (none : ∀ other ∈ before ++ after, beginsWith start other = false) :
    (before ++ line :: after).countP (beginsWith start) = 1 := by
  have noOther : (before ++ after).countP (beginsWith start) = 0 :=
    List.countP_eq_zero.mpr fun other member => by rw [none other member]; decide
  rw [List.countP_append] at noOther
  rw [List.countP_append, List.countP_cons, here, if_pos rfl]
  omega

/-- **What a line holds** between its first and its last characters. -/
def between? (start stop line : String) : Option String := do
  let rest ← line.toList.dropPrefix? start.toList
  let inside ← rest.dropSuffix? stop.toList
  return String.ofList inside

theorem between?_append (start inside stop : String) :
    between? start stop (start ++ inside ++ stop) = some inside := by
  have opened := List.dropPrefix?_append_of_beq (inside.toList ++ stop.toList)
    (beq_self_eq_true start.toList)
  have closed : (inside.toList ++ stop.toList).dropSuffix? stop.toList = some inside.toList :=
    List.dropSuffix?_eq_some_iff.mpr ⟨_, rfl, beq_self_eq_true _⟩
  rw [between?, String.toList_append, String.toList_append, List.append_assoc, opened]
  simp only [Option.bind_eq_bind, Option.bind_some, closed, Option.pure_def, String.ofList_toList]

/-! ## Blocks of lines -/

/-- **The lines of some kind, each with the lines behind it**, `size` lines in all. -/
def blocks (size : Nat) (opens : String → Bool) : List String → List (List String)
  | [] => []
  | line :: rest =>
    if opens line then (line :: rest).take size :: blocks size opens rest
    else blocks size opens rest

variable {size : Nat} {opens : String → Bool}

/-- There is a block for each line of the kind. -/
theorem length_blocks (size : Nat) (opens : String → Bool) (lines : List String) :
    (blocks size opens lines).length = lines.countP opens := by
  induction lines with
  | nil => rfl
  | cons line lines ih =>
      rw [blocks, List.countP_cons]
      split
      · rw [List.length_cons, ih]
      · exact ih

theorem blocks_append_of_none {lines : List String} (none : ∀ line ∈ lines, opens line = false)
    (rest : List String) : blocks size opens (lines ++ rest) = blocks size opens rest := by
  induction lines with
  | nil => rfl
  | cons line lines ih =>
      obtain ⟨here, later⟩ := List.forall_mem_cons.mp none
      rw [List.cons_append, blocks, here, if_neg Bool.false_ne_true, ih later]

/-- **A block**: some lines of which the first one only is of the kind. -/
structure IsBlock (size : Nat) (opens : String → Bool) (block : List String) : Prop where
  length_eq : block.length = size
  shape : ∃ first later, block = first :: later ∧ opens first = true ∧
    ∀ line ∈ later, opens line = false

/-- A block is found, and then what stands behind it. -/
theorem IsBlock.blocks_append {block : List String} (isBlock : IsBlock size opens block)
    (rest : List String) : blocks size opens (block ++ rest) = block :: blocks size opens rest := by
  obtain ⟨rfl, first, later, rfl, opening, none⟩ := isBlock
  rw [List.cons_append, blocks, opening, if_pos rfl, blocks_append_of_none none,
    ← List.cons_append, List.take_left]

/-- **Blocks that stand between other lines** are found, in their order. -/
theorem blocks_of_frame {before after : List String} {rows : List (List String)}
    (noneBefore : ∀ line ∈ before, opens line = false)
    (noneAfter : ∀ line ∈ after, opens line = false) (all : ∀ row ∈ rows, IsBlock size opens row) :
    blocks size opens (before ++ rows.flatten ++ after) = rows := by
  rw [List.append_assoc, blocks_append_of_none noneBefore]
  induction rows with
  | nil =>
      have none : blocks size opens (after ++ []) = [] := blocks_append_of_none noneAfter []
      rw [List.append_nil] at none
      exact none
  | cons row rows ih =>
      obtain ⟨here, later⟩ := List.forall_mem_cons.mp all
      rw [List.flatten_cons, List.append_assoc, here.blocks_append, ih later]

end WireHeaders
