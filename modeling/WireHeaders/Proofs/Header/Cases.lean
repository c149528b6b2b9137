import WireHeaders.Proofs.Header.Macro
import WireHeaders.Proofs.Naming.LastName
import WireHeaders.Proofs.Tree.Indexed

/-!
# Cases of a serialized enum

The serializer of an enum is read back.  An enum that is written as its number needs its name only; any
other has a case for each enumerator, and what is written there is looked up by the number of the
enumerator.

## Main definitions

* `Enumerator.convertedName` — **the name of an enumerator that is not renamed**
* `labelOf?`, `writtenOf?` — what a line tells, the label of a case or the text that it writes
* `readCase`, `readCases` — a label with the text that its block writes
* `CaseForEach` — **a serializer with a case for each enumerator**

## Main statements

* `EnumDecl.wireName_eq` — **the name that is written for an enumerator**
* `enumLines_congr` — what the serializer of an enum depends on
* `caseForEach_enumText` — an enum that is written by name has a case for each enumerator, in the order
  of the enumerators
* `enumText_cases` — **what a serializer of an enum writes**
-/

namespace WireHeaders

open Serializer

/-- **The name of an enumerator that is not renamed**: its identifier without the qualifier, under the
convention of its enum, if there is any. -/
def Enumerator.convertedName (v : Enumerator) (convention : Option Convention) : String :=
  convention.elim (stripScope v.name) fun c => c.apply (stripScope v.name)

/-- **The name that is written for an enumerator**: the rename that is stored under its number, even an
empty one, else its converted name. -/
theorem EnumDecl.wireName_eq (decl : EnumDecl) (v : Enumerator) (convention : Option Convention) :
    decl.wireName v convention =
      (decl.metadata.getIndexed? Key.rename v.ordinal).getD (v.convertedName convention) := by
  unfold EnumDecl.wireName enumeratorName WireHeaders.wireName Enumerator.convertedName
  cases decl.metadata.getIndexed? Key.rename v.ordinal with
  | some name => rfl
  | none => cases convention <;> rfl

/-! ## Lines that are read -/

/-- How a line begins that chooses among cases. -/
def switchStart : String := "switch "

/-- How a line begins that opens a case. -/
def caseStart : String := "case "

/-- How a line begins that ends the writing of a value without a case. -/
def failureStart : String := "return false"

/-- How a line begins that writes a text. -/
def writeStart : String := "    return GenJson::Write("

/-- **The label of the case that a line opens.** -/
def labelOf? (line : String) : Option String := between? caseStart ": \\" line

/-- **The text that a line writes**: what its literal is read as. -/
def writtenOf? (line : String) : Option String := Literal.between? writeStart ", Writer); \\" line

/-- **A label with the text that its block writes**, a block with nothing else in it. -/
def readCase : List String → Option (String × String)
  | [labelLine, openLine, writeLine, closeLine] =>
    if openLine = "\x7b \\" ∧ closeLine = "\x7d \\" then
      do return (← labelOf? labelLine, ← writtenOf? writeLine)
    else none
  | _ => none

/-- **The cases among some lines**, each with the text that it writes. -/
def readCases (lines : List String) : List (Option (String × String)) :=
  (blocks 4 (beginsWith caseStart) lines).map readCase

theorem readCase_caseLines (label text : String) :
    readCase (caseLines label text) = some (label, text) := by
  have labelLine : labelOf? ("case " ++ label ++ ": \\") = some label :=
    between?_append caseStart label ": \\"
  have writeLine : writtenOf? ("    return GenJson::Write(" ++ textLiteral text ++ ", Writer); \\") =
      some text :=
    Literal.between?_append writeStart text ", Writer); \\"
  simp only [caseLines, readCase, labelLine, writeLine, and_self, if_true, Option.bind_eq_bind,
    Option.bind_some, Option.pure_def]

/-! ## The serializer of an enum -/

theorem isBlock_caseLines (label text : String) :
    IsBlock 4 (beginsWith caseStart) (caseLines label text) := by
  refine ⟨rfl, _, _, rfl, ?_, ?_⟩
  · rw [String.append_assoc]
    exact beginsWith_append_self caseStart _
  · simp only [List.forall_mem_cons, String.append_assoc]
    exact ⟨by decide, beginsWith_append _ (by decide) (by decide), by decide,
      List.forall_mem_nil _⟩

/-- The lines of a case neither choose among cases nor fail. -/
theorem not_beginsWith_caseLines {start : String}
    (apart : ∀ other ∈ [caseStart, "\x7b \\", writeStart, "\x7d \\"],
      beginsWith start other = false ∧ beginsWith other start = false) (label text : String) :
    ∀ line ∈ caseLines label text, beginsWith start line = false := by
  simp only [List.forall_mem_cons] at apart
  obtain ⟨label, opens, write, closes, -⟩ := apart
  simp only [caseLines, List.forall_mem_cons, String.append_assoc]
  exact ⟨beginsWith_append _ label.1 label.2, opens.1, beginsWith_append _ write.1 write.2,
    closes.1, List.forall_mem_nil _⟩

/-- The lines of each case, in the order of the enumerators. -/
def caseBlocks (decl : EnumDecl) (convention : Option Convention) : List (List String) :=
  decl.values.map fun v => caseLines v.name (decl.wireName v convention)

theorem enumLines_of_asNumber {decl : EnumDecl} (asNumber : decl.metadata.has Key.asNumber = true)
    (convention : Option Convention) :
    enumLines decl convention = opening decl.name ++ numberLines decl.name ++ closing := by
  rw [enumLines, if_pos asNumber]

theorem enumLines_of_byName {decl : EnumDecl} (byName : decl.metadata.has Key.asNumber = false)
    (convention : Option Convention) :
    enumLines decl convention = opening decl.name ++ ["switch (Instance) \\", "\x7b \\"] ++
      (caseBlocks decl convention).flatten ++ (["\x7d \\", "return false; \\"] ++ closing) := by
  simp only [enumLines, byName, Bool.false_eq_true, if_false, switchLines, caseBlocks,
    List.flatMap_def, List.append_assoc]

theorem blocks_enumLines {decl : EnumDecl} (byName : decl.metadata.has Key.asNumber = false)
    (convention : Option Convention) :
    blocks 4 (beginsWith caseStart) (enumLines decl convention) = caseBlocks decl convention := by
  rw [enumLines_of_byName byName]
  refine blocks_of_frame ?_ (by decide) ?_
  · exact List.forall_mem_append.mpr ⟨not_beginsWith_opening (by decide) decl.name, by decide⟩
  · intro row listed
    obtain ⟨v, -, rfl⟩ := List.mem_map.mp listed
    exact isBlock_caseLines _ _

/-- **What the serializer of an enum depends on**: how it is written, and the renames that are stored
under the numbers of its enumerators. -/
theorem enumLines_congr {decl : EnumDecl} {metadata : Metadata}
    (form : metadata.has Key.asNumber = decl.metadata.has Key.asNumber)
    (renames : ∀ v ∈ decl.values, metadata.getIndexed? Key.rename v.ordinal =
      decl.metadata.getIndexed? Key.rename v.ordinal) (convention : Option Convention) :
    enumLines { decl with metadata } convention = enumLines decl convention := by
  have names : ∀ v ∈ decl.values,
      { decl with metadata : EnumDecl }.wireName v convention = decl.wireName v convention := by
    intro v listed
    rw [EnumDecl.wireName_eq, EnumDecl.wireName_eq, renames v listed]
  have cases : switchLines { decl with metadata } convention = switchLines decl convention := by
    simp only [switchLines]
    rw [List.flatMap_congr fun v listed => congrArg (caseLines v.name) (names v listed)]
  rw [enumLines, enumLines, form, cases]

/-- **A serializer with a case for each enumerator.** -/
structure CaseForEach (decl : EnumDecl) (convention : Option Convention) (lines : List String) :
    Prop where
  /-- The cases have the identifiers of the enumerators as their labels, in their order, and write the
  rename under the number of the enumerator, else its converted name. -/
  cases : readCases lines = decl.values.map fun v =>
    some (v.name, (decl.metadata.getIndexed? Key.rename v.ordinal).getD (v.convertedName convention))
  oneCaseEach : lines.countP (beginsWith caseStart) = decl.values.length
  oneSwitch : lines.countP (beginsWith switchStart) = 1
  oneFailure : lines.countP (beginsWith failureStart) = 1
  /-- All cases stand between the line that chooses among them and the line for values without a case,
  with nothing in between. -/
  frame : ∃ before after, lines = before ++ ["switch (Instance) \\", "\x7b \\"] ++
    (blocks 4 (beginsWith caseStart) lines).flatten ++
    (["\x7d \\", "return false; \\"] ++ after)

/-- **An enum that is written by name** has a case for each enumerator. -/
theorem caseForEach_enumText {decl : EnumDecl} (fits : decl.NamesFit)
    (byName : decl.metadata.has Key.asNumber = false) (convention : Option Convention) :
    CaseForEach decl convention (textLines (enumText decl convention)) := by
  have caseless {start : String}
      (apart : ∀ other ∈ [caseStart, "\x7b \\", writeStart, "\x7d \\"],
        beginsWith start other = false ∧ beginsWith other start = false) :
      ∀ line ∈ (caseBlocks decl convention).flatten, beginsWith start line = false := by
    rw [caseBlocks, ← List.flatMap_def]
    exact List.forall_mem_flatMap.mpr fun v _ => not_beginsWith_caseLines apart _ _
  rw [textLines_enumText fits]
  refine ⟨?_, ?_, ?_, ?_, ?_⟩
  · rw [readCases, blocks_enumLines byName, caseBlocks, List.map_map]
    refine List.map_congr_left fun v _ => ?_
    rw [← decl.wireName_eq v convention]
    exact readCase_caseLines _ _
  · rw [← length_blocks 4, blocks_enumLines byName, caseBlocks, List.length_map]
  · rw [enumLines_of_byName byName, List.append_assoc, List.append_assoc, List.cons_append]
    refine countP_beginsWith_eq_one (by decide) ?_
    simp only [List.forall_mem_append]
    exact ⟨not_beginsWith_opening (by decide) decl.name, by decide, caseless (by decide), by decide,
      by decide⟩
  · rw [enumLines_of_byName byName, List.cons_append, List.append_cons, List.singleton_append]
    refine countP_beginsWith_eq_one (by decide) ?_
    simp only [List.forall_mem_append]
    exact ⟨⟨⟨⟨not_beginsWith_opening (by decide) decl.name, by decide⟩, caseless (by decide)⟩,
      by decide⟩, by decide⟩
  · rw [blocks_enumLines byName]
    exact ⟨_, _, enumLines_of_byName byName convention⟩

/-- **An enum that is written as its number** has no case. -/
theorem not_beginsWith_enumText {decl : EnumDecl} (fits : decl.NamesFit)
    (asNumber : decl.metadata.has Key.asNumber = true) (convention : Option Convention) :
    ∀ line ∈ textLines (enumText decl convention),
      beginsWith switchStart line = false ∧ beginsWith caseStart line = false := by
  have number : ∀ line ∈ numberLines decl.name,
      beginsWith switchStart line = false ∧ beginsWith caseStart line = false := by
    simp only [numberLines, List.forall_mem_singleton, String.append_assoc]
    exact ⟨beginsWith_append _ (by decide) (by decide), beginsWith_append _ (by decide) (by decide)⟩
  rw [textLines_enumText fits, enumLines_of_asNumber asNumber]
  simp only [List.forall_mem_append]
  refine ⟨⟨?_, number⟩, by decide⟩
  exact fun line member => ⟨not_beginsWith_opening (by decide) decl.name line member,
    not_beginsWith_opening (by decide) decl.name line member⟩

/-- **What a serializer of an enum writes.**  An enum that is written as its number needs its name only,
and has no case.  Any other has a case for each enumerator.  A case writes the rename under the number
of its enumerator, so that storing a rename changes the cases of that number and no other; without one
it writes, under the convention, what follows the last `::` of the identifier.  A rename of the enum
itself does not matter, nor does any other change that keeps these renames. -/
theorem enumText_cases {decl : EnumDecl} (fits : decl.NamesFit) (convention : Option Convention) :
    (decl.metadata.has Key.asNumber = true →
      (∀ (other : EnumDecl) (convention' : Option Convention), other.name = decl.name →
        other.metadata.has Key.asNumber = true →
        enumText other convention' = enumText decl convention) ∧
      ∀ line ∈ textLines (enumText decl convention),
        beginsWith switchStart line = false ∧ beginsWith caseStart line = false) ∧
    (decl.metadata.has Key.asNumber = false →
      CaseForEach decl convention (textLines (enumText decl convention)) ∧
      ∀ ordinal text, readCases (textLines (enumText { decl with
          metadata := decl.metadata.insertIndexed Key.rename ordinal text } convention)) =
        decl.values.map fun v => some (v.name, if v.ordinal = ordinal then text else
          (decl.metadata.getIndexed? Key.rename v.ordinal).getD (v.convertedName convention))) ∧
    (∀ v : Enumerator, IsLastName v.name.toList (stripScope v.name).toList) ∧
    (∀ text, enumText { decl with metadata := decl.metadata.insert Key.rename text } convention =
      enumText decl convention) ∧
    ∀ metadata : Metadata, metadata.has Key.asNumber = decl.metadata.has Key.asNumber →
      (∀ v ∈ decl.values, metadata.getIndexed? Key.rename v.ordinal =
        decl.metadata.getIndexed? Key.rename v.ordinal) →
      enumText { decl with metadata } convention = enumText decl convention := by
  have congr {metadata : Metadata} (form : metadata.has Key.asNumber = decl.metadata.has Key.asNumber)
      (renames : ∀ v ∈ decl.values, metadata.getIndexed? Key.rename v.ordinal =
        decl.metadata.getIndexed? Key.rename v.ordinal) :
      enumText { decl with metadata } convention = enumText decl convention :=
    congrArg linesText (enumLines_congr form renames convention)
  refine ⟨?_, ?_, fun v => isLastName_stripScope v.name, ?_, fun _ => congr⟩
  · refine fun asNumber => ⟨?_, not_beginsWith_enumText fits asNumber convention⟩
    intro other convention' sameName asNumber'
    rw [enumText, enumText, enumLines_of_asNumber asNumber, enumLines_of_asNumber asNumber', sameName]
  · refine fun byName => ⟨caseForEach_enumText fits byName convention, ?_⟩
    intro ordinal text
    have fits' : { decl with
        metadata := decl.metadata.insertIndexed Key.rename ordinal text : EnumDecl }.NamesFit :=
      ⟨fits.name, fits.values⟩
    rw [(caseForEach_enumText fits' byName convention).cases]
    refine List.map_congr_left fun v _ => ?_
    rw [Metadata.getIndexed?_insertIndexed]
    simp only [and_true]
    split <;> rfl
  · intro text
    refine congr ?_ fun v _ => Metadata.getIndexed?_insert ..
    rw [Metadata.has_insert]
    rfl

/-- An enum with a rename of its own, two enumerators of one negative number, an empty rename and two
qualifiers. -/
def signs : EnumDecl :=
  ⟨"ESign", "sign", ((Metadata.empty.insert Key.rename "Sign").insertIndexed Key.rename (-1)
      "\"minus\"; \\\n").insertIndexed Key.rename 0 "",
    [⟨"ESign::Below", -1⟩, ⟨"ESign::StillBelow", -1⟩, ⟨"ESign::Zero", 0⟩,
      ⟨"Outer::ESign::FarAbove", Int64.maxValue⟩]⟩

/-- The same enum, written as its number. -/
def signNumbers : EnumDecl := { signs with metadata := signs.metadata.flag Key.asNumber }

/-- Renames are found by their numbers, and a number as such needs none of them. -/
theorem enumText_cases_signs :
    readCases (textLines (enumText signs (some .kebab))) =
        [some ("ESign::Below", "\"minus\"; \\\n"), some ("ESign::StillBelow", "\"minus\"; \\\n"),
          some ("ESign::Zero", ""), some ("Outer::ESign::FarAbove", "far-above")] ∧
      enumText { EnumDecl.named "ESign" "" with metadata := Metadata.empty.flag Key.asNumber } none =
        enumText signNumbers (some .kebab) := by
  have fits : signs.NamesFit := by decide
  have fits' : signNumbers.NamesFit := by decide
  have byName : signs.metadata.has Key.asNumber = false := by decide
  have asNumber : signNumbers.metadata.has Key.asNumber = true := by decide
  refine ⟨?_, ?_⟩
  · exact ((enumText_cases fits (some .kebab)).2.1 byName).1.cases.trans (by decide)
  · exact ((enumText_cases fits' (some .kebab)).1 asNumber).1 _ none rfl (by decide)

end WireHeaders
