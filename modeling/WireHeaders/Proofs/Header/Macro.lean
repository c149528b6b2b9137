import WireHeaders.Header.Generate
import WireHeaders.Proofs.Header.Literals

/-!
# Headers as macros

A header opens a macro in its last line before the serializers, and the macro goes on as long as its
lines end with a backslash.  Names that fit on a line are all that this takes: what is written for
them stands in literals, and a literal always fits on a line.

## Main definitions

* `MacroLine` — **a line after which a macro goes on**
* `structText`, `enumText` — the text of a serializer
* `StructDecl.NamesFit`, `EnumDecl.NamesFit`, `HeaderOptions.NamesFit` — names that fit on a line

## Main statements

* `textLines_structText`, `textLines_enumText` — the text of a serializer is read as its lines
* `HeaderOptions.unitText_unbroken` — **a header is a preamble and one macro that holds all its
  serializers**
-/

namespace WireHeaders

/-! ## Lines of a macro -/

/-- **A line after which a macro goes on.** -/
structure MacroLine (line : String) : Prop where
  oneLine : OneLine line
  goesOn : line.toList.getLast? = some '\\'

instance (line : String) : Decidable (MacroLine line) :=
  decidable_of_iff (OneLine line ∧ line.toList.getLast? = some '\\')
    ⟨fun ⟨oneLine, goesOn⟩ => ⟨oneLine, goesOn⟩, fun ⟨oneLine, goesOn⟩ => ⟨oneLine, goesOn⟩⟩

/-- What stands before the end of a line has to fit on it. -/
theorem MacroLine.append {start line : String} (fits : OneLine start) (goesOn : MacroLine line) :
    MacroLine (start ++ line) := by
  refine ⟨oneLine_append.mpr ⟨fits, goesOn.oneLine⟩, ?_⟩
  rw [String.toList_append, List.getLast?_append, goesOn.goesOn]
  rfl

/-! ## Names that fit on a line -/

/-- **A struct whose names fit on a line.** -/
structure StructDecl.NamesFit (decl : StructDecl) : Prop where
  name : OneLine decl.name
  fields : ∀ f ∈ decl.fields, OneLine f.name

instance (decl : StructDecl) : Decidable decl.NamesFit :=
  decidable_of_iff (OneLine decl.name ∧ ∀ f ∈ decl.fields, OneLine f.name)
    ⟨fun ⟨name, fields⟩ => ⟨name, fields⟩, fun ⟨name, fields⟩ => ⟨name, fields⟩⟩

/-- **An enum whose names fit on a line.** -/
structure EnumDecl.NamesFit (decl : EnumDecl) : Prop where
  name : OneLine decl.name
  values : ∀ v ∈ decl.values, OneLine v.name

instance (decl : EnumDecl) : Decidable decl.NamesFit :=
  decidable_of_iff (OneLine decl.name ∧ ∀ v ∈ decl.values, OneLine v.name)
    ⟨fun ⟨name, values⟩ => ⟨name, values⟩, fun ⟨name, values⟩ => ⟨name, values⟩⟩

/-- **Options whose names fit on a line.** -/
structure HeaderOptions.NamesFit (options : HeaderOptions) : Prop where
  runtimeHeader : OneLine options.runtimeHeader
  macroName : OneLine options.macroName

/-- **A source unit whose types of a direction have names that fit on a line.** -/
structure SourceUnit.NamesFit (unit : SourceUnit) (direction : Direction) : Prop where
  structs : ∀ r ∈ unit.structsFor direction, r.decl.NamesFit
  enums : ∀ r ∈ unit.enumsFor direction, r.decl.NamesFit

/-! ## Serializers -/

namespace Serializer

theorem macroLine_opening {name : String} (fits : OneLine name) :
    ∀ line ∈ opening name, MacroLine line := by
  simp only [opening, List.forall_mem_cons]
  refine ⟨by decide, ?_, by decide, ?_, by decide, List.forall_mem_nil _⟩
  · exact .append (oneLine_append.mpr ⟨by decide, fits⟩) (by decide)
  · exact .append (oneLine_append.mpr ⟨by decide, fits⟩) (by decide)

theorem macroLine_closing : ∀ line ∈ closing, MacroLine line := by decide

theorem macroLine_fieldLines (key : String) {name : String} (fits : OneLine name) :
    ∀ line ∈ fieldLines key name, MacroLine line := by
  simp only [fieldLines, List.forall_mem_cons]
  refine ⟨?_, ?_, List.forall_mem_nil _⟩
  · exact .append (oneLine_append.mpr ⟨by decide, oneLine_textLiteral key⟩) (by decide)
  · exact .append (oneLine_append.mpr ⟨by decide, fits⟩) (by decide)

theorem macroLine_caseLines {label : String} (fits : OneLine label) (name : String) :
    ∀ line ∈ caseLines label name, MacroLine line := by
  simp only [caseLines, List.forall_mem_cons]
  refine ⟨?_, by decide, ?_, by decide, List.forall_mem_nil _⟩
  · exact .append (oneLine_append.mpr ⟨by decide, fits⟩) (by decide)
  · exact .append (oneLine_append.mpr ⟨by decide, oneLine_textLiteral name⟩) (by decide)

theorem macroLine_numberLines {name : String} (fits : OneLine name) :
    ∀ line ∈ numberLines name, MacroLine line := by
  simp only [numberLines, List.forall_mem_cons]
  refine ⟨?_, List.forall_mem_nil _⟩
  exact .append (oneLine_append.mpr ⟨by decide, fits⟩) (by decide)

/-- **A macro goes on through the serializer of a struct.** -/
theorem macroLine_structLines {decl : StructDecl} (fits : decl.NamesFit)
    (convention : Option Convention) : ∀ line ∈ structLines decl convention, MacroLine line := by
  simp only [structLines, List.forall_mem_append]
  refine ⟨⟨⟨⟨macroLine_opening fits.name, by decide⟩, ?_⟩, by decide⟩, macroLine_closing⟩
  exact List.forall_mem_flatMap.mpr fun f listed => macroLine_fieldLines _ (fits.fields f listed)

/-- **A macro goes on through the serializer of an enum.** -/
theorem macroLine_enumLines {decl : EnumDecl} (fits : decl.NamesFit)
    (convention : Option Convention) : ∀ line ∈ enumLines decl convention, MacroLine line := by
  have switch : ∀ line ∈ switchLines decl convention, MacroLine line := by
    simp only [switchLines, List.forall_mem_append]
    refine ⟨⟨by decide, ?_⟩, by decide⟩
    exact List.forall_mem_flatMap.mpr fun v listed => macroLine_caseLines (fits.values v listed) _
  simp only [enumLines, List.forall_mem_append]
  refine ⟨⟨macroLine_opening fits.name, ?_⟩, macroLine_closing⟩
  split
  · exact macroLine_numberLines fits.name
  · exact switch

theorem length_structLines (decl : StructDecl) (convention : Option Convention) :
    (structLines decl convention).length = 10 + 2 * decl.fields.length := by
  simp only [structLines, List.length_append, List.length_flatMap, opening, closing, fieldLines,
    List.length_cons, List.length_nil, List.map_const', List.sum_replicate_nat]
  omega

theorem length_enumLines (decl : EnumDecl) (convention : Option Convention) :
    (enumLines decl convention).length =
      if decl.metadata.has Key.asNumber then 8 else 11 + 4 * decl.values.length := by
  unfold enumLines
  split
  · rfl
  · simp only [switchLines, List.length_append, List.length_flatMap, opening, closing, caseLines,
      List.length_cons, List.length_nil, List.map_const', List.sum_replicate_nat]
    omega

end Serializer

/-- The text of the serializer of a struct. -/
def structText (decl : StructDecl) (convention : Option Convention) : String :=
  linesText (Serializer.structLines decl convention)

/-- The text of the serializer of an enum. -/
def enumText (decl : EnumDecl) (convention : Option Convention) : String :=
  linesText (Serializer.enumLines decl convention)

theorem textLines_structText {decl : StructDecl} (fits : decl.NamesFit)
    (convention : Option Convention) :
    textLines (structText decl convention) = Serializer.structLines decl convention :=
  textLines_linesText fun line member =>
    (Serializer.macroLine_structLines fits convention line member).oneLine

theorem textLines_enumText {decl : EnumDecl} (fits : decl.NamesFit)
    (convention : Option Convention) :
    textLines (enumText decl convention) = Serializer.enumLines decl convention :=
  textLines_linesText fun line member =>
    (Serializer.macroLine_enumLines fits convention line member).oneLine

/-! ## A whole header -/

namespace HeaderOptions

variable {options : HeaderOptions} {direction : Direction} {unit : SourceUnit}

theorem oneLine_preamble (fits : options.NamesFit) : ∀ line ∈ options.preamble, OneLine line := by
  simp only [preamble, List.forall_mem_cons]
  refine ⟨?_, by decide, by decide, ?_, ?_, List.forall_mem_nil _⟩
  · exact oneLine_append.mpr ⟨oneLine_append.mpr ⟨by decide, fits.runtimeHeader⟩, by decide⟩
  · exact oneLine_append.mpr ⟨by decide, fits.macroName⟩
  · exact oneLine_append.mpr ⟨oneLine_append.mpr ⟨by decide, fits.macroName⟩, by decide⟩

/-- The line that opens the macro. -/
theorem macroLine_define (fits : options.NamesFit) :
    MacroLine ("#define " ++ options.macroName ++ "(...) \\") :=
  .append (oneLine_append.mpr ⟨by decide, fits.macroName⟩) (by decide)

/-- The line behind a serializer. -/
theorem macroLine_behind : ∀ line ∈ ["\\"], MacroLine line := by decide

/-- **The macro goes on** through all serializers of a header. -/
theorem macroLine_serializers (fits : unit.NamesFit direction) :
    ∀ line ∈ (unit.structsFor direction).flatMap (fun r => structRecordLines r ++ ["\\"]) ++
        (unit.enumsFor direction).flatMap (fun r => enumRecordLines r ++ ["\\"]),
      MacroLine line := by
  simp only [List.forall_mem_append, List.forall_mem_flatMap]
  refine ⟨fun r listed => ⟨?_, macroLine_behind⟩, fun r listed => ⟨?_, macroLine_behind⟩⟩
  · exact Serializer.macroLine_structLines (fits.structs r listed) r.convention
  · exact Serializer.macroLine_enumLines (fits.enums r listed) r.convention

/-- The macro goes on from the line that opens it. -/
theorem macroLine_drop (fits : options.NamesFit) (unitFits : unit.NamesFit direction) :
    ∀ line ∈ (options.unitLines direction unit).drop 4, MacroLine line := by
  have dropped : options.preamble.drop 4 = ["#define " ++ options.macroName ++ "(...) \\"] := rfl
  rw [unitLines, List.append_assoc, List.drop_append_of_le_length (Nat.le_succ 4), dropped]
  exact List.forall_mem_cons.mpr ⟨macroLine_define fits, macroLine_serializers unitFits⟩

/-- The text of a header is read as its lines. -/
theorem textLines_unitText (fits : options.NamesFit) (unitFits : unit.NamesFit direction) :
    textLines (options.unitText direction unit) = options.unitLines direction unit := by
  refine textLines_linesText ?_
  rw [unitLines, List.append_assoc]
  refine List.forall_mem_append.mpr ⟨oneLine_preamble fits, ?_⟩
  exact fun line member => (macroLine_serializers unitFits line member).oneLine

/-- **A header is a preamble and one macro that holds all its serializers.**  If its names fit on a
line, its text ends with a line feed and is read as five lines, the last of which opens the macro, and
then as the lines of each serializer and a line that only goes on; and the macro goes on up to the end
of the text. -/
theorem unitText_unbroken (fits : options.NamesFit) (unitFits : unit.NamesFit direction) :
    let text := options.unitText direction unit
    text.toList.getLast? = some '\n' ∧
    textLines text = options.preamble ++
      (unit.structsFor direction).flatMap
        (fun r => textLines (structText r.decl r.convention) ++ ["\\"]) ++
      (unit.enumsFor direction).flatMap
        (fun r => textLines (enumText r.decl r.convention) ++ ["\\"]) ∧
    options.preamble.length = 5 ∧
    options.preamble[4]? = some ("#define " ++ options.macroName ++ "(...) \\") ∧
    (∀ r ∈ unit.structsFor direction,
      (textLines (structText r.decl r.convention)).length = 10 + 2 * r.decl.fields.length) ∧
    (∀ r ∈ unit.enumsFor direction,
      (textLines (enumText r.decl r.convention)).length =
        if r.decl.metadata.has Key.asNumber then 8 else 11 + 4 * r.decl.values.length) ∧
    ∀ line ∈ (textLines text).drop 4, line.toList.getLast? = some '\\' := by
  have structs : ∀ r ∈ unit.structsFor direction,
      textLines (structText r.decl r.convention) = structRecordLines r :=
    fun r listed => textLines_structText (unitFits.structs r listed) r.convention
  have enums : ∀ r ∈ unit.enumsFor direction,
      textLines (enumText r.decl r.convention) = enumRecordLines r :=
    fun r listed => textLines_enumText (unitFits.enums r listed) r.convention
  refine ⟨getLast?_linesText ?_, ?_, rfl, rfl, ?_, ?_, ?_⟩
  · simp [unitLines, preamble]
  · have structBlocks := List.flatMap_congr fun r listed =>
      congrArg (· ++ ["\\"]) (structs r listed)
    have enumBlocks := List.flatMap_congr fun r listed =>
      congrArg (· ++ ["\\"]) (enums r listed)
    rw [textLines_unitText fits unitFits, unitLines, structBlocks, enumBlocks]
  · intro r listed
    rw [structs r listed]
    exact Serializer.length_structLines r.decl r.convention
  · intro r listed
    rw [enums r listed]
    exact Serializer.length_enumLines r.decl r.convention
  · intro line member
    rw [textLines_unitText fits unitFits] at member
    exact (macroLine_drop fits unitFits line member).goesOn

/-- A struct with a field that is renamed to two lines of text. -/
def brokenRename : StructDecl :=
  ⟨"FNote", "note", Metadata.empty.flag Key.serialize,
    [⟨"Text", Metadata.empty.insert Key.rename "first \\\nsecond"⟩]⟩

/-- An enum with an enumerator that is renamed to a line feed. -/
def brokenName : EnumDecl :=
  ⟨"EBreak", "note", (Metadata.empty.flag Key.serialize).insertIndexed Key.rename (-1) "\n",
    [⟨"EBreak::Line", -1⟩]⟩

/-- A source unit with both of them and an enum that is written as its number. -/
def noteUnit : SourceUnit :=
  ((SourceUnit.empty.add 0 (.struct brokenRename)).add 1
    (.enum { brokenName with metadata := brokenName.metadata.flag Key.asNumber })).add 2
    (.enum brokenName)

/-- Line feeds in wire names do not break a macro. -/
theorem unitText_unbroken_noteUnit :
    let text := HeaderOptions.standard.unitText .serialize noteUnit
    text.toList.getLast? = some '\n' ∧
      (∀ r ∈ noteUnit.structsFor .serialize,
        (textLines (structText r.decl r.convention)).length = 10 + 2 * r.decl.fields.length) ∧
      ∀ line ∈ (textLines text).drop 4, line.toList.getLast? = some '\\' := by
  have fits : HeaderOptions.standard.NamesFit := ⟨by decide, by decide⟩
  have unitFits : noteUnit.NamesFit .serialize := ⟨by decide, by decide⟩
  have unbroken := unitText_unbroken fits unitFits
  exact ⟨unbroken.1, unbroken.2.2.2.2.1, unbroken.2.2.2.2.2.2⟩

end HeaderOptions

end WireHeaders
