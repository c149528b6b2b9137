import WireHeaders.Proofs.Header.Macro

/-!
# Members of a serialized struct

The serializer of a struct is read back: which keys it writes, and which member of the instance it
writes under each of them.

## Main definitions

* `keyOf?`, `memberOf?` — **what a line writes**, the key of an object or a member of the instance
* `readMember` — a key with the member on the line right behind it

## Main statements

* `Field.wireName_eq` — **the key of a field**: its rename, else its converted name, else its name
* `structText_members` — **a serializer writes each field under its own key**, in the order of the
  fields
-/

namespace WireHeaders

open Serializer

/-- **The key of a field**: its rename if it has one, even an empty one, else its name under the
convention of its struct, if there is any. -/
theorem Field.wireName_eq (f : Field) (convention : Option Convention) :
    f.wireName convention =
      (f.metadata.get? Key.rename).getD (convention.elim f.name fun c => c.apply f.name) := by
  unfold Field.wireName WireHeaders.wireName
  cases f.metadata.get? Key.rename with
  | some name => rfl
  | none => cases convention <;> rfl

/-! ## Lines that are read -/

/-- How a line begins that writes a key. -/
def keyStart : String := "    Writer.Key("

/-- How a line begins that writes a member of the instance. -/
def memberStart : String := "    GenJson::Write(Instance."

/-- **The key that a line writes**: what its literal is read as. -/
def keyOf? (line : String) : Option String := Literal.between? keyStart "); \\" line

/-- **The member of the instance that a line writes.** -/
def memberOf? (line : String) : Option String := between? memberStart ", Writer); \\" line

/-- **A key with the member** on the line right behind it. -/
def readMember : List String → Option (String × String)
  | [keyLine, memberLine] => do return (← keyOf? keyLine, ← memberOf? memberLine)
  | _ => none

theorem readMember_fieldLines (key name : String) :
    readMember (fieldLines key name) = some (key, name) := by
  have keyLine : keyOf? ("    Writer.Key(" ++ textLiteral key ++ "); \\") = some key :=
    Literal.between?_append keyStart key "); \\"
  have memberLine : memberOf? ("    GenJson::Write(Instance." ++ name ++ ", Writer); \\") =
      some name :=
    between?_append memberStart name ", Writer); \\"
  simp only [fieldLines, readMember, keyLine, memberLine, Option.bind_eq_bind, Option.bind_some,
    Option.pure_def]

/-! ## The serializer of a struct -/

theorem isBlock_fieldLines (key name : String) :
    IsBlock 2 (beginsWith keyStart) (fieldLines key name) := by
  refine ⟨rfl, _, _, rfl, ?_, ?_⟩
  · rw [String.append_assoc]
    exact beginsWith_append_self keyStart _
  · simp only [List.forall_mem_singleton, String.append_assoc]
    exact beginsWith_append _ (by decide) (by decide)

/-- The lines of a field begin and end no object. -/
theorem not_beginsWith_fieldLines {start : String}
    (apart : beginsWith start keyStart = false ∧ beginsWith keyStart start = false)
    (apart' : beginsWith start memberStart = false ∧ beginsWith memberStart start = false)
    (key name : String) : ∀ line ∈ fieldLines key name, beginsWith start line = false := by
  simp only [fieldLines, List.forall_mem_cons, String.append_assoc]
  exact ⟨beginsWith_append _ apart.1 apart.2, beginsWith_append _ apart'.1 apart'.2,
    List.forall_mem_nil _⟩

/-- The lines of each field, in the order of the fields. -/
def fieldBlocks (decl : StructDecl) (convention : Option Convention) : List (List String) :=
  decl.fields.map fun f => fieldLines (f.wireName convention) f.name

theorem structLines_eq (decl : StructDecl) (convention : Option Convention) :
    structLines decl convention = opening decl.name ++ ["    Writer.StartObject(); \\"] ++
      (fieldBlocks decl convention).flatten ++
      (["    Writer.EndObject(); \\"] ++ "    return true; \\" :: closing) := by
  simp only [structLines, fieldBlocks, List.flatMap_def, List.append_assoc]
  rfl

theorem blocks_structLines (decl : StructDecl) (convention : Option Convention) :
    blocks 2 (beginsWith keyStart) (structLines decl convention) = fieldBlocks decl convention := by
  rw [structLines_eq]
  refine blocks_of_frame ?_ (by decide) ?_
  · exact List.forall_mem_append.mpr ⟨not_beginsWith_opening (by decide) decl.name, by decide⟩
  · intro row listed
    obtain ⟨f, -, rfl⟩ := List.mem_map.mp listed
    exact isBlock_fieldLines _ _

/-- **A serializer writes each field under its own key.**  The lines that write a key are as many as
the fields and in their order, each is read as the key of its field, and the line behind it writes the
member of that name.  All of them stand between the one line that starts the object and the one that
ends it. -/
theorem structText_members {decl : StructDecl} (fits : decl.NamesFit)
    (convention : Option Convention) :
    let lines := textLines (structText decl convention)
    let members := blocks 2 (beginsWith keyStart) lines
    members.map readMember = decl.fields.map (fun f =>
      some ((f.metadata.get? Key.rename).getD (convention.elim f.name fun c => c.apply f.name),
        f.name)) ∧
    lines.countP (beginsWith keyStart) = decl.fields.length ∧
    lines.countP (beginsWith "    Writer.StartObject(") = 1 ∧
    lines.countP (beginsWith "    Writer.EndObject(") = 1 ∧
    ∃ before after,
      lines = before ++ ["    Writer.StartObject(); \\"] ++ members.flatten ++
        (["    Writer.EndObject(); \\"] ++ after) ∧
      ∀ line ∈ before ++ after,
        beginsWith keyStart line = false ∧ beginsWith memberStart line = false := by
  intro lines members
  have lines_eq : lines = structLines decl convention := textLines_structText fits convention
  have members_eq : members = fieldBlocks decl convention := by
    rw [← blocks_structLines, ← lines_eq]
  have fieldless {start : String}
      (apart : beginsWith start keyStart = false ∧ beginsWith keyStart start = false)
      (apart' : beginsWith start memberStart = false ∧ beginsWith memberStart start = false) :
      ∀ line ∈ (fieldBlocks decl convention).flatten, beginsWith start line = false := by
    rw [fieldBlocks, ← List.flatMap_def]
    exact List.forall_mem_flatMap.mpr fun f _ => not_beginsWith_fieldLines apart apart' _ _
  refine ⟨?_, ?_, ?_, ?_, ?_⟩
  · rw [members_eq, fieldBlocks, List.map_map]
    refine List.map_congr_left fun f _ => ?_
    rw [← f.wireName_eq convention]
    exact readMember_fieldLines _ _
  · rw [← length_blocks 2, lines_eq, blocks_structLines, fieldBlocks, List.length_map]
  · rw [lines_eq, structLines_eq, List.append_assoc, List.append_assoc, List.singleton_append]
    refine countP_beginsWith_eq_one (by decide) ?_
    simp only [List.forall_mem_append]
    exact ⟨not_beginsWith_opening (by decide) decl.name,
      fieldless (by decide) (by decide), by decide, by decide⟩
  · rw [lines_eq, structLines_eq, List.singleton_append]
    refine countP_beginsWith_eq_one (by decide) ?_
    simp only [List.forall_mem_append]
    exact ⟨⟨⟨not_beginsWith_opening (by decide) decl.name, by decide⟩,
      fieldless (by decide) (by decide)⟩, by decide⟩
  · rw [lines_eq, members_eq]
    refine ⟨_, _, structLines_eq decl convention, ?_⟩
    intro line member
    constructor <;> revert line member
    · exact List.forall_mem_append.mpr ⟨not_beginsWith_opening (by decide) decl.name, by decide⟩
    · exact List.forall_mem_append.mpr ⟨not_beginsWith_opening (by decide) decl.name, by decide⟩

/-- A struct with a key that looks like the lines of a serializer, with two empty keys and with a field
that is not renamed. -/
def quotedKeys : StructDecl :=
  ⟨"FQuote", "quote", Metadata.empty.flag Key.serialize,
    [⟨"First", Metadata.empty.insert Key.rename "\")); \\\n    Writer.Key(TEXT(\"Second"⟩,
      ⟨"Second", Metadata.empty.insert Key.rename ""⟩,
      ⟨"Third", Metadata.empty.insert Key.rename ""⟩, ⟨"LastName", Metadata.empty⟩]⟩

/-- A key is one key, whatever it looks like, and equal keys are written once more. -/
theorem structText_members_quotedKeys :
    (blocks 2 (beginsWith keyStart)
        (textLines (structText quotedKeys (some .snake)))).map readMember =
      [some ("\")); \\\n    Writer.Key(TEXT(\"Second", "First"), some ("", "Second"),
        some ("", "Third"), some ("last_name", "LastName")] := by
  have fits : quotedKeys.NamesFit := by decide
  exact (structText_members fits (some .snake)).1.trans (by decide)

end WireHeaders
