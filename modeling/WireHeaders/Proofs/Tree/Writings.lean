import WireHeaders.Proofs.Json.Acceptance
import WireHeaders.Proofs.Tree.RoundTrip

/-!
# Trees in every way to write them

A tree is decoded from whatever a host writes for it: with the members of its objects in any order and
with further ones, without what is the default, and with arrays in the place of records, in any
combination and at any depth.

## Main definitions

* `Metadata.WrittenAs`, `Field.WrittenAs`, `Enumerator.WrittenAs`, `Declaration.WrittenAs`,
  `Scope.WrittenAs`, `SourceTable.WrittenAs`, `DeclarationTree.WrittenAs` — **the values that may be
  written for each**

## Main statements

* `Declaration.accepts` — a declaration is accepted by as many levels as a value for it is deep
* `DeclarationTree.decode_written` — **what is decoded does not depend on how it is written**

## Design notes

**Two paths.**  Below a declaration everything is held back until the kind is known, and above it
everything is decoded while the text is read.  `Json.Decoder.Accepts` is about both readings, so no
statement here tells them apart.
-/

namespace WireHeaders

open Json (Chosen Decoder Part Shape Value WritesList WritesMap WritesRecord)

/-! ## The ways to write a tree -/

/-- The values for a map of strings. -/
def WritesStrings : SortedMap String String → Value → Prop := WritesMap fun s v => v = .string s

/-- The fields of metadata. -/
def Metadata.parts (m : Metadata) : List Part :=
  [⟨"entries", WritesStrings m.entries, m.entries = .empty⟩,
    ⟨"indexed", WritesMap WritesStrings m.indexed, m.indexed = .empty⟩]

/-- **The values for metadata.** -/
def Metadata.WrittenAs (m : Metadata) : Value → Prop := WritesRecord m.parts

/-- The metadata of a declaration, as a field of it. -/
def Metadata.part (m : Metadata) : Part := ⟨"meta", m.WrittenAs, m = .empty⟩

/-- The fields of a field. -/
def Field.parts (f : Field) : List Part := [.text "name" f.name, f.metadata.part]

/-- **The values for a field.** -/
def Field.WrittenAs (f : Field) : Value → Prop := WritesRecord f.parts

/-- The fields of an enumerator. -/
def Enumerator.parts (e : Enumerator) : List Part :=
  [.text "name" e.name, ⟨"value", (· = .int e.ordinal.toInt), False⟩]

/-- **The values for an enumerator.** -/
def Enumerator.WrittenAs (e : Enumerator) : Value → Prop := WritesRecord e.parts

/-- The fields of an enum. -/
def EnumDecl.parts (d : EnumDecl) : List Part :=
  [.text "name" d.name, .text "source" d.source, d.metadata.part,
    ⟨"values", WritesList Enumerator.WrittenAs d.values, d.values = []⟩]

/-- What is declared inside a declaration, as a field of it. -/
def childrenPart (children : List Declaration) (writes : Value → Prop) : Part :=
  ⟨"children", writes, children = []⟩

/-- The fields of a container. -/
def containerParts (name : String) (children : Part) : List Part := [.text "name" name, children]

/-- The fields of a struct. -/
def StructDecl.parts (d : StructDecl) (children : Part) : List Part :=
  [.text "name" d.name, .text "source" d.source, d.metadata.part,
    ⟨"fields", WritesList Field.WrittenAs d.fields, d.fields = []⟩, children]

namespace Declaration

mutual

/-- **The values for a declaration**: its kind is the first of its fields. -/
def WrittenAs : Declaration → Value → Prop
  | .container name children =>
    WritesRecord (.text "kind" "container" :: containerParts name
      (childrenPart children fun v => ∃ items, v = .array items ∧ AllWrittenAs children items))
  | .struct decl children =>
    WritesRecord (.text "kind" "struct" :: decl.parts
      (childrenPart children fun v => ∃ items, v = .array items ∧ AllWrittenAs children items))
  | .enum decl => WritesRecord (.text "kind" "enum" :: decl.parts)

/-- The values for a row of declarations, one for each. -/
def AllWrittenAs : List Declaration → List Value → Prop
  | [], items => items = []
  | d :: ds, items => ∃ v rest, items = v :: rest ∧ WrittenAs d v ∧ AllWrittenAs ds rest

end

end Declaration

/-- The fields of a scope. -/
def Scope.parts (s : Scope) : List Part :=
  [.text "name" s.name, ⟨"external", (· = .bool s.external), s.external = false⟩,
    ⟨"root", s.root.WrittenAs, False⟩]

/-- **The values for a scope.** -/
def Scope.WrittenAs (s : Scope) : Value → Prop := WritesRecord s.parts

/-- **The values for a source table.** -/
def SourceTable.WrittenAs (t : SourceTable) : Value → Prop :=
  WritesMap (fun path v => v = .string path.text) t

/-- The fields of a tree. -/
def DeclarationTree.parts (t : DeclarationTree) : List Part :=
  [⟨"sources", SourceTable.WrittenAs t.sources, t.sources = .empty⟩,
    ⟨"scopes", WritesList Scope.WrittenAs t.scopes, False⟩]

/-- **The values for a tree.** -/
def DeclarationTree.WrittenAs (t : DeclarationTree) : Value → Prop := WritesRecord t.parts

/-- A row of declarations is written like any list. -/
theorem Declaration.allWrittenAs_iff {ds : List Declaration} {items : List Value} :
    AllWrittenAs ds items ↔ List.Forall₂ WrittenAs ds items := by
  induction ds generalizing items with
  | nil => rw [AllWrittenAs, List.forall₂_nil_left_iff]
  | cons d ds ih =>
      rw [AllWrittenAs, List.forall₂_cons_left_iff]
      constructor
      · rintro ⟨v, rest, rfl, written, later⟩
        exact ⟨v, rest, written, ih.mp later, rfl⟩
      · rintro ⟨v, rest, written, later, rfl⟩
        exact ⟨v, rest, rfl, written, ih.mpr later⟩

/-! ## What is written for a tree -/

/-- A member that is left out when there is nothing in it. -/
theorem chosen_unless (part : Part) {parts : List Part} {omitted : Bool} {v : Value}
    {members : List (String × Value)} (writes : part.Writes v)
    (omissible : omitted = true → part.Omissible) (rest : Chosen parts members) :
    Chosen (part :: parts) (memberUnless omitted part.name v ++ members) := by
  cases omitted with
  | true => exact .leave (omissible rfl) rest
  | false => exact .keep writes rest

theorem writesStrings_stringMap (m : SortedMap String String) : WritesStrings m (stringMap m) :=
  Json.writesMap_entries Value.string fun _ _ => rfl

theorem Metadata.writtenAs_toJson (m : Metadata) : m.WrittenAs m.toJson := by
  refine .of_chosen (chosen_unless _ (writesStrings_stringMap m.entries)
    SortedMap.eq_empty_of_isEmpty ?_)
  rw [← List.append_nil (memberUnless ..)]
  exact chosen_unless _ (Json.writesMap_entries stringMap fun e _ => writesStrings_stringMap e.2)
    SortedMap.eq_empty_of_isEmpty .done

/-- The metadata of a declaration, if there is any, and what follows it. -/
theorem Metadata.chosen_member (m : Metadata) {parts : List Part}
    {members : List (String × Value)} (rest : Chosen parts members) :
    Chosen (m.part :: parts) (m.member ++ members) :=
  chosen_unless m.part m.writtenAs_toJson Metadata.eq_empty_of_isEmpty rest

theorem Field.writtenAs_toJson (f : Field) : f.WrittenAs f.toJson := by
  refine .of_chosen (.keep rfl ?_)
  rw [← List.append_nil f.metadata.member]
  exact f.metadata.chosen_member .done

theorem Enumerator.writtenAs_toJson (e : Enumerator) : e.WrittenAs e.toJson :=
  .of_chosen (.keep rfl (.keep rfl .done))

theorem EnumDecl.chosen_members (d : EnumDecl) : Chosen d.parts d.members := by
  rw [members, List.append_assoc]
  refine .keep rfl (.keep rfl (d.metadata.chosen_member (.keep ?_ .done)))
  exact Json.writesList_map Enumerator.toJson fun e _ => e.writtenAs_toJson

namespace Declaration

mutual

/-- **A declaration may be written in the usual way.** -/
theorem writtenAs_toJson : (d : Declaration) → d.WrittenAs d.toJson
  | .container name children => by
    rw [WrittenAs, toJson]
    exact .of_chosen (.keep rfl (.keep rfl (.keep ⟨_, rfl, allWrittenAs_listToJson children⟩ .done)))
  | .struct decl children => by
    rw [WrittenAs, toJson]
    refine .of_chosen (.keep rfl ?_)
    rw [StructDecl.members, List.append_assoc, List.append_assoc]
    refine .keep rfl (.keep rfl (decl.metadata.chosen_member (.keep ?_ ?_)))
    · exact Json.writesList_map Field.toJson fun f _ => f.writtenAs_toJson
    · rw [← List.append_nil (memberUnless ..)]
      refine chosen_unless (childrenPart children _) ⟨_, rfl, allWrittenAs_listToJson children⟩ ?_ .done
      intro none
      rw [listToJson_eq_map, List.isEmpty_iff, List.map_eq_nil_iff] at none
      exact none
  | .enum decl => by
    rw [WrittenAs, toJson]
    exact .of_chosen (.keep rfl decl.chosen_members)

theorem allWrittenAs_listToJson : (ds : List Declaration) → AllWrittenAs ds (listToJson ds)
  | [] => by
    rw [AllWrittenAs, listToJson]
  | d :: ds => by
    rw [AllWrittenAs, listToJson]
    exact ⟨_, _, rfl, writtenAs_toJson d, allWrittenAs_listToJson ds⟩

end

end Declaration

theorem Scope.writtenAs_toJson (s : Scope) : s.WrittenAs s.toJson :=
  .of_chosen (.keep rfl (.keep rfl (.keep s.root.writtenAs_toJson .done)))

theorem SourceTable.writtenAs_toJson (t : SourceTable) :
    SourceTable.WrittenAs t (SourceTable.toJson t) :=
  Json.writesMap_entries (fun path : Path => .string path.text) fun _ _ => rfl

/-- **A tree may be written in the usual way.** -/
theorem DeclarationTree.writtenAs_toJson (t : DeclarationTree) : t.WrittenAs t.toJson := by
  refine .of_chosen (.keep ?_ (.keep ?_ .done))
  · exact SourceTable.writtenAs_toJson t.sources
  · exact Json.writesList_map Scope.toJson fun s _ => s.writtenAs_toJson

/-! ## Fields of drafts -/

section Fields

variable {σ τ : Type} {limit : Nat} {draft : (String → Bool) → σ} {name : String}
  {get : σ → Option τ} {set : τ → σ → σ} {decoder : Decoder τ} {x : τ} {writes : Value → Prop}
  {omissible : Prop}

/-- A field of a draft that has it or does not. -/
def drafted (given : Bool) (x : τ) : Option τ := if given then some x else none

/-- A slot takes a field that its decoder accepts in each way to write it. -/
theorem takes_slot (get_eq : ∀ given, get (draft given) = drafted (given name) x)
    (set_eq : ∀ given, set x (draft given) = draft (Function.update given name true))
    (accepts : ∀ v, writes v → decoder.Accepts limit v x) :
    Shape.Takes limit draft (slot name get set decoder) ⟨name, writes, omissible⟩ := by
  refine ⟨rfl, ?_, ?_⟩
  · intro given
    show (get (draft given)).isSome = given name
    rw [get_eq, drafted]
    cases given name <;> rfl
  · intro v written
    exact ⟨set x, (accepts v written).map set, set_eq⟩

/-- A value that is left out when it is the default is found again. -/
theorem getD_drafted {given : Bool} {default : τ} (had : given = true ∨ x = default) :
    (drafted given x).getD default = x := by
  rcases had with rfl | rfl
  · rfl
  · cases given <;> rfl

theorem required_drafted {given : Bool} (name : String) (had : given = true ∨ False) :
    Json.required name (drafted given x) = .ok x := by
  rw [had.resolve_right id]
  rfl

end Fields

/-! ## Metadata -/

theorem accepts_string (limit : Nat) (s : String) (v : Value) (written : v = .string s) :
    Json.string.Accepts limit v s := by
  rw [written]
  exact .of_reads fun limit => Json.reads_string limit s

theorem accepts_strings (limit : Nat) {m : SortedMap String String} (v : Value)
    (written : WritesStrings m v) : (Json.dictionary Json.string).Accepts limit v m :=
  (Json.accepts_map (fun e _ v writes => accepts_string limit e.2 v writes) written).mono
    (Nat.le_succ limit)

theorem accepts_stringMaps (limit : Nat) {m : SortedMap String (SortedMap String String)} (v : Value)
    (written : WritesMap WritesStrings m v) :
    (Json.dictionary (Json.dictionary Json.string)).Accepts limit v m :=
  (Json.accepts_map (fun _ _ v => accepts_strings limit v) written).mono (Nat.le_succ limit)

/-- **Metadata is accepted.** -/
theorem Metadata.accepts (limit : Nat) {m : Metadata} (v : Value) (written : m.WrittenAs v) :
    Metadata.shape.decode.Accepts limit v m := by
  have describes : Metadata.shape.Describes limit m.parts
      (fun given => ⟨drafted (given "entries") m.entries, drafted (given "indexed") m.indexed⟩)
      m := by
    refine ⟨rfl, .cons (takes_slot (fun _ => rfl) ?_ (accepts_strings limit)) <|
      .cons (takes_slot (fun _ => rfl) ?_ (accepts_stringMaps limit)) .nil,
      show ["entries", "indexed"].Nodup by decide, ?build⟩
    case build =>
      intro given had
      simp only [parts, List.forall_mem_cons] at had
      obtain ⟨entries, indexed, -⟩ := had
      unfold Metadata.shape
      simp only [getD_drafted entries, getD_drafted indexed]
    -- Each slot stores its own field and leaves the other one as it is.
    all_goals
      intro given
      simp [drafted, Function.update]
  exact (Shape.accepts_record describes written).mono (Nat.le_succ limit)

/-! ## The parts of a declaration -/

/-- **A field is accepted.** -/
theorem Field.accepts (limit : Nat) {f : Field} (v : Value) (written : f.WrittenAs v) :
    Field.shape.decode.Accepts limit v f := by
  have describes : Field.shape.Describes limit f.parts
      (fun given => ⟨drafted (given "name") f.name, drafted (given "meta") f.metadata⟩) f := by
    refine ⟨rfl, .cons (takes_slot (fun _ => rfl) ?_ (accepts_string limit f.name)) <|
      .cons (takes_slot (fun _ => rfl) ?_ (Metadata.accepts limit)) .nil,
      show ["name", "meta"].Nodup by decide, ?build⟩
    case build =>
      intro given had
      simp only [parts, Part.text, Metadata.part, List.forall_mem_cons] at had
      obtain ⟨name, metadata, -⟩ := had
      unfold Field.shape
      simp only [required_drafted "name" name, getD_drafted metadata]
      rfl
    all_goals
      intro given
      simp [drafted, Function.update]
  exact (Shape.accepts_record describes written).mono (Nat.le_succ limit)

theorem accepts_ordinal (limit : Nat) (i : Int64) (v : Value) (written : v = .int i.toInt) :
    Json.int64.Accepts limit v i := by
  rw [written]
  exact .of_reads fun limit => Json.reads_int64 limit i

/-- **An enumerator is accepted.** -/
theorem Enumerator.accepts (limit : Nat) {e : Enumerator} (v : Value) (written : e.WrittenAs v) :
    Enumerator.shape.decode.Accepts limit v e := by
  have describes : Enumerator.shape.Describes limit e.parts
      (fun given => ⟨drafted (given "name") e.name, drafted (given "value") e.ordinal⟩) e := by
    refine ⟨rfl, .cons (takes_slot (fun _ => rfl) ?_ (accepts_string limit e.name)) <|
      .cons (takes_slot (fun _ => rfl) ?_ (accepts_ordinal limit e.ordinal)) .nil,
      show ["name", "value"].Nodup by decide, ?build⟩
    case build =>
      intro given had
      simp only [parts, Part.text, List.forall_mem_cons] at had
      obtain ⟨name, ordinal, -⟩ := had
      unfold Enumerator.shape
      simp only [required_drafted "name" name, required_drafted "value" ordinal]
      rfl
    all_goals
      intro given
      simp [drafted, Function.update]
  exact (Shape.accepts_record describes written).mono (Nat.le_succ limit)

/-- A list of parts that are accepted. -/
theorem accepts_parts {τ : Type} {item : Decoder τ} {writes : τ → Value → Prop} (limit : Nat)
    (each : ∀ {x} v, writes x v → item.Accepts limit v x) {xs : List τ} (v : Value)
    (written : WritesList writes xs v) : (Json.list item).Accepts limit v xs :=
  (Json.accepts_list (fun _ _ v => each v) written).mono (Nat.le_succ limit)

/-- **An enum is accepted.** -/
theorem EnumDecl.accepts (limit : Nat) {d : EnumDecl} (v : Value)
    (written : WritesRecord d.parts v) : EnumDecl.shape.decode.Accepts limit v d := by
  have describes : EnumDecl.shape.Describes limit d.parts
      (fun given => ⟨drafted (given "name") d.name, drafted (given "source") d.source,
        drafted (given "meta") d.metadata, drafted (given "values") d.values⟩) d := by
    refine ⟨rfl, .cons (takes_slot (fun _ => rfl) ?_ (accepts_string limit d.name)) <|
      .cons (takes_slot (fun _ => rfl) ?_ (accepts_string limit d.source)) <|
      .cons (takes_slot (fun _ => rfl) ?_ (Metadata.accepts limit)) <|
      .cons (takes_slot (fun _ => rfl) ?_ (accepts_parts limit (Enumerator.accepts limit))) .nil,
      show ["name", "source", "meta", "values"].Nodup by decide, ?build⟩
    case build =>
      intro given had
      simp only [parts, Part.text, Metadata.part, List.forall_mem_cons] at had
      obtain ⟨name, source, metadata, values, -⟩ := had
      unfold EnumDecl.shape
      simp only [required_drafted "name" name, required_drafted "source" source,
        getD_drafted metadata, getD_drafted values]
      rfl
    all_goals
      intro given
      simp [drafted, Function.update]
  exact (Shape.accepts_record describes written).mono (Nat.le_succ limit)

namespace Declaration

section Content

variable {item : Decoder Declaration} {limit : Nat} {children : List Declaration}
  {writes : Value → Prop} (accepted : ∀ v, writes v → (Json.list item).Accepts limit v children)

include accepted

/-- **The content of a container is accepted** if what is declared inside it is. -/
theorem accepts_container {name : String} (v : Value)
    (written : WritesRecord (containerParts name (childrenPart children writes)) v) :
    (ContainerContent.shape item).decode.Accepts limit v (name, children) := by
  have describes : (ContainerContent.shape item).Describes limit
      (containerParts name (childrenPart children writes))
      (fun given => ⟨drafted (given "name") name, drafted (given "children") children⟩)
      (name, children) := by
    refine ⟨rfl, .cons (takes_slot (fun _ => rfl) ?_ (accepts_string limit name)) <|
      .cons (takes_slot (fun _ => rfl) ?_ accepted) .nil,
      show ["name", "children"].Nodup by decide, ?build⟩
    case build =>
      intro given had
      simp only [containerParts, childrenPart, Part.text, List.forall_mem_cons] at had
      obtain ⟨name, nested, -⟩ := had
      unfold ContainerContent.shape
      simp only [required_drafted "name" name, getD_drafted nested]
      rfl
    all_goals
      intro given
      simp [drafted, Function.update]
  exact (Shape.accepts_record describes written).mono (Nat.le_succ limit)

/-- **The content of a struct is accepted** if what is declared inside it is. -/
theorem accepts_struct {decl : StructDecl} (v : Value)
    (written : WritesRecord (decl.parts (childrenPart children writes)) v) :
    (StructContent.shape item).decode.Accepts limit v (decl, children) := by
  have describes : (StructContent.shape item).Describes limit
      (decl.parts (childrenPart children writes))
      (fun given => ⟨drafted (given "name") decl.name, drafted (given "source") decl.source,
        drafted (given "meta") decl.metadata, drafted (given "fields") decl.fields,
        drafted (given "children") children⟩) (decl, children) := by
    refine ⟨rfl, .cons (takes_slot (fun _ => rfl) ?_ (accepts_string limit decl.name)) <|
      .cons (takes_slot (fun _ => rfl) ?_ (accepts_string limit decl.source)) <|
      .cons (takes_slot (fun _ => rfl) ?_ (Metadata.accepts limit)) <|
      .cons (takes_slot (fun _ => rfl) ?_ (accepts_parts limit (Field.accepts limit))) <|
      .cons (takes_slot (fun _ => rfl) ?_ accepted) .nil,
      show ["name", "source", "meta", "fields", "children"].Nodup by decide, ?build⟩
    case build =>
      intro given had
      simp only [StructDecl.parts, childrenPart, Part.text, Metadata.part,
        List.forall_mem_cons] at had
      obtain ⟨name, source, metadata, fields, nested, -⟩ := had
      unfold StructContent.shape
      simp only [required_drafted "name" name, required_drafted "source" source,
        getD_drafted metadata, getD_drafted fields, getD_drafted nested]
      rfl
    all_goals
      intro given
      simp [drafted, Function.update]
  exact (Shape.accepts_record describes written).mono (Nat.le_succ limit)

end Content

/-- Whatever is written for a record opens an array or an object. -/
theorem depth_pos {parts : List Part} {v : Value} (written : WritesRecord parts v) : 0 < v.depth := by
  cases written with
  | object => exact Nat.succ_pos _
  | array => exact Nat.succ_pos _

/-- Without a level there is no value that a decoder would have to take. -/
theorem accepts_of_succ {d : Declaration} {v : Value} (deep : 0 < v.depth)
    (accepts : ∀ levels, (decoderAt (levels + 1)).Accepts (levels + 1) v d) (levels : Nat) :
    (decoderAt levels).Accepts levels v d := by
  cases levels with
  | succ levels => exact accepts levels
  | zero => exact ⟨fun _ _ within => absurd within (Nat.not_le_of_gt deep), (accepts 0).inRange⟩

mutual

/-- **A declaration is accepted** by as many levels as a value for it is deep. -/
theorem accepts : (d : Declaration) → ∀ v, d.WrittenAs v → ∀ levels,
    (decoderAt levels).Accepts levels v d
  | .container name children => by
    intro v written
    rw [WrittenAs] at written
    refine accepts_of_succ (depth_pos written) ?_
    intro levels
    refine Json.accepts_tagged rfl ?_ ?_ written
    · simp [containerParts, childrenPart, Part.text]
    · intro v written
      exact (accepts_container (accepts_children children levels) v written).bind rfl
  | .struct decl children => by
    intro v written
    rw [WrittenAs] at written
    refine accepts_of_succ (depth_pos written) ?_
    intro levels
    refine Json.accepts_tagged rfl ?_ ?_ written
    · simp [StructDecl.parts, childrenPart, Part.text, Metadata.part]
    · intro v written
      exact (accepts_struct (accepts_children children levels) v written).bind rfl
  | .enum decl => by
    intro v written
    rw [WrittenAs] at written
    refine accepts_of_succ (depth_pos written) ?_
    intro levels
    refine Json.accepts_tagged rfl ?_ ?_ written
    · simp [EnumDecl.parts, Part.text, Metadata.part]
    · intro v written
      exact (EnumDecl.accepts _ v written).bind rfl

/-- The declarations of a row are accepted, one level further down. -/
theorem accepts_children (ds : List Declaration) (levels : Nat) (v : Value)
    (written : ∃ items, v = .array items ∧ AllWrittenAs ds items) :
    (Json.list (decoderAt levels)).Accepts (levels + 1) v ds := by
  obtain ⟨items, rfl, written⟩ := written
  exact Json.accepts_list (fun d listed v written => accepts_mem ds d listed v written levels)
    ⟨items, rfl, allWrittenAs_iff.mp written⟩

theorem accepts_mem : (ds : List Declaration) → ∀ d ∈ ds, ∀ v, d.WrittenAs v → ∀ levels,
    (decoderAt levels).Accepts levels v d
  | [] => nofun
  | d :: ds => List.forall_mem_cons.mpr ⟨accepts d, accepts_mem ds⟩

end

end Declaration

/-! ## Scopes and trees -/

theorem accepts_external (limit : Nat) (b : Bool) (v : Value) (written : v = .bool b) :
    Json.boolean.Accepts limit v b := by
  rw [written]
  exact .of_reads fun limit => Json.reads_boolean limit b

/-- **A scope is accepted.** -/
theorem Scope.accepts {s : Scope} (v : Value) (written : s.WrittenAs v) :
    Scope.shape.decode.Accepts 128 v s := by
  have describes : Scope.shape.Describes 128 s.parts
      (fun given => ⟨drafted (given "name") s.name, drafted (given "external") s.external,
        drafted (given "root") s.root⟩) s := by
    refine ⟨rfl, .cons (takes_slot (fun _ => rfl) ?_ (accepts_string 128 s.name)) <|
      .cons (takes_slot (fun _ => rfl) ?_ (accepts_external 128 s.external)) <|
      .cons (takes_slot (fun _ => rfl) ?_ fun v written => s.root.accepts v written 128) .nil,
      show ["name", "external", "root"].Nodup by decide, ?build⟩
    case build =>
      intro given had
      simp only [parts, Part.text, List.forall_mem_cons] at had
      obtain ⟨name, external, root, -⟩ := had
      unfold Scope.shape
      simp only [required_drafted "name" name, getD_drafted external, required_drafted "root" root]
      rfl
    all_goals
      intro given
      simp [drafted, Function.update]
  exact (Shape.accepts_record describes written).mono (Nat.le_succ 128)

/-- **A source table is accepted**, with the spelling of each path. -/
theorem SourceTable.accepts (limit : Nat) {t : SourceTable} (v : Value)
    (written : SourceTable.WrittenAs t v) : SourceTable.decoder.Accepts limit v t := by
  refine Decoder.Accepts.mono (Json.accepts_map ?_ written) (Nat.le_succ limit)
  rintro e - v rfl
  exact .map (.of_reads fun limit => Json.reads_stringAs "path string" limit e.2.text) Path.mk

/-- **A tree is accepted.** -/
theorem DeclarationTree.accepts {t : DeclarationTree} (v : Value) (written : t.WrittenAs v) :
    DeclarationTree.decoder.Accepts 128 v t := by
  have describes : DeclarationTree.shape.Describes 128 t.parts
      (fun given => ⟨drafted (given "sources") t.sources, drafted (given "scopes") t.scopes⟩) t := by
    refine ⟨rfl, .cons (takes_slot (fun _ => rfl) ?_ (SourceTable.accepts 128)) <|
      .cons (takes_slot (fun _ => rfl) ?_ (accepts_parts 128 Scope.accepts)) .nil,
      show ["sources", "scopes"].Nodup by decide, ?build⟩
    case build =>
      intro given had
      simp only [parts, List.forall_mem_cons] at had
      obtain ⟨sources, scopes, -⟩ := had
      unfold DeclarationTree.shape
      simp only [getD_drafted sources, required_drafted "scopes" scopes]
      rfl
    all_goals
      intro given
      simp [drafted, Function.update]
  exact (Shape.accepts_record describes written).mono (Nat.le_succ 128)

/-! ## Texts -/

/-- **What is decoded does not depend on how it is written.**  A tree may be written in the usual way,
and whatever else is written for it is decoded to it as well, if at most 127 arrays and objects are open
in the text at once. -/
theorem DeclarationTree.decode_written (t : DeclarationTree) :
    t.WrittenAs t.toJson ∧
      ∀ v, t.WrittenAs v → Json.nesting v.text ≤ 127 →
        DeclarationTree.decoder.run (Json.readText v.text) = .ok t := by
  refine ⟨t.writtenAs_toJson, ?_⟩
  intro v written shallow
  rw [Json.nesting_text] at shallow
  rw [Json.readText_text]
  exact (DeclarationTree.accepts v written).run_eq shallow (Nat.le_succ_of_le shallow)

/-- A struct and an enum, in a container. -/
def DeclarationTree.game : DeclarationTree :=
  ⟨SortedMap.empty.insert "a" ⟨"A.h"⟩,
    [⟨"Game", false, .container "N"
      [.enum ⟨"E", "a", .empty, [⟨"E::A", -1⟩]⟩,
        .struct ⟨"S", "a", Metadata.empty.flag "Serialize", []⟩ []]⟩]⟩

/-- The same with the members of objects in reverse order, some further ones, without what may be left
out, and with arrays for the scope and the enum. -/
def DeclarationTree.gameBackwards : Value :=
  .object
    [("version", .array [.null, .int (-3)]),
      ("scopes", .array [.array [.string "Game", .bool false,
        .object
          [("children", .array
            [.array [.string "enum", .string "E", .string "a", .object [],
                .array [.object [("value", .int (-1)), ("name", .string "E::A")]]],
              .object
                [("note", .object [("kind", .string "enum")]),
                  ("meta", .object [("entries", .object [("Serialize", .string "")])]),
                  ("source", .string "a"), ("name", .string "S"), ("kind", .string "struct")]]),
            ("name", .string "N"), ("kind", .string "container")]]]),
      ("sources", .object [("a", .string "A.h")])]

theorem DeclarationTree.decode_written_gameBackwards :
    game.WrittenAs gameBackwards ∧ Json.nesting gameBackwards.text ≤ 127 ∧
      DeclarationTree.decoder.run (Json.readText gameBackwards.text) = .ok game := by
  have enum : (Declaration.enum ⟨"E", "a", .empty, [⟨"E::A", -1⟩]⟩).WrittenAs
      (.array [.string "enum", .string "E", .string "a", .object [],
        .array [.object [("value", .int (-1)), ("name", .string "E::A")]]]) := by
    have noMetadata : Metadata.empty.WrittenAs (.object []) :=
      .of_chosen (.leave rfl (.leave rfl .done))
    have enumerator : Enumerator.WrittenAs ⟨"E::A", -1⟩
        (.object [("value", .int (-1)), ("name", .string "E::A")]) :=
      .object (.keep rfl (.keep rfl .done)) (List.forall_mem_nil _) (List.forall_mem_nil _)
        (List.reverse_perm _).symm
    rw [Declaration.WrittenAs]
    exact .array (.cons rfl (.cons rfl (.cons rfl (.cons noMetadata
      (.cons ⟨_, rfl, .cons enumerator .nil⟩ .nil)))))
  have struct : (Declaration.struct ⟨"S", "a", Metadata.empty.flag "Serialize", []⟩ []).WrittenAs
      (.object
        [("note", .object [("kind", .string "enum")]),
          ("meta", .object [("entries", .object [("Serialize", .string "")])]),
          ("source", .string "a"), ("name", .string "S"), ("kind", .string "struct")]) := by
    have note : ∀ m ∈ [("note", Value.object [("kind", .string "enum")])], m.2.InRange := by
      simpa using Value.InRange.object (by simpa using Value.InRange.string "enum")
    rw [Declaration.WrittenAs]
    refine .object (.keep rfl (.keep rfl (.keep rfl
      (.keep (Metadata.empty.flag "Serialize").writtenAs_toJson
        (.leave rfl (.leave rfl .done)))))) ?_ note (List.reverse_perm _).symm
    simp [StructDecl.parts, childrenPart, Part.text, Metadata.part]
  have version : ∀ m ∈ [("version", Value.array [.null, .int (-3)])], m.2.InRange := by
    simpa using Value.InRange.array (by simpa using ⟨.null, .int (by decide) (by decide)⟩)
  have written : game.WrittenAs gameBackwards := by
    refine .object (.keep (SourceTable.writtenAs_toJson _) (.keep ⟨_, rfl, .cons ?_ .nil⟩ .done)) ?_
      version (List.reverse_perm _).symm
    · refine .array (.cons rfl (.cons rfl (.cons ?_ .nil)))
      rw [Declaration.WrittenAs]
      exact .object (.keep rfl (.keep rfl (.keep
        ⟨_, rfl, Declaration.allWrittenAs_iff.mpr (.cons enum (.cons struct .nil))⟩ .done)))
        (List.forall_mem_nil _) (List.forall_mem_nil _) (List.reverse_perm _).symm
    · simp [parts]
  have shallow : Json.nesting gameBackwards.text ≤ 127 := by
    rw [Json.nesting_text]
    decide
  exact ⟨written, shallow, (decode_written game).2 gameBackwards written shallow⟩

end WireHeaders
