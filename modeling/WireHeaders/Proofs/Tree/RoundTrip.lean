import WireHeaders.Proofs.Json.Nesting
import WireHeaders.Proofs.Json.Reading
import WireHeaders.Proofs.Json.Records
import WireHeaders.Tree.Decode
import WireHeaders.Tree.Encode

/-!
# Trees read back from their text

What is written for a tree, a declaration or metadata is decoded to the same value again, up to
the depth that a reader of texts takes.

## Main statements

* `Metadata.reads`, `Field.reads`, `Enumerator.reads`, `EnumDecl.reads` — the parts are read back
* `Declaration.reads` — **a declaration is read back by as many levels as it is deep**
* `DeclarationTree.reads` — a tree is read back
* `DeclarationTree.decode_encode` — **a text that was written for a tree, a declaration or metadata is
  decoded to it, unless it is nested too deeply**

## Design notes

**Levels.**  The decoder of a declaration is built level by level, so that it is defined by
recursion on their number.  Each level of a declaration opens at least one array or object, so a
decoder with as many levels as a text may have open containers never runs out of them before the
text is refused for its depth.
-/

namespace WireHeaders

open Json (Decoder Shape Value)

/-! ## Fields of drafts -/

section Fields

variable {σ α τ : Type} {shape : Shape σ α} {limit : Nat} {draft final : σ} {name : String}
  {get : σ → Option τ} {set : τ → σ → σ} {decoder : Decoder τ} {v : Value} {x : τ}
  {later : List (String × Value)}

/-- A field that is there. -/
theorem fills_slot
    (found : shape.slots.find? (fun slot => slot.name == name) =
      some (slot name get set decoder))
    (empty : get draft = none) (reads : decoder.Reads limit v x)
    (rest : shape.Fills limit (set x draft) later final) :
    shape.Fills limit draft ((name, v) :: later) final := by
  have given : (slot name get set decoder).given draft = false := by
    show (get draft).isSome = false
    rw [empty]
    rfl
  exact .fill found given (reads.map set) rest

/-- **A field that may be left out.**  The draft then stays without it. -/
theorem fills_unless {omitted : Bool} (put : Option τ → σ → σ)
    (found : shape.slots.find? (fun slot => slot.name == name) =
      some (slot name get set decoder))
    (empty : get draft = none) (reads : decoder.Reads limit v x)
    (present : put (some x) draft = set x draft) (absent : put none draft = draft)
    (rest : shape.Fills limit (put (if omitted then none else some x) draft) later final) :
    shape.Fills limit draft (memberUnless omitted name v ++ later) final := by
  cases omitted with
  | true =>
      rw [if_pos rfl, absent] at rest
      exact rest
  | false =>
      rw [if_neg Bool.false_ne_true, present] at rest
      exact fills_slot found empty reads rest

/-- A value that is left out when it is the default is found again. -/
theorem getD_unless {omitted : Bool} {default : τ} (same : omitted = true → x = default) :
    (if omitted then none else some x).getD default = x := by
  cases omitted with
  | true => exact (same rfl).symm
  | false => rfl

end Fields

/-! ## Metadata -/

theorem SortedMap.eq_empty_of_isEmpty {ν : Type} {m : SortedMap String ν}
    (isEmpty : m.isEmpty = true) : m = .empty :=
  SortedMap.ext_entries (List.isEmpty_iff.mp isEmpty)

theorem Metadata.eq_empty_of_isEmpty {m : Metadata} (isEmpty : m.isEmpty = true) :
    m = .empty := by
  obtain ⟨entries, indexed⟩ := Bool.and_eq_true_iff.mp isEmpty
  show Metadata.mk m.entries m.indexed = _
  rw [SortedMap.eq_empty_of_isEmpty entries, SortedMap.eq_empty_of_isEmpty indexed]
  rfl

theorem reads_stringMap (limit : Nat) (m : SortedMap String String) :
    (Json.dictionary Json.string).Reads (limit + 1) (stringMap m) m :=
  Json.reads_dictionary Value.string fun e _ => Json.reads_string limit e.2

/-- A map of maps, of which the inner ones may be empty. -/
theorem reads_stringMaps (limit : Nat) (m : SortedMap String (SortedMap String String)) :
    (Json.dictionary (Json.dictionary Json.string)).Reads (limit + 2)
      (.object (m.entries.map fun e => (e.1, stringMap e.2))) m :=
  Json.reads_dictionary stringMap fun e _ => reads_stringMap limit e.2

/-- **Metadata is read back**, with or without its two maps. -/
theorem Metadata.reads (limit : Nat) (m : Metadata) :
    Metadata.shape.decode.Reads limit m.toJson m := by
  have fills : Metadata.shape.Fills (limit + 2) ⟨none, none⟩
      (memberUnless m.entries.isEmpty "entries" (stringMap m.entries) ++
        (memberUnless m.indexed.isEmpty "indexed"
          (.object (m.indexed.entries.map fun e => (e.1, stringMap e.2))) ++ []))
      ⟨if m.entries.isEmpty then none else some m.entries,
        if m.indexed.isEmpty then none else some m.indexed⟩ := by
    refine fills_unless (fun x d => { d with entries := x }) rfl rfl
      (reads_stringMap (limit + 1) m.entries) rfl rfl ?_
    refine fills_unless (fun x d => { d with indexed := x }) rfl rfl
      (reads_stringMaps limit m.indexed) rfl rfl ?_
    exact .done _
  -- A map that was left out is built as the empty map, which it was.
  have built : Metadata.shape.build
      ⟨if m.entries.isEmpty then none else some m.entries,
        if m.indexed.isEmpty then none else some m.indexed⟩ = .ok m := by
    unfold Metadata.shape
    simp only [getD_unless SortedMap.eq_empty_of_isEmpty]
  rw [List.append_nil] at fills
  exact (Shape.reads_object fills built).mono (by omega)

/-! ## The parts of a declaration -/

/-- **A field is read back.** -/
theorem Field.reads (limit : Nat) (f : Field) : Field.shape.decode.Reads limit f.toJson f := by
  have fills : Field.shape.Fills limit ⟨none, none⟩
      (("name", .string f.name) :: (f.metadata.member ++ []))
      ⟨some f.name, if f.metadata.isEmpty then none else some f.metadata⟩ := by
    refine fills_slot rfl rfl (Json.reads_string limit f.name) ?_
    refine fills_unless (fun x d => { d with metadata := x }) rfl rfl
      (f.metadata.reads limit) rfl rfl ?_
    exact .done _
  have built : Field.shape.build
      ⟨some f.name, if f.metadata.isEmpty then none else some f.metadata⟩ = .ok f := by
    unfold Field.shape
    simp only [getD_unless Metadata.eq_empty_of_isEmpty]
    rfl
  rw [List.append_nil] at fills
  exact (Shape.reads_object fills built).mono (by omega)

/-- **An enumerator is read back.** -/
theorem Enumerator.reads (limit : Nat) (e : Enumerator) :
    Enumerator.shape.decode.Reads limit e.toJson e := by
  have fills : Enumerator.shape.Fills limit ⟨none, none⟩
      [("name", .string e.name), ("value", .int e.ordinal.toInt)]
      ⟨some e.name, some e.ordinal⟩ := by
    refine fills_slot rfl rfl (Json.reads_string limit e.name) ?_
    refine fills_slot rfl rfl (Json.reads_int64 limit e.ordinal) ?_
    exact .done _
  exact (Shape.reads_object fills rfl).mono (by omega)

/-! ## Declarations -/

/-- **An enum is read back**; the name of its variant is no field of it and is passed over. -/
theorem EnumDecl.reads (limit : Nat) (d : EnumDecl) :
    EnumDecl.shape.decode.Reads limit (.object (("kind", .string "enum") :: d.members)) d := by
  have fills : EnumDecl.shape.Fills (limit + 1) ⟨none, none, none, none⟩
      (("kind", .string "enum") :: d.members)
      ⟨some d.name, some d.source, if d.metadata.isEmpty then none else some d.metadata,
        some d.values⟩ := by
    refine .pass rfl ?_
    refine fills_slot rfl rfl (Json.reads_string _ d.name) ?_
    refine fills_slot rfl rfl (Json.reads_string _ d.source) ?_
    refine fills_unless (fun x d => { d with metadata := x }) rfl rfl (d.metadata.reads _) rfl rfl ?_
    refine fills_slot rfl rfl
      (Json.reads_list Enumerator.toJson fun e _ => e.reads limit) ?_
    exact .done _
  have built : EnumDecl.shape.build
      ⟨some d.name, some d.source, if d.metadata.isEmpty then none else some d.metadata,
        some d.values⟩ = .ok d := by
    unfold EnumDecl.shape
    simp only [getD_unless Metadata.eq_empty_of_isEmpty]
    rfl
  exact (Shape.reads_object fills built).mono (by omega)

namespace Declaration

theorem listToJson_eq_map (ds : List Declaration) : listToJson ds = ds.map toJson := by
  induction ds with
  | nil => rw [listToJson, List.map_nil]
  | cons d ds ih => rw [listToJson, ih, List.map_cons]

section Content

variable {item : Decoder Declaration} {limit : Nat} {children : List Declaration}

/-- **The content of a container is read back** if what is declared inside it is. -/
theorem reads_container (name : String)
    (each : ∀ d ∈ children, item.Reads limit d.toJson d) :
    (ContainerContent.shape item).decode.Reads (limit + 2)
      (.object (("kind", .string "container") :: containerMembers name (listToJson children)))
      (name, children) := by
  have fills : (ContainerContent.shape item).Fills (limit + 1) ⟨none, none⟩
      (("kind", .string "container") :: containerMembers name (children.map toJson))
      ⟨some name, some children⟩ := by
    refine .pass rfl ?_
    refine fills_slot rfl rfl (Json.reads_string _ name) ?_
    refine fills_slot rfl rfl (Json.reads_list toJson each) ?_
    exact .done _
  rw [listToJson_eq_map]
  exact Shape.reads_object fills rfl

/-- **The content of a struct is read back** if what is declared inside it is. -/
theorem reads_struct (decl : StructDecl)
    (each : ∀ d ∈ children, item.Reads limit d.toJson d) :
    (StructContent.shape item).decode.Reads (limit + 2)
      (.object (("kind", .string "struct") :: decl.members (listToJson children)))
      (decl, children) := by
  have fills : (StructContent.shape item).Fills (limit + 1) ⟨none, none, none, none, none⟩
      (("kind", .string "struct") :: (decl.members (children.map toJson) ++ []))
      ⟨some decl.name, some decl.source,
        if decl.metadata.isEmpty then none else some decl.metadata, some decl.fields,
        if (children.map toJson).isEmpty then none else some children⟩ := by
    unfold StructDecl.members
    simp only [List.append_assoc]
    refine .pass rfl ?_
    refine fills_slot rfl rfl (Json.reads_string _ decl.name) ?_
    refine fills_slot rfl rfl (Json.reads_string _ decl.source) ?_
    refine fills_unless (fun x d => { d with metadata := x }) rfl rfl (decl.metadata.reads _)
      rfl rfl ?_
    refine fills_slot rfl rfl (Json.reads_list Field.toJson fun f _ => f.reads limit) ?_
    refine fills_unless (fun x d => { d with children := x }) rfl rfl
      (Json.reads_list toJson each) rfl rfl ?_
    exact .done _
  have noChildren : (children.map toJson).isEmpty = true → children = [] := by
    intro isEmpty
    exact List.map_eq_nil_iff.mp (List.isEmpty_iff.mp isEmpty)
  have built : (StructContent.shape item).build
      ⟨some decl.name, some decl.source,
        if decl.metadata.isEmpty then none else some decl.metadata, some decl.fields,
        if (children.map toJson).isEmpty then none else some children⟩ =
      .ok (decl, children) := by
    unfold StructContent.shape
    simp only [getD_unless Metadata.eq_empty_of_isEmpty, getD_unless noChildren]
    rfl
  rw [List.append_nil] at fills
  rw [listToJson_eq_map]
  exact Shape.reads_object fills built

end Content

/-! ## Declarations by their kind -/

theorem name_of_mem_memberUnless {omitted : Bool} {name : String} {v : Value}
    {m : String × Value} (member : m ∈ memberUnless omitted name v) : m.1 = name := by
  cases omitted with
  | true => cases member
  | false => rw [List.mem_singleton.mp member]

/-- A content is written without a second kind. -/
theorem ne_kind_of_mem_enum {d : EnumDecl} : ∀ m ∈ d.members, m.1 ≠ "kind" := by
  intro m member
  simp only [EnumDecl.members, List.mem_append, List.mem_cons, List.not_mem_nil, or_false] at member
  rcases member with ((rfl | rfl) | metadata) | rfl
  · show "name" ≠ "kind"
    decide
  · show "source" ≠ "kind"
    decide
  · rw [name_of_mem_memberUnless metadata]
    decide
  · show "values" ≠ "kind"
    decide

theorem ne_kind_of_mem_struct {d : StructDecl} {children : List Value} :
    ∀ m ∈ d.members children, m.1 ≠ "kind" := by
  intro m member
  simp only [StructDecl.members, List.mem_append, List.mem_cons, List.not_mem_nil,
    or_false] at member
  rcases member with (((rfl | rfl) | metadata) | rfl) | nested
  · show "name" ≠ "kind"
    decide
  · show "source" ≠ "kind"
    decide
  · rw [name_of_mem_memberUnless metadata]
    decide
  · show "fields" ≠ "kind"
    decide
  · rw [name_of_mem_memberUnless nested]
    decide

theorem ne_kind_of_mem_container {name : String} {children : List Value} :
    ∀ m ∈ containerMembers name children, m.1 ≠ "kind" := by
  intro m member
  simp only [containerMembers, List.mem_cons, List.not_mem_nil, or_false] at member
  rcases member with rfl | rfl
  · show "name" ≠ "kind"
    decide
  · show "children" ≠ "kind"
    decide

/-- A decoder with no level left reads what opens a container as too deep. -/
theorem reads_of_succ {d : Declaration}
    (reads : ∀ levels, (decoderAt (levels + 1)).Reads (levels + 1) d.toJson d) (levels : Nat) :
    (decoderAt levels).Reads levels d.toJson d := by
  cases levels with
  | succ levels => exact reads levels
  | zero =>
      have deep : 0 < d.toJson.depth := by
        cases d with
        | container name children => exact Nat.succ_pos _
        | struct decl children => exact Nat.succ_pos _
        | enum decl => exact Nat.succ_pos _
      -- Without levels only a text with no room left is within the limit, and it is refused.
      refine ⟨?_, (reads 0).inRange⟩
      intro reading within
      cases reading with
      | streamed room =>
          have full : ¬d.toJson.depth ≤ room := by
            have none : room ≤ 0 := within
            omega
          show _ = if _ then _ else _
          rw [if_neg full]
          rfl
      | held => exact absurd within (Nat.not_le_of_gt deep)

mutual

/-- **A declaration is read back by as many levels as it is deep.** -/
theorem reads : (d : Declaration) → ∀ levels, (decoderAt levels).Reads levels d.toJson d
  | .container name children => by
    refine reads_of_succ ?_
    intro levels
    have content := reads_container name fun d member => reads_mem children d member levels
    rw [toJson]
    exact Json.reads_tagged rfl ne_kind_of_mem_container (.bind (content.mono (by omega)) rfl)
  | .struct decl children => by
    refine reads_of_succ ?_
    intro levels
    have content := reads_struct decl fun d member => reads_mem children d member levels
    rw [toJson]
    exact Json.reads_tagged rfl ne_kind_of_mem_struct (.bind (content.mono (by omega)) rfl)
  | .enum decl => by
    refine reads_of_succ ?_
    intro levels
    rw [toJson]
    exact Json.reads_tagged rfl ne_kind_of_mem_enum ((decl.reads _).bind rfl)

/-- The declarations of a list are read back. -/
theorem reads_mem : (ds : List Declaration) → ∀ d ∈ ds, ∀ levels,
    (decoderAt levels).Reads levels d.toJson d
  | [] => by
    intro d member
    cases member
  | d :: ds => by
    refine List.forall_mem_cons.mpr ⟨reads d, ?_⟩
    exact reads_mem ds

end

end Declaration

/-! ## Trees -/

/-- **A scope is read back.** -/
theorem Scope.reads (s : Scope) : Scope.shape.decode.Reads 128 s.toJson s := by
  have fills : Scope.shape.Fills 128 ⟨none, none, none⟩
      [("name", .string s.name), ("external", .bool s.external), ("root", s.root.toJson)]
      ⟨some s.name, some s.external, some s.root⟩ := by
    refine fills_slot rfl rfl (Json.reads_string _ s.name) ?_
    refine fills_slot rfl rfl (Json.reads_boolean _ s.external) ?_
    refine fills_slot rfl rfl (s.root.reads 128) ?_
    exact .done _
  exact (Shape.reads_object fills rfl).mono (by omega)

/-- **A source table is read back**, with the spelling of each path. -/
theorem SourceTable.reads (limit : Nat) (t : SourceTable) :
    SourceTable.decoder.Reads (limit + 1) (SourceTable.toJson t) t :=
  Json.reads_dictionary (fun path : Path => .string path.text) fun e _ =>
    (Json.reads_stringAs "path string" limit e.2.text).map Path.mk

/-- **A tree is read back.** -/
theorem DeclarationTree.reads (t : DeclarationTree) :
    DeclarationTree.decoder.Reads 128 t.toJson t := by
  have fills : DeclarationTree.shape.Fills 128 ⟨none, none⟩
      [("sources", SourceTable.toJson t.sources), ("scopes", .array (t.scopes.map Scope.toJson))]
      ⟨some t.sources, some t.scopes⟩ := by
    refine fills_slot rfl rfl (SourceTable.reads 127 t.sources) ?_
    refine fills_slot rfl rfl
      ((Json.reads_list Scope.toJson fun s _ => s.reads).mono (by omega)) ?_
    exact .done _
  exact (Shape.reads_object fills rfl).mono (by omega)

/-! ## Texts -/

/-- **The text of a value is decoded to what the value was made from**, unless more than 127 arrays
and objects are open in it at once. -/
theorem Json.Decoder.Reads.run_text {α : Type} {decoder : Decoder α} {v : Value} {x : α}
    (reads : decoder.Reads 127 v x) :
    decoder.run (Json.readText v.text) =
      if Json.nesting v.text ≤ 127 then .ok x else .error (.text .tooDeep) := by
  rw [Json.readText_text, Json.nesting_text]
  exact reads.run_eq

/-- **Decoding undoes encoding over the whole format.**  The compact text of a tree, of a
declaration and of metadata is decoded to the same value again if at most 127 arrays and objects
are open in it at once, and refused for its depth otherwise. -/
theorem DeclarationTree.decode_encode :
    (∀ t : DeclarationTree,
      DeclarationTree.decoder.run (Json.readText t.toJson.text) =
        if Json.nesting t.toJson.text ≤ 127 then .ok t else .error (.text .tooDeep)) ∧
    (∀ d : Declaration,
      Declaration.decoder.run (Json.readText d.toJson.text) =
        if Json.nesting d.toJson.text ≤ 127 then .ok d else .error (.text .tooDeep)) ∧
    (∀ m : Metadata,
      Metadata.shape.decode.run (Json.readText m.toJson.text) =
        if Json.nesting m.toJson.text ≤ 127 then .ok m else .error (.text .tooDeep)) ∧
    (Json.Fault.text .tooDeep).message = "recursion limit exceeded" := by
  -- A text is decoded with room for 127 levels, and each of the three is read with at least that.
  refine ⟨?_, ?_, ?_, rfl⟩
  · intro t
    exact (t.reads.mono (by omega)).run_text
  · intro d
    exact ((d.reads 128).mono (by omega)).run_text
  · intro m
    exact (m.reads 127).run_text

end WireHeaders
