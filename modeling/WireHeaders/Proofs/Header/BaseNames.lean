import Mathlib.Data.List.TakeWhile
import WireHeaders.Proofs.Files.Respelling
import WireHeaders.Proofs.Header.Clashes

/-!
# What headers are named after

A header is named after the file that its types stand in.  The name is cut from the text of a path, so
it has to be the same for all spellings of the path.

## Main definitions

* `Path.IsStem` — **what stands before the last dot of a file name**

## Main statements

* `Path.stem_eq_iff` — a stem is cut at the last dot, unless it would be empty
* `Path.baseName?_eq_some_iff` — **the base name of a path, told by the text of the path alone**
* `Path.IsName.components_eq` — the only component of a path that is a single segment
* `HeaderOptions.outputPath_respects` — **where a header goes depends on the components of its source
  path only**
-/

namespace WireHeaders

namespace Path

/-! ## Stems -/

/-- **What stands before the last dot of a file name.**  A dot that the name begins with does not
count, and a name without another dot is its own stem. -/
inductive IsStem : List Char → List Char → Prop
  | cut {base extension : List Char} (nonempty : base ≠ []) (last : '.' ∉ extension) :
      IsStem (base ++ '.' :: extension) base
  | whole {name : List Char} (none : '.' ∉ name.tail) : IsStem name name

theorem stem_of_not_mem {name : List Char} (none : '.' ∉ name) : stem name = name := by
  have noDot : name.reverse.dropWhile (· ≠ '.') = [] := by
    refine List.dropWhile_eq_nil_iff.mpr ?_
    intro c member
    exact decide_eq_true fun dot => none (dot ▸ List.mem_reverse.mp member)
  rw [stem, noDot]
  rfl

theorem stem_of_split {base extension : List Char} (last : '.' ∉ extension) :
    stem (base ++ '.' :: extension) = if base = [] then '.' :: extension else base := by
  have behind : (base ++ '.' :: extension).reverse.dropWhile (· ≠ '.') = '.' :: base.reverse := by
    rw [List.reverse_append, List.reverse_cons, List.append_assoc, List.dropWhile_append_of_pos]
    · rfl
    · intro c member
      exact decide_eq_true fun dot => last (dot ▸ List.mem_reverse.mp member)
  rw [stem, behind]
  cases base with
  | nil => rfl
  | cons c base =>
      rw [if_neg (List.cons_ne_nil c base), List.drop_one, List.tail_cons]
      split
      · next none => simp at none
      · exact List.reverse_reverse _

/-- A text with a dot has a last one. -/
theorem exists_last_dot {name : List Char} (dotted : '.' ∈ name) :
    ∃ base extension, name = base ++ '.' :: extension ∧ '.' ∉ extension := by
  obtain ⟨before, after, split, last⟩ := List.eq_append_cons_of_mem (List.mem_reverse.mpr dotted)
  refine ⟨after.reverse, before.reverse, ?_, fun dot => last (List.mem_reverse.mp dot)⟩
  rw [← List.reverse_reverse name, split, List.reverse_append, List.reverse_cons, List.append_assoc]
  rfl

/-- **A stem is cut at the last dot**, unless it would be empty. -/
theorem stem_eq_iff {name base : List Char} : stem name = base ↔ IsStem name base := by
  constructor
  · rintro rfl
    by_cases dotted : '.' ∈ name
    · obtain ⟨base, extension, rfl, last⟩ := exists_last_dot dotted
      rw [stem_of_split last]
      split
      · next none =>
        subst none
        exact .whole last
      · next nonempty => exact .cut nonempty last
    · rw [stem_of_not_mem dotted]
      exact .whole fun later => dotted (List.mem_of_mem_tail later)
  · intro isStem
    cases isStem with
    | cut nonempty last => rw [stem_of_split last, if_neg nonempty]
    | whole none =>
      cases name with
      | nil => rfl
      | cons c name =>
          by_cases dot : c = '.'
          · subst dot
            have cut : stem ([] ++ '.' :: name) = if [] = [] then '.' :: name else [] :=
              stem_of_split none
            exact cut
          · refine stem_of_not_mem ?_
            intro member
            rcases List.mem_cons.mp member with first | later
            · exact dot first.symm
            · exact none later

variable {p q : Path}

/-- **The base name of a path**: the stem of the name at the end of the text. -/
theorem baseName?_eq_some_iff {base : String} :
    p.baseName? = some base ↔
      ∃ name, EndsWith p.text.toList name ∧ IsStem name base.toList := by
  unfold baseName?
  rw [Option.map_eq_some_iff]
  constructor
  · rintro ⟨name, last, rfl⟩
    refine ⟨name.toList, fileName?_eq_some_iff.mp last, stem_eq_iff.mp ?_⟩
    exact String.toList_ofList.symm
  · rintro ⟨name, ends, isStem⟩
    refine ⟨String.ofList name, fileName?_eq_some_iff.mpr ?_, ?_⟩
    · rwa [String.toList_ofList]
    · rw [String.toList_ofList, stem_eq_iff.mpr isStem, String.ofList_toList]

/-- **The only component of a path that is a single segment** is a name, unless the text is one dot or
two. -/
theorem IsName.components_eq (name : q.IsName) :
    q.components =
      [if q.text = "." then .here else if q.text = ".." then .parent else .name q.text] := by
  have cut : q.segments = [q.text.toList] := slashSegments_of_not_mem name.plain
  have here : q.text.toList = ['.'] ↔ q.text = "." := by rw [← String.toList_inj]; rfl
  have up : q.text.toList = ['.', '.'] ↔ q.text = ".." := by rw [← String.toList_inj]; rfl
  rw [components_of_voids cut nofun, firstComponent, if_neg name.nonempty, componentOf]
  simp only [here, up, String.ofList_toList]
  split <;> rfl

end Path

namespace HeaderOptions

variable {options : HeaderOptions} {source : Path}

/-- There is no place for a header iff its source path does not end with a name. -/
theorem outputPath_eq_error_iff :
    (∃ e, options.outputPath source = .error e) ↔
      ¬∃ text, source.components.getLast? = some (.name text) := by
  rw [← Path.exists_baseName?_iff, outputPath]
  cases source.baseName? with
  | none => simp
  | some base => simp

/-- **Where a header goes** is the same for all spellings of its source path.  The base name is cut from
the end of the text.  There is no place iff the last component is no name.  A suffix without a slash
makes a single component of the base name and itself, which is a name unless it is one dot or two. -/
theorem outputPath_respects (options : HeaderOptions) (source : Path) :
    (∀ other : Path, source.components = other.components ↔ source.Respelled other) ∧
    (∀ other : Path, source.components = other.components →
      source.baseName? = other.baseName? ∧
        ((∃ path, options.outputPath source = .ok path ∧ options.outputPath other = .ok path) ∨
          ∃ e e', options.outputPath source = .error e ∧ options.outputPath other = .error e')) ∧
    (∀ base : String, source.baseName? = some base ↔
      ∃ name, Path.EndsWith source.text.toList name ∧ Path.IsStem name base.toList) ∧
    ((∃ e, options.outputPath source = .error e) ↔
      ¬∃ text, source.components.getLast? = some (.name text)) ∧
    ('/' ∉ options.suffix.toList → ∀ path, options.outputPath source = .ok path →
      ∃ base, source.baseName? = some base ∧ path.text = base ++ options.suffix ∧
        path.components =
          [if path.text = "." then .here else if path.text = ".." then .parent
            else .name path.text]) := by
  refine ⟨fun other => Path.components_eq_iff_respelled, ?_, fun base => Path.baseName?_eq_some_iff,
    outputPath_eq_error_iff, ?_⟩
  · intro other same
    have names : source.baseName? = other.baseName? := by
      unfold Path.baseName? Path.fileName?
      rw [same]
    refine ⟨names, ?_⟩
    unfold outputPath
    rw [← names]
    cases source.baseName? with
    | some base => exact Or.inl ⟨_, rfl, rfl⟩
    | none => exact Or.inr ⟨_, _, rfl, rfl⟩
  · intro plain path placed
    obtain ⟨base, named, rfl⟩ := outputPath_eq_ok_iff.mp placed
    exact ⟨base, named, rfl, (isName_of_outputPath plain placed).components_eq⟩

end HeaderOptions

end WireHeaders
