import WireHeaders.Command.Run
import WireHeaders.Proofs.Header.Generated
import WireHeaders.Proofs.Output.InDirectory

/-!
# The stages of the command

The command reads its files, generates headers and commits them.  Up to the last stage it only
reads, so what it comes to depends on the content of the files that it reads and on nothing else.

## Main definitions

* `FileTree.ReadsOnly` — **a program that reads some files** and does nothing else
* `Command.Finds` — what the command finds before it commits: a configuration and headers
* `Command.outcome` — what the user sees of understood arguments

## Main statements

* `Command.generate_of_finds`, `Command.finds_or_fails` — **the command commits what it finds**, and
  fails without any change if it finds nothing
* `Command.exitCode_eq_zero_iff` — when the command exits with zero
* `Command.Finds.congr` — files that are read alike are found alike
-/

namespace WireHeaders

/-! ## Programs that only read -/

/-- **A program that reads some files** and does nothing else: where these have the same content, it
comes to the same and leaves everything as it was. -/
def FileTree.ReadsOnly {α : Type} (paths : List Path) (program : StateM FileTree α) : Prop :=
  ∀ t t' : FileTree, (∀ path ∈ paths, t'.read path = t.read path) →
    program t' = ((program t).1, t')

namespace FileTree.ReadsOnly

variable {α β ε : Type} {paths : List Path}

theorem state_eq {program : StateM FileTree α} (reads : ReadsOnly paths program) (t : FileTree) :
    program t = ((program t).1, t) :=
  reads t t fun _ _ => rfl

theorem pure (a : α) : ReadsOnly paths (Pure.pure a) := fun _ _ _ => rfl

theorem bind {program : StateM FileTree α} {next : α → StateM FileTree β}
    (first : ReadsOnly paths program) (second : ∀ a, ReadsOnly paths (next a)) :
    ReadsOnly paths (program >>= next) := by
  intro t t' same
  -- The first program leaves the tree as it is, so the second one meets the same files.
  show next (program t').1 (program t').2 = ((next (program t).1 (program t).2).1, t')
  rw [first t t' same, first.state_eq t]
  exact second _ t t' same

theorem andThen {x : Logged ε α} {next : α → StateM FileTree (Logged ε β)}
    (second : ∀ a, ReadsOnly paths (next a)) : ReadsOnly paths (x.andThen next) := by
  unfold Logged.andThen
  split
  · exact pure _
  · exact bind (second _) fun _ => pure _

theorem read {path : Path} (member : path ∈ paths) :
    ReadsOnly paths (FileSystem.read path : StateM FileTree (Except FileError Bytes)) := by
  intro t t' same
  exact congrArg (fun result => (result, t')) (same path member)

theorem readText {path : Path} (member : path ∈ paths) :
    ReadsOnly paths (FileSystem.readText path : StateM FileTree (Except FileError String)) := by
  refine bind (read member) ?_
  intro result
  split
  · exact pure _
  · split
    · exact pure _
    · exact pure _

end FileTree.ReadsOnly

namespace Command

open FileTree (ReadsOnly)

/-- The configuration that is found in a file tree. -/
abbrev configIn (path : Option Path) : StateM FileTree (Result Config) := loadConfig path

/-- The declaration tree that is found in a file tree. -/
abbrev treeIn (path : Path) : StateM FileTree (Result DeclarationTree) := loadTree path

/-- Headers committed to a file tree. -/
abbrev commitIn (arguments : Arguments) (files : List GeneratedFile) :
    StateM FileTree (Result CommitSummary) :=
  commitTo arguments files

/-- What is done on a file tree for understood arguments. -/
abbrev generateIn (arguments : Arguments) : StateM FileTree (Result CommitSummary) :=
  generate arguments

/-- The files that the command reads. -/
def inputs (arguments : Arguments) : List Path := arguments.input :: arguments.config.toList

theorem readsOnly_loadConfig (path : Option Path) :
    ReadsOnly path.toList (configIn path) := by
  cases path with
  | none => exact .pure _
  | some path =>
      refine .bind (.readText List.mem_cons_self) ?_
      intro result
      split
      · exact .pure _
      · split
        · exact .pure _
        · exact .pure _
        · exact .pure _

theorem readsOnly_loadTree (path : Path) :
    ReadsOnly [path] (treeIn path) := by
  refine .andThen fun _ => .bind (.readText List.mem_cons_self) fun result => ?_
  split
  · exact .pure _
  · split
    · exact .pure _
    · exact .pure _

/-- **What the command finds before it commits**: a configuration, a tree and the headers of it. -/
def Finds (arguments : Arguments) (t : FileTree) (config : Config)
    (files : List GeneratedFile) : Prop :=
  ∃ tree,
    (configIn arguments.config t).1.result = .ok config ∧
    (treeIn arguments.input t).1.result =
      .ok tree ∧
    (headers config tree).result = .ok files

variable {arguments : Arguments} {t t' : FileTree} {config : Config} {files : List GeneratedFile}

/-- A file that cannot be read has no text. -/
theorem readText_of_error {path : Path} {e : FileError} (failed : t.read path = .error e) :
    (FileSystem.readText path : StateM FileTree (Except FileError String)) t =
      (.error e, t) := by
  have ran : (FileSystem.read path : StateM FileTree (Except FileError Bytes)) t =
      (.error e, t) :=
    congrArg (·, t) failed
  rw [FileSystem.readText, bind_of_eq ran]
  rfl

/-- A file that holds the bytes of a text has that text. -/
theorem readText_of_text {path : Path} {text : String}
    (read : t.read path = .ok (Bytes.ofString text)) :
    (FileSystem.readText path : StateM FileTree (Except FileError String)) t = (.ok text, t) := by
  have ran : (FileSystem.read path : StateM FileTree (Except FileError Bytes)) t =
      (.ok (Bytes.ofString text), t) :=
    congrArg (·, t) read
  rw [FileSystem.readText, bind_of_eq ran]
  simp only [Bytes.text?_ofString]
  rfl

/-- A tree that the text of a file stands for is loaded from it. -/
theorem treeIn_of_text {path : Path} {text : String} {tree : DeclarationTree}
    (read : t.read path = .ok (Bytes.ofString text))
    (decoded : DeclarationTree.decoder.run (Json.readText text) = .ok tree) :
    (treeIn path t).1.result = .ok tree := by
  rw [treeIn, loadTree, Logged.andThen_apply_ok (Logged.result_log _),
    bind_of_eq (readText_of_text read)]
  simp only [decoded]
  rfl

/-- A tree that was loaded was read. -/
theorem exists_read_of_treeIn {path : Path} {tree : DeclarationTree}
    (loaded : (treeIn path t).1.result = .ok tree) : ∃ bytes, t.read path = .ok bytes := by
  cases content : t.read path with
  | ok bytes => exact ⟨bytes, rfl⟩
  | error e =>
      rw [treeIn, loadTree, Logged.andThen_apply_ok (Logged.result_log _),
        bind_of_eq (readText_of_error content)] at loaded
      cases loaded

/-- A configuration that was loaded from a file was read. -/
theorem exists_read_of_configIn {path : Path}
    (configured : (configIn (some path) t).1.result = .ok config) :
    ∃ bytes, t.read path = .ok bytes := by
  cases content : t.read path with
  | ok bytes => exact ⟨bytes, rfl⟩
  | error e =>
      rw [configIn, loadConfig, bind_of_eq (readText_of_error content)] at configured
      cases configured

/-- **Whatever is found was read.** -/
theorem Finds.exists_read (finds : Finds arguments t config files) :
    ∀ path ∈ inputs arguments, ∃ bytes, t.read path = .ok bytes := by
  obtain ⟨tree, configured, loaded, -⟩ := finds
  refine List.forall_mem_cons.mpr ⟨exists_read_of_treeIn loaded, ?_⟩
  intro path member
  cases given : arguments.config with
  | none =>
      rw [given] at member
      cases member
  | some file =>
      rw [given] at member configured
      rw [List.mem_singleton.mp member]
      exact exists_read_of_configIn configured

/-- What is found is one configuration and one row of headers. -/
theorem Finds.unique {config' : Config} {files' : List GeneratedFile}
    (finds : Finds arguments t config files) (finds' : Finds arguments t config' files') :
    config = config' ∧ files = files' := by
  obtain ⟨tree, configured, loaded, generated⟩ := finds
  obtain ⟨tree', configured', loaded', generated'⟩ := finds'
  obtain rfl := Except.ok.inj (configured.symm.trans configured')
  obtain rfl := Except.ok.inj (loaded.symm.trans loaded')
  exact ⟨rfl, Except.ok.inj (generated.symm.trans generated')⟩

/-- **Files that are read alike are found alike.** -/
theorem Finds.congr (finds : Finds arguments t config files)
    (same : ∀ path ∈ inputs arguments, t'.read path = t.read path) :
    Finds arguments t' config files := by
  obtain ⟨tree, configured, loaded, generated⟩ := finds
  have configSame := readsOnly_loadConfig arguments.config t t' fun path member =>
    same path (List.mem_cons_of_mem _ member)
  have treeSame := readsOnly_loadTree arguments.input t t' fun path member => by
    rw [List.mem_singleton.mp member]
    exact same _ List.mem_cons_self
  refine ⟨tree, ?_, ?_, generated⟩
  · rw [configSame]
    exact configured
  · rw [treeSame]
    exact loaded

/-! ## The command -/

/-- What is done with a configuration. -/
def generateWith (arguments : Arguments) (config : Config) :
    StateM FileTree (Result CommitSummary) := do
  let tree ← treeIn arguments.input
  tree.andThen fun tree => (headers config tree).andThen (commitIn arguments)

theorem generate_eq (arguments : Arguments) (t : FileTree) :
    generateIn arguments t =
      (configIn arguments.config t).1.andThen (generateWith arguments) t := by
  show (configIn arguments.config t).1.andThen (generateWith arguments)
    (configIn arguments.config t).2 = _
  rw [(readsOnly_loadConfig arguments.config).state_eq t]

theorem generateWith_eq (arguments : Arguments) (config : Config) (t : FileTree) :
    generateWith arguments config t =
      (treeIn arguments.input t).1.andThen
        (m := StateM FileTree) (fun tree => (headers config tree).andThen (commitIn arguments))
        t := by
  show (treeIn arguments.input t).1.andThen
    (m := StateM FileTree) (fun tree => (headers config tree).andThen (commitIn arguments))
      (treeIn arguments.input t).2 = _
  rw [(readsOnly_loadTree arguments.input).state_eq t]

/-- **The command commits what it finds.** -/
theorem generate_of_finds (finds : Finds arguments t config files) : ∃ before,
    generateIn arguments t =
      (⟨before ++ (commitIn arguments files t).1.events, (commitIn arguments files t).1.result⟩,
        (commitIn arguments files t).2) := by
  obtain ⟨tree, configured, loaded, generated⟩ := finds
  rw [generate_eq, Logged.andThen_apply_ok configured, generateWith_eq,
    Logged.andThen_apply_ok loaded, Logged.andThen_apply_ok generated]
  exact ⟨_ ++ (_ ++ _), by simp only [List.append_assoc]; rfl⟩

/-- **The command fails without any change if it finds nothing.** -/
theorem finds_or_fails (arguments : Arguments) (t : FileTree) :
    (∃ config files, Finds arguments t config files) ∨
    ((∃ e, (generateIn arguments t).1.result =
        .error e) ∧
      (generateIn arguments t).2 = t) := by
  rw [generate_eq]
  cases configured :
      (configIn arguments.config t).1.result with
  | error e =>
      rw [Logged.andThen_apply_error configured]
      exact Or.inr ⟨⟨e, rfl⟩, rfl⟩
  | ok config =>
      rw [Logged.andThen_apply_ok configured, generateWith_eq]
      cases loaded :
          (treeIn arguments.input t).1.result with
      | error e =>
          rw [Logged.andThen_apply_error loaded]
          exact Or.inr ⟨⟨e, rfl⟩, rfl⟩
      | ok tree =>
          rw [Logged.andThen_apply_ok loaded]
          cases generated : (headers config tree).result with
          | error e =>
              rw [Logged.andThen_apply_error generated]
              exact Or.inr ⟨⟨e, rfl⟩, rfl⟩
          | ok files => exact Or.inl ⟨config, files, tree, configured, loaded, generated⟩

/-- What is committed, and where. -/
def target (arguments : Arguments) : DirectoryOutput := ⟨arguments.output, arguments.check⟩

theorem commitTo_eq (arguments : Arguments) (files : List GeneratedFile) (t : FileTree) :
    commitIn arguments files t =
      (⟨.committing files.length arguments.output ::
          (commitAll (target arguments).toTree files t).1.events,
        (commitAll (target arguments).toTree files t).1.result.mapError Failure.ofError⟩,
        (commitAll (target arguments).toTree files t).2) :=
  rfl

/-! ## What the user sees -/

/-- **What the user sees of understood arguments.** -/
def outcome (filter : LogFilter) (arguments : Arguments) : StateM FileTree Outcome := do
  let result ← generate arguments
  return .ofResult filter (result.bind (checked arguments))

/-- The command is its outcome once its setting and its arguments are understood. -/
theorem main_eq_outcome {setting : Option String} {filter : LogFilter} {row : List String}
    (understood : LogFilter.ofSetting setting = some filter)
    (parsed : Arguments.parse row = .ok (.run arguments)) :
    (main setting row : StateM FileTree Outcome) = outcome filter arguments := by
  unfold main
  rw [understood, parsed]
  rfl

theorem outcome_state (filter : LogFilter) (arguments : Arguments) (t : FileTree) :
    (outcome filter arguments t).2 =
      (generateIn arguments t).2 :=
  rfl

theorem exitCode_ofResult {α : Type} (filter : LogFilter) (result : Result α) :
    (Outcome.ofResult filter result).exitCode = 0 ↔ ∃ a, result.result = .ok a := by
  unfold Outcome.ofResult
  cases result.result with
  | ok a => simp
  | error f => simp

theorem checked_eq_ok_iff {summary total : CommitSummary} :
    (checked arguments summary).result = .ok total ↔
      total = summary ∧ (arguments.check = true → summary.outdated = 0) := by
  unfold checked
  by_cases outdated : arguments.check ∧ 0 < summary.outdated
  · rw [if_pos outdated]
    constructor
    · intro failed
      cases failed
    · rintro ⟨-, none⟩
      have zero := none outdated.1
      omega
  · rw [if_neg outdated]
    constructor
    · intro passed
      refine ⟨(Except.ok.inj passed).symm, ?_⟩
      intro check
      have none : ¬0 < summary.outdated := fun some => outdated ⟨check, some⟩
      omega
    · rintro ⟨rfl, -⟩
      rfl

/-- **The command exits with zero** iff it succeeds and no file is out of date in a check. -/
theorem exitCode_eq_zero_iff (filter : LogFilter) (arguments : Arguments) (t : FileTree) :
    (outcome filter arguments t).1.exitCode = 0 ↔ ∃ summary,
      (generateIn arguments t).1.result = .ok summary ∧
        (arguments.check = true → summary.outdated = 0) := by
  have seen : (outcome filter arguments t).1 =
      .ofResult filter ((generateIn arguments t).1 >>= checked arguments) := rfl
  rw [seen, exitCode_ofResult, Logged.result_bind]
  constructor
  · rintro ⟨total, passed⟩
    obtain ⟨summary, done, passed⟩ := exists_ok_of_bind passed
    exact ⟨summary, done, (checked_eq_ok_iff.mp passed).2⟩
  · rintro ⟨summary, done, upToDate⟩
    refine ⟨summary, ?_⟩
    rw [done]
    exact checked_eq_ok_iff.mpr ⟨rfl, upToDate⟩

end Command

end WireHeaders
