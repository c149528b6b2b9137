import WireHeaders.Proofs.Command.Arguments
import WireHeaders.Proofs.Command.Stages
import WireHeaders.Proofs.Tree.RoundTrip

/-!
# The command converges

A run that succeeds leaves all headers in their places, so running the command again finds nothing
to do, and a check finds nothing out of date.

## Main definitions

* `Command.Clear` — no header goes to a file that the command reads

## Main statements

* `Command.generate_of_present` — **headers that are there already are left alone** and reported as
  unchanged, with or without a check
* `Command.present_of_generate` — after a successful run all headers are there
* `Command.exitCode_of_check` — a check succeeds exactly if all headers are there
* `Command.converges` — **a successful run is followed by checks and runs that change nothing**, and
  a check succeeds exactly if all headers are there

## Design notes

**Paths and places.**  Different paths may denote one location, so whether a header goes to a file
that is read is asked of locations.  Without links a path denotes the same location in every tree.
-/

namespace WireHeaders

namespace Command

open DirectoryOutput (Apart)

variable {arguments : Arguments} {t t' : FileTree} {config : Config} {files : List GeneratedFile}

/-! ## What is found -/

/-- Headers that are found have different names, unless their suffix holds a slash. -/
theorem Finds.apart (finds : Finds arguments t config files)
    (plain : '/' ∉ config.options.suffix.toList) : Apart files := by
  obtain ⟨tree, -, -, generated⟩ := finds
  unfold headers at generated
  rw [Logged.result_mapError] at generated
  obtain ⟨units, -, made⟩ := headersOf_eq_ok_iff.mp (ok_of_mapError generated)
  obtain ⟨isName, distinct⟩ := HeaderOptions.names_of_generate plain made
  exact ⟨isName, distinct⟩

/-- **No header goes to a file that the command reads.** -/
def Clear (arguments : Arguments) (t : FileTree) (files : List GeneratedFile) : Prop :=
  ∀ file ∈ files, ∀ path ∈ inputs arguments,
    (arguments.output.join file.path).location t.workingDirectory ≠
      path.location t.workingDirectory

/-! ## Headers that are there -/

/-- What is reported of headers that are all there. -/
def unchangedEvents (arguments : Arguments) (files : List GeneratedFile) : List Event :=
  files.map (fun file => .fileUnchanged (arguments.output.join file.path)) ++
    [.committed ⟨0, files.length, 0⟩]

/-- **Headers that are there already are left alone** and reported as unchanged. -/
theorem generate_of_present (finds : Finds arguments t config files)
    (present : ∀ file ∈ files, (target arguments).Present t file) : ∃ before,
    generateIn arguments t =
      (⟨before ++ unchangedEvents arguments files, .ok ⟨0, files.length, 0⟩⟩, t) := by
  have total : DirectoryOutput.allUnchanged .zero files = ⟨0, files.length, 0⟩ := by
    simp [DirectoryOutput.allUnchanged, CommitSummary.zero]
  obtain ⟨before, done⟩ := generate_of_finds finds
  refine ⟨before ++ [.committing files.length arguments.output], ?_⟩
  rw [done, commitTo_eq, commitAll, DirectoryOutput.commitFrom_of_present present, total,
    List.append_assoc]
  rfl

theorem exitCode_of_present (filter : LogFilter) (finds : Finds arguments t config files)
    (present : ∀ file ∈ files, (target arguments).Present t file) :
    (outcome filter arguments t).1.exitCode = 0 ∧ (outcome filter arguments t).2 = t := by
  obtain ⟨before, done⟩ := generate_of_present finds present
  constructor
  · refine (exitCode_eq_zero_iff filter arguments t).mpr ⟨⟨0, files.length, 0⟩, ?_, fun _ => rfl⟩
    rw [done]
  · rw [outcome_state, done]

/-! ## After a run -/

/-- The result of a commit is that of committing all headers. -/
theorem commitAll_of_generate (finds : Finds arguments t config files) {summary : CommitSummary}
    (done : (generateIn arguments t).1.result = .ok summary) :
    (commitAll (target arguments).toTree files t).1.result = .ok summary ∧
      (generateIn arguments t).2 = (commitAll (target arguments).toTree files t).2 := by
  obtain ⟨before, run⟩ := generate_of_finds finds
  rw [run] at done ⊢
  rw [commitTo_eq] at done ⊢
  exact ⟨ok_of_mapError done, rfl⟩

/-- **After a successful run all headers are there**, and the same is found again. -/
theorem present_of_generate (storing : arguments.check = false)
    (finds : Finds arguments t config files) (plain : '/' ∉ config.options.suffix.toList)
    (clear : Clear arguments t files) {summary : CommitSummary}
    (done : (generateIn arguments t).1.result = .ok summary) :
    Finds arguments (generateIn arguments t).2 config files ∧
      ∀ file ∈ files, (target arguments).Present (generateIn arguments t).2 file := by
  obtain ⟨ok, left⟩ := commitAll_of_generate finds done
  have writes : (target arguments).checkOnly = false := storing
  obtain ⟨keeps, present⟩ := DirectoryOutput.commitFrom_store writes (finds.apart plain) rfl ok
  rw [left]
  refine ⟨finds.congr ?_, present⟩
  intro path member
  -- What the command reads lies outside of what it writes, so it is read as before.
  have outside : path.location t.workingDirectory ∉
      files.map ((target arguments).location t) := by
    intro inside
    obtain ⟨file, listed, same⟩ := List.mem_map.mp inside
    exact clear file listed path member same
  obtain ⟨bytes, read⟩ := finds.exists_read path member
  rw [read]
  exact keeps.read_eq outside read

/-! ## Checks -/

/-- **A check changes nothing.** -/
theorem generate_of_check (checking : arguments.check = true) (t : FileTree) :
    (generateIn arguments t).2 = t := by
  rcases finds_or_fails arguments t with ⟨config, files, finds⟩ | ⟨-, same⟩
  · obtain ⟨before, run⟩ := generate_of_finds finds
    have checkOnly : (target arguments).checkOnly = true := checking
    rw [run, commitTo_eq]
    exact (DirectoryOutput.commitFrom_checkOnly checkOnly .zero files t).1
  · exact same

/-- **A check that finds nothing out of date has found all headers.** -/
theorem present_of_check (checking : arguments.check = true) {summary : CommitSummary}
    (done : (generateIn arguments t).1.result = .ok summary) (upToDate : summary.outdated = 0) :
    ∃ config files, Finds arguments t config files ∧
      ∀ file ∈ files, (target arguments).Present t file := by
  rcases finds_or_fails arguments t with ⟨config, files, finds⟩ | ⟨⟨e, failed⟩, -⟩
  · obtain ⟨ok, -⟩ := commitAll_of_generate finds done
    have checkOnly : (target arguments).checkOnly = true := checking
    obtain ⟨-, counted⟩ := DirectoryOutput.commitFrom_checkOnly checkOnly .zero files t
    exact ⟨config, files, finds, (counted summary ok).2 upToDate⟩
  · rw [failed] at done
    cases done

/-- **A check succeeds exactly if all headers are there.** -/
theorem exitCode_of_check (filter : LogFilter) (checking : arguments.check = true) :
    (outcome filter arguments t).1.exitCode = 0 ↔ ∃ config files, Finds arguments t config files ∧
      ∀ file ∈ files, (target arguments).Present t file := by
  constructor
  · intro passed
    obtain ⟨summary, done, upToDate⟩ := (exitCode_eq_zero_iff filter arguments t).mp passed
    exact present_of_check checking done (upToDate checking)
  · rintro ⟨config, files, finds, present⟩
    exact (exitCode_of_present filter finds present).1

/-- **The command converges, and a check is exact.**  A row of arguments runs with a check or without
one, and the word for a check in front of it makes it run with one.  After a run that succeeds, a
check succeeds and another run succeeds, which reports all headers as unchanged; neither changes
anything.  A check never changes anything, and it succeeds exactly if something is found and all
headers of it are there. -/
theorem converges (filter : LogFilter) (arguments : Arguments) (t : FileTree) :
    (∀ setting row, LogFilter.ofSetting setting = some filter →
      Arguments.parse row = .ok (.run arguments) →
        (arguments.check = true → main setting row = outcome filter arguments.checking) ∧
        (arguments.check = false → main setting row = outcome filter arguments.storing ∧
          main setting ("--check" :: row) = outcome filter arguments.checking)) ∧
    (∀ config files, Finds arguments t config files → '/' ∉ config.options.suffix.toList →
      Clear arguments t files → (outcome filter arguments.storing t).1.exitCode = 0 →
        let later := (outcome filter arguments.storing t).2
        ((outcome filter arguments.checking later).1.exitCode = 0 ∧
          (outcome filter arguments.checking later).2 = later) ∧
        ((outcome filter arguments.storing later).1.exitCode = 0 ∧
          (outcome filter arguments.storing later).2 = later) ∧
        ∃ before, generateIn arguments.storing later =
          (⟨before ++ unchangedEvents arguments files, .ok ⟨0, files.length, 0⟩⟩, later)) ∧
    (outcome filter arguments.checking t).2 = t ∧
    ((outcome filter arguments.checking t).1.exitCode = 0 ↔
      ∃ config files, Finds arguments t config files ∧
        ∀ file ∈ files,
          t.read (arguments.output.join file.path) = .ok (Bytes.ofString file.content)) := by
  have unchecked : arguments.storing.check = false := rfl
  have checked : arguments.checking.check = true := rfl
  refine ⟨?_, ?_, ?_, ?_⟩
  · intro setting row understood parsed
    have ran : main setting row = outcome filter arguments := main_eq_outcome understood parsed
    refine ⟨?_, ?_⟩
    · intro asked
      have same : arguments.checking = arguments := by rw [Arguments.checking, ← asked]
      rw [ran, same]
    · intro unasked
      have same : arguments.storing = arguments := by rw [Arguments.storing, ← unasked]
      have parsedCheck := Arguments.parse_checking parsed unasked
      exact ⟨by rw [ran, same], main_eq_outcome understood parsedCheck⟩
  · intro config files finds plain clear passed later
    -- What is found and where it goes depends on the input, the output and the configuration only,
    -- so it is the same with a check and without one.
    have findsFirst : Finds arguments.storing t config files := finds
    obtain ⟨summary, done, -⟩ := (exitCode_eq_zero_iff filter arguments.storing t).mp passed
    obtain ⟨findsLater, present⟩ := present_of_generate unchecked findsFirst plain clear done
    have findsCheck : Finds arguments.checking later config files := findsLater
    have presentCheck : ∀ file ∈ files, (target arguments.checking).Present later file := present
    refine ⟨?_, ?_, ?_⟩
    · exact exitCode_of_present filter findsCheck presentCheck
    · exact exitCode_of_present filter findsLater present
    · exact generate_of_present findsLater present
  · rw [outcome_state]
    exact generate_of_check checked t
  · exact exitCode_of_check filter checked

/-- A struct that can be written. -/
def playerStruct : StructDecl :=
  ⟨"FPlayer", "p", Metadata.empty.flag Key.serialize, [⟨"Name", .empty⟩]⟩

/-- The tree of that struct. -/
def playerTree : DeclarationTree where
  sources := SortedMap.empty.insert "p" ⟨"Source/Player.h"⟩
  scopes := [⟨"Game", false, .container "Game" [.struct playerStruct []]⟩]

/-- A working directory with nothing but the text of the tree in it. -/
def playerGiven : FileTree :=
  (⟨.empty, []⟩ : FileTree).put ["tree.json"] (.file (Bytes.ofString playerTree.toJson.text))

/-- Arguments to read the text and to write beside it. -/
def playerArguments : Arguments := ⟨⟨"tree.json"⟩, ⟨"out"⟩, none, false⟩

/-- The header of the struct. -/
def playerHeader : GeneratedFile :=
  ⟨⟨"Source/Player.h"⟩, ⟨"Player.genjson.h"⟩,
    HeaderOptions.standard.unitText .serialize (SourceUnit.empty.add 0 (.struct playerStruct))⟩

theorem finds_playerHeader : Finds playerArguments playerGiven .standard [playerHeader] := by
  have shallow : Json.nesting playerTree.toJson.text ≤ 127 := by
    rw [Json.nesting_text]
    decide
  have decoded : DeclarationTree.decoder.run (Json.readText playerTree.toJson.text) =
      .ok playerTree := by
    rw [(playerTree.reads.mono (by decide)).run_text, if_pos shallow]
  exact ⟨playerTree, rfl, treeIn_of_text rfl decoded, by decide +kernel⟩

/-- Where the header of a struct is missing, a check fails.  A run stores it, and then a check passes
and another run changes nothing. -/
theorem converges_player :
    let ran := outcome .standard playerArguments.storing playerGiven
    (outcome .standard playerArguments.checking playerGiven).1.exitCode ≠ 0 ∧
      ran.1.exitCode = 0 ∧ (outcome .standard playerArguments.checking ran.2).1.exitCode = 0 ∧
      (outcome .standard playerArguments.storing ran.2).2 = ran.2 := by
  have plain : '/' ∉ Config.standard.options.suffix.toList := by decide
  have clear : Clear playerArguments playerGiven [playerHeader] := by
    unfold Clear
    decide
  have passed : (outcome .standard playerArguments.storing playerGiven).1.exitCode = 0 := by
    have stored : (commitAll (target playerArguments.storing).toTree [playerHeader]
        playerGiven).1.result = .ok ⟨1, 0, 0⟩ := by decide +kernel
    obtain ⟨before, done⟩ := @generate_of_finds playerArguments.storing _ _ _ finds_playerHeader
    refine (exitCode_eq_zero_iff _ _ _).mpr ⟨⟨1, 0, 0⟩, ?_, fun _ => rfl⟩
    rw [done, commitTo_eq, stored]
    rfl
  obtain ⟨-, settles, -, exactly⟩ := converges .standard playerArguments playerGiven
  obtain ⟨checks, repeats, -⟩ := settles _ _ finds_playerHeader plain clear passed
  refine ⟨?_, passed, checks.1, repeats.2⟩
  intro found
  obtain ⟨config, files, finds, present⟩ := exactly.mp found
  obtain ⟨-, rfl⟩ := finds_playerHeader.unique finds
  cases present playerHeader List.mem_cons_self

end Command

end WireHeaders
