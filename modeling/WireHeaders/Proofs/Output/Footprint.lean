import WireHeaders.Proofs.Files.Additions
import WireHeaders.Proofs.Output.InDirectory

/-!
# What a commit touches

A header that is committed to a directory touches its own file and makes directories above it, and a row
of headers that fails leaves what the headers before the failure have left.

## Main definitions

* `leftBy` — the state that a row of headers leaves, committed one after the other
* `DirectoryOutput.Footprint` — **what may differ behind one commit**, by its result

## Main statements

* `exists_failed_of_commitFrom` — **a row fails at one of its headers**, and no later one is committed
* `DirectoryOutput.footprint_toTree` — a commit stays within its footprint
* `DirectoryOutput.commitAll_footprint` — **a commit touches its own file only**, and a row that fails
  leaves the files that the headers before the failure have left
-/

namespace WireHeaders

/-! ## Rows that fail -/

section

variable {σ : Type} {output : Output (StateM σ)} {files : List GeneratedFile}
  {summary : CommitSummary} {s : σ} {e : GenerationError}

/-- **The state that a row of headers leaves**, committed one after the other. -/
def leftBy (output : Output (StateM σ)) (files : List GeneratedFile) (s : σ) : σ :=
  files.foldl (fun s file => (output file s).2) s

/-- **A row fails at one of its headers.**  The headers before it are committed, and what it leaves is
left in the end. -/
theorem exists_failed_of_commitFrom
    (failed : (commitFrom output summary files s).1.result = .error e) :
    ∃ before file after, files = before ++ file :: after ∧
      (∃ total, (commitFrom output summary before s).1.result = .ok total) ∧
      (commitFrom output summary before s).2 = leftBy output before s ∧
      (output file (leftBy output before s)).1.result = .error e ∧
      (commitFrom output summary files s).2 = (output file (leftBy output before s)).2 := by
  induction files generalizing summary s with
  | nil => cases failed
  | cons file files ih =>
      rw [commitFrom_cons] at failed ⊢
      cases done : (output file s).1.result with
      | error e' =>
          rw [Logged.andThen_apply_error done] at failed ⊢
          cases failed
          exact ⟨[], file, files, rfl, ⟨summary, rfl⟩, rfl, done, rfl⟩
      | ok status =>
          rw [Logged.andThen_apply_ok done] at failed ⊢
          obtain ⟨before, last, after, split, ⟨total, succeeded⟩, left, stopped, ended⟩ := ih failed
          refine ⟨file :: before, last, after, by rw [split]; rfl, ⟨total, ?_⟩, ?_, stopped, ended⟩
          · rw [commitFrom_cons, Logged.andThen_apply_ok done]
            exact succeeded
          · rw [commitFrom_cons, Logged.andThen_apply_ok done]
            exact left

end

namespace DirectoryOutput

variable {output : DirectoryOutput} {t t' : FileTree} {file : GeneratedFile}

/-! ## One header -/

/-- **What may differ behind one commit**, by its result. -/
structure Footprint (output : DirectoryOutput) (file : GeneratedFile) (t t' : FileTree)
    (result : Except GenerationError CommitStatus) : Prop where
  /-- A header that is only compared leaves everything as it was. -/
  compared : ∀ status, result = .ok status → status ≠ .written → t' = t
  /-- A header that is stored is read at its place, where no directory was.  Everything else is as it
  was, but for new directories above the place. -/
  written : result = .ok .written →
    t'.read (output.place file) = .ok (Bytes.ofString file.content) ∧
    t.at? (output.location t file) ≠ some .directory ∧
    t.Adds t' (output.place file).above [output.location t file]
  /-- A header that fails leaves the files as they were, and everything else but for new directories
  above its place. -/
  failed : ∀ e, result = .error e →
    t.SameFiles t' ∧ t.Adds t' (output.place file).above []

/-- A header that leaves everything as it was. -/
theorem Footprint.of_same {result : Except GenerationError CommitStatus}
    (notWritten : result ≠ .ok .written) : output.Footprint file t t result where
  compared _ _ _ := rfl
  written stored := absurd stored notWritten
  failed _ _ := ⟨fun _ _ => Iff.rfl, .refl t _ _⟩

/-- **A header that is stored stays within its footprint.** -/
theorem footprint_store (output : DirectoryOutput) (file : GeneratedFile) (t : FileTree) :
    let stored := (store (output.place file) (Bytes.ofString file.content) :
      StateM FileTree CommitOutcome) t
    output.Footprint file t stored.2 stored.1.result := by
  intro stored
  obtain ⟨between, built, ended⟩ :=
    store_cases (output.place file) (Bytes.ofString file.content) t
  have adds := built.adds
  rcases ended with ⟨e, failed⟩ | ⟨last, written, ended⟩
  · rw [show stored = _ from failed]
    refine ⟨?_, ?_, ?_⟩
    · intro status ok
      cases ok
    · intro ok
      cases ok
    · exact fun _ _ => ⟨adds.sameFiles, adds⟩
  · rw [show stored = _ from ended]
    refine ⟨?_, ?_, ?_⟩
    · intro status ok notWritten
      cases ok
      exact absurd rfl notWritten
    · intro _
      have addsFile := FileTree.adds_write (output.place file).above written
      rw [adds.workingDirectory_eq] at addsFile
      exact ⟨FileTree.read_write written, adds.not_directory_of_write written,
        (adds.mono (List.nil_subset _)).trans addsFile⟩
    · intro e failed
      cases failed

/-- **A commit stays within its footprint.** -/
theorem footprint_toTree (output : DirectoryOutput) (file : GeneratedFile) (t : FileTree) :
    output.Footprint file t (output.toTree file t).2 (output.toTree file t).1.result := by
  have replaced : output.Footprint file t (output.replace file t).2
      (output.replace file t).1.result := by
    unfold replace
    split
    · exact .of_same nofun
    · exact footprint_store output file t
  rw [toTree_eq]
  split
  · split
    · exact .of_same nofun
    · exact replaced
  · exact replaced
  · exact .of_same nofun

/-! ## A row of headers -/

/-- **A commit touches its own file only, and a row that fails leaves what was left before the
failure.**  The headers before the one that fails are committed, and those behind it are not.  The one
that fails leaves all files as it found them, and new directories above its place at most. -/
theorem commitAll_footprint (output : DirectoryOutput) (t : FileTree) :
    (∀ file, output.Footprint file t (output.toTree file t).2 (output.toTree file t).1.result) ∧
    ∀ files e, (commitAll output.toTree files t).1.result = .error e →
      ∃ before file after, files = before ++ file :: after ∧
        (∃ total, (commitAll output.toTree before t).1.result = .ok total) ∧
        (commitAll output.toTree before t).2 = leftBy output.toTree before t ∧
        (output.toTree file (leftBy output.toTree before t)).1.result = .error e ∧
        (leftBy output.toTree before t).SameFiles (commitAll output.toTree files t).2 ∧
        (leftBy output.toTree before t).Adds (commitAll output.toTree files t).2
          (output.place file).above [] := by
  refine ⟨fun file => footprint_toTree output file t, ?_⟩
  intro files e failed
  obtain ⟨before, file, after, split, succeeded, left, stopped, ended⟩ :=
    exists_failed_of_commitFrom failed
  have footprint := footprint_toTree output file (leftBy output.toTree before t)
  obtain ⟨sameFiles, adds⟩ := footprint.failed e stopped
  rw [← ended] at sameFiles adds
  exact ⟨before, file, after, split, succeeded, left, stopped, sameFiles, adds⟩

/-- A header that can be stored. -/
def plainHeader : GeneratedFile := ⟨⟨"Source/A.h"⟩, ⟨"A.genjson.h"⟩, "text"⟩

/-- A header whose path asks for a directory. -/
def slashHeader : GeneratedFile := ⟨⟨"Source/B.h"⟩, ⟨"B/"⟩, "text"⟩

/-- A header that is stored is read at its place, and its file stays when the next one fails. -/
theorem commitAll_footprint_halfway :
    let output : DirectoryOutput := ⟨⟨"out"⟩, false⟩
    let first := output.toTree plainHeader ⟨.empty, []⟩
    let row := commitAll output.toTree [plainHeader, slashHeader] ⟨.empty, []⟩
    first.1.result = .ok .written ∧
      first.2.read (output.place plainHeader) = .ok (Bytes.ofString "text") ∧
      row.1.result = .error (.commit ⟨"out/B/"⟩ .isDirectory) ∧ first.2.SameFiles row.2 := by
  intro output first row
  obtain ⟨single, rows⟩ := commitAll_footprint output ⟨.empty, []⟩
  have written : (output.toTree plainHeader ⟨.empty, []⟩).1.result = .ok .written := by
    decide +kernel
  have failed : row.1.result = .error (.commit ⟨"out/B/"⟩ .isDirectory) := by decide +kernel
  refine ⟨written, ((single plainHeader).written written).1, failed, ?_⟩
  obtain ⟨before, file, after, split, -, -, stopped, sameFiles, -⟩ := rows _ _ failed
  -- The first header is stored, so the row fails at the second one.
  match before, split with
  | [], split =>
      obtain ⟨rfl, -⟩ := List.cons.inj split
      rw [leftBy, List.foldl_nil, written] at stopped
      cases stopped
  | [last], split =>
      obtain ⟨rfl, -⟩ := List.cons.inj split
      exact sameFiles
  | _ :: _ :: before, split =>
      have lengths := congrArg List.length split
      simp at lengths

-- A directory may be new behind a failure: it is made before the slash is found behind a missing name.
example :
    let committed := toTree ⟨⟨"out"⟩, false⟩ ⟨⟨"Source/A.h"⟩, ⟨"A/"⟩, "text"⟩ ⟨.empty, []⟩
    committed.1.result = .error (.commit ⟨"out/A/"⟩ .isDirectory) ∧
      committed.2.at? ["out"] = some .directory := by
  decide +kernel

end DirectoryOutput

end WireHeaders
