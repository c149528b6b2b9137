/-!
# What became of generated files

## Main definitions

* `CommitStatus` — what became of one file
* `CommitSummary` — how many files there are of each status
* `CommitSummary.record` — one more file
-/

namespace WireHeaders

/-- **What became of a file.**  One that differs was written or is outdated, by whether the pass
stores headers or only compares them. -/
inductive CommitStatus where
  /-- New or changed content was stored. -/
  | written
  /-- The content was there already. -/
  | unchanged
  /-- The content differs, but nothing was to be stored. -/
  | outdated
  deriving DecidableEq, Repr

/-- **How many files there are of each status.**  Together they are all files
that were committed. -/
structure CommitSummary where
  written : Nat
  unchanged : Nat
  outdated : Nat
  deriving DecidableEq, Repr

namespace CommitSummary

def zero : CommitSummary := ⟨0, 0, 0⟩

/-- One more file. -/
def record (s : CommitSummary) : CommitStatus → CommitSummary
  | .written => { s with written := s.written + 1 }
  | .unchanged => { s with unchanged := s.unchanged + 1 }
  | .outdated => { s with outdated := s.outdated + 1 }

def total (s : CommitSummary) : Nat := s.written + s.unchanged + s.outdated

end CommitSummary

end WireHeaders
