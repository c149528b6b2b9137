import WireHeaders.Header.Generate

/-!
# Committing generated headers

A row of headers is handed to an output one after the other, up to the first failure.

## Main definitions

* `Output` — what an output does with one file, in any monad
* `commitAll` — all files, with a summary
* `run` — a whole pass over a tree
* `Store` and `Store.output` — an output in memory

## Design notes

An output stores a file only if its content differs from what is there, so a pass over an unchanged
tree touches nothing.
-/

namespace WireHeaders

abbrev CommitOutcome := Logged GenerationError CommitStatus

/-- **What an output does with one file.**  The monad is that of the place where headers are kept,
so one loop serves the machine, a file tree and a store in memory. -/
abbrev Output (m : Type → Type) := GeneratedFile → m CommitOutcome

section

variable {m : Type → Type} [Monad m]

/-- Commits a row of files behind those of a summary.  The summary is told when the last one is
committed, so a row that fails ends without one. -/
def commitFrom (output : Output m) (summary : CommitSummary) :
    List GeneratedFile → m (Logged GenerationError CommitSummary)
  | [] => return (do Logged.log (.committed summary); return summary)
  | file :: files => do
    let outcome ← output file
    outcome.andThen fun status => commitFrom output (summary.record status) files

/-- **Commits a row of files**, in order and up to the first failure.  What was committed before
that stays committed. -/
def commitAll (output : Output m) (files : List GeneratedFile) :
    m (Logged GenerationError CommitSummary) :=
  commitFrom output .zero files

/-- The headers of a tree, of the scopes that `discover` searches.  What is wrong with a tree is
found here, before anything is committed. -/
def headersOf (origin : Origin) (options : HeaderOptions) (tree : DeclarationTree)
    (discover : DeclarationTree → Logged GenerationError Units) :
    Logged GenerationError (List GeneratedFile) := do
  Logged.log (.started origin)
  let units ← discover tree
  options.generate .serialize units

/-- **A whole pass** over the scopes of the user.  All headers are made before the first one is
committed, so a pass that cannot make one of them changes nothing. -/
def run (output : Output m) (options : HeaderOptions) (tree : DeclarationTree) :
    m (Logged GenerationError CommitSummary) :=
  (headersOf .library options tree DeclarationTree.discover).andThen (commitAll output)

end

/-- **Headers in memory**, by output path.  Paths with the same components are one entry. -/
abbrev Store := SortedMap Path String

/-- **The output to a store.**  It never fails, and it tells nothing of single files. -/
def Store.output : Output (StateM Store) := fun file store =>
  if store.get? file.path = some file.content then (pure .unchanged, store)
  else (pure .written, store.insert file.path file.content)

end WireHeaders
