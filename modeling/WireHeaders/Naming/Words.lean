import WireHeaders.Text.Casing
import WireHeaders.Text.Cluster

/-!
# The words of an identifier

An identifier is cut into words at separators and at changes between capitals, small letters and
digits: `HTTPServer_id2` has the words `HTTP`, `Server`, `id` and `2`.

## Main definitions

* `Words.IsSeparator` — the clusters that stand between words and belong to none
* `Words.Begins` — whether a word begins at a cluster, seen with both its neighbours
* `words` — the words of an identifier, in order

## Design notes

Cutting works on grapheme clusters, so a mark never separates from its letter and an underscore
that carries a mark is no separator.
-/

namespace WireHeaders

namespace Words

abbrev Cluster := List Char

/-- **The clusters that separate words**: an underscore, a hyphen or a space without marks. -/
def IsSeparator (g : Cluster) : Prop := g = ['_'] ∨ g = ['-'] ∨ g = [' ']

instance (g : Cluster) : Decidable (IsSeparator g) := inferInstanceAs (Decidable (_ ∨ _))

def IsNumeric (g : Cluster) : Prop := ∀ c ∈ g, c.isDigit

instance (g : Cluster) : Decidable (IsNumeric g) := List.decidableBAll _ g

open Casing (IsUpper IsLower)

/-- **Whether a word begins at `g`**, between the cluster before it and the one after it: at a
change between small letters, capitals and digits, and at the last capital of a row of capitals
that a small letter follows. -/
def Begins (before g : Cluster) (after : Option Cluster) : Prop :=
  (IsLower before ∧ IsUpper g) ∨
  (IsUpper before ∧ IsNumeric g) ∨
  (IsNumeric before ∧ IsUpper g) ∨
  (IsNumeric before ∧ IsLower g) ∨
  (IsLower before ∧ IsNumeric g) ∨
  (IsUpper before ∧ IsUpper g ∧ ∃ h ∈ after, IsLower h)

instance (before g : Cluster) (after : Option Cluster) : Decidable (Begins before g after) :=
  inferInstanceAs (Decidable (_ ∨ _ ∨ _ ∨ _ ∨ _ ∨ (_ ∧ _ ∧ _)))

/-- The rest of an open word and the words after it, behind the cluster `before`. -/
def collect (before : Cluster) (word : List Char) : List Cluster → List (List Char)
  | [] => [word]
  | g :: rest =>
    if IsSeparator g then word :: collect g [] rest
    else if Begins before g rest.head? then word :: collect g g rest
    else collect g (word ++ g) rest

/-- The words of a row of clusters, with empty words where separators meet. -/
def ofClusters : List Cluster → List (List Char)
  | [] => []
  | g :: rest => if IsSeparator g then collect g [] rest else collect g g rest

end Words

/-- **The words of an identifier**, in order and none of them empty.  Separators are in no word,
and all other clusters are in one. -/
def words (name : List Char) : List (List Char) :=
  (Words.ofClusters (Cluster.clusters name)).filter (fun w => !w.isEmpty)

/-- No word is empty. -/
theorem ne_nil_of_mem_words {name w : List Char} (h : w ∈ words name) : w ≠ [] := by
  simp only [words, List.mem_filter] at h
  intro hw
  simp [hw] at h

end WireHeaders
