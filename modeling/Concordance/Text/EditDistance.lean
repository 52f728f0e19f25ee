/-!
# Edit distance

The least number of insertions, deletions and substitutions of single elements that turn one list
into another, computed row by row, and the comparison of spellings by it.

## Main definitions

* `Text.editDistance`: the distance between two lists
* `Text.Similarity`: distances in proportion to the longer length, compared exactly
-/

namespace Concordance

namespace Text

variable {α : Type} [BEq α]

/-- The rest of a row: `diag` and the heads of the row above stand above to the left and right above
each cell, `left` is the cell before it. -/
def editCells (a : α) (diag left : Nat) : List α → List Nat → List Nat
  | b :: bs, above :: row =>
    let cell := min (min (left + 1) (above + 1)) (if b == a then diag else diag + 1)
    cell :: editCells a above cell bs row
  | _, _ => []

/-- The distances from the list so far, and one more element `a`, to every prefix of `bs`, given
those without it. -/
def editRow (bs : List α) (row : List Nat) (a : α) : List Nat :=
  match row with
  | [] => []
  | first :: row => (first + 1) :: editCells a first (first + 1) bs row

/-- The least number of insertions, deletions and substitutions that turn `as` into `bs`. -/
def editDistance (as bs : List α) : Nat :=
  ((as.foldl (editRow bs) (List.range (bs.length + 1))).getLast?).getD 0

/-- How far apart two spellings are: `distance` edits, of at most `length`. -/
structure Similarity where
  /-- The edit distance. -/
  distance : Nat
  /-- The length of the longer spelling. -/
  length : Nat
deriving Repr, DecidableEq

/-- How far apart two spellings are. -/
def similarity (as bs : List α) : Similarity :=
  ⟨editDistance as bs, max as.length bs.length⟩

namespace Similarity

/-- Whether at most two fifths of the longer spelling are edits. -/
def isClose (s : Similarity) : Bool := 5 * s.distance ≤ 2 * s.length

/-- Whether `s` has a smaller share of edits than `t`. -/
def isCloserThan (s t : Similarity) : Bool := s.distance * t.length < t.distance * s.length

end Similarity

end Text

end Concordance
