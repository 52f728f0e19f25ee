import Concordance.Canon
import Concordance.Text.Blank
import Concordance.Text.EditDistance
import Concordance.Text.LetterCase

/-!
# Book names as they are written

References are written with full names, abbreviations, beginnings of either, Arabic numerals for
Roman ones, and misspellings. Every name resolves to a book: to the first book of the canon in case
of doubt.

## Main definitions

* `resolveBook`: the index of the book that a written name means
-/

namespace Concordance

/-- The spellings of a book that names are compared with. -/
structure BookSpelling where
  /-- The name in lower case. -/
  name : List Char
  /-- The abbreviation in lower case. -/
  abbreviation : List Char

/-- The spellings of all books, in order. -/
def bookSpellings : List BookSpelling :=
  canon.map fun b => ⟨Text.lower b.name.toList, Text.lower b.abbreviation.toList⟩

/-- A numeral from one to three at the head of a name, as the Roman numeral that book names have. -/
def romanNumeral : List Char → List Char
  | '1' :: rest => 'i' :: ' ' :: Text.trimStart rest
  | '2' :: rest => 'i' :: 'i' :: ' ' :: Text.trimStart rest
  | '3' :: rest => 'i' :: 'i' :: 'i' :: ' ' :: Text.trimStart rest
  | cs => cs

/-- The closer of the candidates, the earlier one if both are as close. -/
def closerBook (best : Option (Nat × Text.Similarity)) (candidate : Nat × Text.Similarity) :
    Option (Nat × Text.Similarity) :=
  if !candidate.2.isClose then best
  else match best with
    | none => some candidate
    | some b => if candidate.2.isCloserThan b.2 then some candidate else best

/-- The book with the most similar name or abbreviation, if one is similar enough. -/
def closestBook? (name : List Char) : Option Nat :=
  let candidates := bookSpellings.zipIdx.flatMap fun (s, i) =>
    [(i, Text.similarity name s.name), (i, Text.similarity name s.abbreviation)]
  (candidates.foldl closerBook none).map Prod.fst

/-- The index of the book that a written name means. A book whose name or abbreviation begins as
written comes first, in the order of the canon; then one whose abbreviation begins the written name;
then the most similar name; and then the first book. -/
def resolveBook (written : List Char) : Nat :=
  let lowered := Text.lower (Text.trim written)
  let compact := lowered.filter fun c => !Text.isBlank c
  let name := romanNumeral lowered
  let begins? := bookSpellings.findIdx? fun s =>
    name.isPrefixOf s.name || compact.isPrefixOf s.abbreviation
  let extends? :=
    if compact.isEmpty then none
    else bookSpellings.findIdx? fun s => s.abbreviation.isPrefixOf compact
  (begins? <|> extends? <|> closestBook? name).getD 0

end Concordance
