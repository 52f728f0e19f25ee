import Concordance.Storage
import Concordance.Verse

/-!
# Sources of texts

Searches that scan texts take them from a source: the records of an index, or texts that are given
directly.

## Main definitions

* `Source`: the texts of verses
* `Source.ofStorage`: the texts in the records of an index
* `PlainTexts`: texts that are given directly
-/

namespace Concordance

/-- The texts of verses, as far as there are any. -/
abbrev Source := Verse → Option (List Char)

/-- The texts in the records of an index, under the references of verses. -/
def Source.ofStorage (s : Storage) : Source := fun v =>
  (s.value? Json.text? v.reference).map String.toList

/-- Texts that are given directly. -/
structure PlainTexts where
  /-- The text of every verse. -/
  texts : Std.TreeMap Verse (List Char) := ∅

namespace PlainTexts

/-- The texts of a list; of several for one verse the last counts. -/
def ofList (entries : List (Verse × List Char)) : PlainTexts :=
  ⟨entries.foldl (fun m (v, text) => m.insert v text) ∅⟩

/-- How many verses have a text. -/
def size (p : PlainTexts) : Nat := p.texts.size

/-- Whether no verse has a text. -/
def isEmpty (p : PlainTexts) : Bool := p.size == 0

/-- The texts as a source. -/
def source (p : PlainTexts) : Source := fun v => p.texts[v]?

end PlainTexts

end Concordance
