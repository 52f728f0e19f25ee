import Concordance.Error
import Concordance.Json
import Concordance.Text.Blank
import Concordance.Text.LetterCase

/-!
# Search strategies

A strategy says how the terms of a search are combined.

## Main definitions

* `Strategy`: the strategies
* `Strategy.name`, `Strategy.ofName`: their names
* `Strategy.canonicalizesTags`, `Strategy.cleansWords`, `Strategy.restrictsAfter`: how a strategy
  prepares its query, and when it applies a range
-/

namespace Concordance

/-- How the terms of a search are combined. -/
inductive Strategy where
  /-- All terms, in any order. -/
  | multiword
  /-- Any of the terms. -/
  | anyword
  /-- One of two terms and not both, or an odd number of more terms. -/
  | eitheror
  /-- Words that match terms with wildcards. -/
  | partialWord
  /-- The terms next to each other and in order. -/
  | phrase
  /-- The terms in order, perhaps with other words between them. -/
  | orderedMultiword
  /-- A phrase of words and tags. -/
  | mixedPhrase
  /-- A pattern for the text. -/
  | regex
  /-- A combined query over words. -/
  | combined
  /-- A combined query over phrases. -/
  | combinedPhrase
  /-- Terms with signs that say how each takes part. -/
  | mixed
deriving Repr, DecidableEq

namespace Strategy

/-- All strategies. -/
def all : List Strategy :=
  [multiword, anyword, eitheror, partialWord, phrase, orderedMultiword, mixedPhrase, regex, combined,
    combinedPhrase, mixed]

/-- The name. -/
def name : Strategy → String
  | multiword => "multiword"
  | anyword => "anyword"
  | eitheror => "eitheror"
  | partialWord => "partial_word"
  | phrase => "phrase"
  | orderedMultiword => "ordered_multiword"
  | mixedPhrase => "mixed_phrase"
  | regex => "regex"
  | combined => "combined"
  | combinedPhrase => "combined_phrase"
  | mixed => "mixed"

instance : ToString Strategy := ⟨name⟩

/-- The strategy with exactly this name. -/
def ofExactName? (s : String) : Option Strategy := all.find? fun t => t.name == s

/-- The strategy of a name in any case, perhaps with blanks around it. -/
def ofName (s : String) : Except Error Strategy :=
  match ofExactName? (String.ofList (Text.lower (Text.trim s.toList))) with
  | some t => .ok t
  | none => .error (.unknownStrategy s)

/-- The name as a JSON value. -/
def toJson (s : Strategy) : Json := .ofString s.name

/-- The strategy that a JSON value names, which may have a member without content for the name. -/
def ofJson? : Json → Option Strategy
  | .string text? => text?.bind ofExactName?
  | .object [(key?, .null)] => key?.bind ofExactName?
  | _ => none

/-- Whether tags in the query are put into their one form. Strategies that pass terms on to other
searches leave that to them. -/
def canonicalizesTags : Strategy → Bool
  | multiword | anyword | eitheror | phrase | orderedMultiword | mixedPhrase => true
  | partialWord | regex | combined | combinedPhrase | mixed => false

/-- Whether the query is reduced to words and tags. -/
def cleansWords : Strategy → Bool
  | multiword | anyword | eitheror | phrase | orderedMultiword | mixedPhrase => true
  | partialWord | regex | combined | combinedPhrase | mixed => false

/-- Whether a range is applied to what has been found, and does not limit the search itself. -/
def restrictsAfter : Strategy → Bool
  | multiword | anyword | eitheror | partialWord => true
  | phrase | orderedMultiword | mixedPhrase | regex | combined | combinedPhrase | mixed => false

theorem ofExactName?_name (s : Strategy) : ofExactName? s.name = some s := by
  cases s <;> decide

end Strategy

end Concordance
