import Concordance.Passage.Expression
import Concordance.Search.Request
import Concordance.Term

/-!
# Plans of searches

A search is planned before it runs. The terms are trimmed and joined, the range is read, and the query
is brought into the form that its strategy needs.

## Main definitions

* `Plan`: a search that is ready to run
* `Plan.ofTerms`: the plan of a search
* `Plan.subSearch`, `Plan.derive`: plans of searches that are parts of another
* `Plan.finish`: applies the range to what has been found, if that is still to be done
-/

namespace Concordance

/-- A search that is ready to run. -/
structure Plan where
  /-- How the terms are combined. -/
  strategy : Strategy
  /-- The terms as they were given, without blanks at their ends and without empty ones. -/
  rawTerms : List (List Char)
  /-- The query as one text. -/
  text : List Char
  /-- The terms of the query. -/
  terms : List Term
  /-- What holds for every strategy. -/
  flags : Flags
  /-- The verses to which the search is limited. -/
  range? : Option VerseSet

namespace Plan

/-- The verses to which flags limit a search; a blank range is no limit. -/
def rangeOf? (flags : Flags) : Option VerseSet :=
  match flags.range? with
  | none => none
  | some range =>
    let range := Text.trim range.toList
    if range.isEmpty then none else some (.parse (String.ofList range))

/-- The plan of a search whose range has been read. -/
def withRange (strategy : Strategy) (terms : List (List Char)) (flags : Flags)
    (range? : Option VerseSet) : Plan :=
  let rawTerms := (terms.map Text.trim).filter (!·.isEmpty)
  let joined := [' '].intercalate rawTerms
  let joined := if strategy.canonicalizesTags then Term.canonicalTags joined else joined
  if strategy.cleansWords then
    let text := Term.cleanText joined
    ⟨strategy, rawTerms, text, (Term.parseAll text).map (Term.foldCase flags.caseSensitive), flags,
      range?⟩
  else ⟨strategy, rawTerms, joined, Term.parseAll joined, flags, range?⟩

/-- The plan of a search. -/
def ofTerms (strategy : Strategy) (terms : List (List Char)) (flags : Flags) : Plan :=
  withRange strategy terms flags (rangeOf? flags)

/-- The texts of the terms. -/
def termTexts (p : Plan) : List (List Char) := p.terms.map Term.text

/-- Whether case counts. -/
def caseSensitive (p : Plan) : Bool := p.flags.caseSensitive

/-- Whether Strong's numbers take part, by a flag or because the query mentions one. -/
def strongs (p : Plan) : Bool := p.flags.strongs || Term.mentionsStrongs p.text

/-- Whether morphology tags take part, by a flag or because the query mentions one. -/
def morph (p : Plan) : Bool := p.flags.morph || Term.mentionsMorph p.text

/-- Whether no terms are left. -/
def isEmpty (p : Plan) : Bool := p.rawTerms.isEmpty

/-- Whether a verse is within the range. -/
def inRange (p : Plan) (v : Verse) : Bool :=
  match p.range? with
  | none => true
  | some range => decide (v ∈ range)

/-- The verses of a set that are within the range. -/
def restrict (p : Plan) (s : VerseSet) : VerseSet :=
  match p.range? with
  | none => s
  | some range => s ∩ range

/-- The plan of a search for one term, which alone decides whether tags take part. -/
def subSearch (p : Plan) (strategy : Strategy) (term : List Char) : Plan :=
  withRange strategy [term]
    { p.flags with strongs := Term.mentionsStrongs term, morph := Term.mentionsMorph term } p.range?

/-- The plan of another search with the same flags and range. -/
def derive (p : Plan) (strategy : Strategy) (term : List Char) : Plan :=
  withRange strategy [term] p.flags p.range?

/-- What a search has found, within the range if the strategy has not seen to that. -/
def finish (p : Plan) (found : VerseSet) : VerseSet :=
  if p.strategy.restrictsAfter then p.restrict found else found

end Plan

end Concordance
