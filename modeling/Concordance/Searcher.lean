import Concordance.Index
import Concordance.Pattern.Match
import Concordance.PhraseStyle
import Concordance.Query
import Concordance.Search.Plan
import Concordance.Search.Settings
import Concordance.Search.Source

/-!
# Searching

A search for words is answered from the index alone. A search for a phrase takes from the index the
verses that have all of its words, and scans their texts; a search for a pattern scans all texts. The
other searches combine the answers of these.

## Main definitions

* `Searcher`: an index, a source of texts, settings, and what runs patterns
* `Searcher.runBasic`: the strategies that stand on their own
* `Searcher.combinedSearch`, `Searcher.mixedSearch`: those that combine others
* `Searcher.run`: any search
* `Searcher.search`: a search that is asked for
-/

namespace Concordance

/-- What searches run on. -/
structure Searcher where
  /-- The index. -/
  index : Index
  /-- The texts of verses. -/
  source : Source
  /-- What is set for all searches. -/
  settings : Settings
  /-- What runs patterns. -/
  engine : Engine

namespace Searcher

open Index (Lookup)

/-! ### Scanning texts -/

/-- How texts are rendered for a search. -/
def rendering (s : Searcher) (p : Plan) : Rendering :=
  { s.settings.text with strongs := p.strongs, morph := p.morph, added := p.flags.added }

/-- Whether a pattern matches a text or, with `tryClean`, the text reduced to words and tags. -/
def matchesText (pattern : Pattern) (tryClean : Bool) (text : List Char) : Bool :=
  pattern.isMatch text.toArray
    || (tryClean && pattern.isMatch (Term.cleanText text).toArray)

/-- Whether a verse has a text that a pattern matches. -/
def matchesVerse (s : Searcher) (p : Plan) (pattern : Pattern) (tryClean : Bool) (v : Verse) : Bool :=
  (s.source v).any fun raw => matchesText pattern tryClean ((s.rendering p).render raw)

/-- The verses of a set that have a text that a pattern matches. -/
def scan (s : Searcher) (p : Plan) (pattern : Pattern) (tryClean : Bool) (candidates : VerseSet) :
    VerseSet :=
  .ofList (candidates.toList.filter (s.matchesVerse p pattern tryClean))

/-- Searches for a pattern. Where tags do not take part, texts reduced to words count too. -/
def patternSearch (s : Searcher) (p : Plan) : VerseSet :=
  let style : PhraseStyle := { caseSensitive := p.caseSensitive, isPattern := true }
  s.scan p (style.matcher s.engine p.text).pattern (!p.strongs && !p.morph) (p.range?.getD .full)

/-! ### Phrases -/

/-- What stands between the tags of a phrase that is made of tags of one kind only: no other tag of
that kind. -/
def tagFiller? (p : Plan) : Option (List Char) :=
  if p.strategy ≠ .phrase then none
  else if p.flags.strongs && p.terms.all Term.isStrongs then some "[^<]*".toList
  else if p.flags.morph && p.terms.all Term.isMorph then some "[^\\\x7b]*".toList
  else none

/-- The matcher of a phrase. -/
def phraseMatcher (engine : Engine) (p : Plan) (sloppy : Bool) : Matcher :=
  match tagFiller? p with
  | some filler =>
    .compile engine (!p.caseSensitive) (filler.intercalate (p.termTexts.map Pattern.escape))
  | none =>
    { caseSensitive := p.caseSensitive, sloppy : PhraseStyle }.matcher engine
      ([' '].intercalate p.termTexts)

/-- The verses that may have a phrase: those of all its words, or of any word that matches one of its
terms if there are wildcards. -/
def phraseCandidates (s : Searcher) (p : Plan) : Lookup VerseSet := do
  let terms := p.termTexts
  if terms.any (·.contains '*') then
    return p.restrict
      (← s.index.partialWords s.engine p.caseSensitive s.settings.phraseCommonLimit terms)
  else return p.restrict (← s.index.intersect p.caseSensitive terms)

/-- Searches for a phrase, between the words of which others may stand if `sloppy` is set. -/
def phraseSearch (s : Searcher) (p : Plan) (sloppy : Bool) : Lookup VerseSet := do
  if p.terms.isEmpty then return ∅
  let candidates ← s.phraseCandidates p
  if p.terms.length = 1 || candidates.isEmpty then return candidates
  return s.scan p (phraseMatcher s.engine p sloppy).pattern false candidates

/-! ### Strategies that stand on their own -/

/-- Searches by a strategy that stands on its own; the others find nothing here. -/
def runBasic (s : Searcher) (p : Plan) : Lookup VerseSet := do
  if p.isEmpty then return ∅
  let found ← match p.strategy with
    | .multiword => s.index.intersect p.caseSensitive p.termTexts
    | .anyword => s.index.union p.caseSensitive p.termTexts
    | .eitheror => s.index.symmDiff p.caseSensitive p.termTexts
    | .partialWord =>
      s.index.partialWords s.engine p.caseSensitive s.settings.commonLimit p.termTexts
    | .phrase | .mixedPhrase => s.phraseSearch p false
    | .orderedMultiword => s.phraseSearch p true
    | .regex => return s.patternSearch p
    | .combined | .combinedPhrase | .mixed => return ∅
  return p.finish found

/-! ### Combined searches -/

/-- What a group of a combined query says: whether what it finds is to be kept within what was found
before, and what to search for. -/
structure Group where
  /-- Whether only what was found before is kept. -/
  within : Bool
  /-- What to search for. -/
  phrase : List Char
deriving Repr, DecidableEq

/-- The groups of the phrases of a combined query. A `&` before a phrase, or on its own before the
next one, has the phrase kept within what was found before. -/
def groups (afterSign : Bool) : List (List Char) → List Group
  | [] => []
  | cs :: rest =>
    match Text.trim cs with
    | ['&'] => groups true rest
    | '&' :: cs => ⟨true, Text.trim cs⟩ :: groups false rest
    | cs => ⟨afterSign, cs⟩ :: groups false rest

/-- The plan of the search for a group. A `+` joins words to a phrase. -/
def groupPlan (p : Plan) (phrases : Bool) (g : Group) : Plan :=
  let strategy := if phrases || g.phrase.contains '+' then .phrase else .multiword
  p.derive strategy (g.phrase.map fun c => if c = '+' then ' ' else c)

/-- Searches for groups in turn. What a group finds changes sides: it is added if it was not found
before, and otherwise taken away. -/
def foldGroups (s : Searcher) (p : Plan) (phrases : Bool) (found : VerseSet) :
    List Group → Lookup VerseSet
  | [] => return found
  | g :: gs => do
    let result ← s.runBasic (groupPlan p phrases g)
    let found := if g.within then found ∩ result else found.symmDiff result
    s.foldGroups p phrases found gs

/-- Searches for a combined query over words, or over phrases. -/
def combinedSearch (s : Searcher) (p : Plan) (phrases : Bool) : Lookup VerseSet := do
  let q := Query.parse p.text
  let found ← s.foldGroups p phrases ∅ (groups false (q.included.map Query.Phrase.text))
  let excluded ← s.foldGroups p phrases ∅ (groups false (q.excluded.map Query.Phrase.text))
  return found \ excluded

/-! ### Mixed searches -/

/-- How a term takes part in a mixed search. -/
inductive Role where
  /-- A term without a sign: an alternative, or required if the settings say so. -/
  | plain
  /-- An alternative. -/
  | alternative
  /-- Required. -/
  | required
  /-- What it finds changes sides. -/
  | toggled
  /-- Excluded. -/
  | excluded
deriving Repr, DecidableEq

/-- The role that a sign before a term gives it, and the term without the sign. -/
def roleOf : List Char → Role × List Char
  | '!' :: term => (.excluded, term)
  | '+' :: term => (.required, term)
  | '^' :: term => (.toggled, term)
  | '|' :: term => (.alternative, term)
  | term => (.plain, term)

/-- The plan of the search for a term: for a pattern after `&`, for a phrase if there are spaces,
whose words may be further apart after `~`, for words that match if there are wildcards, and else for
a word. -/
def termPlan (p : Plan) (term : List Char) : Plan :=
  match term with
  | '&' :: source => p.subSearch .regex source
  | term =>
    if term.contains ' ' then
      match term with
      | '~' :: words => p.subSearch .orderedMultiword words
      | _ => p.subSearch .mixedPhrase term
    else if term.contains '*' then p.subSearch .partialWord term
    else p.subSearch .multiword term

/-- What the terms of a mixed search have found, by their roles. -/
structure Sides where
  /-- By terms without a sign. -/
  plain : VerseSet := ∅
  /-- By alternatives. -/
  alternative : VerseSet := ∅
  /-- By all required terms, if there are any. -/
  required? : Option VerseSet := none
  /-- By an odd number of the terms that change sides. -/
  toggled : VerseSet := ∅
  /-- By excluded terms. -/
  excluded : VerseSet := ∅

namespace Sides

/-- One more term, with what it has found. -/
def push (multiwordDefault : Bool) (m : Sides) (role : Role) (result : VerseSet) : Sides :=
  match role with
  | .excluded => { m with excluded := m.excluded ∪ result }
  | .required =>
    { m with required? := some (match m.required? with
      | none => result
      | some found => found ∩ result) }
  | .toggled => { m with toggled := m.toggled.symmDiff result }
  | .alternative => { m with alternative := m.alternative ∪ result }
  | .plain =>
    if multiwordDefault && !m.plain.isEmpty then { m with plain := m.plain ∩ result }
    else { m with plain := m.plain ∪ result }

/-- What the whole search has found. -/
def total (m : Sides) : VerseSet :=
  let found := (m.plain ∪ m.alternative).symmDiff m.toggled
  let found := match m.required? with
    | some required => if required.isEmpty then found else (found ∩ required) ∪ required
    | none => found
  found \ m.excluded

end Sides

/-- Searches for the terms of a mixed search in turn. -/
def foldTerms (s : Searcher) (p : Plan) (m : Sides) : List (List Char) → Lookup Sides
  | [] => return m
  | t :: ts => do
    let (role, term) := roleOf t
    let result ← s.runBasic (termPlan p term)
    s.foldTerms p (m.push s.settings.multiwordDefault role result) ts

/-- Searches for terms with signs. -/
def mixedSearch (s : Searcher) (p : Plan) : Lookup VerseSet := do
  return (← s.foldTerms p {} p.rawTerms).total

/-! ### All strategies -/

/-- Searches by any strategy. -/
def run (s : Searcher) (p : Plan) : Lookup VerseSet := do
  if p.isEmpty then return ∅
  match p.strategy with
  | .combined => s.combinedSearch p false
  | .combinedPhrase => s.combinedSearch p true
  | .mixed => s.mixedSearch p
  | _ => s.runBasic p

/-- Runs a search that is asked for. -/
def search (s : Searcher) (r : Request) : Lookup VerseSet :=
  s.run (.ofTerms r.strategy (r.terms.map String.toList) r.flags)

/-- The rendered text of a verse, if it has one. -/
def text? (s : Searcher) (r : Rendering) (v : Verse) : Option (List Char) := (s.source v).map r.render

end Searcher

end Concordance
