import Concordance.Index.Builder
import Concordance.Index.Wildcard
import Concordance.Storage
import Concordance.Term
import Concordance.Verse.Mention

/-!
# Looking up an index

An index answers which verses a term stands in. What has been looked up once is kept, so that no record
is read twice. Records that are missing, cannot be read or hold something else are records of no verses.

## Main definitions

* `Index`: an index over open records
* `Index.Cache`, `Index.Lookup`: what has been looked up, and a computation that looks things up
* `Index.postings`: the verses under a key, straight from the records
* `Index.get`, `Index.expanded`: the verses of a term, and those of all its spellings
* `Index.union`, `Index.intersect`, `Index.symmDiff`, `Index.partialWords`: the verses of several terms
-/

namespace Concordance

/-- An index over open records. -/
structure Index where
  /-- The records. -/
  storage : Storage
  /-- The spellings of words in lower case. -/
  spellings : Std.TreeMap String (List String)

namespace Index

/-! ### Decoding records -/

/-- The verses that a JSON value lists. -/
def versesOf? (j : Json) : Option (List Verse) := (j.texts?).map fun ts => ts.map Verse.parse

/-- The lists of strings that a JSON value holds under keys; of several with one key the last
counts. -/
def spellingsOf? : Json → Option (Std.TreeMap String (List String))
  | .object members => members.foldlM (fun m (key?, j) =>
      match key?, j.texts? with
      | some key, some ws => some (m.insert key ws)
      | _, _ => none) ∅
  | _ => none

/-- The index over open records. -/
def ofStorage (s : Storage) : Index := ⟨s, (s.value? spellingsOf? lowerCaseKey).getD ∅⟩

/-- The verses under a key. -/
def postings (ix : Index) (key : String) : VerseSet :=
  .ofList ((ix.storage.value? versesOf? key).getD [])

/-- The strings under a key. -/
def listed (ix : Index) (key : String) : List String :=
  (ix.storage.value? Json.texts? key).getD []

/-- All words, in every spelling. -/
def vocabulary (ix : Index) : List String := ix.listed wordsKey

/-- All Strong's numbers. -/
def strongsVocabulary (ix : Index) : List String := ix.listed strongsKey

/-- All morphology tags. -/
def morphVocabulary (ix : Index) : List String := ix.listed morphKey

/-- The other spellings of a word in lower case. -/
def variants (ix : Index) (word : String) : List String := ix.spellings[word]?.getD []

/-! ### Looking up terms -/

/-- What has been looked up. -/
structure Cache where
  /-- The verses under keys. -/
  postings : Std.TreeMap String VerseSet := ∅
  /-- The lists of words and tags under their keys. -/
  lists : Std.TreeMap String (List String) := ∅

namespace Cache

instance : EmptyCollection Cache := ⟨{}⟩

/-- The verses under the key have been looked up. -/
instance : Membership String Cache := ⟨fun cache key => key ∈ cache.postings⟩

/-- The keys whose verses have been looked up, in order. -/
def keys (cache : Cache) : List String := cache.postings.keys

end Cache

/-- A computation that looks things up. -/
abbrev Lookup := StateM Cache

/-- The verses under a key. -/
def fetch (ix : Index) (key : String) : Lookup VerseSet := do
  match (← get).postings[key]? with
  | some s => return s
  | none =>
    let s := ix.postings key
    modify fun cache => { cache with postings := cache.postings.insert key s }
    return s

/-- The strings under the key of a list. -/
def fetchList (ix : Index) (key : String) : Lookup (List String) := do
  match (← get).lists[key]? with
  | some ws => return ws
  | none =>
    let ws := ix.listed key
    modify fun cache => { cache with lists := cache.lists.insert key ws }
    return ws

/-- The verses of a term as it is spelled. -/
def get (ix : Index) (term : List Char) : Lookup VerseSet :=
  ix.fetch (String.ofList (Term.normalizeKey term))

/-- The union of the verses of terms as they are spelled. -/
def getAll (ix : Index) : List (List Char) → Lookup VerseSet
  | [] => return ∅
  | t :: ts => return (← ix.get t) ∪ (← ix.getAll ts)

/-- The spellings of a term that a search looks up. -/
def forms (ix : Index) (caseSensitive : Bool) (term : List Char) : List (List Char) :=
  if caseSensitive then [term]
  else
    let lower := Text.lower (Term.normalizeKey term)
    term :: lower :: (ix.variants (String.ofList lower)).map String.toList

/-- The verses of a term, in all its spellings if case does not count. -/
def expanded (ix : Index) (caseSensitive : Bool) (term : List Char) : Lookup VerseSet :=
  ix.getAll (ix.forms caseSensitive term)

/-- The verses of any of the terms. -/
def union (ix : Index) (caseSensitive : Bool) : List (List Char) → Lookup VerseSet
  | [] => return ∅
  | t :: ts => return (← ix.expanded caseSensitive t) ∪ (← ix.union caseSensitive ts)

/-- The verses of `found` that belong to all of the terms. Nothing more is looked up once no verses
are left. -/
def intersectFrom (ix : Index) (caseSensitive : Bool) (found : VerseSet) :
    List (List Char) → Lookup VerseSet
  | [] => return found
  | t :: ts => do
    if found.isEmpty then return found
    ix.intersectFrom caseSensitive (found ∩ (← ix.expanded caseSensitive t)) ts

/-- The verses of all of the terms; none if there are no terms. -/
def intersect (ix : Index) (caseSensitive : Bool) : List (List Char) → Lookup VerseSet
  | [] => return ∅
  | t :: ts => do ix.intersectFrom caseSensitive (← ix.expanded caseSensitive t) ts

/-- The verses of an odd number of the terms. -/
def symmDiff (ix : Index) (caseSensitive : Bool) : List (List Char) → Lookup VerseSet
  | [] => return ∅
  | t :: ts => return (← ix.expanded caseSensitive t).symmDiff (← ix.symmDiff caseSensitive ts)

/-- Of some words those that match any of the patterns. -/
def matchingWords (caseSensitive : Bool) (patterns : List (List Char)) (words : List String) :
    List String :=
  words.filter fun w => patterns.any fun p => Wildcard.matchesWord caseSensitive p w.toList

/-- The union of the verses of words, without words of `limit` verses or more. -/
def getUncommon (ix : Index) (limit : Nat) : List String → Lookup VerseSet
  | [] => return ∅
  | w :: ws => do
    let s ← ix.get w.toList
    let rest ← ix.getUncommon limit ws
    return if s.size < limit then s ∪ rest else rest

/-- The verses of the words that match any of the patterns, without words of `limit` verses or
more. Nothing is looked up if the patterns are more than the engine takes. -/
def partialWords (ix : Index) (engine : Engine) (caseSensitive : Bool) (limit : Nat)
    (patterns : List (List Char)) : Lookup VerseSet := do
  if engine.fitsAll (patterns.map (Wildcard.source caseSensitive)) then
    ix.getUncommon limit (matchingWords caseSensitive patterns (← ix.fetchList wordsKey))
  else return ∅

end Index

end Concordance
