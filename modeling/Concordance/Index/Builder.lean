import Std.Data.TreeSet.Basic
import Concordance.Index.Extract
import Concordance.Records
import Concordance.Text.LetterCase
import Concordance.VerseSet

/-!
# Building an index

An index is built from verses with their texts. Its records are the text of every verse under the
reference of the verse, the verses of every word and tag under that word or tag, and four lists of the
words and tags themselves.

A verse may be added again. Its last text is the one that is kept, while it goes on being found by
what the earlier ones were found by.

## Main definitions

* `Index.Builder`: the verses that have been added
* `Index.Builder.records`: the records of their index
-/

namespace Concordance

namespace Index

/-- The key of the list of words. -/
def wordsKey : String := "_words_"

/-- The key of the list of Strong's numbers. -/
def strongsKey : String := "_strongs_"

/-- The key of the list of morphology tags. -/
def morphKey : String := "_morph_"

/-- The key of the spellings of every word in lower case. -/
def lowerCaseKey : String := "lower_case"

/-- Verses with their texts, in the order in which they were added. -/
structure Builder where
  /-- The verses and texts. -/
  added : List (Verse × List Char) := []
deriving Inhabited

namespace Builder

/-- One more verse. -/
def add (b : Builder) (v : Verse) (raw : List Char) : Builder := ⟨b.added ++ [(v, raw)]⟩

/-- The last text of every verse. -/
def texts (b : Builder) : Std.TreeMap Verse (List Char) :=
  b.added.foldl (fun m (v, raw) => m.insert v raw) ∅

/-- How many verses there are. -/
def verseCount (b : Builder) : Nat := b.texts.size

/-- Every verse that was added, with what its text is found by. -/
def extracts (b : Builder) : List (Verse × Extract) :=
  b.added.map fun (v, raw) => (v, Extract.ofText raw)

/-- The verses that are found by each key. -/
def postings (b : Builder) : Std.TreeMap String VerseSet :=
  b.extracts.foldl (fun m (v, e) =>
    e.keys.foldl (fun m key =>
      let key := String.ofList key
      m.insert key (m[key]?.getD ∅ |>.insert v)) m) ∅

/-- All that `f` finds in the texts, in order and each once. -/
def collected (b : Builder) (f : Extract → List (List Char)) : List String :=
  (Std.TreeSet.ofList (b.extracts.flatMap fun (_, e) => (f e).map String.ofList)).toList

/-- The words with capitals, under their forms in lower case. -/
def spellings (b : Builder) : Std.TreeMap String (List String) :=
  (b.extracts.flatMap fun (_, e) => e.words).foldl (fun m w =>
    let lower := Text.lower w
    if lower = w then m
    else
      let key := String.ofList lower
      let known := m[key]?.getD []
      m.insert key (if known.contains (String.ofList w) then known else known ++ [String.ofList w])) ∅

/-- The records of the index. A word that is the key of one of the four lists gives way to the list. -/
def records (b : Builder) : Records :=
  let r := b.texts.toList.foldl (fun (r : Records) (v, raw) =>
    r.put v.reference (.ofString (String.ofList raw))) Records.empty
  let r := b.postings.toList.foldl (fun (r : Records) (key, s) =>
    r.put key (.ofStrings (s.toList.map Verse.reference))) r
  let r := r.put lowerCaseKey (.ofMembers (b.spellings.toList.map fun (k, ws) => (k, .ofStrings ws)))
  let r := r.put wordsKey (.ofStrings (b.collected Extract.words))
  let r := r.put strongsKey (.ofStrings (b.collected Extract.strongs))
  r.put morphKey (.ofStrings (b.collected Extract.morph))

end Builder

end Index

end Concordance
