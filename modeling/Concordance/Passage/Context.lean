import Concordance.Passage
import Concordance.Word

/-!
# Context in words

The verses around the members of a set, found with numbers that are kept in words: the count may be as
large as a word allows, and there is a result only if no sum is lost on the way.

## Main definitions

* `Verse.shift?`: moving through the corpus by a distance in a word
* `Passage.around?`: all verses within a distance of a verse
* `VerseSet.contextCapacity`: how many verses room is made for
* `VerseSet.context?`: the verses around the members
-/

namespace Concordance

namespace Verse

/-- The verse with an ordinal, if there is one. -/
def ofOrdinal? (n : Int) : Option Verse :=
  if h : 0 ≤ n ∧ n < corpusSize then some ⟨n.toNat, by omega⟩ else none

/-- The verse `n` places further on, or back if `n` is negative, stopping at the ends of the corpus. -/
def shift? (v : Verse) (n : Int64) : Option Verse := do
  let size ← Shift.ofInt? corpusSize
  let last ← Shift.ofInt? (size.toInt - 1)
  let here ← Shift.ofInt? v.ordinal
  ofOrdinal? (clampTo 0 last.toInt (Shift.add here n).toInt)

end Verse

namespace Passage

/-- All verses within a distance of a verse. -/
def around? (v : Verse) (n : Int64) : Option Passage := do
  return ofEnds (← v.shift? (Shift.neg n)) (← v.shift? n)

end Passage

namespace VerseSet

/-- How many verses room is made for: each member with `count` verses on both sides, at most the whole
corpus. -/
def contextCapacity (s : VerseSet) (count : UInt64) : UInt64 :=
  min (Count.mul (.ofNat s.size) (Count.add (Count.mul count 2) 1)) (.ofNat corpusSize)

/-- The verses within `count` places of a member and, with `wholeChapters`, all verses of the chapters
of members. -/
def context? (s : VerseSet) (count : UInt64) (wholeChapters : Bool) : Option VerseSet :=
  s.toList.foldlM (fun t v => do
    let near ← Passage.around? v (Shift.ofCount count)
    return t ∪ if wholeChapters then (Passage.chapterOf v).toSet ∪ near.toSet else near.toSet) ∅

end VerseSet

end Concordance
