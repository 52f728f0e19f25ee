import Concordance.Passage.Context

/-!
# Places in words

Places in a passage, found with numbers that are kept in words: every place and every bound that a word
holds may be asked for, and there is a result only if no difference and no sum is lost on the way.

## Main definitions

* `Verse.distance?`: how far one verse lies after another
* `Passage.size?`: how many verses a passage has
* `Passage.indexIn?`, `Passage.verseAt?`: the place of a verse, and the verse at a place
* `Passage.cut?`: the verses between two places
-/

namespace Concordance

/-- A number as a count, if a word holds it. -/
def Count.ofNat? (n : Nat) : Option UInt64 := if n < 2 ^ 64 then some (.ofNat n) else none

/-- How many places `w` lies after `v`; negative if it lies before. -/
def Verse.distance? (v w : Verse) : Option Int64 := do
  let there ← Shift.ofInt? w.ordinal
  let here ← Shift.ofInt? v.ordinal
  Shift.ofInt? (there.toInt - here.toInt)

namespace Passage

/-- How many verses there are. -/
def size? (p : Passage) : Option UInt64 := do
  Count.ofNat? ((← p.lower.distance? p.upper).toUInt64.toNat + 1)

/-- The place of a verse, counted from zero, if it is there. -/
def indexIn? (p : Passage) (v : Verse) : Option (Option UInt64) := do
  if v ∈ p then return some (← p.lower.distance? v).toUInt64 else return none

/-- The verse at a place counted from zero, or from the end if it is negative, if there is one. -/
def verseAt? (p : Passage) (i : Int64) : Option (Option Verse) := do
  let size := (← p.size?).toInt64
  let i ← if i < 0 then Shift.ofInt? (size.toInt + i.toInt) else some i
  if 0 ≤ i ∧ i < size then return some (← p.lower.shift? i) else return none

/-- A bound as a place from zero to `size`: a negative bound counts from the end, and a bound past either
end is that end. -/
def boundIn? (size bound : Int64) : Option Int64 := do
  if bound < 0 then return max (← Shift.ofInt? (size.toInt + bound.toInt)) 0 else return min bound size

/-- The verses from place `start` up to, but not including, place `stop`, if there are any; an end that is
not given is the end of the passage. -/
def cut? (p : Passage) (start stop : Option Int64) : Option (Option Passage) := do
  let size := (← p.size?).toInt64
  let start ← start.elim (some 0) (boundIn? size)
  let stop ← stop.elim (some size) (boundIn? size)
  if start < stop then
    return some (ofEnds (← p.lower.shift? start) (← p.lower.shift? (← Shift.ofInt? (stop.toInt - 1))))
  else return none

end Passage

end Concordance
