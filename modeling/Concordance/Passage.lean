import Concordance.VerseSet

/-!
# Passages

A passage is an unbroken stretch of verses, both ends included. It can be read as the list of its
verses: passages are indexed, sliced and walked through as such lists are.

## Main definitions

* `Passage`: a stretch of verses
* `Passage.toList`, `Passage.toSet`: its verses as a list and as a set
* `Passage.get?`, `Passage.slice?`, `Passage.indexOf?`: places in it, negative ones counted from its
  end
* `Passage.Cursor`: a walk through it from both ends
-/

namespace Concordance

/-- An unbroken stretch of verses, both ends included. -/
structure Passage where
  /-- The first verse. -/
  lower : Verse
  /-- The last verse. -/
  upper : Verse
  lower_le_upper : lower ≤ upper
deriving DecidableEq

namespace Passage

/-- The stretch between two verses, given in either order. -/
def ofEnds (v w : Verse) : Passage :=
  if h : v ≤ w then ⟨v, w, h⟩ else ⟨w, v, Nat.le_of_lt (Nat.lt_of_not_le h)⟩

/-- The chapter that a verse stands in. -/
def chapterOf (v : Verse) : Passage := ofEnds v.chapterStart v.lastInChapter

/-- How many verses there are. -/
def size (p : Passage) : Nat := p.upper.ordinal - p.lower.ordinal + 1

/-- The verses in order. -/
def toList (p : Passage) : List Verse :=
  (List.range' p.lower.ordinal p.size).map .ofOrdinal

/-- The verses as a set. -/
def toSet (p : Passage) : VerseSet := .between p.lower p.upper

instance : Membership Verse Passage := ⟨fun p v => p.lower ≤ v ∧ v ≤ p.upper⟩

instance (v : Verse) (p : Passage) : Decidable (v ∈ p) :=
  inferInstanceAs (Decidable (p.lower ≤ v ∧ v ≤ p.upper))

/-- The written form: both ends, joined by a dash. -/
def display (p : Passage) : String := p.lower.reference ++ "-" ++ p.upper.reference

@[simp] theorem mem_toSet {v : Verse} {p : Passage} : v ∈ p.toSet ↔ v ∈ p := by
  simp only [toSet, VerseSet.mem_between]
  rfl

/-! ### Places in a passage -/

/-- The place of a verse, counted from zero. -/
def indexOf? (p : Passage) (v : Verse) : Option Nat :=
  if v ∈ p then some (v.ordinal - p.lower.ordinal) else none

/-- The verse at a place counted from zero, or from the end if it is negative. -/
def get? (p : Passage) (i : Int) : Option Verse :=
  let i := if i < 0 then p.size + i else i
  if 0 ≤ i ∧ i < p.size then some (p.lower.offset i) else none

/-- A bound of a slice as a place from zero to the size: a negative bound counts from the end, and a
bound past either end is that end. -/
def sliceBound (p : Passage) (bound : Int) : Int :=
  if bound < 0 then max (p.size + bound) 0 else min bound p.size

/-- The verses from place `start` up to, but not including, place `stop`; an end that is not given is
the end of the passage. There is no passage without verses. -/
def slice? (p : Passage) (start stop : Option Int) : Option Passage :=
  let start := (start.map p.sliceBound).getD 0
  let stop := (stop.map p.sliceBound).getD p.size
  if start < stop then some (ofEnds (p.lower.offset start) (p.lower.offset (stop - 1))) else none

/-! ### Walking through a passage -/

/-- What is left of a walk: the ordinals from `next` up to, but not including, `stop`. -/
structure Cursor where
  /-- The ordinal of the next verse from the front. -/
  next : Nat
  /-- One past the ordinal of the next verse from the back. -/
  stop : Nat
deriving Repr, DecidableEq

/-- The walk through all verses. -/
def cursor (p : Passage) : Cursor := ⟨p.lower.ordinal, p.upper.ordinal + 1⟩

namespace Cursor

/-- How many verses are left. -/
def remaining (c : Cursor) : Nat := c.stop - c.next

/-- The verses that are left, in order. -/
def toList (c : Cursor) : List Verse := (List.range' c.next c.remaining).map .ofOrdinal

/-- Takes the next verse from the front. -/
def takeFront (c : Cursor) : Option Verse × Cursor :=
  if c.next < c.stop then (some (.ofOrdinal c.next), { c with next := c.next + 1 }) else (none, c)

/-- Takes the next verse from the back. -/
def takeBack (c : Cursor) : Option Verse × Cursor :=
  if c.next < c.stop then
    (some (.ofOrdinal (c.stop - 1)), { c with stop := c.stop - 1 })
  else (none, c)

/-- Passes over `n` verses from the front, or all that are left. -/
def skip (c : Cursor) (n : Nat) : Cursor := { c with next := c.next + min n c.remaining }

/-- Passes over `n` verses and takes the one after them. -/
def takeNth (c : Cursor) (n : Nat) : Option Verse × Cursor := (c.skip n).takeFront

end Cursor

/-! ### Sets as passages -/

/-- Ascending verses, put together into the longest stretches. -/
def stretches : List Verse → List Passage
  | [] => []
  | v :: rest =>
    match stretches rest with
    | [] => [ofEnds v v]
    | p :: ps =>
      if v.ordinal + 1 = p.lower.ordinal then ofEnds v p.upper :: ps else ofEnds v v :: p :: ps

/-- All verses within `count` places of a verse. -/
def around (v : Verse) (count : Nat) : Passage := ofEnds (v.offset (-count)) (v.offset count)

end Passage

namespace VerseSet

/-- The members, put together into the longest stretches, in order. -/
def passages (s : VerseSet) : List Passage := Passage.stretches s.toList

/-- The verses within `count` places of a member and, with `wholeChapters`, all verses of the chapters
of members. -/
def widen (s : VerseSet) (count : Nat) (wholeChapters : Bool) : VerseSet :=
  unionOf (fun v =>
    let near := (Passage.around v count).toSet
    if wholeChapters then (Passage.chapterOf v).toSet ∪ near else near) s.toList

end VerseSet

end Concordance
