/-!
# Shifts between letter cases

Letters and their counterparts in another case lie at constant distances, over intervals in which
every letter, or every second one, takes part. A case table is a list of such intervals.

## Main definitions

* `Text.CaseShift`: an interval of letters and the distance to their counterparts
* `Text.CaseShift.image?`, `Text.CaseShift.sources`: counterparts, and the letters with a given
  counterpart
-/

namespace Concordance

namespace Text

/-- The letters `low`, `low + step`, … up to `high`, each with its counterpart `distance` further up
(or down). -/
structure CaseShift where
  /-- The first letter. -/
  low : Nat
  /-- The last letter. -/
  high : Nat
  /-- `1` where every code point takes part, `2` where every second does. -/
  step : Nat
  /-- Whether counterparts lie below. -/
  down : Bool
  /-- How far away counterparts lie. -/
  distance : Nat
deriving Repr, DecidableEq

namespace CaseShift

/-- Whether a code point is one of the letters. -/
def covers (s : CaseShift) (n : Nat) : Bool :=
  s.low ≤ n && n ≤ s.high && (n - s.low) % s.step == 0

/-- The counterpart of a code point, if it is one of the letters. -/
def image? (s : CaseShift) (n : Nat) : Option Nat :=
  if s.covers n then some (if s.down then n - s.distance else n + s.distance) else none

/-- The letter whose counterpart is the given code point. -/
def source? (s : CaseShift) (n : Nat) : Option Nat :=
  let m := if s.down then n + s.distance else n - s.distance
  if s.covers m && s.image? m == some n then some m else none

/-- The counterpart of a code point by the first interval that covers it, or the point itself. The
intervals ascend, so the search ends at the first one past `n`. -/
def image : List CaseShift → Nat → Nat
  | [], n => n
  | s :: rest, n => if n < s.low then n else (s.image? n).getD (image rest n)

/-- All letters whose counterpart is the given code point. -/
def sources (table : List CaseShift) (n : Nat) : List Nat :=
  table.filterMap (·.source? n)

end CaseShift

end Text

end Concordance
