import Concordance.Passage

/-!
# Walks

A walk through a passage is asked for verses from either end, for the verse some places ahead, and for how
many verses are left, in any order. A reply says, beside the answer, which verses the walk has now left
behind at each end: those it has answered with and those it has passed over.

## Main definitions

* `Passage.Ask`, `Passage.Reply`: what is asked on a walk, and what comes of it
* `Passage.Cursor.passOver`: the verses passed over one by one
* `Passage.Cursor.ask`, `Passage.Cursor.run`: one ask, and one after another
-/

namespace Concordance.Passage

/-- What may be asked on a walk. -/
inductive Ask
  /-- The next verse from the front. -/
  | front
  /-- The next verse from the back. -/
  | back
  /-- The verse `n` places after the next one from the front. -/
  | nth (n : Nat)
  /-- How many verses are left. -/
  | remaining
deriving Repr, DecidableEq

/-- What is answered. -/
inductive Answer
  | verse (found? : Option Verse)
  | count (n : Nat)
deriving DecidableEq

/-- What comes of an ask. -/
structure Reply where
  answer : Answer
  /-- The verses left behind at the front, first the one that was next. -/
  fronts : List Verse
  /-- The verses left behind at the back, first the one that was next. -/
  backs : List Verse
deriving DecidableEq

namespace Cursor

/-- Takes verses from the front until `n` have been taken or none is left. -/
def passOver (c : Cursor) : Nat → List Verse × Cursor
  | 0 => ([], c)
  | n + 1 =>
    match c.takeFront with
    | (none, c) => ([], c)
    | (some v, c) => let (passed, c) := c.passOver n; (v :: passed, c)

/-- What comes of an ask, and what is left of the walk. -/
def ask (c : Cursor) : Ask → Reply × Cursor
  | .front => let (v?, c) := c.takeFront; (⟨.verse v?, v?.toList, []⟩, c)
  | .back => let (v?, c) := c.takeBack; (⟨.verse v?, [], v?.toList⟩, c)
  | .nth n =>
    let (passed, c) := c.passOver n
    -- Where the walk has ended on the way, it is not asked again.
    if passed.length < n then (⟨.verse none, passed, []⟩, c)
    else let (v?, c) := c.takeFront; (⟨.verse v?, passed ++ v?.toList, []⟩, c)
  | .remaining => (⟨.count c.remaining, [], []⟩, c)

/-- What comes of asks, one after another. -/
def run (c : Cursor) : List Ask → List Reply × Cursor
  | [] => ([], c)
  | ask :: asks =>
    let (reply, c) := c.ask ask
    let (replies, c) := c.run asks
    (reply :: replies, c)

end Cursor

end Concordance.Passage
