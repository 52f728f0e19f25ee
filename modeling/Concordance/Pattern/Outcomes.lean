import Concordance.Pattern

/-!
# Outcomes of a match

All ways in which a pattern can match from a given place are listed in order of preference. What
comes after a pattern depends only on where its stretch ends, so of the outcomes that end at one place
the first makes the others superfluous; keeping only first ones bounds every list by the length of the
text.

A repetition is walked depth first over its *heads*: the places between two rounds, together with the
number of rounds left. A head is taken once. Of the rounds without an upper bound, the first may
match no character at all, and every later one takes some.

## Main definitions

* `Pattern.Outcome`: where a stretch ends, and what its groups matched
* `Pattern.outcomes`: the outcomes of a pattern from a place, the preferred one first
-/

namespace Concordance

namespace Pattern

/-- What a group matched. -/
structure Capture where
  /-- The number of the group. -/
  index : Nat
  /-- Where its stretch starts. -/
  start : Nat
  /-- Where its stretch ends. -/
  stop : Nat
deriving Repr, DecidableEq

/-- A way in which a pattern matches from a given place. -/
structure Outcome where
  /-- Where the stretch ends. -/
  stop : Nat
  /-- What the groups matched, the latest first. -/
  captures : List Capture
deriving Repr, DecidableEq

/-- A stretch without characters. -/
def Outcome.here (i : Nat) : Outcome := ⟨i, []⟩

/-- Two stretches, one after the other. -/
def Outcome.append (o o' : Outcome) : Outcome := ⟨o'.stop, o'.captures ++ o.captures⟩

/-! ### One outcome for each end -/

/-- The outcomes whose ends are not among `seen`, bit by bit, the first for each end. -/
def distinctFrom (seen : Nat) : List Outcome → List Outcome
  | [] => []
  | o :: os =>
    if seen.testBit o.stop then distinctFrom seen os
    else o :: distinctFrom (seen ||| 1 <<< o.stop) os

/-- The first outcome for each end. -/
def distinct : List Outcome → List Outcome
  | [] => []
  | [o] => [o]
  | os => distinctFrom 0 os

/-- Each outcome, followed by what `f` gives from its end. -/
def chain (os : List Outcome) (f : Nat → List Outcome) : List Outcome :=
  match os with
  | [] => []
  | [o] => (f o.stop).map o.append
  | os => distinct (os.flatMap fun o => (f o.stop).map o.append)

/-! ### Repetition -/

/-- A repetition at a given place. -/
structure Rounds where
  /-- The outcomes of one round from a place. -/
  body : Nat → List Outcome
  /-- Whether more rounds are preferred. -/
  greedy : Bool
  /-- The rounds left after one more, if one more may follow: it depends on the rounds left and on
  the place. -/
  again : Nat → Nat → Option Nat
  /-- One more than the length of the text. -/
  width : Nat

/-- A walk over the heads of a repetition. -/
structure Walk where
  /-- The heads that have been taken, bit by bit. -/
  seen : Nat
  /-- The outcomes found, last first. -/
  found : List Outcome

/-- One more outcome. -/
def Walk.push (w : Walk) (o : Outcome) : Walk := { w with found := o :: w.found }

/-- Walks on from a head, given by the rounds left and the outcome that led to it. Rounds that lead on
either take characters or use up one of the rounds left, so that `fuel` is never short if it starts
above both. -/
def Rounds.visit (r : Rounds) : (fuel : Nat) → Walk → (left : Nat) → Outcome → Walk
  | 0, w, _, _ => w
  | fuel + 1, w, left, o =>
    let key := left * r.width + o.stop
    if w.seen.testBit key then w
    else
      let w := { w with seen := w.seen ||| 1 <<< key }
      let w := if r.greedy then w else w.push o
      let w :=
        match r.again left o.stop with
        | some left => (r.body o.stop).foldl (fun w o' => r.visit fuel w left (o.append o')) w
        | none => w
      if r.greedy then w.push o else w

/-- One round or more. -/
def oneOrMore (body : Nat → List Outcome) (greedy : Bool) (size i : Nat) : List Outcome :=
  let r : Rounds := ⟨body, greedy, fun _ stop => if i < stop then some 0 else none, size + 1⟩
  ((body i).foldl (fun w o => r.visit (size + 1) w 0 o) ⟨0, []⟩).found.reverse

/-- Any number of rounds. -/
def zeroOrMore (body : Nat → List Outcome) (greedy : Bool) (size i : Nat) : List Outcome :=
  if greedy then distinct (oneOrMore body greedy size i ++ [.here i])
  else distinct (.here i :: oneOrMore body greedy size i)

/-- At most `count` rounds. -/
def upTo (body : Nat → List Outcome) (greedy : Bool) (size count i : Nat) : List Outcome :=
  let r : Rounds :=
    ⟨body, greedy, fun left _ => if left = 0 then none else some (left - 1), size + 1⟩
  distinct (r.visit (count + 1) ⟨0, []⟩ count (.here i)).found.reverse

/-- Exactly `count` rounds. -/
def exactly (body : Nat → List Outcome) (count i : Nat) : List Outcome :=
  Nat.repeat (fun os => chain os body) count [.here i]

/-- Rounds within bounds. -/
def rounds (body : Nat → List Outcome) (greedy : Bool) (size low : Nat) (high? : Option Nat)
    (i : Nat) : List Outcome :=
  match low, high? with
  | 0, none => zeroOrMore body greedy size i
  | low + 1, none => chain (exactly body low i) (oneOrMore body greedy size)
  | low, some high => chain (exactly body low i) (upTo body greedy size (high - low))

/-! ### Patterns -/

/-- The outcomes of a pattern from place `i` of a text, the preferred one first, one for each end. -/
def outcomes (t : Array Char) : Pattern → (i : Nat) → List Outcome
  | empty, i => [.here i]
  | set s, i =>
    match t[i]? with
    | some c => if s.mem c then [.here (i + 1)] else []
    | none => []
  | anchor a, i => if a.holds t i then [.here i] else []
  | group index p, i =>
    (outcomes t p i).map fun o => ⟨o.stop, ⟨index, i, o.stop⟩ :: o.captures⟩
  | seq p q, i => chain (outcomes t p i) (outcomes t q)
  | alt p q, i => distinct (outcomes t p i ++ outcomes t q i)
  | repeated p low high? greedy, i => rounds (outcomes t p) greedy t.size low high? i

end Pattern

end Concordance
