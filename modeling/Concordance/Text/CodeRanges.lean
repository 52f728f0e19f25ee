/-!
# Ranges of code points

A character class of a standard is given as closed intervals of code points. Most tables of this
library are written as hexadecimal text, one interval after another, and decoded once; a table that
facts about single characters are computed from is a list of numbers.

## Main definitions

* `Text.CodeRanges`: closed intervals in ascending order
* `Text.CodeRanges.contains`: membership of a code point
* `Text.CodeRanges.ofHex`: the intervals written as `30-39 5F`
-/

namespace Concordance

namespace Text

/-- Closed intervals of code points, in ascending order and apart from each other. -/
abbrev CodeRanges := List (Nat × Nat)

/-- The value of a hexadecimal digit, in either case. -/
def hexValue? (c : Char) : Option Nat :=
  if '0' ≤ c ∧ c ≤ '9' then some (c.toNat - '0'.toNat)
  else if 'a' ≤ c ∧ c ≤ 'f' then some (c.toNat - 'a'.toNat + 10)
  else if 'A' ≤ c ∧ c ≤ 'F' then some (c.toNat - 'A'.toNat + 10)
  else none

namespace CodeRanges

/-- Membership. The intervals ascend, so the search ends at the first one past `n`. -/
def contains : CodeRanges → Nat → Bool
  | [], _ => false
  | (lo, hi) :: rest, n => if n < lo then false else n ≤ hi || contains rest n

@[simp] theorem contains_nil (n : Nat) : contains [] n = false := rfl

/-- What has been read of the interval at hand: its first end if a dash was seen, and the number
being read. -/
structure Reading where
  /-- The end before the dash. -/
  low? : Option Nat
  /-- The digits read so far, as a number. -/
  number? : Option Nat

/-- The interval at hand, put before the ones already known to follow it. -/
def Reading.close (r : Reading) (rest : CodeRanges) : CodeRanges :=
  match r.low?, r.number? with
  | some lo, some hi => (lo, hi) :: rest
  | none, some n => (n, n) :: rest
  | _, none => rest

/-- Reads intervals separated by blanks, with `r` read of the first of them. -/
def readHex (r : Reading) : List Char → CodeRanges
  | [] => r.close []
  | c :: cs =>
    match hexValue? c with
    | some d => readHex ⟨r.low?, some (r.number?.getD 0 * 16 + d)⟩ cs
    | none => if c == '-' then readHex ⟨r.number?, none⟩ cs else r.close (readHex ⟨none, none⟩ cs)

/-- The intervals written as `30-39 5F`: hexadecimal ends joined by a dash, or one code point. -/
def ofHex (s : String) : CodeRanges :=
  readHex ⟨none, none⟩ s.toList

end CodeRanges

end Text

end Concordance
