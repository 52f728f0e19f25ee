import Concordance.Pattern.CharSet

/-!
# Patterns

A pattern says which stretches of a text it matches, and in which order of preference: the first
alternative before the second, and more repetitions before fewer, unless the repetition is lazy.

## Main definitions

* `Anchor`: a condition on a place between two characters
* `Pattern`: a pattern
* `Pattern.Spans`: the stretches that a pattern matches, without regard to preference
* `Pattern.groupCount`: how many groups a match has
* `Pattern.ofRepeat`: a repetition in its simplest form
-/

namespace Concordance

/-- What the neighbours of a place must be, of a word and outside of words. -/
inductive WordEdge where
  /-- One of them is of a word and the other is not. -/
  | either
  /-- Both are of words, or neither is. -/
  | neither
  /-- A word starts. -/
  | start
  /-- A word ends. -/
  | stop
  /-- No word comes before. -/
  | startHalf
  /-- No word follows. -/
  | stopHalf
deriving Repr, DecidableEq

/-- A condition on a place between two characters. -/
inductive Anchor where
  /-- The start of the text. -/
  | textStart
  /-- The end of the text. -/
  | textEnd
  /-- The start of a line. Lines end with a line feed, or also with a carriage return. -/
  | lineStart (carriageReturns : Bool)
  /-- The end of a line. -/
  | lineEnd (carriageReturns : Bool)
  /-- An edge of a word, words being made of ASCII characters only or of all word characters. -/
  | word (edge : WordEdge) (asciiOnly : Bool)
deriving Repr, DecidableEq

/-- A pattern. -/
inductive Pattern where
  /-- Matches nothing, in the sense of a stretch without characters. -/
  | empty
  /-- Matches one character of a set. -/
  | set (s : CharSet)
  /-- Matches a place. -/
  | anchor (a : Anchor)
  /-- Matches what `p` matches and keeps the stretch under a number. -/
  | group (index : Nat) (p : Pattern)
  /-- Matches what `p` matches, followed by what `q` matches. -/
  | seq (p q : Pattern)
  /-- Matches what `p` or `q` matches, with preference for `p`. -/
  | alt (p q : Pattern)
  /-- Matches `p` at least `low` times and at most `high?` times, if that is given. -/
  | repeated (p : Pattern) (low : Nat) (high? : Option Nat) (greedy : Bool)
deriving Repr, DecidableEq, Inhabited

/-! ### Places -/

namespace WordEdge

/-- Whether the edge is there, given whether the neighbours are of words. -/
def holds (edge : WordEdge) (before after : Bool) : Bool :=
  match edge with
  | either => before != after
  | neither => before == after
  | start => !before && after
  | stop => before && !after
  | startHalf => !before
  | stopHalf => !after

end WordEdge

namespace Anchor

/-- Whether there is a character of a kind before a place. -/
def before (t : Array Char) (i : Nat) (p : Char → Bool) : Bool :=
  match i with
  | 0 => false
  | i + 1 => (t[i]?).any p

/-- Whether there is a character of a kind after a place. -/
def after (t : Array Char) (i : Nat) (p : Char → Bool) : Bool := (t[i]?).any p

/-- Whether the condition holds at a place of a text. A carriage return and a line feed together end
one line, so that no line starts or ends between them. -/
def holds (a : Anchor) (t : Array Char) (i : Nat) : Bool :=
  match a with
  | textStart => i == 0
  | textEnd => i == t.size
  | lineStart false => i == 0 || before t i (· == '\n')
  | lineStart true =>
    i == 0 || before t i (· == '\n') || (before t i (· == '\r') && !after t i (· == '\n'))
  | lineEnd false => i == t.size || after t i (· == '\n')
  | lineEnd true =>
    i == t.size || after t i (· == '\r') || (after t i (· == '\n') && !before t i (· == '\r'))
  | word edge true =>
    edge.holds (before t i Text.isAsciiWordChar) (after t i Text.isAsciiWordChar)
  | word edge false => edge.holds (before t i Text.isWordChar) (after t i Text.isWordChar)

end Anchor

namespace Pattern

/-! ### Stretches -/

/-- A chain of at least `low` and at most `high?` stretches, each right after the one before it. -/
inductive Chain (span : Nat → Nat → Prop) : (low : Nat) → (high? : Option Nat) → Nat → Nat → Prop where
  /-- No stretch. -/
  | nil {high? : Option Nat} {i : Nat} : Chain span 0 high? i i
  /-- A stretch and a chain after it. -/
  | cons {low i j k : Nat} {high? : Option Nat} (first : span i j)
      (room : ∀ high, high? = some high → 0 < high)
      (rest : Chain span (low - 1) (high?.map (· - 1)) j k) : Chain span low high? i k

/-- The stretches of `t` that a pattern matches: from place `i` to place `j`. -/
def Spans (t : Array Char) : Pattern → Nat → Nat → Prop
  | empty, i, j => i = j
  | set s, i, j => j = i + 1 ∧ ∃ c, t[i]? = some c ∧ s.mem c = true
  | anchor a, i, j => i = j ∧ a.holds t i = true
  | group _ p, i, j => p.Spans t i j
  | seq p q, i, j => ∃ k, p.Spans t i k ∧ q.Spans t k j
  | alt p q, i, j => p.Spans t i j ∨ q.Spans t i j
  | repeated p low high? _, i, j => Chain (p.Spans t) low high? i j

/-! ### Shape -/

/-- The patterns of a list, one after another. -/
def ofSeq : List Pattern → Pattern
  | [] => empty
  | [p] => p
  | p :: ps => seq p (ofSeq ps)

/-- The patterns of a list as alternatives. -/
def ofAlt : List Pattern → Pattern
  | [] => empty
  | [p] => p
  | p :: ps => alt p (ofAlt ps)

/-- One character. -/
def char (c : Char) : Pattern := set (.single c)

/-- Whether a pattern can only match stretches without characters. -/
def isEmptyOnly : Pattern → Bool
  | empty => true
  | set _ => false
  | anchor _ => true
  | group _ p => p.isEmptyOnly
  | seq p q => p.isEmptyOnly && q.isEmptyOnly
  | alt p q => p.isEmptyOnly && q.isEmptyOnly
  | repeated p _ high? _ => p.isEmptyOnly || high? == some 0

/-- A repetition in its simplest form. More than one stretch without characters is as good as one,
no repetition at all is the empty pattern, and one repetition is the pattern itself. -/
def ofRepeat (p : Pattern) (low : Nat) (high? : Option Nat) (greedy : Bool) : Pattern :=
  let low := if p.isEmptyOnly then min low 1 else low
  let high? := if p.isEmptyOnly then some (min (high?.getD 1) 1) else high?
  if low == 0 && high? == some 0 then empty
  else if low == 1 && high? == some 1 then p
  else repeated p low high? greedy

/-- One more than the highest number of a group: group zero is the whole match. -/
def groupCount : Pattern → Nat
  | empty => 1
  | set _ => 1
  | anchor _ => 1
  | group index p => max (index + 1) p.groupCount
  | seq p q => max p.groupCount q.groupCount
  | alt p q => max p.groupCount q.groupCount
  | repeated p _ _ _ => p.groupCount

end Pattern

end Concordance
