import Concordance.Pattern.Outcomes

/-!
# Matching and replacing

A pattern is looked for from left to right; at the first place where it matches at all, the preferred
outcome is taken. Matches of a whole text do not overlap, and one without characters does not stand
right at the end of the match before it.

## Main definitions

* `Match`: a stretch that matched, with its groups
* `Pattern.find?`, `Pattern.findAll`: the first match, and all of them
* `Pattern.isMatch`: whether there is a match
* `Pattern.replaceAll`: a text with every match replaced
-/

namespace Concordance

/-- A stretch of a text that matched. -/
structure Match where
  /-- Where it starts. -/
  start : Nat
  /-- Where it ends. -/
  stop : Nat
  /-- What the groups matched, the latest first. -/
  captures : List Pattern.Capture
deriving Repr, DecidableEq

namespace Match

/-- Whether the match has no characters. -/
def isEmpty (m : Match) : Bool := m.start == m.stop

/-- The characters of a stretch. -/
def slice (t : Array Char) (start stop : Nat) : List Char := (t.extract start stop).toList

/-- The characters of the match. -/
def text (t : Array Char) (m : Match) : List Char := slice t m.start m.stop

/-- The characters of a group, if it took part. Group zero is the match itself. -/
def group? (t : Array Char) (m : Match) (index : Nat) : Option (List Char) :=
  if index = 0 then some (m.text t)
  else (m.captures.find? (·.index == index)).map fun c => slice t c.start c.stop

end Match

namespace Pattern

/-- The match from a given place. -/
def matchAt? (p : Pattern) (t : Array Char) (i : Nat) : Option Match :=
  ((p.outcomes t i).head?).map fun o => ⟨i, o.stop, o.captures⟩

/-- The first match from one of the `count` places from `i` on. -/
def findAmong (p : Pattern) (t : Array Char) : (count i : Nat) → Option Match
  | 0, _ => none
  | count + 1, i =>
    match p.matchAt? t i with
    | some m => some m
    | none => findAmong p t count (i + 1)

/-- The first match from place `i` on. -/
def findFrom? (p : Pattern) (t : Array Char) (i : Nat) : Option Match :=
  p.findAmong t (t.size + 1 - i) i

/-- The first match. -/
def find? (p : Pattern) (t : Array Char) : Option Match := p.findFrom? t 0

/-- Whether there is a match. -/
def isMatch (p : Pattern) (t : Array Char) : Bool := (p.find? t).isSome

/-- The first match from place `i` on that is not a match without characters at the end of the one
before. -/
def findNext? (p : Pattern) (t : Array Char) (i : Nat) (last? : Option Nat) : Option Match :=
  match p.findFrom? t i with
  | some m => if m.isEmpty && last? == some m.stop then p.findFrom? t (i + 1) else some m
  | none => none

/-- The matches from place `i` on, after one that ended at `last?`. Each ends further on than the one
before, so that `fuel` is never short if it starts above the length of the text. -/
def findAllFrom (p : Pattern) (t : Array Char) : (fuel i : Nat) → (last? : Option Nat) → List Match
  | 0, _, _ => []
  | fuel + 1, i, last? =>
    match p.findNext? t i last? with
    | some m => m :: findAllFrom p t fuel m.stop (some m.stop)
    | none => []

/-- All matches, from left to right. -/
def findAll (p : Pattern) (t : Array Char) : List Match := p.findAllFrom t (t.size + 2) 0 none

/-- The text from place `i` on, with every one of the given matches replaced. -/
def spliceFrom (t : Array Char) (f : Match → List Char) : (i : Nat) → List Match → List Char
  | i, [] => Match.slice t i t.size
  | i, m :: ms => Match.slice t i m.start ++ f m ++ spliceFrom t f m.stop ms

/-- A text with every match replaced. -/
def replaceAll (p : Pattern) (t : Array Char) (f : Match → List Char) : List Char :=
  spliceFrom t f 0 (p.findAll t)

end Pattern

end Concordance
