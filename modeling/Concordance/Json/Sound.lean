import Concordance.Json

/-!
# Sound values

A value that is kept before it is known what is expected there has to stand on its own: its strings
have texts, its numbers are not too large for a floating-point number of 64 bits, and it is not nested
too deeply.

## Main definitions

* `Json.isFinite`: whether a number is not too large
* `Json.isSound`: whether a value stands on its own
-/

namespace Concordance

namespace Json

/-- The number that decimal digits write; other characters are passed over. -/
def decimal (cs : List Char) : Nat :=
  (cs.filter Char.isDigit).foldl (fun n c => n * 10 + (c.toNat - '0'.toNat)) 0

/-- Whether a number, as written, rounds to a floating-point number of 64 bits. -/
def isFinite (text : List Char) : Bool :=
  let isMark (c : Char) : Bool := c == 'e' || c == 'E'
  let mantissa := text.takeWhile (!isMark ·)
  let exponentText := (text.dropWhile (!isMark ·)).drop 1
  let fraction := (mantissa.dropWhile (· != '.')).drop 1
  let digits := decimal mantissa
  let size := (Nat.toDigits 10 digits).length
  let exponent : Int := decimal exponentText
  let exponent := if exponentText.head? == some '-' then -exponent else exponent
  let scale := exponent - fraction.length
  let bound := (1 <<< 1024) - (1 <<< 970)
  if digits = 0 || size + scale < 300 then true
  else if size + scale > 310 then false
  else digits * Nat.pow 10 scale.toNat < bound * Nat.pow 10 (-scale).toNat

/-- How deeply the values of a soundly kept value may be nested. -/
def maxDepth : Nat := 127

mutual

/-- Whether a value stands on its own and is nested at most `depth` deep. -/
def isSoundWithin (depth : Nat) : Json → Bool
  | null => true
  | bool _ => true
  | number text => isFinite text
  | string text? => text?.isSome
  | array elements => depth != 0 && areSoundWithin (depth - 1) elements
  | object members => depth != 0 && areSoundMembers (depth - 1) members

/-- Whether values stand on their own and are nested at most `depth` deep. -/
def areSoundWithin (depth : Nat) : List Json → Bool
  | [] => true
  | j :: js => isSoundWithin depth j && areSoundWithin depth js

/-- Whether members stand on their own and are nested at most `depth` deep. -/
def areSoundMembers (depth : Nat) : List (Option String × Json) → Bool
  | [] => true
  | (key?, j) :: ms => key?.isSome && isSoundWithin depth j && areSoundMembers depth ms

end

/-- Whether a value stands on its own. -/
def isSound (j : Json) : Bool := isSoundWithin maxDepth j

end Json

end Concordance
