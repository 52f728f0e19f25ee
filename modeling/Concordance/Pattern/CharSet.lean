import Concordance.Text.Blank
import Concordance.Text.CaseFold
import Concordance.Text.Digit
import Concordance.Text.Property
import Concordance.Text.WordChar

/-!
# Sets of characters

The sets that patterns match single characters against. A set is kept as it was asked for, by the
operations that make it, and membership follows these operations.

## Main definitions

* `CharSet`: a set of characters
* `CharSet.mem`: membership
* `CharSet.isAscii`: whether a set keeps to ASCII among the first 256 characters
-/

namespace Concordance

/-- A set of characters. -/
inductive CharSet where
  /-- No character. -/
  | empty
  /-- The characters from one to another, both included. -/
  | range (low high : Char)
  /-- A character and everything that is alike up to case. -/
  | like (c : Char)
  /-- The decimal digits. -/
  | digit
  /-- White space. -/
  | blank
  /-- The word characters. -/
  | word
  /-- A class of the character tables. -/
  | named (k : Text.NamedClass)
  /-- Everything that is not in a set. -/
  | compl (s : CharSet)
  /-- What is in either of two sets. -/
  | union (s t : CharSet)
  /-- What is in both of two sets. -/
  | inter (s t : CharSet)
  /-- What is in exactly one of two sets. -/
  | symmDiff (s t : CharSet)
  /-- A set together with everything that is alike up to case. -/
  | folded (s : CharSet)
  /-- A set together with the ASCII letters that are alike up to case. -/
  | asciiFolded (s : CharSet)
deriving Repr, DecidableEq, Inhabited

namespace CharSet

/-- The other case of an ASCII letter. -/
def swapAsciiCase (c : Char) : Char := if c.isUpper then c.toLower else c.toUpper

/-- Membership. -/
def mem : CharSet → Char → Bool
  | empty, _ => false
  | range low high, c => low ≤ c && c ≤ high
  | like d, c => Text.alike d c
  | digit, c => Text.isDigit c
  | blank, c => Text.isBlank c
  | word, c => Text.isWordChar c
  | named k, c => k.contains c.toNat
  | compl s, c => !s.mem c
  | union s t, c => s.mem c || t.mem c
  | inter s t, c => s.mem c && t.mem c
  | symmDiff s t, c => s.mem c != t.mem c
  | folded s, c => (Text.orbit c).any s.mem
  | asciiFolded s, c => s.mem c || s.mem (swapAsciiCase c)

/-- One character. -/
def single (c : Char) : CharSet := range c c

/-- What is in the first of two sets and not in the second. -/
def diff (s t : CharSet) : CharSet := inter s (compl t)

/-- Every character. -/
def full : CharSet := compl empty

/-- The union of the sets of a list. -/
def unionAll (sets : List CharSet) : CharSet := sets.foldl union empty

/-- The ASCII characters. -/
def ascii : CharSet := range '\x00' '\x7f'

/-- Whether none of the first 256 characters beyond ASCII is a member. -/
def isAscii (s : CharSet) : Bool := (List.range' 0x80 0x80).all fun n => !s.mem (Char.ofNat n)

@[simp] theorem mem_single {c d : Char} : (single c).mem d = (d == c) := by
  rw [Bool.eq_iff_iff]
  simp only [single, mem, Bool.and_eq_true, decide_eq_true_eq, beq_iff_eq]
  exact ⟨fun h => Char.le_antisymm h.2 h.1, fun h => h ▸ ⟨Char.le_refl _, Char.le_refl _⟩⟩

@[simp] theorem mem_full (c : Char) : full.mem c = true := rfl

end CharSet

end Concordance
