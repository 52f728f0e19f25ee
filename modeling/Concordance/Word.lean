import Mathlib.Algebra.Group.Int.Defs
import Mathlib.Algebra.Group.Nat.Defs
import Concordance.Verse

/-!
# Numbers in words

Counts are kept in words of 64 bits, and distances in words of 64 bits with a sign. A result that no word
can hold is either moved to the nearest number that a word holds, or there is no result.

## Main definitions

* `Count.add`, `Count.mul`: sums and products of counts, at most the greatest count
* `Shift.ofCount`, `Shift.add`, `Shift.neg`: distances, moved to the nearest one that a word holds
* `Shift.ofInt?`: a number as a distance, if a word holds it
-/

namespace Concordance

/-! ### Counts -/

namespace Count

/-- The sum of two counts, or the greatest count if the sum is too large. -/
def add (a b : UInt64) : UInt64 := .ofNatClamp (a.toNat + b.toNat)

/-- The product of two counts, or the greatest count if the product is too large. -/
def mul (a b : UInt64) : UInt64 := .ofNatClamp (a.toNat * b.toNat)

theorem toNat_ofNatClamp (n : Nat) : (UInt64.ofNatClamp n).toNat = min n (2 ^ 64 - 1) := by
  have hsize : UInt64.size = 2 ^ 64 := rfl
  rcases Nat.lt_or_ge n UInt64.size with h | h
  · rw [UInt64.toNat_ofNatClamp_of_lt h]
    omega
  · rw [UInt64.toNat_ofNatClamp_of_le h]
    omega

@[simp] theorem toNat_add (a b : UInt64) : (add a b).toNat = min (a.toNat + b.toNat) (2 ^ 64 - 1) :=
  toNat_ofNatClamp _

@[simp] theorem toNat_mul (a b : UInt64) : (mul a b).toNat = min (a.toNat * b.toNat) (2 ^ 64 - 1) :=
  toNat_ofNatClamp _

@[simp] theorem toNat_min (a b : UInt64) : (min a b).toNat = min a.toNat b.toNat := by
  change (if a ≤ b then a else b).toNat = _
  simp only [UInt64.le_iff_toNat_le]
  split <;> omega

end Count

/-! ### Distances -/

namespace Shift

/-- A count as a distance, or the greatest distance if the count is too large. -/
def ofCount (n : UInt64) : Int64 := .ofIntClamp n.toNat

/-- The sum of two distances, moved to the nearest distance that a word holds. -/
def add (a b : Int64) : Int64 := .ofIntClamp (a.toInt + b.toInt)

/-- The distance the other way, moved to the nearest distance that a word holds. -/
def neg (a : Int64) : Int64 := .ofIntClamp (-a.toInt)

/-- A number as a distance, if a word holds it. -/
def ofInt? (n : Int) : Option Int64 :=
  if -2 ^ 63 ≤ n ∧ n ≤ 2 ^ 63 - 1 then some (.ofIntClamp n) else none

theorem toInt_ofIntClamp (n : Int) : (Int64.ofIntClamp n).toInt = clampTo (-2 ^ 63) (2 ^ 63 - 1) n := by
  have hmin : Int64.minValue.toInt = -2 ^ 63 := rfl
  have hmax : Int64.maxValue.toInt = 2 ^ 63 - 1 := rfl
  rw [Int64.ofIntClamp, clampTo]
  split
  · split
    · rw [Int64.toInt_ofIntLE]
      omega
    · omega
  · omega

@[simp] theorem toInt_ofCount (n : UInt64) : (ofCount n).toInt = min n.toNat (2 ^ 63 - 1) := by
  rw [ofCount, toInt_ofIntClamp, clampTo]
  omega

@[simp] theorem toInt_add (a b : Int64) :
    (add a b).toInt = clampTo (-2 ^ 63) (2 ^ 63 - 1) (a.toInt + b.toInt) :=
  toInt_ofIntClamp _

@[simp] theorem toInt_neg (a : Int64) :
    (neg a).toInt = clampTo (-2 ^ 63) (2 ^ 63 - 1) (-a.toInt) :=
  toInt_ofIntClamp _

/-- **A number that a word holds is kept as it is.** -/
theorem exists_ofInt? {n : Int} (h : -2 ^ 63 ≤ n) (h' : n ≤ 2 ^ 63 - 1) :
    ∃ a, ofInt? n = some a ∧ a.toInt = n := by
  refine ⟨.ofIntClamp n, if_pos ⟨h, h'⟩, ?_⟩
  rw [toInt_ofIntClamp, clampTo]
  omega

end Shift

end Concordance
