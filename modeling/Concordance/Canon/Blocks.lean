/-!
# Consecutive blocks

Items numbered through a row of blocks, each block starting where the one before it ends. Books and
chapters are both such rows, so one pair of functions serves at both levels.

## Main definitions

* `Blocks.total`: how many items there are
* `Blocks.start`: the number of a block's first item
* `Blocks.locate`: the block of an item, and the item's place in it

## Main results

* `Blocks.locate_start_add`, `Blocks.start_add_locate`: the two are inverse to each other
-/

namespace Concordance

namespace Blocks

/-- How many items all blocks hold together. -/
def total : List Nat → Nat
  | [] => 0
  | size :: sizes => size + total sizes

/-- The number of the first item of block `i`. -/
def start (sizes : List Nat) (i : Nat) : Nat := total (sizes.take i)

/-- The block that holds item `n`, and the place of the item in it. -/
def locate : List Nat → Nat → Nat × Nat
  | [], n => (0, n)
  | size :: sizes, n =>
    if n < size then (0, n) else
      let (i, k) := locate sizes (n - size)
      (i + 1, k)

@[simp] theorem start_zero (sizes : List Nat) : start sizes 0 = 0 := by simp [start, total]

@[simp] theorem start_cons_succ (size : Nat) (sizes : List Nat) (i : Nat) :
    start (size :: sizes) (i + 1) = size + start sizes i := by simp [start, total]

/-- The place of an item that is known to lie in block `i`. -/
theorem locate_start_add {sizes : List Nat} {i k : Nat} (h : i < sizes.length)
    (hk : k < sizes[i]) : locate sizes (start sizes i + k) = (i, k) := by
  induction sizes generalizing i with
  | nil => simp at h
  | cons size sizes ih =>
    cases i with
    | zero => simp_all [locate]
    | succ i =>
      have hi : i < sizes.length := by simpa using h
      have hnot : ¬ size + start sizes i + k < size := by omega
      have hsub : size + start sizes i + k - size = start sizes i + k := by omega
      simp [locate, hnot, hsub, ih hi (by simpa using hk)]

/-- Every item of the row lies in one of its blocks, at the place found. -/
theorem locate_lt {sizes : List Nat} {n : Nat} (h : n < total sizes) :
    ∃ hi : (locate sizes n).1 < sizes.length, (locate sizes n).2 < sizes[(locate sizes n).1] := by
  induction sizes generalizing n with
  | nil => simp [total] at h
  | cons size sizes ih =>
    by_cases hn : n < size
    · simp [locate, hn]
    · obtain ⟨hi, hk⟩ := ih (n := n - size) (by simp only [total] at h; omega)
      exact ⟨by simpa [locate, hn] using hi, by simpa [locate, hn] using hk⟩

/-- The number of an item is found again from its place. -/
theorem start_add_locate (sizes : List Nat) (n : Nat) :
    start sizes (locate sizes n).1 + (locate sizes n).2 = n := by
  induction sizes generalizing n with
  | nil => simp [locate]
  | cons size sizes ih =>
    by_cases hn : n < size
    · simp [locate, hn]
    · have := ih (n - size)
      simp only [locate, hn, if_false, start_cons_succ]
      omega

end Blocks

end Concordance
