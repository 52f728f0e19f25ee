import Concordance.Verse

/-!
# Sets of verses

A set of verses is a row of bits, one for each verse of the corpus. Two sets with the same members
are the same row of bits, so that equality of answers is equality of members, and set operations are
operations on bits.

## Main definitions

* `VerseSet`: a set of verses, with membership, union, intersection, difference and symmetric
  difference
* `VerseSet.toList`: the members in the order of the canon
* `VerseSet.between`: all verses from one to another

## Main results

* `VerseSet.ext`: sets with the same members are equal
* `VerseSet.mem_union`, `VerseSet.mem_inter`, `VerseSet.mem_sdiff`, `VerseSet.mem_symmDiff`,
  `VerseSet.mem_ofList`, `VerseSet.mem_toList`, `VerseSet.mem_between`: the members of each
-/

namespace Concordance

/-- A set of verses: bit `i` tells whether the verse with ordinal `i` belongs to it. -/
structure VerseSet where
  /-- One bit for each verse. -/
  bits : BitVec corpusSize
deriving DecidableEq

namespace VerseSet

instance : Membership Verse VerseSet := ⟨fun s v => s.bits.getLsbD v.ordinal = true⟩

instance (v : Verse) (s : VerseSet) : Decidable (v ∈ s) :=
  inferInstanceAs (Decidable (s.bits.getLsbD v.ordinal = true))

theorem mem_def {v : Verse} {s : VerseSet} : v ∈ s ↔ s.bits.getLsbD v.ordinal = true := Iff.rfl

/-- Sets with the same members are equal. -/
@[ext] theorem ext {s t : VerseSet} (h : ∀ v, v ∈ s ↔ v ∈ t) : s = t := by
  have : s.bits = t.bits := by
    apply BitVec.eq_of_getLsbD_eq
    intro i hi
    have := h ⟨i, hi⟩
    exact Bool.eq_iff_iff.2 this
  obtain ⟨a⟩ := s
  obtain ⟨b⟩ := t
  exact congrArg mk this

/-! ### Operations -/

/-- The set without members. -/
def empty : VerseSet := ⟨0⟩

instance : EmptyCollection VerseSet := ⟨empty⟩

instance : Inhabited VerseSet := ⟨∅⟩

instance : Union VerseSet := ⟨fun s t => ⟨s.bits ||| t.bits⟩⟩

instance : Inter VerseSet := ⟨fun s t => ⟨s.bits &&& t.bits⟩⟩

instance : SDiff VerseSet := ⟨fun s t => ⟨s.bits &&& ~~~t.bits⟩⟩

/-- The verses that belong to one of two sets but not to both. -/
def symmDiff (s t : VerseSet) : VerseSet := ⟨s.bits ^^^ t.bits⟩

/-- Whether there are no members. -/
def isEmpty (s : VerseSet) : Bool := s.bits == 0

/-- The set of one verse. -/
def singleton (v : Verse) : VerseSet := ⟨BitVec.twoPow corpusSize v.ordinal⟩

instance : Singleton Verse VerseSet := ⟨singleton⟩

/-- A set with one more verse. -/
def insert (s : VerseSet) (v : Verse) : VerseSet := s ∪ {v}

/-- The set of the verses of a list. -/
def ofList (vs : List Verse) : VerseSet := vs.foldl insert ∅

/-- All verses from `v` to `w`, both included. -/
def between (v w : Verse) : VerseSet :=
  ⟨BitVec.ofNat corpusSize (((1 <<< (w.ordinal + 1 - v.ordinal)) - 1) <<< v.ordinal)⟩

/-- The whole corpus. -/
def full : VerseSet := between .first .last

/-- The union of the sets that `f` gives for the elements of a list. -/
def unionOf {α : Type} (f : α → VerseSet) (xs : List α) : VerseSet :=
  xs.foldl (fun s x => s ∪ f x) ∅

/-! ### Members in order -/

/-- The positions, counted from `base`, of the bits that are set among the lowest `1 <<< depth`. Halves
without set bits are passed over at once. -/
def bitPositions : (depth base bits : Nat) → List Nat
  | 0, base, bits => if bits % 2 = 1 then [base] else []
  | depth + 1, base, bits =>
    if bits = 0 then [] else
      let half := 1 <<< depth
      bitPositions depth base (bits % (1 <<< half)) ++ bitPositions depth (base + half) (bits >>> half)

/-- The members in the order of the canon. -/
def toList (s : VerseSet) : List Verse :=
  (bitPositions 15 0 s.bits.toNat).map .ofOrdinal

/-- How many members there are. -/
def size (s : VerseSet) : Nat := s.toList.length

/-! ### Members of each operation -/

@[simp] theorem notMem_empty (v : Verse) : ¬ v ∈ (∅ : VerseSet) := by
  change ¬ (0 : BitVec corpusSize).getLsbD v.ordinal = true
  simp

@[simp] theorem mem_union {v : Verse} {s t : VerseSet} : v ∈ s ∪ t ↔ v ∈ s ∨ v ∈ t := by
  change (s.bits ||| t.bits).getLsbD v.ordinal = true ↔ _
  simp [mem_def]

@[simp] theorem mem_inter {v : Verse} {s t : VerseSet} : v ∈ s ∩ t ↔ v ∈ s ∧ v ∈ t := by
  change (s.bits &&& t.bits).getLsbD v.ordinal = true ↔ _
  simp [mem_def]

@[simp] theorem mem_sdiff {v : Verse} {s t : VerseSet} : v ∈ s \ t ↔ v ∈ s ∧ ¬ v ∈ t := by
  change (s.bits &&& ~~~t.bits).getLsbD v.ordinal = true ↔ _
  simp [mem_def, v.ordinal_lt]

@[simp] theorem mem_symmDiff {v : Verse} {s t : VerseSet} :
    v ∈ symmDiff s t ↔ ¬ (v ∈ s ↔ v ∈ t) := by
  change (s.bits ^^^ t.bits).getLsbD v.ordinal = true ↔ _
  simp only [BitVec.getLsbD_xor, mem_def]
  cases s.bits.getLsbD v.ordinal <;> cases t.bits.getLsbD v.ordinal <;> simp

@[simp] theorem mem_singleton {v w : Verse} : v ∈ ({w} : VerseSet) ↔ v = w := by
  change (BitVec.twoPow corpusSize w.ordinal).getLsbD v.ordinal = true ↔ _
  have := v.ordinal_lt
  simp only [BitVec.getLsbD_twoPow, Bool.and_eq_true, decide_eq_true_eq]
  constructor
  · intro h; exact Verse.ext h.2.symm
  · rintro rfl; exact ⟨this, rfl⟩

@[simp] theorem mem_insert {v w : Verse} {s : VerseSet} : v ∈ s.insert w ↔ v ∈ s ∨ v = w := by
  simp [insert]

theorem mem_foldl_insert {v : Verse} {s : VerseSet} {vs : List Verse} :
    v ∈ vs.foldl insert s ↔ v ∈ s ∨ v ∈ vs := by
  induction vs generalizing s with
  | nil => simp
  | cons w vs ih => simp [ih, or_assoc]

@[simp] theorem mem_ofList {v : Verse} {vs : List Verse} : v ∈ ofList vs ↔ v ∈ vs := by
  simp [ofList, mem_foldl_insert]

@[simp] theorem mem_between {u v w : Verse} : u ∈ between v w ↔ v ≤ u ∧ u ≤ w := by
  change (BitVec.ofNat corpusSize _).getLsbD u.ordinal = true ↔ v.ordinal ≤ u.ordinal ∧ u.ordinal ≤ w.ordinal
  have := u.ordinal_lt
  simp only [BitVec.getLsbD_ofNat, Nat.testBit_shiftLeft, Nat.one_shiftLeft,
    Nat.testBit_two_pow_sub_one,
    Bool.and_eq_true, decide_eq_true_eq]
  omega

@[simp] theorem mem_full (v : Verse) : v ∈ full := by
  have := v.ordinal_lt
  simp only [full, mem_between]
  change min 0 (corpusSize - 1) ≤ v.ordinal ∧ v.ordinal ≤ min (corpusSize - 1) (corpusSize - 1)
  omega

theorem mem_foldl_union {α : Type} {f : α → VerseSet} {v : Verse} {s : VerseSet} {xs : List α} :
    v ∈ xs.foldl (fun s x => s ∪ f x) s ↔ v ∈ s ∨ ∃ x ∈ xs, v ∈ f x := by
  induction xs generalizing s with
  | nil => simp
  | cons x xs ih => simp [ih, or_assoc]

@[simp] theorem mem_unionOf {α : Type} {f : α → VerseSet} {v : Verse} {xs : List α} :
    v ∈ unionOf f xs ↔ ∃ x ∈ xs, v ∈ f x := by
  simp [unionOf, mem_foldl_union]

theorem isEmpty_iff {s : VerseSet} : s.isEmpty = true ↔ s = ∅ := by
  cases s with
  | mk bits =>
    change (bits == 0) = true ↔ VerseSet.mk bits = VerseSet.mk 0
    simp

theorem mem_bitPositions {depth base bits n : Nat} :
    n ∈ bitPositions depth base bits ↔ ∃ i < 1 <<< depth, bits.testBit i = true ∧ n = base + i := by
  induction depth generalizing base bits with
  | zero =>
    simp only [bitPositions, Nat.shiftLeft_zero, Nat.lt_one_iff, exists_eq_left, Nat.testBit_zero,
      decide_eq_true_eq, Nat.add_zero]
    split <;> simp_all
  | succ depth ih =>
    by_cases hb : bits = 0
    · simp [bitPositions, hb]
    · simp only [bitPositions, hb, if_false, List.mem_append, ih, Nat.one_shiftLeft,
        Nat.testBit_mod_two_pow, Nat.testBit_shiftRight, Bool.and_eq_true, decide_eq_true_eq, Nat.pow_succ]
      constructor
      · rintro (⟨i, hi, ⟨-, ht⟩, rfl⟩ | ⟨i, hi, ht, rfl⟩)
        · exact ⟨i, by omega, ht, rfl⟩
        · exact ⟨2 ^ depth + i, by omega, ht, by omega⟩
      · rintro ⟨i, hi, ht, rfl⟩
        by_cases h : i < 2 ^ depth
        · exact .inl ⟨i, h, ⟨h, ht⟩, rfl⟩
        · exact .inr ⟨i - 2 ^ depth, by omega, by rwa [Nat.add_sub_cancel' (by omega)], by omega⟩

/-- The list of members holds exactly the members. -/
@[simp] theorem mem_toList {v : Verse} {s : VerseSet} : v ∈ s.toList ↔ v ∈ s := by
  have hv := v.ordinal_lt
  simp only [toList, List.mem_map, mem_bitPositions, mem_def, BitVec.getLsbD]
  constructor
  · rintro ⟨n, ⟨i, hi, ht, rfl⟩, rfl⟩
    have : i < corpusSize := by
      apply Decidable.byContradiction
      intro hge
      rw [Nat.testBit_lt_two_pow (Nat.lt_of_lt_of_le s.bits.isLt
        (Nat.pow_le_pow_right (by decide) (by omega)))] at ht
      exact absurd ht (by simp)
    simp only [Verse.ordinal_ofOrdinal, Nat.zero_add]
    rwa [Nat.min_eq_left (by omega)]
  · intro ht
    exact ⟨v.ordinal, ⟨v.ordinal, by simp only [corpusSize] at hv; omega, ht, by omega⟩, by simp⟩

end VerseSet

end Concordance
