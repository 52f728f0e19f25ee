import Concordance.Passage.Context
import Concordance.Proofs.Verse.Location

/-!
# The verses around a set

Widening a set adds the verses that are near a member, however large the count is: a distance that is cut
to what a word holds still reaches past the ends of the corpus, where every move stops.

## Main definitions

* `Verse.SameChapter` — two verses stand in one chapter

## Main results

* `Verse.shift?_eq`, `Passage.around?_ofCount` — numbers in words lead to the same verses
* `Passage.mem_around`, `Passage.mem_chapterOf` — the verses near a verse, and those of its chapter
* `VerseSet.widen_widen` — widening twice is widening once, by the sum
* `VerseSet.context?_exact` — the verses around a set are found for every count
-/

namespace Concordance

namespace Verse

/-- Two verses stand in one chapter. -/
def SameChapter (v w : Verse) : Prop :=
  v.location.book = w.location.book ∧ v.location.chapter = w.location.chapter

/-! ### Moving -/

theorem ordinal_offset (v : Verse) (n : Int) :
    (v.offset n).ordinal = min (v.ordinal + n).toNat (corpusSize - 1) := rfl

/-- **A move in words leads to the same verse**, with no number lost on the way. -/
theorem shift?_eq (v : Verse) (n : Int64) : v.shift? n = some (v.offset n.toInt) := by
  have hv := v.ordinal_lt
  have hsize : corpusSize = 31102 := rfl
  obtain ⟨size, hsize?, hsizeInt⟩ := Shift.exists_ofInt? (n := corpusSize) (by omega) (by omega)
  obtain ⟨last, hlast?, hlastInt⟩ := Shift.exists_ofInt? (n := size.toInt - 1) (by omega) (by omega)
  obtain ⟨here, hhere?, hhereInt⟩ := Shift.exists_ofInt? (n := v.ordinal) (by omega) (by omega)
  have hmoved : clampTo 0 last.toInt (Shift.add here n).toInt = (v.offset n.toInt).ordinal := by
    rw [Shift.toInt_add, ordinal_offset, hhereInt]
    simp only [clampTo]
    omega
  simp only [shift?, hsize?, hlast?, hhere?, hmoved, Option.bind_eq_bind, Option.bind_some]
  rw [ofOrdinal?, dif_pos ⟨by omega, by exact_mod_cast (v.offset n.toInt).ordinal_lt⟩]
  simp only [Int.toNat_natCast]

/-- Beyond the ends of the corpus no move leads further. -/
theorem offset_clampTo (v : Verse) (low high : Int) (hlow : low ≤ -corpusSize) (hhigh : corpusSize ≤ high)
    (n : Int) : v.offset (clampTo low high n) = v.offset n := by
  have hv := v.ordinal_lt
  ext
  simp only [ordinal_offset, clampTo]
  omega

end Verse

namespace Passage

/-! ### Verses near a verse -/

theorem mem_ofEnds {u v w : Verse} (h : v ≤ w) : u ∈ ofEnds v w ↔ v ≤ u ∧ u ≤ w := by
  rw [ofEnds, dif_pos h]
  rfl

/-- **The verses near a verse** are those at most as far away as the count says. -/
theorem mem_around {v w : Verse} {count : Nat} :
    v ∈ around w count ↔ (w.distance v).natAbs ≤ count := by
  have hv := v.ordinal_lt
  have hw := w.ordinal_lt
  have hle : w.offset (-count) ≤ w.offset count := by
    change (w.offset (-count)).ordinal ≤ (w.offset count).ordinal
    simp only [Verse.ordinal_offset]
    omega
  rw [around, mem_ofEnds hle]
  change (w.offset (-count)).ordinal ≤ v.ordinal ∧ v.ordinal ≤ (w.offset count).ordinal ↔ _
  simp only [Verse.ordinal_offset, Verse.distance]
  omega

/-- **Counts in words reach as far as they say.** -/
theorem around?_ofCount (v : Verse) (count : UInt64) :
    around? v (Shift.ofCount count) = some (around v count.toNat) := by
  have hsize : corpusSize = 31102 := rfl
  have hforward : v.offset (Shift.ofCount count).toInt = v.offset count.toNat := by
    rw [← v.offset_clampTo (-2 ^ 63) (2 ^ 63 - 1) (by omega) (by omega) count.toNat,
      Shift.toInt_ofCount, clampTo]
    congr 1
    omega
  have hback : v.offset (Shift.neg (Shift.ofCount count)).toInt = v.offset (-count.toNat) := by
    rw [← v.offset_clampTo (-(2 ^ 63 - 1)) (2 ^ 63 - 1) (by omega) (by omega) (-count.toNat),
      Shift.toInt_neg, Shift.toInt_ofCount, clampTo, clampTo]
    congr 1
    omega
  simp only [around?, Verse.shift?_eq, hforward, hback, Option.bind_eq_bind, Option.bind_some]
  rfl

/-! ### Verses of a chapter -/

/-- The verses of a chapter are numbered without gaps. -/
theorem mem_chapterOf_iff_ordinal {v w : Verse} : v ∈ chapterOf w ↔
    Verse.ordinalAt ⟨w.location.book, w.location.chapter, 1⟩ ≤ v.ordinal ∧
      v.ordinal < Verse.ordinalAt ⟨w.location.book, w.location.chapter, 1⟩
        + lastVerse w.location.book w.location.chapter := by
  have hplace := w.location_exists
  have hpos : 1 ≤ lastVerse w.location.book w.location.chapter :=
    Nat.le_trans hplace.verse_pos hplace.verse_le_lastVerse
  have hstart := Verse.ordinal_atLocation (hplace.withVerse (Nat.le_refl 1) hpos)
  have hend := Verse.ordinal_atLocation (hplace.withVerse hpos (Nat.le_refl _))
  have hsize : Verse.ordinalAt
      ⟨w.location.book, w.location.chapter, lastVerse w.location.book w.location.chapter⟩ + 1
      = Verse.ordinalAt ⟨w.location.book, w.location.chapter, 1⟩
        + lastVerse w.location.book w.location.chapter := by
    simp only [Verse.ordinalAt]
    omega
  have hle : w.chapterStart ≤ w.lastInChapter := by
    change w.chapterStart.ordinal ≤ w.lastInChapter.ordinal
    rw [Verse.chapterStart, Verse.lastInChapter, hstart, hend]
    omega
  rw [chapterOf, mem_ofEnds hle]
  change w.chapterStart.ordinal ≤ v.ordinal ∧ v.ordinal ≤ w.lastInChapter.ordinal ↔ _
  rw [Verse.chapterStart, Verse.lastInChapter, hstart, hend]
  omega

/-- **The verses of a chapter.** -/
theorem mem_chapterOf {v w : Verse} : v ∈ chapterOf w ↔ v.SameChapter w := by
  rw [mem_chapterOf_iff_ordinal]
  constructor
  · rintro ⟨hle, hlt⟩
    -- the verse is told by how far it lies behind the first one
    obtain ⟨k, hk⟩ : ∃ k, v.ordinal = Verse.ordinalAt ⟨w.location.book, w.location.chapter, 1⟩ + k :=
      Nat.exists_eq_add_of_le hle
    have hplace := w.location_exists.withVerse (k := k + 1) (by omega) (by omega)
    have hv : v = Verse.atLocation ⟨w.location.book, w.location.chapter, k + 1⟩ := by
      ext
      rw [Verse.ordinal_atLocation hplace, hk]
      simp only [Verse.ordinalAt]
      omega
    rw [Verse.SameChapter, hv, Verse.location_atLocation hplace]
    exact ⟨rfl, rfl⟩
  · rintro ⟨hbook, hchapter⟩
    have hpos := v.location_exists.verse_pos
    have hle := v.location_exists.verse_le_lastVerse
    rw [hbook, hchapter] at hle
    rw [← v.ordinalAt_location]
    simp only [Verse.ordinalAt, hbook, hchapter]
    omega

end Passage

namespace VerseSet

/-! ### Widening -/

/-- **The members of a widened set.** -/
theorem mem_widen {s : VerseSet} {count : Nat} {wholeChapters : Bool} {v : Verse} :
    v ∈ s.widen count wholeChapters ↔
      (∃ w ∈ s, (w.distance v).natAbs ≤ count) ∨
        (wholeChapters = true ∧ ∃ w ∈ s, v.SameChapter w) := by
  cases wholeChapters with
  | false => simp [widen, Passage.mem_around]
  | true =>
    simp only [widen, if_true, mem_unionOf, mem_toList, mem_union, Passage.mem_toSet,
      Passage.mem_around, Passage.mem_chapterOf, true_and]
    constructor
    · rintro ⟨w, hw, hsame | hnear⟩
      · exact .inr ⟨w, hw, hsame⟩
      · exact .inl ⟨w, hw, hnear⟩
    · rintro (⟨w, hw, hnear⟩ | ⟨w, hw, hsame⟩)
      · exact ⟨w, hw, .inr hnear⟩
      · exact ⟨w, hw, .inl hsame⟩

theorem mem_widen_false {s : VerseSet} {count : Nat} {v : Verse} :
    v ∈ s.widen count false ↔ ∃ w ∈ s, (w.distance v).natAbs ≤ count := by
  rw [mem_widen]
  simp

/-- A count beyond the size of the corpus adds nothing to one that reaches it. -/
theorem widen_min (s : VerseSet) (a : Nat) {limit : Nat} (h : corpusSize ≤ limit) :
    s.widen (min a limit) false = s.widen a false := by
  ext v
  have hv := v.ordinal_lt
  simp only [mem_widen_false]
  refine exists_congr fun w => and_congr_right fun _ => ?_
  have hw := w.ordinal_lt
  rw [Verse.distance]
  omega

/-- **Widening twice is widening once**, by the sum of the counts. -/
theorem widen_widen (s : VerseSet) (a b : Nat) :
    (s.widen a false).widen b false = s.widen (a + b) false := by
  ext v
  simp only [mem_widen_false]
  constructor
  · rintro ⟨w, ⟨u, hu, hwu⟩, hvw⟩
    refine ⟨u, hu, ?_⟩
    rw [Verse.distance] at *
    omega
  · rintro ⟨u, hu, hvu⟩
    -- on the way from `u` to `v`, the verse that is `a` places from `u`, or `v` itself
    have hbetween := Verse.ordinal_offset u (clampTo (-a) a (u.distance v))
    have hlt := v.ordinal_lt
    have hlt' := u.ordinal_lt
    refine ⟨u.offset (clampTo (-a) a (u.distance v)), ⟨u, hu, ?_⟩, ?_⟩
    · rw [Verse.distance, hbetween]
      simp only [clampTo, Verse.distance] at *
      omega
    · rw [Verse.distance, hbetween]
      simp only [clampTo, Verse.distance] at *
      omega

/-! ### Numbers in words -/

theorem length_bitPositions_le (depth base bits : Nat) :
    (bitPositions depth base bits).length ≤ 2 ^ depth := by
  induction depth generalizing base bits with
  | zero =>
    rw [bitPositions]
    split <;> simp
  | succ depth ih =>
    rw [bitPositions]
    split
    · exact Nat.zero_le _
    · rw [List.length_append, Nat.pow_succ, Nat.mul_two]
      exact Nat.add_le_add (ih _ _) (ih _ _)

/-- The size of a set is a count that a word holds. -/
theorem toNat_size (s : VerseSet) : (UInt64.ofNat s.size).toNat = s.size := by
  have hsize : s.size ≤ 2 ^ 15 := by
    rw [size, toList, List.length_map]
    exact length_bitPositions_le 15 0 _
  rw [UInt64.toNat_ofNat_of_lt']
  exact Nat.lt_of_le_of_lt hsize (by decide)

/-- **The room that is made is what is needed**, no matter how large the count is. -/
theorem toNat_contextCapacity (s : VerseSet) (count : UInt64) :
    (s.contextCapacity count).toNat = min (s.size * (2 * count.toNat + 1)) corpusSize := by
  have hcorpus : (UInt64.ofNat corpusSize).toNat = corpusSize := rfl
  have hsize : corpusSize = 31102 := rfl
  have htwo : (2 : UInt64).toNat = 2 := rfl
  have hone : (1 : UInt64).toNat = 1 := rfl
  rw [contextCapacity, Count.toNat_min, Count.toNat_mul, Count.toNat_add, Count.toNat_mul, toNat_size,
    hcorpus, htwo, hone]
  rcases Nat.eq_zero_or_pos s.size with h | h
  · rw [h]
    omega
  · rcases Nat.lt_or_ge (2 * count.toNat + 1) (2 ^ 64) with hcount | hcount
    · -- nothing is cut before the last product
      rw [show min (min (count.toNat * 2) (2 ^ 64 - 1) + 1) (2 ^ 64 - 1) = 2 * count.toNat + 1 by omega]
      omega
    · -- what is left of the count still reaches beyond the corpus
      rw [show min (min (count.toNat * 2) (2 ^ 64 - 1) + 1) (2 ^ 64 - 1) = 2 ^ 64 - 1 by omega]
      have hcut := Nat.le_mul_of_pos_left (2 ^ 64 - 1) h
      have hfull := Nat.le_mul_of_pos_left (2 * count.toNat + 1) h
      omega

/-- **The verses around a set are found in words**, with no number lost on the way. -/
theorem context?_eq_widen (s : VerseSet) (count : UInt64) (wholeChapters : Bool) :
    s.context? count wholeChapters = some (s.widen count.toNat wholeChapters) := by
  simp only [context?, Passage.around?_ofCount, Option.bind_eq_bind, Option.bind_some, widen, unionOf]
  exact List.foldlM_pure

/-- **The verses around a set.** There is a result for every count, with room for the verses near each
member, at most for the whole corpus. It consists of the verses at most `count` places from a member and,
with whole chapters, of those that stand in one chapter with a member. Finding the verses around these
again is finding those of the sum, as far as a word holds it. -/
theorem context?_exact (s : VerseSet) :
    (∀ (count : UInt64) (wholeChapters : Bool),
      (s.contextCapacity count).toNat = min (s.size * (2 * count.toNat + 1)) corpusSize ∧
      ∃ t, s.context? count wholeChapters = some t ∧ t = s.widen count.toNat wholeChapters ∧
        ∀ v, v ∈ t ↔ (∃ w ∈ s, (w.distance v).natAbs ≤ count.toNat) ∨
          (wholeChapters = true ∧ ∃ w ∈ s, v.SameChapter w)) ∧
    ∀ a b : UInt64,
      (s.context? a false).bind (·.context? b false) = s.context? (Count.add a b) false := by
  refine ⟨fun count wholeChapters => ⟨s.toNat_contextCapacity count, _,
    s.context?_eq_widen count wholeChapters, rfl, fun v => mem_widen⟩, fun a b => ?_⟩
  simp only [context?_eq_widen, Option.bind_some, Count.toNat_add]
  rw [widen_widen, widen_min _ _ (by decide)]

end VerseSet

end Concordance
