import Mathlib.Data.List.Sort
import Concordance.Passage.Places
import Concordance.Proofs.Passage.Context

/-!
# Passages as lists

A passage is the ascending list of its verses, and is indexed and sliced as this list is. Places count from
the end of the list when they are negative; an item is in a slice if its place lies between the bounds, and
nothing need be said of bounds past the ends of the list.

## Main definitions

* `Sequence.itemAt` — the item of a list at a place
* `Sequence.slice` — the items of a list between two places

## Main results

* `Passage.get?_eq`, `Passage.indexOf?_eq_some_iff`, `Passage.toList_slice?` — places in a passage
* `Passage.verseAt?_eq`, `Passage.cut?_eq`, `Passage.indexIn?_eq` — the same with numbers in words
* `Passage.places_exact` — a passage is indexed and sliced as the list of its verses
-/

namespace Concordance

/-! ### Places in lists -/

namespace Sequence

variable {α : Type}

/-- A place in a list, counted from the end of the list if it is negative. -/
def fromStart (size : Nat) (i : Int) : Int := if i < 0 then size + i else i

/-- The item of a list at a place. -/
def itemAt (l : List α) (i : Int) : Option α :=
  if 0 ≤ fromStart l.length i then l[(fromStart l.length i).toNat]? else none

/-- Whether the place `k` of a list lies between two bounds, the second of which is excluded. -/
def isWithin (size : Nat) (start stop : Option Int) (k : Nat) : Bool :=
  start.all (fromStart size · ≤ k) && stop.all (k < fromStart size ·)

/-- The items of a list between two places. -/
def slice (l : List α) (start stop : Option Int) : List α :=
  ((List.range l.length).filter (isWithin l.length start stop)).filterMap (l[·]?)

theorem mem_slice {l : List α} {start stop : Option Int} {x : α} :
    x ∈ slice l start stop ↔ ∃ k, l[k]? = some x ∧ isWithin l.length start stop k = true := by
  rw [slice, List.mem_filterMap]
  simp only [List.mem_filter, List.mem_range]
  constructor
  · rintro ⟨k, ⟨-, hk⟩, hx⟩
    exact ⟨k, hx, hk⟩
  · rintro ⟨k, hx, hk⟩
    exact ⟨k, ⟨(List.getElem?_eq_some_iff.mp hx).1, hk⟩, hx⟩

example : slice [1, 2, 3, 4, 5] (some (-4)) (some (-1)) = [2, 3, 4] := by decide

/-- A slice is in the order of the list. -/
theorem pairwise_slice {r : α → α → Prop} {l : List α} (h : l.Pairwise r) (start stop : Option Int) :
    (slice l start stop).Pairwise r := by
  rw [slice, List.pairwise_filterMap]
  refine (List.pairwise_lt_range.filter _).imp fun {i j} hlt x hx y hy => ?_
  obtain ⟨hi, rfl⟩ := List.getElem?_eq_some_iff.mp hx
  obtain ⟨hj, rfl⟩ := List.getElem?_eq_some_iff.mp hy
  exact List.pairwise_iff_getElem.mp h i j hi hj hlt

end Sequence

namespace Verse

instance : Std.Irrefl (α := Verse) (· < ·) := ⟨fun v => Nat.lt_irrefl v.ordinal⟩

instance : Std.Antisymm (α := Verse) (· < ·) :=
  ⟨fun _ _ h h' => absurd h' (Nat.lt_asymm h)⟩

end Verse

namespace Passage

variable {p : Passage} {v : Verse} {k : Nat}

/-! ### The list of verses -/

theorem ordinal_le (p : Passage) : p.lower.ordinal ≤ p.upper.ordinal := p.lower_le_upper

theorem size_eq (p : Passage) : p.lower.ordinal + p.size = p.upper.ordinal + 1 := by
  have hle := p.ordinal_le
  rw [size]
  omega

@[simp] theorem length_toList (p : Passage) : p.toList.length = p.size := by
  rw [toList, List.length_map, List.length_range']

/-- The verse at a place is told by its ordinal. -/
theorem getElem?_toList_eq_some_iff :
    p.toList[k]? = some v ↔ v ∈ p ∧ v.ordinal = p.lower.ordinal + k := by
  have hsize := p.size_eq
  have hupper := p.upper.ordinal_lt
  have hv := v.ordinal_lt
  have hmem : v ∈ p ↔ p.lower.ordinal ≤ v.ordinal ∧ v.ordinal ≤ p.upper.ordinal := Iff.rfl
  rw [toList, List.getElem?_map, hmem]
  by_cases hk : k < p.size
  · rw [List.getElem?_range' hk, Option.map_some, Option.some_inj, Verse.ext_iff, Verse.ordinal_ofOrdinal]
    omega
  · rw [List.getElem?_eq_none (by rw [List.length_range']; omega)]
    simp only [Option.map_none, reduceCtorEq, false_iff]
    omega

/-- **The verses of the list** are those of the passage. -/
theorem mem_toList : v ∈ p.toList ↔ v ∈ p := by
  rw [List.mem_iff_getElem?]
  simp only [getElem?_toList_eq_some_iff, exists_and_left, and_iff_left_iff_imp]
  exact fun h => Nat.exists_eq_add_of_le h.1

/-- **The list is ascending.** -/
theorem pairwise_toList (p : Passage) : p.toList.Pairwise (· < ·) := by
  rw [List.pairwise_iff_getElem]
  intro i j hi hj hlt
  have hi' := getElem?_toList_eq_some_iff.mp (List.getElem?_eq_getElem hi)
  have hj' := getElem?_toList_eq_some_iff.mp (List.getElem?_eq_getElem hj)
  change p.toList[i].ordinal < p.toList[j].ordinal
  rw [hi'.2, hj'.2]
  exact Nat.add_lt_add_left hlt _

/-- A passage is told by its list. -/
theorem toList_injective {q : Passage} (h : p.toList = q.toList) : p = q := by
  have hmem : ∀ v, v ∈ p ↔ v ∈ q := fun v => by rw [← mem_toList, h, mem_toList]
  obtain ⟨lower, upper, hle⟩ := p
  obtain ⟨lower', upper', hle'⟩ := q
  have hlower : lower = lower' := Verse.ext <|
    Nat.le_antisymm ((hmem lower').mpr ⟨Nat.le_refl _, hle'⟩).1 ((hmem lower).mp ⟨Nat.le_refl _, hle⟩).1
  have hupper : upper = upper' := Verse.ext <|
    Nat.le_antisymm ((hmem upper).mp ⟨hle, Nat.le_refl _⟩).2 ((hmem upper').mpr ⟨hle', Nat.le_refl _⟩).2
  subst hlower hupper
  rfl

/-! ### Places -/

/-- **The place of a verse.** -/
theorem indexOf?_eq_some_iff : p.indexOf? v = some k ↔ p.toList[k]? = some v := by
  rw [getElem?_toList_eq_some_iff, indexOf?]
  by_cases h : v ∈ p
  · have hle : p.lower.ordinal ≤ v.ordinal := h.1
    rw [if_pos h, Option.some_inj, and_iff_right h]
    omega
  · simp [h]

/-- Within a passage, moving on from its first verse stays in it. -/
theorem ordinal_offset {n : Int} (h : 0 ≤ n) (h' : n < p.size) :
    ((p.lower.offset n).ordinal : Int) = p.lower.ordinal + n := by
  have hsize := p.size_eq
  have hupper := p.upper.ordinal_lt
  rw [Verse.ordinal_offset]
  omega

/-- **The verse at a place.** -/
theorem get?_eq (i : Int) : p.get? i = Sequence.itemAt p.toList i := by
  have hsize := p.size_eq
  have hget : p.get? i = if 0 ≤ Sequence.fromStart p.size i ∧ Sequence.fromStart p.size i < p.size then
    some (p.lower.offset (Sequence.fromStart p.size i)) else none := rfl
  rw [hget, Sequence.itemAt, length_toList]
  generalize Sequence.fromStart p.size i = n
  by_cases hpos : 0 ≤ n
  · rw [if_pos hpos]
    by_cases hlt : n < p.size
    · have hordinal := ordinal_offset hpos hlt
      rw [if_pos ⟨hpos, hlt⟩, eq_comm, getElem?_toList_eq_some_iff]
      refine ⟨⟨?_, ?_⟩, by omega⟩
      · change p.lower.ordinal ≤ (p.lower.offset n).ordinal
        omega
      · change (p.lower.offset n).ordinal ≤ p.upper.ordinal
        omega
    · rw [if_neg fun h => hlt h.2, List.getElem?_eq_none (by rw [length_toList]; omega)]
  · rw [if_neg hpos, if_neg fun h => hpos h.1]

/-! ### Slices -/

/-- A bound of a slice lies in the passage, or is its end. -/
theorem sliceBound_mem (bound : Int) : 0 ≤ p.sliceBound bound ∧ p.sliceBound bound ≤ p.size := by
  rw [sliceBound]
  omega

/-- Cutting a bound to the passage does not change which places come before it. -/
theorem lt_sliceBound_iff (bound : Int) (hk : k < p.size) :
    (k : Int) < p.sliceBound bound ↔ k < Sequence.fromStart p.size bound := by
  rw [sliceBound, Sequence.fromStart]
  omega

/-- The place that a slice starts at. -/
def sliceStart (p : Passage) (start : Option Int) : Int := (start.map p.sliceBound).getD 0

/-- The place that a slice stops before. -/
def sliceStop (p : Passage) (stop : Option Int) : Int := (stop.map p.sliceBound).getD p.size

theorem slice?_eq_ite (start stop : Option Int) :
    p.slice? start stop = if p.sliceStart start < p.sliceStop stop then
      some (ofEnds (p.lower.offset (p.sliceStart start)) (p.lower.offset (p.sliceStop stop - 1)))
    else none := rfl

theorem sliceStart_nonneg (start : Option Int) : 0 ≤ p.sliceStart start := by
  cases start with
  | none => exact Int.le_refl 0
  | some bound => exact (sliceBound_mem bound).1

theorem sliceStop_le (stop : Option Int) : p.sliceStop stop ≤ p.size := by
  cases stop with
  | none => exact Int.le_refl _
  | some bound => exact (sliceBound_mem bound).2

/-- Which places of a passage are in a slice of it. -/
theorem isWithin_iff {start stop : Option Int} (hk : k < p.size) :
    Sequence.isWithin p.size start stop k = true ↔ p.sliceStart start ≤ k ∧ (k : Int) < p.sliceStop stop := by
  rw [Sequence.isWithin, Bool.and_eq_true]
  refine and_congr ?_ ?_
  · cases start with
    | none => simp [sliceStart]
    | some bound =>
      have hbound := lt_sliceBound_iff bound hk
      simp only [Option.all_some, decide_eq_true_eq, sliceStart, Option.map_some, Option.getD_some]
      omega
  · cases stop with
    | none => simp [sliceStop, hk]
    | some bound =>
      simp only [Option.all_some, decide_eq_true_eq, sliceStop, Option.map_some, Option.getD_some,
        lt_sliceBound_iff bound hk]

theorem mem_slice_toList {start stop : Option Int} : v ∈ Sequence.slice p.toList start stop ↔
    p.lower.ordinal + p.sliceStart start ≤ v.ordinal ∧ v.ordinal < p.lower.ordinal + p.sliceStop stop := by
  have hsize := p.size_eq
  have hstart := p.sliceStart_nonneg start
  have hstop := p.sliceStop_le stop
  rw [Sequence.mem_slice, length_toList]
  constructor
  · rintro ⟨k, hk, hwithin⟩
    have hlt : k < p.size := length_toList p ▸ (List.getElem?_eq_some_iff.mp hk).1
    rw [isWithin_iff hlt] at hwithin
    rw [(getElem?_toList_eq_some_iff.mp hk).2]
    omega
  · rintro ⟨hle, hlt⟩
    have hmem : v ∈ p := by
      change p.lower.ordinal ≤ v.ordinal ∧ v.ordinal ≤ p.upper.ordinal
      omega
    obtain ⟨k, hk⟩ := List.mem_iff_getElem?.mp (mem_toList.mpr hmem)
    have hplace := (getElem?_toList_eq_some_iff.mp hk).2
    refine ⟨k, hk, ?_⟩
    rw [isWithin_iff (by omega)]
    omega

/-- **The verses of a slice.** -/
theorem toList_slice? (start stop : Option Int) :
    ((p.slice? start stop).map toList).getD [] = Sequence.slice p.toList start stop := by
  have hsize := p.size_eq
  have hstart := p.sliceStart_nonneg start
  have hstop := p.sliceStop_le stop
  rw [slice?_eq_ite]
  refine List.Pairwise.eq_of_mem_iff (r := (· < ·)) ?_
    (Sequence.pairwise_slice p.pairwise_toList start stop) fun v => ?_
  · split
    · exact pairwise_toList _
    · exact .nil
  · rw [mem_slice_toList]
    split
    · rename_i hlt
      have hfirst := p.ordinal_offset hstart (by omega)
      have hlast := p.ordinal_offset (n := p.sliceStop stop - 1) (by omega) (by omega)
      have hle : p.lower.offset (p.sliceStart start) ≤ p.lower.offset (p.sliceStop stop - 1) := by
        change (p.lower.offset _).ordinal ≤ (p.lower.offset _).ordinal
        omega
      rw [Option.map_some, Option.getD_some, mem_toList, mem_ofEnds hle]
      change (p.lower.offset _).ordinal ≤ v.ordinal ∧ v.ordinal ≤ (p.lower.offset _).ordinal ↔ _
      omega
    · rw [Option.map_none, Option.getD_none]
      simp only [List.not_mem_nil, false_iff]
      omega

/-- A passage has a verse. -/
theorem toList_ne_nil (p : Passage) : p.toList ≠ [] :=
  List.ne_nil_of_mem (mem_toList.mpr ⟨Nat.le_refl _, p.lower_le_upper⟩)

theorem slice?_eq_none_iff {start stop : Option Int} :
    p.slice? start stop = none ↔ Sequence.slice p.toList start stop = [] := by
  rw [← toList_slice?]
  cases p.slice? start stop with
  | none => simp
  | some q => simp [toList_ne_nil]

theorem slice?_eq_some_iff {start stop : Option Int} {q : Passage} :
    p.slice? start stop = some q ↔ q.toList = Sequence.slice p.toList start stop := by
  rw [← toList_slice?]
  cases p.slice? start stop with
  | none => simp [toList_ne_nil]
  | some q' =>
    rw [Option.some_inj, Option.map_some, Option.getD_some]
    exact ⟨fun h => h ▸ rfl, fun h => (toList_injective h).symm⟩

end Passage

/-! ### Numbers in words -/

namespace Shift

/-- A distance that is not negative is the same number as a count. -/
theorem toNat_toUInt64 {d : Int64} (h : 0 ≤ d.toInt) : (d.toUInt64.toNat : Int) = d.toInt := by
  have hcond : d.toInt = if 2 * d.toUInt64.toNat < 2 ^ 64 then (d.toUInt64.toNat : Int)
      else d.toUInt64.toNat - (2 ^ 64 : Nat) := BitVec.toInt_eq_toNat_cond d.toBitVec
  have hlt := d.toUInt64.toNat_lt
  omega

/-- A count below the greatest distance is the same number as a distance. -/
theorem toInt_toInt64 {n : UInt64} (h : n.toNat < 2 ^ 63) : n.toInt64.toInt = n.toNat := by
  have hcond : n.toInt64.toInt = if 2 * n.toNat < 2 ^ 64 then (n.toNat : Int)
      else n.toNat - (2 ^ 64 : Nat) := BitVec.toInt_eq_toNat_cond n.toBitVec
  omega

theorem toInt_max (a b : Int64) : (max a b).toInt = max a.toInt b.toInt := by
  change (if a ≤ b then b else a).toInt = _
  simp only [Int64.le_iff_toInt_le]
  split <;> omega

theorem toInt_min (a b : Int64) : (min a b).toInt = min a.toInt b.toInt := by
  change (if a ≤ b then a else b).toInt = _
  simp only [Int64.le_iff_toInt_le]
  split <;> omega

end Shift

namespace Count

theorem exists_ofNat? {n : Nat} (h : n < 2 ^ 64) : ∃ a, ofNat? n = some a ∧ a.toNat = n :=
  ⟨.ofNat n, if_pos h, UInt64.toNat_ofNat_of_lt h⟩

end Count

namespace Verse

/-- **Between two verses no difference is lost.** -/
theorem exists_distance? (v w : Verse) : ∃ d, v.distance? w = some d ∧ d.toInt = v.distance w := by
  have hv := v.ordinal_lt
  have hw := w.ordinal_lt
  have hcorpus : corpusSize = 31102 := rfl
  obtain ⟨there, hthere, hthereInt⟩ := Shift.exists_ofInt? (n := w.ordinal) (by omega) (by omega)
  obtain ⟨here, hhere, hhereInt⟩ := Shift.exists_ofInt? (n := v.ordinal) (by omega) (by omega)
  obtain ⟨d, hd, hdInt⟩ := Shift.exists_ofInt? (n := there.toInt - here.toInt) (by omega) (by omega)
  refine ⟨d, ?_, by rw [hdInt, hthereInt, hhereInt, distance]⟩
  simp only [distance?, hthere, hhere, Option.bind_eq_bind, Option.bind_some, hd]

end Verse

namespace Passage

variable {p : Passage} {v : Verse}

theorem size_le (p : Passage) : p.size ≤ corpusSize := by
  have hsize := p.size_eq
  have hupper := p.upper.ordinal_lt
  omega

/-- The place of a verse that is there, in words. -/
theorem exists_distance_of_mem (h : v ∈ p) :
    ∃ d, p.lower.distance? v = some d ∧ p.lower.ordinal + d.toUInt64.toNat = v.ordinal := by
  have hle : p.lower.ordinal ≤ v.ordinal := h.1
  obtain ⟨d, hd, hdInt⟩ := p.lower.exists_distance? v
  rw [Verse.distance] at hdInt
  have hnat := Shift.toNat_toUInt64 (d := d) (by omega)
  exact ⟨d, hd, by omega⟩

/-- **The size in words.** -/
theorem exists_size? (p : Passage) : ∃ n, p.size? = some n ∧ n.toNat = p.size := by
  have hsize := p.size_eq
  have hupper := p.upper.ordinal_lt
  have hcorpus : corpusSize = 31102 := rfl
  obtain ⟨d, hd, hdNat⟩ := p.exists_distance_of_mem (v := p.upper) ⟨p.lower_le_upper, Nat.le_refl _⟩
  obtain ⟨n, hn, hnNat⟩ := Count.exists_ofNat? (n := d.toUInt64.toNat + 1) (by omega)
  refine ⟨n, ?_, by omega⟩
  simp only [size?, hd, Option.bind_eq_bind, Option.bind_some, hn]

/-- The size as a distance. -/
theorem exists_toInt64_size? (p : Passage) : ∃ n, p.size? = some n ∧ n.toInt64.toInt = p.size := by
  have hle := p.size_le
  have hcorpus : corpusSize = 31102 := rfl
  obtain ⟨n, hn, hnNat⟩ := p.exists_size?
  exact ⟨n, hn, by rw [Shift.toInt_toInt64 (by omega), hnNat]⟩

/-- **The place of a verse in words.** -/
theorem indexIn?_eq (p : Passage) (v : Verse) :
    ∃ k?, p.indexIn? v = some k? ∧ k?.map UInt64.toNat = p.indexOf? v := by
  rw [indexIn?, indexOf?]
  by_cases h : v ∈ p
  · obtain ⟨d, hd, hdNat⟩ := exists_distance_of_mem h
    refine ⟨some d.toUInt64, ?_, ?_⟩
    · simp only [if_pos h, hd, Option.bind_eq_bind, Option.bind_some, Option.pure_def]
    · rw [if_pos h, Option.map_some, Option.some_inj]
      omega
  · exact ⟨none, if_neg h, (if_neg h).symm⟩

/-- **The verse at a place in words.** -/
theorem verseAt?_eq (p : Passage) (i : Int64) : p.verseAt? i = some (p.get? i.toInt) := by
  have hle := p.size_le
  have hcorpus : corpusSize = 31102 := rfl
  have hi := i.le_toInt
  obtain ⟨n, hn, hnInt⟩ := p.exists_toInt64_size?
  simp only [verseAt?, get?, hn, Option.bind_eq_bind, Option.bind_some, Int64.lt_iff_toInt_lt,
    Int64.le_iff_toInt_le, Int64.toInt_zero, hnInt, Verse.shift?_eq, Option.pure_def]
  by_cases hneg : i.toInt < 0
  · obtain ⟨j, hj, hjInt⟩ := Shift.exists_ofInt? (n := p.size + i.toInt) (by omega) (by omega)
    simp only [if_pos hneg, hj, Option.bind_some, hjInt]
    split <;> rfl
  · simp only [if_neg hneg]
    split <;> rfl

/-- **A bound of a slice in words.** -/
theorem exists_boundIn? {n : Int64} (h : n.toInt = p.size) (bound : Int64) :
    ∃ b, boundIn? n bound = some b ∧ b.toInt = p.sliceBound bound.toInt := by
  have hle := p.size_le
  have hcorpus : corpusSize = 31102 := rfl
  have hbound := bound.le_toInt
  rw [boundIn?, sliceBound]
  simp only [Int64.lt_iff_toInt_lt, Int64.toInt_zero]
  by_cases hneg : bound.toInt < 0
  · obtain ⟨b, hb, hbInt⟩ := Shift.exists_ofInt? (n := n.toInt + bound.toInt) (by omega) (by omega)
    refine ⟨max b 0, ?_, ?_⟩
    · simp only [if_pos hneg, hb, Option.bind_eq_bind, Option.bind_some, Option.pure_def]
    · rw [if_pos hneg, Shift.toInt_max, hbInt, h, Int64.toInt_zero]
  · refine ⟨min bound n, if_neg hneg, ?_⟩
    rw [if_neg hneg, Shift.toInt_min, h]

/-- A bound that may be left open, in words. -/
theorem exists_elim_boundIn? {n : Int64} (h : n.toInt = p.size) (bound : Option Int64) (unset : Int64) :
    ∃ b, bound.elim (some unset) (boundIn? n) = some b ∧
      b.toInt = ((bound.map Int64.toInt).map p.sliceBound).getD unset.toInt := by
  cases bound with
  | none => exact ⟨unset, rfl, rfl⟩
  | some bound => exact exists_boundIn? h bound

/-- **A slice in words.** -/
theorem cut?_eq (p : Passage) (start stop : Option Int64) :
    p.cut? start stop = some (p.slice? (start.map Int64.toInt) (stop.map Int64.toInt)) := by
  have hle := p.size_le
  have hcorpus : corpusSize = 31102 := rfl
  obtain ⟨n, hn, hnInt⟩ := p.exists_toInt64_size?
  obtain ⟨a, ha, haInt⟩ := exists_elim_boundIn? hnInt start 0
  obtain ⟨b, hb, hbInt⟩ := exists_elim_boundIn? hnInt stop n.toInt64
  have hstart : a.toInt = p.sliceStart (start.map Int64.toInt) := haInt
  have hstop : b.toInt = p.sliceStop (stop.map Int64.toInt) := by rw [hbInt, hnInt, sliceStop]
  have hbLe := p.sliceStop_le (stop.map Int64.toInt)
  have hbMin := b.le_toInt
  have haNonneg := p.sliceStart_nonneg (start.map Int64.toInt)
  rw [slice?_eq_ite, cut?]
  simp only [hn, ha, hb, Option.bind_eq_bind, Option.bind_some, Int64.lt_iff_toInt_lt, ← hstart, ← hstop]
  split
  · obtain ⟨last, hlast, hlastInt⟩ := Shift.exists_ofInt? (n := b.toInt - 1) (by omega) (by omega)
    simp only [hlast, Option.bind_some, Verse.shift?_eq, hlastInt, Option.pure_def]
  · rfl

/-! ### Passages as lists -/

/-- **A passage is indexed and sliced as the list of its verses.** The list is ascending and holds just the
verses of the passage; a slice without verses is no passage. All places that a word holds may be asked for,
and all bounds, from either end: no number is lost on the way. -/
theorem places_exact (p : Passage) :
    (p.toList.Pairwise (· < ·) ∧ ∀ v, v ∈ p ↔ v ∈ p.toList) ∧
    (∃ n, p.size? = some n ∧ n.toNat = p.toList.length) ∧
    ((∀ i : Int64, p.verseAt? i = some (p.get? i.toInt)) ∧
      ∀ i, p.get? i = Sequence.itemAt p.toList i) ∧
    ((∀ start stop : Option Int64,
        p.cut? start stop = some (p.slice? (start.map Int64.toInt) (stop.map Int64.toInt))) ∧
      ∀ start stop, (p.slice? start stop = none ↔ Sequence.slice p.toList start stop = []) ∧
        ∀ q, p.slice? start stop = some q ↔ q.toList = Sequence.slice p.toList start stop) ∧
    (∀ v, ∃ k?, p.indexIn? v = some k? ∧ k?.map UInt64.toNat = p.indexOf? v) ∧
      ∀ v k, p.indexOf? v = some k ↔ p.toList[k]? = some v := by
  obtain ⟨n, hn, hnNat⟩ := p.exists_size?
  refine ⟨⟨p.pairwise_toList, fun v => mem_toList.symm⟩, ⟨n, hn, ?_⟩, ⟨p.verseAt?_eq, get?_eq⟩,
    ⟨p.cut?_eq, fun start stop => ⟨slice?_eq_none_iff, fun q => slice?_eq_some_iff⟩⟩, p.indexIn?_eq,
    fun v k => indexOf?_eq_some_iff⟩
  rw [hnNat, length_toList]

end Passage

end Concordance
