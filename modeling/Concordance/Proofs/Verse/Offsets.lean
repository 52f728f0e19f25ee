import Concordance.Proofs.Verse.Location
import Concordance.Verse.Offsets

/-!
# Offsets of a table

The offsets of a table are the sums of its verse counts up to each chapter, and of its chapters up to each
book. A verse is told by the block it stands in and how far it stands from the start of that block, and so
halving the row of starts finds the block: the last one whose start the verse has reached.

## Main definitions

* `Offsets.Describes` — the offsets of a table, by their entries

## Main results

* `Blocks.compare_start_add` — items are in the order of their blocks
* `Offsets.search_eq` — what halving finds
* `Offsets.describes_ofTable` — adding up gives the offsets of the table
* `Offsets.Describes.ordinalAt?_eq`, `Offsets.Describes.locate?_eq` — ordinals and places of any table
-/

namespace Concordance

/-! ### Rows of blocks -/

namespace Blocks

variable {sizes : List Nat} {table : List (List Nat)} {i j k l n : Nat}

theorem total_append (sizes sizes' : List Nat) : total (sizes ++ sizes') = total sizes + total sizes' := by
  induction sizes with
  | nil => simp [total]
  | cons size sizes ih => simp only [List.cons_append, total, ih, Nat.add_assoc]

/-- The last block starts where all blocks before it end. -/
theorem start_length (sizes : List Nat) : start sizes sizes.length = total sizes := by
  rw [start, List.take_length]

theorem start_append_left (h : i ≤ sizes.length) (sizes' : List Nat) :
    start (sizes ++ sizes') i = start sizes i := by
  rw [start, start, List.take_append_of_le_length h]

theorem start_succ (h : i < sizes.length) : start sizes (i + 1) = start sizes i + sizes[i] := by
  rw [start, start, List.take_succ_eq_append_getElem h, total_append]
  rfl

theorem start_mono (h : i ≤ j) : start sizes i ≤ start sizes j := by
  obtain ⟨rest, hrest⟩ := List.take_prefix_take_left (l := sizes) h
  rw [start, start, ← hrest, total_append]
  exact Nat.le_add_right _ _

/-- An item of a block comes before all blocks that follow. -/
theorem start_add_lt_start (hi : i < sizes.length) (hk : k < sizes[i]) (h : i < j) :
    start sizes i + k < start sizes j :=
  calc start sizes i + k
      < start sizes i + sizes[i] := Nat.add_lt_add_left hk _
    _ = start sizes (i + 1) := (start_succ hi).symm
    _ ≤ start sizes j := start_mono h

/-- **Items are in the order of their blocks**, and those of one block in the order of their places. -/
theorem compare_start_add (hi : i < sizes.length) (hk : k < sizes[i]) (hj : j < sizes.length)
    (hl : l < sizes[j]) :
    compare (start sizes i + k) (start sizes j + l) = (compare i j).then (compare k l) := by
  rcases Nat.lt_trichotomy i j with h | rfl | h
  · have hlt := start_add_lt_start hi hk h
    rw [Nat.compare_eq_lt.mpr h, Nat.compare_eq_lt.mpr (by omega)]
    rfl
  · rw [Nat.compare_eq_eq.mpr rfl, Ordering.eq_then]
    simp only [Nat.compare_eq_ite_lt, Nat.add_lt_add_iff_left]
  · have hlt := start_add_lt_start hj hl h
    rw [Nat.compare_eq_gt.mpr h, Nat.compare_eq_gt.mpr (by omega)]
    rfl

theorem total_map_length (table : List (List Nat)) :
    total (table.map List.length) = table.flatten.length := by
  induction table with
  | nil => rfl
  | cons row table ih => rw [List.map_cons, total, ih, List.flatten_cons, List.length_append]

/-- The blocks of a row of rows start where their row starts, and as far on as they do in it. -/
theorem start_flatten (hj : j < table.length) (hi : i ≤ table[j].length) :
    start table.flatten (start (table.map List.length) j + i)
      = start (table.map total) j + start table[j] i := by
  induction table generalizing j with
  | nil => exact absurd hj (Nat.not_lt_zero j)
  | cons row table ih =>
    cases j with
    | zero =>
      simp only [List.getElem_cons_zero] at hi ⊢
      rw [start_zero, start_zero, Nat.zero_add, Nat.zero_add, List.flatten_cons, start_append_left hi]
    | succ j =>
      simp only [List.getElem_cons_succ, List.length_cons, Nat.add_lt_add_iff_right] at hi hj ⊢
      have hrow : (row ++ table.flatten).take (row.length + (start (table.map List.length) j + i))
          = row ++ table.flatten.take (start (table.map List.length) j + i) := List.take_length_add_append _
      rw [List.map_cons, List.map_cons, start_cons_succ, start_cons_succ, List.flatten_cons, Nat.add_assoc,
        start, hrow, total_append, Nat.add_assoc, ← ih hj hi]
      rfl

/-- The blocks of a row of rows, by their row and their place in it. -/
theorem start_add_lt_length_flatten (hj : j < table.length) (hi : i < table[j].length) :
    start (table.map List.length) j + i < table.flatten.length := by
  rw [← total_map_length]
  exact start_add_lt (by rwa [List.length_map]) (by rwa [List.getElem_map])

theorem getElem_flatten (hj : j < table.length) (hi : i < table[j].length)
    (hlt : start (table.map List.length) j + i < table.flatten.length) :
    table.flatten[start (table.map List.length) j + i] = table[j][i] := by
  have hend := start_succ hlt
  rw [Nat.add_assoc, start_flatten hj hi, start_succ hi, start_flatten hj (Nat.le_of_lt hi)] at hend
  omega

end Blocks

/-! ### Searching by halving -/

namespace Offsets

section

variable {xs : Array Nat} {x i : Nat} (hi : i < xs.size)
  (hreached : ∀ j ≤ i, ∀ hj : j < xs.size, xs[j] ≤ x) (hbeyond : ∀ j > i, ∀ hj : j < xs.size, x < xs[j])

include hreached hbeyond

/-- Halving keeps the stretch that has the last of the numbers up to `x`. -/
theorem narrow_eq {base size : Nat} (hpos : 0 < size) (hsize : base + size ≤ xs.size) (hbase : base ≤ i)
    (hlt : i < base + size) : (narrow xs x base size hpos hsize : Nat) = i := by
  fun_induction narrow xs x base size hpos hsize with
  | case1 base size hpos hsize hmany hleft ih =>
    have hmiddle : i < base + size / 2 :=
      Nat.lt_of_not_le fun hle => Nat.not_le_of_lt hleft (hreached _ hle _)
    exact ih hbase (by omega)
  | case2 base size hpos hsize hmany hright ih =>
    have hmiddle : base + size / 2 ≤ i :=
      Nat.le_of_not_lt fun hgt => hright (hbeyond _ hgt _)
    exact ih hmiddle (by omega)
  | case3 base size hpos hsize hone =>
    simp only
    omega

/-- **What halving finds** is the last of the numbers up to `x`. -/
theorem search_eq : search xs x = if xs[i] = x then .ok i else .error (i + 1) := by
  have hpos : 0 < xs.size := Nat.zero_lt_of_lt hi
  have hnarrow : narrow xs x 0 xs.size hpos (by omega) = ⟨i, hi⟩ :=
    Fin.ext (narrow_eq hreached hbeyond hpos _ (Nat.zero_le i) (by omega))
  have hbelow : xs[i] ≠ x → xs[i] < x := Nat.lt_of_le_of_ne (hreached i (Nat.le_refl i) hi)
  simp only [search, dif_pos hpos, hnarrow, Fin.getElem_fin]
  split
  · rfl
  · rename_i hne
    rw [if_pos (hbelow hne)]

end

/-! ### Adding up -/

/-- The offsets of a table: the starts of its books among the chapters, and of its chapters among the
verses, up to the end. -/
structure Describes (o : Offsets) (table : List (List Nat)) : Prop where
  /-- The starts of the books. -/
  bookStarts : o.bookStarts.toList
    = (List.range table.length).map (Blocks.start (table.map List.length))
  /-- The starts of the chapters, and their end. -/
  chapterStarts : o.chapterStarts.toList
    = (List.range (table.flatten.length + 1)).map (Blocks.start table.flatten)

variable {o : Offsets} {table : List (List Nat)} {counts more : List Nat}

/-- The starts of a row do not change when more follows. -/
theorem map_start_append {sizes : List Nat} {n : Nat} (h : n ≤ sizes.length + 1) (sizes' : List Nat) :
    (List.range n).map (Blocks.start (sizes ++ sizes')) = (List.range n).map (Blocks.start sizes) :=
  List.map_congr_left fun i hi => Blocks.start_append_left (by rw [List.mem_range] at hi; omega) _

theorem toList_addChapter
    (h : o.chapterStarts.toList = (List.range (counts.length + 1)).map (Blocks.start counts)) (n : Nat) :
    (o.addChapter n).chapterStarts.toList
      = (List.range ((counts ++ [n]).length + 1)).map (Blocks.start (counts ++ [n])) := by
  have hlast : o.chapterStarts.back?.getD 0 = Blocks.total counts := by
    rw [← Array.getLast?_toList, h, List.range_succ, List.map_append, List.map_singleton,
      List.getLast?_concat, Blocks.start_length]
    rfl
  rw [addChapter, Array.toList_push, hlast, h, List.length_append, List.length_singleton,
    List.range_succ (n := counts.length + 1), List.map_append,
    map_start_append (Nat.le_refl _), List.map_singleton]
  congr 2
  rw [← List.length_singleton (a := n), ← List.length_append, Blocks.start_length, Blocks.total_append]
  rfl

/-- Chapters are added one after another. -/
theorem toList_foldl_addChapter
    (h : o.chapterStarts.toList = (List.range (counts.length + 1)).map (Blocks.start counts)) :
    (more.foldl addChapter o).chapterStarts.toList
      = (List.range ((counts ++ more).length + 1)).map (Blocks.start (counts ++ more)) := by
  induction more generalizing o counts with
  | nil => simpa using h
  | cons n more ih =>
    rw [List.foldl_cons, List.append_cons]
    exact ih (toList_addChapter h n)

theorem bookStarts_foldl_addChapter : (more.foldl addChapter o).bookStarts = o.bookStarts := by
  induction more generalizing o with
  | nil => rfl
  | cons n more ih => rw [List.foldl_cons, ih, addChapter]

theorem Describes.addBook (h : o.Describes table) (counts : List Nat) :
    (o.addBook counts).Describes (table ++ [counts]) where
  bookStarts := by
    have hsize : o.chapterStarts.size - 1 = Blocks.start (table.map List.length ++ [counts.length])
        table.length := by
      rw [← Array.length_toList, h.chapterStarts, List.length_map, List.length_range, Nat.add_sub_cancel,
        ← Blocks.total_map_length, ← Blocks.start_length, List.length_map,
        Blocks.start_append_left (Nat.le_of_eq (List.length_map _).symm)]
    rw [Offsets.addBook, bookStarts_foldl_addChapter, Array.toList_push, h.bookStarts, hsize,
      List.length_append, List.length_singleton, List.range_succ, List.map_append, List.map_singleton,
      List.map_append, List.map_singleton, map_start_append (by rw [List.length_map]; omega)]
  chapterStarts := by
    rw [Offsets.addBook, List.flatten_append, List.flatten_singleton]
    exact toList_foldl_addChapter h.chapterStarts

/-- **Adding up gives the offsets of the table.** -/
theorem describes_ofTable (table : List (List Nat)) : (ofTable table).Describes table := by
  suffices h : ∀ {o : Offsets} (before), o.Describes before →
      (table.foldl Offsets.addBook o).Describes (before ++ table) from h [] ⟨rfl, rfl⟩
  induction table with
  | nil => intro o before h; simpa using h
  | cons counts table ih =>
    intro o before h
    rw [List.foldl_cons, List.append_cons]
    exact ih _ (h.addBook counts)

/-! ### Places in a table -/

theorem minus?_add_left (a b : Nat) : minus? (a + b) a = some b := by
  rw [minus?, if_pos (Nat.le_add_right a b), Nat.add_sub_cancel_left]

theorem minus?_add_right (a b : Nat) : minus? (a + b) b = some a := by
  rw [Nat.add_comm, minus?_add_left]

/-- **What halving finds among starts**: the block itself, or for an item further on the one after it. -/
theorem search_starts {xs : Array Nat} {sizes : List Nat} {i k : Nat}
    (hxs : ∀ j, ∀ hj : j < xs.size, xs[j] = Blocks.start sizes j) (hi : i < sizes.length)
    (hk : k < sizes[i]) (hsize : i < xs.size) :
    search xs (Blocks.start sizes i + k) = if k = 0 then .ok i else .error (i + 1) := by
  rw [search_eq hsize]
  · rw [hxs i hsize]
    by_cases h : k = 0
    · rw [if_pos h, if_pos (by omega)]
    · rw [if_neg h, if_neg (by omega)]
  · intro j hle hj
    rw [hxs j hj]
    exact Nat.le_add_right_of_le (Blocks.start_mono hle)
  · intro j hlt hj
    rw [hxs j hj]
    exact Blocks.start_add_lt_start hi hk hlt

namespace Describes

variable (h : o.Describes table)
include h

theorem size_bookStarts : o.bookStarts.size = table.length := by
  rw [← Array.length_toList, h.bookStarts, List.length_map, List.length_range]

theorem size_chapterStarts : o.chapterStarts.size = table.flatten.length + 1 := by
  rw [← Array.length_toList, h.chapterStarts, List.length_map, List.length_range]

theorem getElem_bookStarts (b : Nat) (hb : b < o.bookStarts.size) :
    o.bookStarts[b] = Blocks.start (table.map List.length) b := by
  rw [← Array.getElem_toList]
  simp only [h.bookStarts, List.getElem_map, List.getElem_range]

theorem getElem_chapterStarts (i : Nat) (hi : i < o.chapterStarts.size) :
    o.chapterStarts[i] = Blocks.start table.flatten i := by
  rw [← Array.getElem_toList]
  simp only [h.chapterStarts, List.getElem_map, List.getElem_range]

variable {b c k : Nat} (hb : b < table.length) (hc : c < table[b].length)
include hc

theorem lt_size_chapterStarts :
    Blocks.start (table.map List.length) b + c < o.chapterStarts.size := by
  rw [h.size_chapterStarts]
  exact Nat.lt_succ_of_lt (Blocks.start_add_lt_length_flatten hb hc)

/-- The ordinal of a verse of the table. -/
theorem ordinalAt?_eq {chapter verse : UInt16} (hchapter : chapter.toNat = c + 1)
    (hverse : verse.toNat = k + 1) : o.ordinalAt? b chapter verse
      = some (Blocks.start (table.map Blocks.total) b + (Blocks.start table[b] c + k)) := by
  have hbook : b < o.bookStarts.size := h.size_bookStarts ▸ hb
  simp only [ordinalAt?, Array.getElem?_eq_getElem hbook, h.getElem_bookStarts, hchapter, hverse,
    ← Nat.add_assoc, minus?_add_right, Option.bind_eq_bind, Option.bind_some,
    Array.getElem?_eq_getElem (h.lt_size_chapterStarts hb hc), h.getElem_chapterStarts,
    Blocks.start_flatten hb (Nat.le_of_lt hc)]

/-- A verse is found in its chapter. -/
theorem chapterAt?_eq (hk : k < table[b][c]) :
    o.chapterAt? (Blocks.start (table.map Blocks.total) b + (Blocks.start table[b] c + k))
      = some (Blocks.start (table.map List.length) b + c) := by
  have hflat := Blocks.start_add_lt_length_flatten hb hc
  have hsize : minus? o.chapterStarts.size 2 = some (table.flatten.length - 1) := by
    rw [h.size_chapterStarts, minus?, if_pos (by omega)]
    rfl
  rw [← Nat.add_assoc, ← Blocks.start_flatten hb (Nat.le_of_lt hc), chapterAt?,
    search_starts h.getElem_chapterStarts hflat (by rwa [Blocks.getElem_flatten hb hc hflat])
      (h.lt_size_chapterStarts hb hc)]
  by_cases hzero : k = 0
  · -- the chapter's own start: it is not the end of the table, which is the last entry
    simp only [if_pos hzero, hsize, Option.map_some]
    congr 1
    omega
  · simp only [if_neg hzero, minus?_add_right]

/-- A chapter is found in its book. -/
theorem bookAt?_eq : o.bookAt? (Blocks.start (table.map List.length) b + c) = some b := by
  rw [bookAt?, search_starts h.getElem_bookStarts (by rwa [List.length_map]) (by rwa [List.getElem_map])
    (h.size_bookStarts ▸ hb)]
  by_cases hzero : c = 0
  · simp only [if_pos hzero]
  · simp only [if_neg hzero, minus?_add_right]

/-- **The place of a verse of the table** is found again from its ordinal. -/
theorem locate?_eq (hk : k < table[b][c]) (hchapters : table[b].length < 2 ^ 16)
    (hverses : table[b][c] < 2 ^ 16) :
    o.locate? (Blocks.start (table.map Blocks.total) b + (Blocks.start table[b] c + k))
      = some ⟨b, c + 1, k + 1⟩ := by
  have hword : UInt16.size = 2 ^ 16 := rfl
  have hbook : b < o.bookStarts.size := h.size_bookStarts ▸ hb
  have hverse : minus? (Blocks.start (table.map Blocks.total) b + (Blocks.start table[b] c + k))
      (Blocks.start table.flatten (Blocks.start (table.map List.length) b + c)) = some k := by
    rw [Blocks.start_flatten hb (Nat.le_of_lt hc), ← Nat.add_assoc, minus?_add_left]
  simp only [locate?, h.chapterAt?_eq hb hc hk, h.bookAt?_eq hb hc, Option.bind_eq_bind, Option.bind_some,
    Array.getElem?_eq_getElem hbook, h.getElem_bookStarts, minus?_add_left,
    Array.getElem?_eq_getElem (h.lt_size_chapterStarts hb hc), h.getElem_chapterStarts, hverse]
  rw [UInt16.toNat_ofNat_of_lt' (by omega), UInt16.toNat_ofNat_of_lt' (by omega)]
  rfl

end Describes

end Offsets

end Concordance
