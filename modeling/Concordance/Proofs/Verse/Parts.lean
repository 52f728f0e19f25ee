import Concordance.Proofs.Verse.Offsets

/-!
# Ordinals and places

Ordinals and places are the same thing in two forms: every three numbers lead to a verse, whose place is the
nearest one to them, every verse is found again from its place, and verses are in the order of their places.
This holds of the verses that are found through the offsets of the canon, with numbers in words, as well.

## Main definitions

* `Location.IsNearest` — the place that three numbers are clamped to
* `Location.compareParts` — the order of places

## Main results

* `Verse.parts?_eq`, `Verse.ofParts?_eq` — the offsets lead to the same places and verses
* `Verse.compare_eq` — verses are in the order of their places
* `Verse.ofParts_orderIso` — ordinals and places are the same thing
-/

namespace Concordance

namespace Offsets

/-! ### The offsets of the canon -/

theorem describes_canonical : canonical.Describes (canon.map Book.verseCounts) :=
  describes_ofTable _

theorem map_total_verseCounts : (canon.map Book.verseCounts).map Blocks.total = bookSizes := by
  rw [List.map_map]
  rfl

/-- The numbers of chapters and verses take less than 16 bits. -/
theorem verseCounts_lt : ∀ i < 66, (bookAt i).verseCounts.length < 2 ^ 16 ∧
    ∀ n ∈ (bookAt i).verseCounts, n < 2 ^ 16 := by
  decide +kernel

end Offsets

/-! ### Places that exist -/

namespace Location.Exists

variable {l : Location} (h : l.Exists)
include h

theorem book_lt_length : l.book < (canon.map Book.verseCounts).length := by
  rw [List.length_map, length_canon]
  exact h.book_lt

theorem getElem_table (hlt : l.book < (canon.map Book.verseCounts).length) :
    (canon.map Book.verseCounts)[l.book] = (bookAt l.book).verseCounts := by
  rw [List.getElem_map, bookAt_eq (length_canon ▸ h.book_lt)]

theorem verse_lt (hlt : l.chapter - 1 < (bookAt l.book).verseCounts.length) :
    l.verse - 1 < (bookAt l.book).verseCounts[l.chapter - 1] := by
  have hpos := h.verse_pos
  have hle := h.verse_le
  omega

/-- **A place that exists is found from its ordinal.** -/
theorem locate?_ordinalAt : Offsets.canonical.locate? (Verse.ordinalAt l) = some l := by
  obtain ⟨hchapters, hverses⟩ := Offsets.verseCounts_lt l.book h.book_lt
  have hlocate := Offsets.describes_canonical.locate?_eq h.book_lt_length (c := l.chapter - 1)
    (k := l.verse - 1)
  simp only [h.getElem_table, Offsets.map_total_verseCounts, Nat.sub_add_cancel h.chapter_pos,
    Nat.sub_add_cancel h.verse_pos] at hlocate
  rw [Verse.ordinalAt, Nat.add_assoc]
  exact hlocate h.chapter_lt (h.verse_lt h.chapter_lt) hchapters (hverses _ (List.getElem_mem _))

/-- The ordinal of a place that exists is found from its numbers. -/
theorem ordinalAt?_eq {chapter verse : UInt16} (hchapter : chapter.toNat = l.chapter)
    (hverse : verse.toNat = l.verse) :
    Offsets.canonical.ordinalAt? l.book chapter verse = some (Verse.ordinalAt l) := by
  have hbook := h.book_lt_length
  have hlt : l.chapter - 1 < (canon.map Book.verseCounts)[l.book].length := by
    rw [h.getElem_table hbook]
    exact h.chapter_lt
  have hordinal := Offsets.describes_canonical.ordinalAt?_eq hbook hlt
    (hchapter.trans (Nat.sub_add_cancel h.chapter_pos).symm)
    (hverse.trans (Nat.sub_add_cancel h.verse_pos).symm)
  simp only [h.getElem_table, Offsets.map_total_verseCounts] at hordinal
  rw [Verse.ordinalAt, Nat.add_assoc]
  exact hordinal

end Location.Exists

/-! ### Verses of the corpus -/

/-- The place that three numbers are clamped to: the book first, then the chapter within that book, then
the verse within that chapter. -/
structure Location.IsNearest (l : Location) (book : Nat) (chapter verse : Int) : Prop where
  /-- The book, or the last one. -/
  book : l.book = min book 65
  /-- The chapter, or the first or last one of the book. -/
  chapter : (l.chapter : Int) = max 1 (min chapter (bookAt l.book).chapterCount)
  /-- The verse, or the first or last one of the chapter. -/
  verse : ∃ count, (bookAt l.book).verseCount? l.chapter = some count ∧
    (l.verse : Int) = max 1 (min verse count)

/-- Places in the order of their books, then of their chapters, then of their verses. -/
def Location.compareParts (l l' : Location) : Ordering :=
  (compare l.book l'.book).then ((compare l.chapter l'.chapter).then (compare l.verse l'.verse))

namespace Verse

/-! ### Numbers in words -/

/-- **The place of a verse is found by halving.** -/
theorem parts?_eq (v : Verse) : v.parts? = some v.location := by
  rw [parts?, ← ordinalAt_location, v.location_exists.locate?_ordinalAt]

theorem verseCount?_of_exists {l : Location} (h : l.Exists) :
    (bookAt l.book).verseCount? l.chapter = some (lastVerse l.book l.chapter) := by
  have hlt := h.chapter_lt
  have hcount : (bookAt l.book).verseCount? (l.chapter - 1 + 1)
      = some (bookAt l.book).verseCounts[l.chapter - 1] := List.getElem?_eq_getElem hlt
  rw [h.lastVerse_eq hlt, ← hcount, Nat.sub_add_cancel h.chapter_pos]

/-! ### Clamping -/

theorem toNat_clampTo {high : Nat} (h : 0 < high) (n : Int) :
    ((clampTo 1 high n).toNat : Int) = max 1 (min n high) := by
  rw [clampTo]
  omega

/-- Clamping leads to the nearest place. -/
theorem isNearest_clampLocation (book : Nat) (chapter verse : Int) :
    (clampLocation book chapter verse).IsNearest book chapter verse := by
  have hcount := verseCount?_of_exists (clampLocation_exists book chapter verse)
  rw [clampLocation_eq] at hcount ⊢
  refine ⟨rfl, ?_, lastVerse book chapter, ?_, toNat_clampTo (lastVerse_pos book chapter) verse⟩
  · rw [bookAt_min]
    exact toNat_clampTo (chapterCount_pos book) chapter
  · rw [hcount, Int.toNat_of_nonneg (by rw [clampTo]; omega), lastVerse_clampTo]

theorem toNat_ofInt {n : Int} (h : 0 ≤ n) (h' : n < 2 ^ 16) : (UInt16.ofInt n).toNat = n.toNat := by
  have hword : UInt16.size = 2 ^ 16 := rfl
  rw [UInt16.ofInt, UInt16.toNat_ofNat_of_lt' (by omega)]
  omega

/-- The book with an index is there, if the index is cut to the last one. -/
theorem getElem?_books (i : Nat) : books[min i (books.size - 1)]? = some (bookAt i) := by
  have hsize : books.size = 66 := length_canon
  have hlt : min i (books.size - 1) < books.size := by omega
  rw [bookAt, Array.getElem?_eq_getElem hlt, Option.getD_some]

/-- A number from one to one that takes less than 16 bits is a word of 16 bits. -/
theorem exists_word {high : Nat} (hpos : 0 < high) (hhigh : high < 2 ^ 16) (n : Int) :
    clampTo? 1 high n = some (clampTo 1 high n) ∧
      (UInt16.ofInt (clampTo 1 high n)).toNat = (clampTo 1 high n).toNat :=
  ⟨if_pos (by omega), toNat_ofInt (by rw [clampTo]; omega) (by rw [clampTo]; omega)⟩

theorem chapterCount_lt (book : Nat) : (bookAt book).chapterCount < 2 ^ 16 := by
  have hsize : books.size = 66 := length_canon
  have hlt := (Offsets.verseCounts_lt (min book (books.size - 1)) (by omega)).1
  rwa [bookAt_min] at hlt

theorem lastVerse_lt (book : Nat) (chapter : Int) : lastVerse book chapter < 2 ^ 16 := by
  have hsize : books.size = 66 := length_canon
  have hverses := (Offsets.verseCounts_lt (min book (books.size - 1)) (by omega)).2
  obtain ⟨k, hlt, -, hlast, -⟩ := exists_chapter book chapter
  rw [bookAt_min] at hverses
  exact hlast ▸ hverses _ (List.getElem_mem hlt)

/-- **The verse of three numbers in words** is found by adding up, with no number lost on the way. -/
theorem ofParts?_eq (book : UInt64) (chapter verse : Int64) :
    ofParts? book chapter verse = some (ofParts book.toNat chapter.toInt verse.toInt) := by
  obtain ⟨hchapter, hchapterWord⟩ :=
    exists_word (chapterCount_pos book.toNat) (chapterCount_lt book.toNat) chapter.toInt
  obtain ⟨hverse, hverseWord⟩ := exists_word (lastVerse_pos book.toNat chapter.toInt)
    (lastVerse_lt book.toNat chapter.toInt) verse.toInt
  have hexists := clampLocation_exists book.toNat chapter.toInt verse.toInt
  have hordinal := ordinal_atLocation hexists
  rw [clampLocation_eq] at hexists hordinal
  have hlast : ((bookAt book.toNat).verseCount?
      (clampTo 1 (bookAt book.toNat).chapterCount chapter.toInt).toNat).getD 1
        = lastVerse book.toNat chapter.toInt := rfl
  have hlt := (ofParts book.toNat chapter.toInt verse.toInt).ordinal_lt
  rw [ofParts, clampLocation_eq, hordinal] at hlt
  simp only [ofParts?, Option.bind_eq_bind, getElem?_books, Option.bind_some, hchapter, hchapterWord,
    hlast, hverse, hexists.ordinalAt?_eq hchapterWord hverseWord, dif_pos hlt]
  rw [Option.some_inj]
  ext
  rw [ofParts, clampLocation_eq, hordinal]

/-! ### The order of verses -/

/-- Numbers from one on are in the order of those before them. -/
theorem compare_sub_one {m n : Nat} (hm : 1 ≤ m) (hn : 1 ≤ n) :
    compare (m - 1) (n - 1) = compare m n := by
  obtain ⟨m, rfl⟩ := Nat.exists_eq_add_of_le' hm
  obtain ⟨n, rfl⟩ := Nat.exists_eq_add_of_le' hn
  simp only [Nat.add_sub_cancel, Nat.compare_eq_ite_lt, Nat.add_lt_add_iff_right]

/-- The verses of a book are in the order of their chapters, and then of their numbers. -/
theorem compare_inBook {l l' : Location} (h : l.Exists) (h' : l'.Exists) (hbook : l.book = l'.book) :
    compare (Blocks.start (bookAt l.book).verseCounts (l.chapter - 1) + (l.verse - 1))
        (Blocks.start (bookAt l'.book).verseCounts (l'.chapter - 1) + (l'.verse - 1))
      = (compare l.chapter l'.chapter).then (compare l.verse l'.verse) := by
  obtain ⟨book, chapter', verse'⟩ := l'
  subst hbook
  rw [Blocks.compare_start_add h.chapter_lt (h.verse_lt _) h'.chapter_lt (h'.verse_lt _),
    compare_sub_one h.chapter_pos h'.chapter_pos, compare_sub_one h.verse_pos h'.verse_pos]

/-- A verse stands in its book. -/
theorem inBook_lt {l : Location} (h : l.Exists) (hlt : l.book < bookSizes.length) :
    Blocks.start (bookAt l.book).verseCounts (l.chapter - 1) + (l.verse - 1) < bookSizes[l.book] := by
  rw [getElem_bookSizes]
  exact Blocks.start_add_lt h.chapter_lt (h.verse_lt _)

theorem compare_ordinalAt {l l' : Location} (h : l.Exists) (h' : l'.Exists) :
    compare (ordinalAt l) (ordinalAt l') = l.compareParts l' := by
  rw [ordinalAt, ordinalAt, Nat.add_assoc, Nat.add_assoc,
    Blocks.compare_start_add _ (inBook_lt h (length_bookSizes ▸ h.book_lt)) _
      (inBook_lt h' (length_bookSizes ▸ h'.book_lt)), Location.compareParts]
  by_cases hbook : l.book = l'.book
  · rw [compare_inBook h h' hbook]
  · -- in different books the rest does not matter
    obtain hlt | hgt := Nat.lt_or_gt_of_ne hbook
    · rw [Nat.compare_eq_lt.mpr hlt]
      rfl
    · rw [Nat.compare_eq_gt.mpr hgt]
      rfl

/-- **Verses are in the order of their places.** -/
theorem compare_eq (v w : Verse) : compare v w = v.location.compareParts w.location := by
  rw [← compare_ordinalAt v.location_exists w.location_exists, ordinalAt_location, ordinalAt_location]
  rfl

/-- **Ordinals and places are the same thing**, in the same order. Three numbers in words lead to a verse,
and a verse to its place, with nothing lost on the way. The place of that verse is the nearest one to the
numbers, a verse is found again from its own place, and comparing verses is comparing their places, book by
book, chapter by chapter and verse by verse. -/
theorem ofParts_orderIso :
    (∀ (book : UInt64) (chapter verse : Int64),
      ofParts? book chapter verse = some (ofParts book.toNat chapter.toInt verse.toInt)) ∧
    (∀ v : Verse, v.parts? = some v.location) ∧
    (∀ (book : Nat) (chapter verse : Int),
      (ofParts book chapter verse).location = clampLocation book chapter verse ∧
        (clampLocation book chapter verse).IsNearest book chapter verse) ∧
    (∀ v : Verse, ofParts v.location.book v.location.chapter v.location.verse = v) ∧
    ∀ (book book' : Nat) (chapter chapter' verse verse' : Int),
      compare (ofParts book chapter verse) (ofParts book' chapter' verse')
        = (clampLocation book chapter verse).compareParts (clampLocation book' chapter' verse') := by
  refine ⟨ofParts?_eq, parts?_eq, fun book chapter verse => ?_, ofParts_location, ?_⟩
  · exact ⟨location_ofParts book chapter verse, isNearest_clampLocation book chapter verse⟩
  · intro book book' chapter chapter' verse verse'
    rw [compare_eq, location_ofParts, location_ofParts]

end Verse

end Concordance
