import Concordance.Verse

/-!
# Places and verses

Every verse stands at a place of the canon, and the numbers of a place that exists are not moved
when they are clamped. So a verse is found again from its own book, chapter and verse number.

## Main definitions

* `Location.Exists` — a place at which there is a verse

## Main results

* `Verse.location_exists` — a verse stands at a place that exists
* `Verse.clampLocation_of_exists` — clamping keeps the places that exist
* `Verse.atLocation_location` — a verse is found again from its place
* `Verse.clampLocation_exists` — clamping leads to places that exist
* `Verse.location_ofParts` — the place of a verse from numbers
* `Verse.lastInChapter_ofParts`, `Verse.lastChapter_ofParts` — the ends of chapters and books
-/

namespace Concordance

/-- An item of a block is an item of the row. -/
theorem Blocks.start_add_lt {sizes : List Nat} {i k : Nat} (h : i < sizes.length)
    (hk : k < sizes[i]) : start sizes i + k < total sizes := by
  induction sizes generalizing i with
  | nil => simp at h
  | cons size sizes ih =>
    cases i with
    | zero =>
      simp only [start_zero, total, List.getElem_cons_zero] at hk ⊢
      omega
    | succ i =>
      have := ih (i := i) (by simpa using h) (by simpa using hk)
      simp only [start_cons_succ, total]
      omega

/-! ### Books and chapters by their index -/

theorem length_bookSizes : bookSizes.length = 66 := by
  rw [bookSizes, List.length_map, length_canon]

theorem bookAt_eq {i : Nat} (h : i < canon.length) : bookAt i = canon[i] := by
  have hmin : min i (books.size - 1) = i := by
    have hsize : books.size = canon.length := rfl
    omega
  rw [bookAt, hmin]
  simp [books, h]

theorem getElem_bookSizes {i : Nat} (h : i < bookSizes.length) :
    bookSizes[i] = (bookAt i).size := by
  have hi : i < canon.length := by simpa [bookSizes] using h
  simp [bookSizes, bookAt_eq hi]

/-- Clamping keeps the numbers between the bounds. -/
theorem clampTo_of_mem {low high n : Int} (h : low ≤ n) (h' : n ≤ high) :
    clampTo low high n = n := by
  rw [clampTo]
  omega

theorem clampTo_clampTo {low high n : Int} (h : low ≤ high) :
    clampTo low high (clampTo low high n) = clampTo low high n := by
  simp only [clampTo]
  omega

@[simp] theorem bookAt_min (i : Nat) : bookAt (min i (books.size - 1)) = bookAt i := by
  simp [bookAt]

theorem lastVerse_eq {i chapter : Nat} (h : chapter < (bookAt i).verseCounts.length) :
    lastVerse i (chapter + 1 : Nat) = (bookAt i).verseCounts[chapter] := by
  have hclamp : clampTo 1 (bookAt i).chapterCount (chapter + 1 : Nat) = (chapter + 1 : Nat) :=
    clampTo_of_mem (by omega) (by rw [Book.chapterCount]; omega)
  simp only [lastVerse, hclamp, Int.toNat_natCast, Book.verseCount?]
  simp [h]

/-! ### Places that exist -/

/-- A place at which there is a verse. -/
structure Location.Exists (l : Location) : Prop where
  /-- The book is one of the canon. -/
  book_lt : l.book < 66
  /-- Chapters are counted from one. -/
  chapter_pos : 1 ≤ l.chapter
  /-- The book has the chapter. -/
  chapter_le : l.chapter ≤ (bookAt l.book).verseCounts.length
  /-- Verses are counted from one. -/
  verse_pos : 1 ≤ l.verse
  /-- The chapter has the verse. -/
  verse_le : l.verse ≤ (bookAt l.book).verseCounts[l.chapter - 1]

namespace Location

variable {l : Location}

theorem Exists.chapter_lt (h : l.Exists) : l.chapter - 1 < (bookAt l.book).verseCounts.length := by
  have hpos := h.chapter_pos
  have hle := h.chapter_le
  omega

/-- The last verse of a chapter that exists. -/
theorem Exists.lastVerse_eq (h : l.Exists)
    (hlt : l.chapter - 1 < (bookAt l.book).verseCounts.length) :
    lastVerse l.book l.chapter = (bookAt l.book).verseCounts[l.chapter - 1] := by
  rw [← Concordance.lastVerse_eq hlt, Nat.sub_add_cancel h.chapter_pos]

theorem Exists.verse_le_lastVerse (h : l.Exists) : l.verse ≤ lastVerse l.book l.chapter :=
  h.lastVerse_eq h.chapter_lt ▸ h.verse_le

/-- There is every verse of a chapter, up to the last one. -/
theorem Exists.withVerse (h : l.Exists) {k : Nat} (hpos : 1 ≤ k)
    (hle : k ≤ lastVerse l.book l.chapter) : Exists ⟨l.book, l.chapter, k⟩ where
  book_lt := h.book_lt
  chapter_pos := h.chapter_pos
  chapter_le := h.chapter_le
  verse_pos := hpos
  verse_le := h.lastVerse_eq h.chapter_lt ▸ hle

end Location

namespace Verse

/-- **A verse stands at a place that exists.** -/
theorem location_exists (v : Verse) : v.location.Exists := by
  have htotal : v.ordinal < Blocks.total bookSizes := by
    rw [total_bookSizes]
    exact v.ordinal_lt
  obtain ⟨hb, hin⟩ := Blocks.locate_lt htotal
  rw [getElem_bookSizes hb, Book.size] at hin
  obtain ⟨hc, hk⟩ := Blocks.locate_lt hin
  exact {
    book_lt := length_bookSizes ▸ hb
    chapter_pos := Nat.succ_pos _
    chapter_le := hc
    verse_pos := Nat.succ_pos _
    verse_le := hk }

/-- The ordinal of a verse is told by its place. -/
theorem ordinalAt_location (v : Verse) : ordinalAt v.location = v.ordinal := by
  have hbook := Blocks.start_add_locate bookSizes v.ordinal
  have hchapter :=
    Blocks.start_add_locate (bookAt (Blocks.locate bookSizes v.ordinal).1).verseCounts
    (Blocks.locate bookSizes v.ordinal).2
  simp only [ordinalAt, location, Nat.add_sub_cancel]
  omega

/-- **A verse is found again from its place.** -/
theorem atLocation_location (v : Verse) : atLocation v.location = v := by
  rw [atLocation, ordinalAt_location, ofOrdinal_ordinal]

/-- **Clamping keeps the places that exist.** -/
theorem clampLocation_of_exists {l : Location} (h : l.Exists) :
    clampLocation l.book l.chapter l.verse = l := by
  obtain ⟨book, chapter, verse⟩ := l
  obtain ⟨hbook, hpos, hle, hvpos, hvle⟩ := h
  simp only at hbook hpos hle hvpos hvle
  obtain ⟨k, rfl⟩ : ∃ k, chapter = k + 1 := ⟨chapter - 1, by omega⟩
  have hmin : min book (books.size - 1) = book := by
    have hsize : books.size = 66 := length_canon
    omega
  have hlast : lastVerse book (k + 1 : Nat) = (bookAt book).verseCounts[k] :=
    lastVerse_eq (by omega)
  have hchapter : clampTo 1 (bookAt book).chapterCount (k + 1 : Nat) = (k + 1 : Nat) :=
    clampTo_of_mem (by omega) (by rw [Book.chapterCount]; omega)
  simp only [Nat.add_sub_cancel] at hvle
  have hverse : clampTo 1 (lastVerse book (k + 1 : Nat)) verse = verse :=
    clampTo_of_mem (by omega) (by omega)
  simp only [clampLocation, hmin, hchapter, hverse, Int.toNat_natCast]

theorem ofParts_location (v : Verse) :
    ofParts v.location.book v.location.chapter v.location.verse = v := by
  rw [ofParts, clampLocation_of_exists v.location_exists, atLocation_location]

/-! ### Places from numbers -/

/-- **A place that exists is the place of its verse.** -/
theorem location_atLocation {l : Location} (h : l.Exists) : (atLocation l).location = l := by
  obtain ⟨book, chapter, verse⟩ := l
  obtain ⟨hbook, hpos, hle, hvpos, hvle⟩ := h
  simp only at hbook hpos hle hvpos hvle
  have hchapter : chapter - 1 < (bookAt book).verseCounts.length := by omega
  have hverse : verse - 1 < (bookAt book).verseCounts[chapter - 1] := by omega
  have hb : book < bookSizes.length := length_bookSizes ▸ hbook
  -- the place of the verse in its book, and the place of that in the corpus
  have hin : Blocks.start (bookAt book).verseCounts (chapter - 1) + (verse - 1) < bookSizes[book] := by
    rw [getElem_bookSizes hb]
    exact Blocks.start_add_lt hchapter hverse
  have hord : (atLocation ⟨book, chapter, verse⟩).ordinal = Blocks.start bookSizes book
      + (Blocks.start (bookAt book).verseCounts (chapter - 1) + (verse - 1)) := by
    have htotal := Blocks.start_add_lt hb hin
    rw [total_bookSizes] at htotal
    rw [atLocation, ordinal_ofOrdinal, ordinalAt]
    simp only
    omega
  simp only [location, hord, Blocks.locate_start_add hb hin, Blocks.locate_start_add hchapter hverse]
  simp only [Location.mk.injEq, true_and]
  omega

theorem ordinal_atLocation {l : Location} (h : l.Exists) : (atLocation l).ordinal = ordinalAt l := by
  rw [← ordinalAt_location, location_atLocation h]

section

variable (book : Nat) (chapter verse : Int)

/-- Every book has a chapter, and every chapter a verse. -/
theorem verseCounts_pos : ∀ i < 66, 0 < (bookAt i).verseCounts.length ∧
    ∀ n ∈ (bookAt i).verseCounts, 0 < n := by
  decide +kernel

/-- The chapter that a number is clamped to, counted from zero, and how many verses it has. -/
theorem exists_chapter : ∃ k, ∃ h : k < (bookAt book).verseCounts.length,
    clampTo 1 (bookAt book).chapterCount chapter = (k + 1 : Nat) ∧
      lastVerse book chapter = (bookAt book).verseCounts[k] ∧ 0 < (bookAt book).verseCounts[k] := by
  have hbook : min book (books.size - 1) < 66 := by
    have hsize : books.size = 66 := length_canon
    omega
  obtain ⟨hpos, hverses⟩ := verseCounts_pos _ hbook
  rw [bookAt_min] at hpos hverses
  have hk : clampTo 1 (bookAt book).chapterCount chapter
      = ((clampTo 1 (bookAt book).chapterCount chapter).toNat - 1 + 1 : Nat) := by
    simp only [clampTo]
    omega
  have hlt : (clampTo 1 (bookAt book).chapterCount chapter).toNat - 1
      < (bookAt book).verseCounts.length := by
    simp only [clampTo, Book.chapterCount]
    omega
  refine ⟨_, hlt, hk, ?_, hverses _ (List.getElem_mem hlt)⟩
  rw [← lastVerse_eq hlt, ← hk, lastVerse, lastVerse,
    clampTo_clampTo (by rw [Book.chapterCount]; omega)]

/-- Clamping a chapter does not change which verse is its last one. -/
theorem lastVerse_clampTo : lastVerse (min book (books.size - 1))
    (clampTo 1 (bookAt book).chapterCount chapter) = lastVerse book chapter := by
  obtain ⟨k, hk, -⟩ := exists_chapter book chapter
  rw [lastVerse, bookAt_min, clampTo_clampTo (by rw [Book.chapterCount]; omega), lastVerse]

/-- **Places from numbers.** The book and the chapter do not depend on the verse. -/
theorem clampLocation_eq : clampLocation book chapter verse =
    ⟨min book (books.size - 1), (clampTo 1 (bookAt book).chapterCount chapter).toNat,
      (clampTo 1 (lastVerse book chapter) verse).toNat⟩ := by
  simp only [clampLocation, bookAt_min, lastVerse_clampTo]

/-- **Clamping leads to places that exist.** -/
theorem clampLocation_exists : (clampLocation book chapter verse).Exists := by
  obtain ⟨k, hlt, hk, hlast, hpos⟩ := exists_chapter book chapter
  have hbook : min book (books.size - 1) < 66 := by
    have hsize : books.size = 66 := length_canon
    omega
  rw [clampLocation_eq, hk, hlast, Int.toNat_natCast]
  exact {
    book_lt := hbook
    chapter_pos := Nat.succ_pos k
    chapter_le := by
      rw [bookAt_min]
      exact hlt
    verse_pos := by
      simp only [clampTo]
      omega
    verse_le := by
      simp only [clampTo, Nat.add_sub_cancel, bookAt_min]
      omega }

theorem location_ofParts :
    (ofParts book chapter verse).location = clampLocation book chapter verse :=
  location_atLocation (clampLocation_exists book chapter verse)

end

/-! ### Ends of chapters and books -/

section

variable (book : Nat) (chapter verse : Int)

theorem chapterCount_pos : 0 < (bookAt book).chapterCount := by
  obtain ⟨k, hlt, -⟩ := exists_chapter book 1
  exact Nat.lt_of_le_of_lt (Nat.zero_le k) hlt

theorem lastVerse_pos : 0 < lastVerse book chapter := by
  obtain ⟨k, hlt, -, hlast, hpos⟩ := exists_chapter book chapter
  exact hlast ▸ hpos

/-- **The end of a chapter**, which is clamped into its book. -/
theorem lastInChapter_ofParts :
    (ofParts book chapter verse).lastInChapter = ofParts book chapter (lastVerse book chapter) := by
  have hpos := lastVerse_pos book chapter
  have hcount := chapterCount_pos book
  have hclamp : clampTo 1 (lastVerse book chapter) (lastVerse book chapter) = lastVerse book chapter :=
    clampTo_of_mem (by omega) (by omega)
  rw [lastInChapter, location_ofParts, ofParts]
  simp only [clampLocation_eq, hclamp, Int.toNat_natCast]
  rw [Int.toNat_of_nonneg (by simp only [clampTo]; omega), lastVerse_clampTo]

/-- **The end of a book.** -/
theorem lastChapter_ofParts :
    (ofParts book chapter verse).lastChapter = ofParts book (bookAt book).chapterCount 1 := by
  have hcount := chapterCount_pos book
  have hpos := lastVerse_pos book (bookAt book).chapterCount
  have hclamp : clampTo 1 (bookAt book).chapterCount (bookAt book).chapterCount
      = (bookAt book).chapterCount := clampTo_of_mem (by omega) (by omega)
  have hone : clampTo 1 (lastVerse book (bookAt book).chapterCount) 1 = 1 :=
    clampTo_of_mem (by omega) (by omega)
  rw [lastChapter, location_ofParts, ofParts]
  simp only [clampLocation_eq, bookAt_min, hclamp, hone, Int.toNat_natCast, Int.toNat_one]

/-- No verse of a book stands before its first one. -/
theorem ofParts_one_le : ofParts book 1 1 ≤ ofParts book chapter verse := by
  have hcount := chapterCount_pos book
  have hpos := lastVerse_pos book 1
  have hchapter : clampTo 1 (bookAt book).chapterCount 1 = 1 := clampTo_of_mem (by omega) (by omega)
  have hverse : clampTo 1 (lastVerse book 1) 1 = 1 := clampTo_of_mem (by omega) (by omega)
  change (ofParts book 1 1).ordinal ≤ (ofParts book chapter verse).ordinal
  simp only [ofParts, atLocation, ordinal_ofOrdinal, ordinalAt, clampLocation_eq, hchapter, hverse,
    Int.toNat_one, Nat.sub_self, Blocks.start_zero]
  omega

end

end Verse

end Concordance
