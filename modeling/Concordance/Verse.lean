import Concordance.Canon

/-!
# Verses

A verse is known by its ordinal, its number in the order of the canon. Comparing verses is comparing
their places in the corpus, and every value of the type is a verse that exists.

## Main definitions

* `Verse`: a verse of the corpus
* `Verse.ofOrdinal`, `Verse.ofParts`: verses from numbers, clamped to what exists
* `Verse.location`: the book, chapter and verse numbers
* `Verse.reference`: the written form, such as `Genesis 1:1`
* `Verse.offset`, `Verse.distance`: moving through the corpus
-/

namespace Concordance

/-- A verse, known by its number in the order of the canon. -/
structure Verse where
  /-- How many verses come before it. -/
  ordinal : Nat
  ordinal_lt : ordinal < corpusSize
deriving DecidableEq

/-- The place of a verse: the index of its book, counted from zero, and its chapter and verse
numbers, counted from one. -/
structure Location where
  /-- The index of the book in the canon. -/
  book : Nat
  /-- The number of the chapter in the book. -/
  chapter : Nat
  /-- The number of the verse in the chapter. -/
  verse : Nat
deriving Repr, DecidableEq

/-- The book with an index; the last one for indices past the end. -/
def bookAt (i : Nat) : Book := books[min i (books.size - 1)]?.getD default

/-- The written form of a place: the name of the book, the chapter and the verse number. -/
def Location.reference (l : Location) : String :=
  (bookAt l.book).name ++ " " ++ toString l.chapter ++ ":" ++ toString l.verse

/-- A number moved into the interval from `low` to `high`. -/
def clampTo (low high n : Int) : Int := max low (min high n)

/-- The last verse number of a chapter, the chapter being clamped into the book. -/
def lastVerse (book : Nat) (chapter : Int) : Nat :=
  let b := bookAt book
  (b.verseCount? (clampTo 1 b.chapterCount chapter).toNat).getD 1

namespace Verse

@[ext] theorem ext {v w : Verse} (h : v.ordinal = w.ordinal) : v = w := by
  cases v; cases w; simp_all

instance : LT Verse := ⟨fun v w => v.ordinal < w.ordinal⟩

instance : LE Verse := ⟨fun v w => v.ordinal ≤ w.ordinal⟩

instance (v w : Verse) : Decidable (v < w) := inferInstanceAs (Decidable (v.ordinal < w.ordinal))

instance (v w : Verse) : Decidable (v ≤ w) := inferInstanceAs (Decidable (v.ordinal ≤ w.ordinal))

instance : Ord Verse := ⟨fun v w => compare v.ordinal w.ordinal⟩

/-! ### Verses from numbers -/

/-- The verse with an ordinal; the last one for ordinals past the end. -/
def ofOrdinal (n : Nat) : Verse :=
  ⟨min n (corpusSize - 1), by simp only [corpusSize]; omega⟩

/-- The first verse of the corpus. -/
def first : Verse := ofOrdinal 0

/-- The last verse of the corpus. -/
def last : Verse := ofOrdinal (corpusSize - 1)

instance : Inhabited Verse := ⟨first⟩

/-- The ordinal of a place that exists. -/
def ordinalAt (l : Location) : Nat :=
  Blocks.start bookSizes l.book + Blocks.start (bookAt l.book).verseCounts (l.chapter - 1)
    + (l.verse - 1)

/-- The verse at a place that exists. -/
def atLocation (l : Location) : Verse := ofOrdinal (ordinalAt l)

/-- The place that three numbers name, each clamped to what exists: the book first, then the chapter
within it, then the verse within that. -/
def clampLocation (book : Nat) (chapter verse : Int) : Location :=
  let book := min book (books.size - 1)
  let chapter := clampTo 1 (bookAt book).chapterCount chapter
  ⟨book, chapter.toNat, (clampTo 1 (lastVerse book chapter) verse).toNat⟩

/-- The verse that a book index, a chapter and a verse number name, each clamped to what exists. -/
def ofParts (book : Nat) (chapter verse : Int) : Verse :=
  atLocation (clampLocation book chapter verse)

@[simp] theorem ordinal_ofOrdinal (n : Nat) : (ofOrdinal n).ordinal = min n (corpusSize - 1) := rfl

@[simp] theorem ofOrdinal_ordinal (v : Verse) : ofOrdinal v.ordinal = v := by
  have := v.ordinal_lt
  ext
  simp only [ordinal_ofOrdinal]
  omega

/-! ### Places -/

/-- The book, chapter and verse numbers of a verse. -/
def location (v : Verse) : Location :=
  let (book, inBook) := Blocks.locate bookSizes v.ordinal
  let (chapter, inChapter) := Blocks.locate (bookAt book).verseCounts inBook
  ⟨book, chapter + 1, inChapter + 1⟩

/-- The book of a verse. -/
def book (v : Verse) : Book := bookAt v.location.book

/-- The written form of a verse. -/
def reference (v : Verse) : String := v.location.reference

instance : ToString Verse := ⟨reference⟩

/-! ### Moving -/

/-- The last verse of the chapter. -/
def lastInChapter (v : Verse) : Verse :=
  let l := v.location
  atLocation ⟨l.book, l.chapter, lastVerse l.book l.chapter⟩

/-- The first verse of the book's last chapter. -/
def lastChapter (v : Verse) : Verse :=
  let l := v.location
  atLocation ⟨l.book, (bookAt l.book).chapterCount, 1⟩

/-- The first verse of the chapter. -/
def chapterStart (v : Verse) : Verse :=
  let l := v.location
  atLocation ⟨l.book, l.chapter, 1⟩

/-- The verse `n` places further on, or back if `n` is negative, stopping at the ends of the
corpus. -/
def offset (v : Verse) (n : Int) : Verse :=
  ofOrdinal (v.ordinal + n).toNat

/-- How many places `w` lies after `v`; negative if it lies before. -/
def distance (v w : Verse) : Int := (w.ordinal : Int) - v.ordinal

end Verse

end Concordance
