import Concordance.Word

/-!
# Offsets

Where the books and chapters of a table of verse counts begin, added up once. The number of a verse is
then one entry of the table of chapters and what is added to it, and a number is led back to its place by
two searches that halve the tables.

Tables are indexed, and differences are taken, only where that is possible: else there is no result.

## Main definitions

* `Offsets`, `Offsets.ofTable`: the tables, and those of verse counts
* `Offsets.search`: where a number stands in an ascending row
* `Offsets.ordinalAt?`, `Offsets.locate?`: from places to ordinals and back
* `Verse.ofParts?`, `Verse.parts?`: the same for the verses of the corpus
-/

namespace Concordance

/-- Where books and chapters begin. -/
structure Offsets where
  /-- The index of the first chapter of every book, among the chapters of all books. -/
  bookStarts : Array Nat
  /-- The ordinal of the first verse of every chapter, and after these the number of all verses. -/
  chapterStarts : Array Nat
deriving Repr, DecidableEq

namespace Offsets

/-! ### Adding up -/

/-- The offsets of no books. -/
def empty : Offsets := ⟨#[], #[0]⟩

/-- One more chapter at the end of the last book. -/
def addChapter (o : Offsets) (count : Nat) : Offsets :=
  { o with chapterStarts := o.chapterStarts.push (o.chapterStarts.back?.getD 0 + count) }

/-- One more book, given by the verse counts of its chapters. -/
def addBook (o : Offsets) (counts : List Nat) : Offsets :=
  counts.foldl addChapter { o with bookStarts := o.bookStarts.push (o.chapterStarts.size - 1) }

/-- The offsets of books that are given by the verse counts of their chapters. -/
def ofTable (table : List (List Nat)) : Offsets := table.foldl addBook empty

/-- The offsets of the canon. -/
def canonical : Offsets := ofTable (canon.map Book.verseCounts)

/-! ### Searching by halving -/

/-- Of the `size` numbers from place `base` on, the half in which `x` stands, halved again until one
number is left. -/
def narrow (xs : Array Nat) (x base size : Nat) (hpos : 0 < size) (hsize : base + size ≤ xs.size) :
    Fin xs.size :=
  if h : 1 < size then
    if x < xs[base + size / 2] then narrow xs x base (size - size / 2) (by omega) (by omega)
    else narrow xs x (base + size / 2) (size - size / 2) (by omega) (by omega)
  else ⟨base, by omega⟩
termination_by size

/-- The place of a number in an ascending row; where there is none, the place that it would take. -/
def search (xs : Array Nat) (x : Nat) : Except Nat Nat :=
  if h : 0 < xs.size then
    let i := narrow xs x 0 xs.size h (by omega)
    if xs[i] = x then .ok i else if xs[i] < x then .error (i + 1) else .error i
  else .error 0

/-! ### Places and ordinals -/

/-- The difference of two numbers, unless the second is the greater one. -/
def minus? (a b : Nat) : Option Nat := if b ≤ a then some (a - b) else none

/-- The ordinal of a verse, by the index of its book and its chapter and verse numbers. -/
def ordinalAt? (o : Offsets) (book : Nat) (chapter verse : UInt16) : Option Nat := do
  let i ← minus? ((← o.bookStarts[book]?) + chapter.toNat) 1
  minus? ((← o.chapterStarts[i]?) + verse.toNat) 1

/-- The index, among the chapters of all books, of the chapter that an ordinal belongs to. -/
def chapterAt? (o : Offsets) (ordinal : Nat) : Option Nat :=
  match search o.chapterStarts ordinal with
  | .ok i => (minus? o.chapterStarts.size 2).map (min i)
  | .error i => minus? i 1

/-- The index of the book that has a chapter. -/
def bookAt? (o : Offsets) (i : Nat) : Option Nat :=
  match search o.bookStarts i with
  | .ok book => some book
  | .error book => minus? book 1

/-- The place of the verse with an ordinal. -/
def locate? (o : Offsets) (ordinal : Nat) : Option Location := do
  let i ← o.chapterAt? ordinal
  let book ← o.bookAt? i
  let chapter := UInt16.ofNat ((← minus? i (← o.bookStarts[book]?)) + 1)
  let verse := UInt16.ofNat ((← minus? ordinal (← o.chapterStarts[i]?)) + 1)
  return ⟨book, chapter.toNat, verse.toNat⟩

end Offsets

/-! ### Verses of the corpus -/

/-- A number moved into the interval from `low` to `high`, if there is such an interval. -/
def clampTo? (low high n : Int) : Option Int := if low ≤ high then some (clampTo low high n) else none

namespace Verse

/-- The verse that a book index, a chapter and a verse number name, each clamped to what exists. -/
def ofParts? (book : UInt64) (chapter verse : Int64) : Option Verse := do
  let i := min book.toNat (books.size - 1)
  let b ← books[i]?
  let chapter := UInt16.ofInt (← clampTo? 1 b.chapterCount chapter.toInt)
  let last := (b.verseCount? chapter.toNat).getD 1
  let verse := UInt16.ofInt (← clampTo? 1 last verse.toInt)
  let ordinal ← Offsets.canonical.ordinalAt? i chapter verse
  if h : ordinal < corpusSize then some ⟨ordinal, h⟩ else none

/-- The index of the book of a verse, and its chapter and verse numbers. -/
def parts? (v : Verse) : Option Location := Offsets.canonical.locate? v.ordinal

end Verse

end Concordance
