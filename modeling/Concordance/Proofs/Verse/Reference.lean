import Concordance.Proofs.Canon.Names
import Concordance.Proofs.Verse.Location

/-!
# References read back

The written form of a verse mentions that verse: the name of the book ends where the digits of the
chapter start, both numbers have at most three digits, and each name resolves to its own book,
before the blank that comes with it as much as without. What depends on the table of books is
checked book by book; the rest holds of any such name and numbers.

## Main results

* `Verse.parse_padded`, `Verse.parse_reference` — the written form of a verse mentions the verse,
  with blanks around it as much as without
* `Verse.reference_injective` — verses have different written forms
* `Verse.blank_mem_reference` — a written form has a blank
-/

namespace Concordance

/-! ### Numbers of verses -/

/-- The numbers that chapters and verses have are written with at most three digits. -/
theorem digits_toString : ∀ n < 200, (toString n).toList ≠ [] ∧ (toString n).toList.length ≤ 3 ∧
    (toString n).toList.all Char.isDigit = true ∧
    (toString n).toList.foldl (fun acc c => acc * 10 + (c.toNat - '0'.toNat)) 0 = n := by
  decide +kernel

/-- A number, written without leading zeros. -/
def Number.ofNat (n : Nat) (h : n < 200) : Number where
  digits := (toString n).toList
  ne_nil := (digits_toString n h).1
  length_le := (digits_toString n h).2.1
  isDigit := List.all_eq_true.mp (digits_toString n h).2.2.1

@[simp] theorem Number.value_ofNat (n : Nat) (h : n < 200) : (ofNat n h).value = n :=
  (digits_toString n h).2.2.2

/-- Chapters and verses are counted with at most three digits. -/
theorem verseCounts_lt : ∀ i < 66, (bookAt i).verseCounts.length < 200 ∧
    ∀ n ∈ (bookAt i).verseCounts, n < 200 := by
  decide +kernel

namespace Verse

theorem chapter_lt (v : Verse) : v.location.chapter < 200 := by
  have h := v.location_exists
  have := h.chapter_le
  have := (verseCounts_lt _ h.book_lt).1
  omega

theorem verse_lt (v : Verse) : v.location.verse < 200 := by
  have h := v.location_exists
  have hchapter : v.location.chapter - 1 < (bookAt v.location.book).verseCounts.length := by
    have := h.chapter_pos
    have := h.chapter_le
    omega
  have := h.verse_le
  have := (verseCounts_lt _ h.book_lt).2 _ (List.getElem_mem hchapter)
  omega

/-! ### References -/

/-- The full name of the book of a verse. -/
def bookName (v : Verse) : BookName := ⟨v.location.book, v.location_exists.book_lt, false⟩

/-- The chapter of a verse, as it is written. -/
def chapterNumber (v : Verse) : Number := .ofNat v.location.chapter v.chapter_lt

/-- The number of a verse, as it is written. -/
def verseNumber (v : Verse) : Number := .ofNat v.location.verse v.verse_lt

theorem toList_reference (v : Verse) :
    v.reference.toList = v.bookName.chars ++ ' ' :: (v.chapterNumber.digits
      ++ ':' :: v.verseNumber.digits) := by
  simp [reference, Location.reference, String.toList_append, bookName, BookName.chars, chapterNumber,
    verseNumber, Number.ofNat]

/-- A verse, by the numbers that it is written with. -/
theorem ofParts_numbers (v : Verse) :
    ofParts v.bookName.book v.chapterNumber.value v.verseNumber.value = v := by
  rw [chapterNumber, verseNumber, Number.value_ofNat, Number.value_ofNat]
  exact ofParts_location v

/-- Blanks around the written form of a verse do not change what it mentions. -/
theorem parse_padded (v : Verse) (before after : Blanks) :
    parse (String.ofList (before.chars ++ (v.reference.toList ++ after.chars))) = v := by
  have hfind := v.bookName.isName.find?_blanks before
    (v.bookName.isName.read?_verse after .nil v.chapterNumber .tight v.verseNumber)
  have hbook : resolveBook (v.bookName.chars ++ [' ']) = v.bookName.book :=
    v.bookName.resolveBook_chars .space
  have htext : v.reference.toList ++ after.chars = v.bookName.chars
      ++ ' ' :: (v.chapterNumber.digits ++ ':' :: (v.verseNumber.digits ++ after.chars)) := by
    simp [toList_reference]
  simp only [Gap.mark_tight, List.append_nil, List.singleton_append] at hfind
  rw [parse, String.toList_ofList, htext, hfind]
  simp only [Mention.verse, hbook, Number.number?_digits, Option.bind_some, Option.getD_some]
  exact v.ofParts_numbers

/-- **The written form of a verse mentions the verse.** -/
@[simp] theorem parse_reference (v : Verse) : parse v.reference = v := by
  simpa using v.parse_padded .empty .empty

/-- **Verses have different written forms.** -/
theorem reference_injective {v w : Verse} (h : v.reference = w.reference) : v = w := by
  rw [← parse_reference v, h, parse_reference]

/-- A written form has a blank. -/
theorem blank_mem_reference (v : Verse) : ' ' ∈ v.reference.toList := by
  simp [toList_reference]

end Verse

end Concordance
