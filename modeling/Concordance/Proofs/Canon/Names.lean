import Concordance.Proofs.Verse.Location
import Concordance.Proofs.Verse.Mention

/-!
# Names of books

A book is named by its full name or by its abbreviation. Either is read as a whole, blanks after it
included, and is resolved to the book that it names. What is said of names here is checked for every book
of the table; abbreviations such as `1Sam` begin with a numeral, full names such as `I Samuel` do not.

## Main definitions

* `BookName` — a book of the canon, by its name or its abbreviation
* `firstBook?` — the first book whose name or abbreviation begins as written

## Main results

* `BookName.resolveBook_chars` — a name is resolved to its book
* `BookName.isName` — a name is read as a whole
-/

namespace Concordance

/-- Blanks around a name make no difference. -/
theorem resolveBook_trim (written : List Char) :
    resolveBook (Text.trim written) = resolveBook written := by
  rw [resolveBook, Text.trim_trim, resolveBook]

/-- Whether one text begins another, by code points. -/
def begins : List Char → List Char → Bool
  | [], _ => true
  | _ :: _, [] => false
  | c :: cs, d :: ds => Nat.beq c.toNat d.toNat && begins cs ds

theorem isPrefixOf_eq_begins (cs ds : List Char) : cs.isPrefixOf ds = begins cs ds := by
  induction cs generalizing ds with
  | nil => cases ds <;> rfl
  | cons c cs ih =>
    cases ds with
    | nil => rfl
    | cons d ds =>
      have hchar : (c == d) = Nat.beq c.toNat d.toNat := by
        rw [Bool.eq_iff_iff, beq_iff_eq, Nat.beq_eq, Char.toNat_inj]
      rw [List.isPrefixOf_cons_cons, begins, hchar, ih]

/-- The first book whose name or abbreviation begins as written. -/
def firstBook? (written : List Char) : Option Nat :=
  let lowered := Text.lower (Text.trim written)
  bookSpellings.findIdx? fun s => begins (romanNumeral lowered) s.name ||
    begins (lowered.filter fun c => !Text.isBlank c) s.abbreviation

theorem resolveBook_of_firstBook? {written : List Char} {i : Nat} (h : firstBook? written = some i) :
    resolveBook written = i := by
  simp only [firstBook?, ← isPrefixOf_eq_begins] at h
  simp only [resolveBook, h]
  rfl

/-- A book of the canon, named in full or abbreviated. -/
structure BookName where
  /-- The index of the book. -/
  book : Nat
  book_lt : book < 66
  /-- Whether the abbreviation is written. -/
  abbreviated : Bool
deriving DecidableEq

namespace BookName

/-- The written name. -/
def chars (b : BookName) : List Char :=
  (if b.abbreviated then (bookAt b.book).abbreviation else (bookAt b.book).name).toList

/-- What is checked of the names of all books holds of any name. -/
theorem forall_names {P : Nat → List Char → Prop}
    (h : ∀ p ∈ canon.zipIdx, P p.2 p.1.name.toList ∧ P p.2 p.1.abbreviation.toList)
    (b : BookName) : P b.book b.chars := by
  have hlt : b.book < canon.length := by
    rw [length_canon]
    exact b.book_lt
  obtain ⟨hname, habbreviation⟩ := h _ (List.mk_mem_zipIdx_iff_getElem?.mpr (List.getElem?_eq_getElem hlt))
  rw [chars, bookAt_eq hlt]
  split
  · exact habbreviation
  · exact hname

/-- What is checked of the name of a book: it is read as a whole, has no separators and no blanks at its
ends, and no book before it begins as it does. -/
def IsFit (book : Nat) (name : List Char) : Prop :=
  Mention.IsName name ∧ name.all (fun c => c != ',' && c != ';') = true ∧
    (name.head?.all (!Text.isBlank ·) = true ∧ name.getLast?.all (!Text.isBlank ·) = true) ∧
    firstBook? name = some book

instance (book : Nat) (name : List Char) : Decidable (IsFit book name) := by
  unfold IsFit
  infer_instance

theorem isFit (b : BookName) : IsFit b.book b.chars := forall_names (by decide +kernel) b

/-- A name is read as a whole. -/
theorem isName (b : BookName) : Mention.IsName b.chars := b.isFit.1

/-- A name has no separators. -/
theorem ne_separator (b : BookName) : ∀ c ∈ b.chars, c ≠ ',' ∧ c ≠ ';' := by
  simpa using b.isFit.2.1

/-- A name has no blanks at its ends. -/
theorem isBlank_ends (b : BookName) : (∀ c ∈ b.chars.head?, Text.isBlank c = false) ∧
    ∀ c ∈ b.chars.getLast?, Text.isBlank c = false := by
  simpa [Option.all_eq_true] using b.isFit.2.2.1

theorem trim_chars (b : BookName) : Text.trim b.chars = b.chars :=
  Text.trim_eq_self b.isBlank_ends.1 b.isBlank_ends.2

/-- **A name is resolved to its book**, with the blanks after it. -/
theorem resolveBook_chars (b : BookName) (blanks : Blanks) :
    resolveBook (b.chars ++ blanks.chars) = b.book := by
  rw [resolveBook, Text.trim_append_right blanks.isBlank]
  exact resolveBook_of_firstBook? b.isFit.2.2.2

end BookName

end Concordance
