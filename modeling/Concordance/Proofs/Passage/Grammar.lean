import Concordance.Passage.Expression
import Concordance.Proofs.Verse.Reference

/-!
# The grammar of passage expressions

The forms that a fragment of an expression can have, what each is written as, and what each means. A
fragment either names a book or goes on from the fragment before it: in the book of that fragment's last
verse and, where it gives verses without a chapter, also in its chapter. Any marks may have blanks around
them.

Nothing here depends on how expressions are read.

## Main definitions

* `Fragment` — the forms of fragments
* `Fragment.text` — what a fragment is written as
* `Fragment.item`, `Fragment.items` — what fragments mean
* `Joins` — a text that is made up of fragments
-/

namespace Concordance

/-! ### Forms -/

namespace Fragment

/-- Verses in a book that is named before: `3:16`, `3:16-18` and `3:16-4:2`. -/
inductive Stretch where
  /-- One verse. -/
  | verse (chapter verse : Number)
  /-- Up to a verse of the same chapter. -/
  | within (chapter verse last : Number)
  /-- Up to a verse of another chapter. -/
  | across (chapter verse lastChapter last : Number)
deriving DecidableEq

/-- A fragment that names a book. -/
inductive Named where
  /-- A whole book: `John`. -/
  | book (book : BookName)
  /-- A whole chapter: `John 3`. -/
  | chapter (book : BookName) (chapter : Number)
  /-- Whole chapters: `John 3-5`. -/
  | chapters (book : BookName) (chapter lastChapter : Number)
  /-- Verses: `John 3:16`, `John 3:16-18`, `John 3:16-4:2`. -/
  | stretch (book : BookName) (stretch : Stretch)
  /-- Whole books: `John-Acts`. -/
  | books (book lastBook : BookName)
  /-- From the beginning of a book to the end of a chapter: `John-Acts 2`. -/
  | toChapter (book lastBook : BookName) (lastChapter : Number)
  /-- From verse to verse: `John 3:16-Acts 2:4`. -/
  | toVerse (book : BookName) (chapter verse : Number) (lastBook : BookName)
      (lastChapter last : Number)
deriving DecidableEq

/-- A fragment that names no book. -/
inductive Bare where
  /-- A verse of the same chapter: `9`. -/
  | verse (verse : Number)
  /-- Verses of the same chapter: `9-12`. -/
  | verses (verse last : Number)
  /-- Verses of the same book: `3:16`, `3:16-18`, `3:16-4:2`. -/
  | stretch (stretch : Stretch)
deriving DecidableEq

end Fragment

/-- A fragment of a passage expression. -/
inductive Fragment where
  /-- It names a book. -/
  | named (form : Fragment.Named)
  /-- It goes on from the fragment before it. -/
  | bare (form : Fragment.Bare)
deriving DecidableEq

/-- The blanks around the marks of a fragment. A form with fewer marks uses fewer of them. -/
structure Spacing where
  /-- Around the first colon. -/
  colon : Gap
  /-- Around the dash. -/
  dash : Gap
  /-- Around the second colon. -/
  lastColon : Gap
deriving DecidableEq

namespace Spacing

/-- No blanks around marks. -/
def tight : Spacing := ⟨.tight, .tight, .tight⟩

/-- There are no blanks before marks. There may be some after them. -/
def NoneBefore (s : Spacing) : Prop :=
  s.colon.before = .empty ∧ s.dash.before = .empty ∧ s.lastColon.before = .empty

instance (s : Spacing) : Decidable s.NoneBefore := inferInstanceAs (Decidable (_ ∧ _))

end Spacing

/-! ### Written forms -/

namespace Fragment

/-- What verses are written as. -/
def Stretch.text (s : Spacing) : Stretch → List Char
  | verse c v => c.digits ++ s.colon.mark ':' ++ v.digits
  | within c v w => c.digits ++ s.colon.mark ':' ++ v.digits ++ s.dash.mark '-' ++ w.digits
  | across c v d w =>
    c.digits ++ s.colon.mark ':' ++ v.digits ++ s.dash.mark '-' ++ d.digits
      ++ s.lastColon.mark ':' ++ w.digits

/-- What a fragment that names a book is written as. -/
def Named.text (s : Spacing) : Named → List Char
  | book b => b.chars
  | chapter b c => b.chars ++ [' '] ++ c.digits
  | chapters b c d => b.chars ++ [' '] ++ c.digits ++ s.dash.mark '-' ++ d.digits
  | stretch b t => b.chars ++ [' '] ++ t.text s
  | books b d => b.chars ++ s.dash.mark '-' ++ d.chars
  | toChapter b d c => b.chars ++ s.dash.mark '-' ++ d.chars ++ [' '] ++ c.digits
  | toVerse b c v d e w =>
    b.chars ++ [' '] ++ c.digits ++ s.colon.mark ':' ++ v.digits ++ s.dash.mark '-'
      ++ d.chars ++ [' '] ++ e.digits ++ s.lastColon.mark ':' ++ w.digits

/-- What a fragment that names no book is written as. -/
def Bare.text (s : Spacing) : Bare → List Char
  | verse n => n.digits
  | verses n m => n.digits ++ s.dash.mark '-' ++ m.digits
  | stretch t => t.text s

/-- What a fragment is written as, with blanks around its marks. -/
def text (s : Spacing) : Fragment → List Char
  | named f => f.text s
  | bare f => f.text s

end Fragment

/-- A text is made up of fragments, with a comma or a semicolon and possibly blanks after each but the
last. -/
inductive Joins : List (List Char) → List Char → Prop where
  /-- No fragment. -/
  | nil : Joins [] []
  /-- A single fragment. -/
  | single (cs : List Char) : Joins [cs] cs
  /-- A fragment and further ones. -/
  | cons (cs : List Char) {separator : Char} (hseparator : separator = ',' ∨ separator = ';')
      (blanks : Blanks) {ds : List Char} {css : List (List Char)} {text : List Char}
      (hrest : Joins (ds :: css) text) :
      Joins (cs :: ds :: css) (cs ++ separator :: (blanks.chars ++ text))

/-! ### Meaning -/

/-- What two ends mean: all that lies between them, or the first verse alone if the other one does not
come after it. -/
def PassageItem.between (first last : Verse) : PassageItem :=
  if h : first < last then .passage ⟨first, last, Nat.le_of_lt h⟩ else .verse first

/-- The last verse of a chapter. -/
def Verse.endOfChapter (book chapter : Nat) : Verse := (ofParts book chapter 1).lastInChapter

/-- The last verse of a book. -/
def Verse.endOfBook (book : Nat) : Verse := (ofParts book 1 1).lastChapter.lastInChapter

namespace Fragment

/-- Where verses of a book start. -/
def Stretch.first (book : Nat) : Stretch → Verse
  | verse c v | within c v _ | across c v _ _ => .ofParts book c.value v.value

/-- Where verses of a book end. -/
def Stretch.last (book : Nat) : Stretch → Verse
  | verse c v => .ofParts book c.value v.value
  | within c _ w => .ofParts book c.value w.value
  | across _ _ d w => .ofParts book d.value w.value

/-- Where a fragment that names a book starts. -/
def Named.first : Named → Verse
  | book b | books b _ | toChapter b _ _ => .ofParts b.book 1 1
  | chapter b c | chapters b c _ => .ofParts b.book c.value 1
  | stretch b t => t.first b.book
  | toVerse b c v _ _ _ => .ofParts b.book c.value v.value

/-- Where a fragment that names a book ends. -/
def Named.last : Named → Verse
  | book b => .endOfBook b.book
  | chapter b c => .endOfChapter b.book c.value
  | chapters b _ d => .endOfChapter b.book d.value
  | stretch b t => t.last b.book
  | books _ d => .endOfBook d.book
  | toChapter _ d c => .endOfChapter d.book c.value
  | toVerse _ _ _ d e w => .ofParts d.book e.value w.value

/-- What a fragment that names a book means. -/
def Named.item (f : Named) : PassageItem := .between f.first f.last

/-- A fragment that names no book, read with the book and, for verses without a chapter, the chapter of
a verse before it. -/
def Bare.inContext (context : Verse) : Bare → Named
  | verse n => .stretch context.bookName (.verse context.chapterNumber n)
  | verses n m => .stretch context.bookName (.within context.chapterNumber n m)
  | stretch t => .stretch context.bookName t

/-- What a fragment means that stands after a verse. -/
def item (context : Verse) : Fragment → PassageItem
  | named f => f.item
  | bare f => (f.inContext context).item

/-- What fragments mean, the first of which stands after a verse and each other one after the last verse
of the fragment before it. -/
def items (context : Verse) : List Fragment → List PassageItem
  | [] => []
  | f :: fs => f.item context :: items (f.item context).last fs

/-- Every fragment has one item. -/
@[simp] theorem length_items (context : Verse) (fs : List Fragment) :
    (items context fs).length = fs.length := by
  induction fs generalizing context with
  | nil => rfl
  | cons f fs ih => rw [items, List.length_cons, List.length_cons, ih]

end Fragment

end Concordance
