import Concordance.Proofs.Passage.Fragments
import Concordance.Proofs.Passage.Grammar

/-!
# Fragments of passage expressions, read

What is read of a fragment follows from what is read of its start and of its end, and both are read piece
by piece. A fragment that names no book mentions nothing, as long as no blank stands before one of its
marks. Then it is read again, put after a book and possibly a chapter, as a fragment that names them.

After a dash a numeral may be the beginning of a name. A single digit from one to three with a blank after
it is read as such a name. That is the one place where a blank makes a difference to a fragment with a
book.

## Main definitions

* `Number.OpensName` — a digit that names begin with
* `Fragment.Clear` — blanks around marks, where they make no difference
* `Fragment.Named.extent` — what is read of a fragment that names a book

## Main results

* `Fragment.Named.findAll_text` — a fragment that names a book is read as it is written
* `Fragment.Named.item_extent` — what is read is what the fragment means
* `Fragment.Bare.nameless_text`, `Fragment.Bare.qualify_text` — a fragment that names no book mentions
  nothing, and is read as one that does
* `Fragment.parseAfter_text`, `Fragment.parseFragments_text` — fragments have one item each
-/

namespace Concordance

open Mention (IsName Ends Nameless)

/-- A single digit that names of books begin with. Before a blank it is read as a name. -/
def Number.OpensName (n : Number) : Prop := n.digits ∈ [['1'], ['2'], ['3']]

instance (n : Number) : Decidable n.OpensName := inferInstanceAs (Decidable (_ ∈ _))

/-- A number is no name unless it is a single digit that a name goes on after. -/
theorem Number.readName?_append (n : Number) (rest : List Char)
    (hrest : n.OpensName → ∀ c ∈ rest.head?, Mention.isNameChar c = false) :
    Mention.readName? (n.digits ++ rest) = none := by
  obtain ⟨d, ds, hds, -⟩ := n.exists_cons
  have hdigits : ∀ c ∈ d :: ds, Text.isDigit c = true := fun c hc => (n.of_mem (hds ▸ hc)).1
  rw [hds, List.cons_append]
  refine Mention.readName?_digits hdigits fun hnil hnumeral => hrest ?_
  subst hnil
  simpa [OpensName, hds, Mention.isBookNumeral, or_assoc] using hnumeral

namespace Extent

variable {name rest : List Char}

/-! ### Ends -/

/-- Blanks are passed over before a dash and after it. -/
theorem readDash?_mark (g : Gap) (cs : List Char) :
    readDash? (g.mark '-' ++ cs) = some (readEnd (Text.trimStart cs)) := by
  have hdash : Text.trimStart ('-' :: (g.after.chars ++ cs)) = '-' :: (g.after.chars ++ cs) := by
    simp [Text.trimStart, show Text.isBlank '-' = false by decide]
  rw [Gap.mark_append, readDash?, g.before.trimStart_append, hdash]
  exact congrArg (fun cs => some (readEnd cs)) (g.after.trimStart_append cs)

/-- A number after a dash. -/
theorem readEnd_number (n : Number) : readEnd n.digits = (⟨none, none, some n.digits⟩, []) := by
  have hname : Mention.readName? n.digits = none := by
    simpa using n.readName?_append [] (by simp)
  simp [readEnd, hname, n.ne_nil]

/-- A chapter and a verse after a dash. -/
theorem readEnd_numbers (d : Number) (g : Gap) (w : Number)
    (hclear : d.OpensName → g.before = .empty) :
    readEnd (d.digits ++ (g.mark ':' ++ w.digits)) = (⟨none, some d.digits, some w.digits⟩, []) := by
  have hname : Mention.readName? (d.digits ++ (g.mark ':' ++ w.digits)) = none := by
    refine d.readName?_append _ fun hopens c hc => ?_
    rw [Gap.mark_append, hclear hopens] at hc
    obtain rfl : ':' = c := by simpa using hc
    decide
  simp [readEnd, hname, d.readDigits_append _ (g.isDigit_colon _), d.ne_nil,
    Mention.readColon?_mark, w.ne_nil]

section

variable (h : IsName name)

include h

/-- A book after a dash. -/
theorem readEnd_book : readEnd name = (⟨some name, none, none⟩, []) := by
  simp [readEnd, h.read, Ends.nil.skipDot, Ends.nil.trimStart, Ends.nil.readDigits]

/-- A book and a number after a dash. -/
theorem readEnd_chapter (n : Number) :
    readEnd (name ++ ' ' :: n.digits) = (⟨some (name ++ [' ']), none, some n.digits⟩, []) := by
  have hname : Mention.readName? (name ++ ' ' :: n.digits) = some (name ++ [' '], n.digits) := by
    simpa using h.readName?_number n []
  simp [readEnd, hname, n.ne_nil]

/-- A book, a chapter and a verse after a dash. -/
theorem readEnd_verse (d : Number) (g : Gap) (w : Number) :
    readEnd (name ++ ' ' :: (d.digits ++ (g.mark ':' ++ w.digits)))
      = (⟨some (name ++ [' ']), some d.digits, some w.digits⟩, []) := by
  simp [readEnd, h.readName?_number, d.readDigits_append _ (g.isDigit_colon _), d.ne_nil,
    Mention.readColon?_mark, w.ne_nil]

end

/-! ### Whole fragments -/

/-- An extent is found where a mention is. -/
theorem isSome_find? (before? : Option Char) (cs : List Char) :
    (find? before? cs).isSome = (Mention.find? before? cs).isSome := by
  rw [find?]
  split
  · rename_i hnone
    rw [hnone]
    rfl
  · rename_i hsome
    rw [hsome]
    split <;> rfl

theorem findFrom_nil (fuel : Nat) (before? : Option Char) : findFrom fuel before? [] = [] := by
  cases fuel <;> rfl

section

variable (h : IsName name)

include h

/-- An extent that takes up the whole text is the only one. -/
theorem findAll_eq {e : Extent} (hfind : find? none (name ++ rest) = some (e, [])) :
    findAll (name ++ rest) = [e] := by
  obtain ⟨c, cs, rfl, -⟩ := h.exists_cons
  rw [findAll, List.cons_append, List.length_cons, findFrom, ← List.cons_append, hfind]
  simp [findFrom_nil]

/-- A fragment without a dash. -/
theorem findAll_start {start : Mention}
    (hread : Mention.read? (name ++ rest) = some (start, [])) :
    findAll (name ++ rest) = [⟨start, none⟩] := by
  refine findAll_eq h ?_
  rw [find?, h.find?_eq hread]
  rfl

/-- A fragment with a dash. -/
theorem findAll_stop {start : Mention} {stop : ExtentEnd} (b : Blanks) (g : Gap) {cs : List Char}
    (hread : Mention.read? (name ++ rest) = some (start, b.chars ++ '-' :: (g.after.chars ++ cs)))
    (hend : readEnd (Text.trimStart cs) = (stop, [])) :
    findAll (name ++ rest) = [⟨start, some stop⟩] := by
  have hdash : readDash? (b.chars ++ '-' :: (g.after.chars ++ cs)) = some (stop, []) := by
    have hmark := readDash?_mark ⟨b, g.after⟩ cs
    rwa [Gap.mark_append, hend] at hmark
  refine findAll_eq h ?_
  rw [find?, h.find?_eq hread]
  simp [hdash]

section

variable (c : Number) (g : Gap) (v : Number)

/-- A book. -/
theorem findAll_book : findAll name = [⟨⟨name, [], none⟩, none⟩] := by
  simpa using findAll_start h (h.read?_book .empty .nil)

/-- A chapter. -/
theorem findAll_chapter :
    findAll (name ++ ' ' :: c.digits) = [⟨⟨name ++ [' '], c.digits, none⟩, none⟩] := by
  simpa using findAll_start h (h.read?_chapter .empty .nil c)

/-- A verse. -/
theorem findAll_verse : findAll (name ++ ' ' :: (c.digits ++ (g.mark ':' ++ v.digits)))
    = [⟨⟨name ++ [' '], c.digits, some v.digits⟩, none⟩] := by
  simpa using findAll_start h (h.read?_verse .empty .nil c g v)

variable {cs : List Char} {stop : ExtentEnd} (g' : Gap)
  (hend : readEnd (Text.trimStart cs) = (stop, []))

include hend

/-- A book, and an end after a dash. -/
theorem findAll_book_dash :
    findAll (name ++ (g.mark '-' ++ cs)) = [⟨⟨name ++ g.before.chars, [], none⟩, some stop⟩] := by
  have hread := h.read?_book g.before (.dash (g.after.chars ++ cs))
  rw [Gap.mark_append]
  exact findAll_stop h .empty g hread hend

/-- A chapter, and an end after a dash. -/
theorem findAll_chapter_dash : findAll (name ++ ' ' :: (c.digits ++ (g.mark '-' ++ cs)))
    = [⟨⟨name ++ [' '], c.digits, none⟩, some stop⟩] := by
  have hread := h.read?_chapter g.before (.dash (g.after.chars ++ cs)) c
  rw [Gap.mark_append]
  exact findAll_stop h g.before g hread hend

/-- A verse, and an end after a dash. -/
theorem findAll_verse_dash :
    findAll (name ++ ' ' :: (c.digits ++ (g.mark ':' ++ (v.digits ++ (g'.mark '-' ++ cs)))))
      = [⟨⟨name ++ [' '], c.digits, some v.digits⟩, some stop⟩] := by
  have hread := h.read?_verse g'.before (.dash (g'.after.chars ++ cs)) c g v
  rw [Gap.mark_append g']
  exact findAll_stop h g'.before g' hread hend

end

end

end Extent

namespace Fragment

/-! ### Fragments that name a book -/

/-- Where blanks make no difference: a single digit that begins names has no blank between it and the
second colon. -/
def Stretch.Clear (s : Spacing) : Stretch → Prop
  | across _ _ d _ => d.OpensName → s.lastColon.before = .empty
  | _ => True

/-- Where blanks make no difference in a fragment that names a book. -/
def Named.Clear (s : Spacing) : Named → Prop
  | stretch _ t => t.Clear s
  | _ => True

/-- What is read of a fragment that names a book. -/
def Named.extent (s : Spacing) : Named → Extent
  | book b => ⟨⟨b.chars, [], none⟩, none⟩
  | chapter b c => ⟨⟨b.chars ++ [' '], c.digits, none⟩, none⟩
  | chapters b c d => ⟨⟨b.chars ++ [' '], c.digits, none⟩, some ⟨none, none, some d.digits⟩⟩
  | stretch b (.verse c v) => ⟨⟨b.chars ++ [' '], c.digits, some v.digits⟩, none⟩
  | stretch b (.within c v w) =>
    ⟨⟨b.chars ++ [' '], c.digits, some v.digits⟩, some ⟨none, none, some w.digits⟩⟩
  | stretch b (.across c v d w) =>
    ⟨⟨b.chars ++ [' '], c.digits, some v.digits⟩, some ⟨none, some d.digits, some w.digits⟩⟩
  | books b d => ⟨⟨b.chars ++ s.dash.before.chars, [], none⟩, some ⟨some d.chars, none, none⟩⟩
  | toChapter b d c =>
    ⟨⟨b.chars ++ s.dash.before.chars, [], none⟩, some ⟨some (d.chars ++ [' ']), none, some c.digits⟩⟩
  | toVerse b c v d e w =>
    ⟨⟨b.chars ++ [' '], c.digits, some v.digits⟩,
      some ⟨some (d.chars ++ [' ']), some e.digits, some w.digits⟩⟩

/-- **A fragment that names a book is read as it is written.** -/
theorem Named.findAll_text {s : Spacing} {f : Named} (h : f.Clear s) :
    Extent.findAll (f.text s) = [f.extent s] := by
  cases f with
  | book b => exact Extent.findAll_book b.isName
  | chapter b c => simpa [text, extent] using Extent.findAll_chapter b.isName c
  | chapters b c d =>
    have hend : Extent.readEnd (Text.trimStart d.digits) = (⟨none, none, some d.digits⟩, []) := by
      simp [Extent.readEnd_number]
    simpa [text, extent] using Extent.findAll_chapter_dash b.isName c s.dash hend
  | stretch b t =>
    cases t with
    | verse c v =>
      simpa [text, Stretch.text, extent] using Extent.findAll_verse b.isName c s.colon v
    | within c v w =>
      have hend : Extent.readEnd (Text.trimStart w.digits) = (⟨none, none, some w.digits⟩, []) := by
        simp [Extent.readEnd_number]
      simpa [text, Stretch.text, extent]
        using Extent.findAll_verse_dash b.isName c s.colon v s.dash hend
    | across c v d w =>
      have hend : Extent.readEnd (Text.trimStart (d.digits ++ (s.lastColon.mark ':' ++ w.digits)))
          = (⟨none, some d.digits, some w.digits⟩, []) := by
        simpa using Extent.readEnd_numbers d s.lastColon w h
      simpa [text, Stretch.text, extent]
        using Extent.findAll_verse_dash b.isName c s.colon v s.dash hend
  | books b d =>
    have hend : Extent.readEnd (Text.trimStart d.chars) = (⟨some d.chars, none, none⟩, []) := by
      have htrim : Text.trimStart d.chars = d.chars := by simpa using d.isName.trimStart_append []
      rw [htrim, Extent.readEnd_book d.isName]
    simpa [text, extent] using Extent.findAll_book_dash b.isName s.dash hend
  | toChapter b d c =>
    have hend : Extent.readEnd (Text.trimStart (d.chars ++ ' ' :: c.digits))
        = (⟨some (d.chars ++ [' ']), none, some c.digits⟩, []) := by
      rw [d.isName.trimStart_append, Extent.readEnd_chapter d.isName]
    simpa [text, extent] using Extent.findAll_book_dash b.isName s.dash hend
  | toVerse b c v d e w =>
    have hend : Extent.readEnd
        (Text.trimStart (d.chars ++ ' ' :: (e.digits ++ (s.lastColon.mark ':' ++ w.digits))))
        = (⟨some (d.chars ++ [' ']), some e.digits, some w.digits⟩, []) := by
      rw [d.isName.trimStart_append, Extent.readEnd_verse d.isName]
    simpa [text, extent] using Extent.findAll_verse_dash b.isName c s.colon v s.dash hend

end Fragment

/-! ### What is read, and what it means -/

namespace Extent

/-- The item that an extent means lies between its ends. -/
theorem item_eq (e : Extent) : e.item = .between e.start.verse e.last := by
  by_cases h : e.start.verse < e.last
  · have hle : e.start.verse ≤ e.last := Nat.le_of_lt h
    simp [item, PassageItem.between, h, Passage.ofEnds, hle]
  · simp [item, PassageItem.between, h]

theorem endOfChapter_eq (book chapter : Nat) : endOfChapter book chapter = .endOfChapter book chapter :=
  (Verse.lastInChapter_ofParts book chapter 1).symm

theorem endOfBook_eq (book : Nat) : endOfBook book = .endOfBook book := by
  rw [endOfBook, endOfChapter_eq, Verse.endOfChapter, Verse.endOfBook, Verse.lastChapter_ofParts]

@[simp] theorem book?_none : book? none = none := rfl

@[simp] theorem value?_none : value? none = none := rfl

@[simp] theorem value?_digits (n : Number) : value? (some n.digits) = some n.value := by
  simp [value?]

/-- A name after a dash means its book. -/
theorem book?_chars (b : BookName) (blanks : Blanks) :
    book? (some (b.chars ++ blanks.chars)) = some b.book := by
  have hne : Text.trim (b.chars ++ blanks.chars) ≠ [] := by
    rw [Text.trim_append_right blanks.isBlank, b.trim_chars]
    obtain ⟨c, cs, hcs, -⟩ := b.isName.exists_cons
    simp [hcs]
  rw [book?, Option.filter_some, if_pos (by simpa using hne), Option.map_some, b.resolveBook_chars]

end Extent

namespace PassageItem

theorem between_of_le {v w : Verse} (h : w ≤ v) : between v w = .verse v :=
  dif_neg (Nat.not_lt.mpr h)

end PassageItem

namespace Fragment

/-- **What is read of a fragment is what it means.** -/
theorem Named.item_extent (s : Spacing) (f : Named) : (f.extent s).item = f.item := by
  have hname : ∀ b : BookName, resolveBook b.chars = b.book := fun b => by
    simpa using b.resolveBook_chars .empty
  have hspace : ∀ b : BookName, resolveBook (b.chars ++ [' ']) = b.book := fun b =>
    b.resolveBook_chars .space
  have hend : ∀ b : BookName, Extent.book? (some b.chars) = some b.book := fun b => by
    simpa using Extent.book?_chars b .empty
  have hend' : ∀ b : BookName, Extent.book? (some (b.chars ++ [' '])) = some b.book := fun b =>
    Extent.book?_chars b .space
  rw [Extent.item_eq, item]
  cases f with
  | book b =>
    simp only [extent, Extent.last, Mention.verse, first, last, ← Extent.endOfBook_eq, hname]
    rfl
  | chapter b c =>
    simp [extent, Extent.last, Mention.verse, first, last, hspace, Extent.endOfChapter_eq]
  | chapters b c d =>
    simp [extent, Extent.last, Mention.verse, first, last, hspace, Extent.endOfChapter_eq]
  | stretch b t =>
    cases t with
    | verse c v =>
      -- where a verse ends is not read at all
      have hfirst : Verse.ofParts b.book 1 1 ≤ .ofParts b.book c.value v.value :=
        Verse.ofParts_one_le b.book c.value v.value
      simp [extent, Extent.last, Mention.verse, first, last, hspace, Stretch.first, Stretch.last,
        PassageItem.between_of_le hfirst, PassageItem.between_of_le (Nat.le_refl _)]
    | within c v w =>
      simp [extent, Extent.last, Mention.verse, first, last, hspace, Stretch.first, Stretch.last]
    | across c v d w =>
      simp [extent, Extent.last, Mention.verse, first, last, hspace, Stretch.first, Stretch.last]
  | books b d =>
    simp only [extent, Extent.last, Mention.verse, first, last, b.resolveBook_chars,
      ← Extent.endOfBook_eq]
    by_cases hsame : d.book = b.book
    · simp [Extent.endOfBook, hend, hsame]
    · simp [hend, hsame]
  | toChapter b d c =>
    simp [extent, Extent.last, Mention.verse, first, last, b.resolveBook_chars, hend',
      Extent.endOfChapter_eq]
  | toVerse b c v d e w =>
    simp [extent, Extent.last, Mention.verse, first, last, hspace, hend']

/-- **A fragment that names a book has one item**, which is what the fragment means. -/
theorem Named.parseFragment_text {s : Spacing} {f : Named} (h : f.Clear s) :
    PassageItem.parseFragment (f.text s) = [f.item] := by
  rw [PassageItem.parseFragment, findAll_text h, List.map_singleton, item_extent]

/-! ### Fragments that name no book -/

/-- Numbers with marks between them mention nothing. -/
theorem nameless_number_mark (n : Number) {g : Gap} (hg : g.before = .empty) {c : Char}
    (hc : c = ':' ∨ c = '-') {cs : List Char} (h : Nameless cs) :
    Nameless (n.digits ++ (g.mark c ++ cs)) := by
  rw [Gap.mark_append, hg, Blanks.chars_empty, List.nil_append]
  refine .number n (fun c' hc' => ?_) (.mark hc g.after h)
  obtain rfl : c = c' := by simpa using hc'
  obtain rfl | rfl := hc <;> decide

theorem nameless_digits (n : Number) : Nameless n.digits := by
  simpa using Nameless.number n (by simp) .nil

/-- **A fragment that names no book mentions nothing.** -/
theorem Bare.nameless_text {s : Spacing} (h : s.NoneBefore) (f : Bare) : Nameless (f.text s) := by
  obtain ⟨hcolon, hdash, hlast⟩ := h
  cases f with
  | verse n => exact nameless_digits n
  | verses n m =>
    rw [text, List.append_assoc]
    exact nameless_number_mark n hdash (.inr rfl) (nameless_digits m)
  | stretch t =>
    cases t with
    | verse c v =>
      rw [text, Stretch.text, List.append_assoc]
      exact nameless_number_mark c hcolon (.inl rfl) (nameless_digits v)
    | within c v w =>
      simp only [text, Stretch.text, List.append_assoc]
      exact nameless_number_mark c hcolon (.inl rfl)
        (nameless_number_mark v hdash (.inr rfl) (nameless_digits w))
    | across c v d w =>
      simp only [text, Stretch.text, List.append_assoc]
      exact nameless_number_mark c hcolon (.inl rfl) (nameless_number_mark v hdash (.inr rfl)
        (nameless_number_mark d hlast (.inl rfl) (nameless_digits w)))

theorem parseFragment_of_nameless {cs : List Char} (h : Nameless cs) :
    PassageItem.parseFragment cs = [] := by
  have hfrom : ∀ fuel, Extent.findFrom fuel none cs = [] := by
    intro fuel
    cases fuel with
    | zero => rfl
    | succ fuel => simp [Extent.findFrom, Extent.find?, h none]
  simp [PassageItem.parseFragment, Extent.findAll, hfrom]

theorem colon_notMem_digits (n : Number) : ':' ∉ n.digits :=
  fun h => absurd (n.isDigit ':' h) (by decide)

theorem colon_notMem_dash (g : Gap) : ':' ∉ g.mark '-' := by
  have hblanks : ∀ b : Blanks, ':' ∉ b.chars := fun b h => absurd (b.isBlank ':' h) (by decide)
  simp [Gap.mark, hblanks]

/-- **A fragment that names no book is read as one that does**, put after the book and the chapter that
went before. -/
theorem Bare.qualify_text {s : Spacing} (h : s.NoneBefore) (f : Bare) (context : Verse) :
    ∃ s', (f.inContext context).Clear s' ∧
      PassageItem.qualify context (f.text s) = (f.inContext context).text s' := by
  have hname : context.book.name.toList = context.bookName.chars := rfl
  have hchapter : (toString context.location.chapter).toList = context.chapterNumber.digits := rfl
  cases f with
  | verse n =>
    refine ⟨.tight, trivial, ?_⟩
    have hcolon : (text s (verse n)).contains ':' = false := by
      simpa [text] using colon_notMem_digits n
    rw [PassageItem.qualify, hcolon, hname, hchapter]
    simp [inContext, Named.text, Stretch.text, text, Spacing.tight]
  | verses n m =>
    refine ⟨{ s with colon := .tight }, trivial, ?_⟩
    have hcolon : (text s (verses n m)).contains ':' = false := by
      simpa [text] using ⟨colon_notMem_digits n, colon_notMem_dash s.dash, colon_notMem_digits m⟩
    rw [PassageItem.qualify, hcolon, hname, hchapter]
    simp [inContext, Named.text, Stretch.text, text]
  | stretch t =>
    have hclear : t.Clear s := by
      cases t with
      | across c v d w => exact fun _ => h.2.2
      | verse | within => trivial
    refine ⟨s, hclear, ?_⟩
    have hcolon : (text s (stretch t)).contains ':' = true := by
      cases t <;> simp [text, Stretch.text, Gap.mark]
    rw [PassageItem.qualify, hcolon, hname]
    simp [inContext, Named.text, text]

/-! ### Any fragments -/

/-- Where blanks around marks make no difference. -/
def Clear (s : Spacing) : Fragment → Prop
  | named f => f.Clear s
  | bare _ => s.NoneBefore

/-- Without blanks around marks there are none that would make a difference. -/
theorem clear_tight (f : Fragment) : f.Clear .tight := by
  cases f with
  | named f =>
    cases f with
    | stretch b t =>
      cases t with
      | across c v d w => exact fun _ => rfl
      | verse | within => trivial
    | _ => trivial
  | bare f => exact ⟨rfl, rfl, rfl⟩

/-- **A fragment has one item**, which is what it means after the verse before it. -/
theorem parseAfter_text {s : Spacing} {f : Fragment} (h : f.Clear s) (context : Verse) :
    PassageItem.parseAfter context (f.text s) = [f.item context] := by
  cases f with
  | named f =>
    have hitem := Named.parseFragment_text (f := f) h
    rw [PassageItem.parseAfter, text, hitem]
    rfl
  | bare f =>
    obtain ⟨s', hclear, hqualify⟩ := Bare.qualify_text h f context
    have hnone := parseFragment_of_nameless (Bare.nameless_text h f)
    rw [PassageItem.parseAfter, text, hnone, hqualify]
    exact Named.parseFragment_text hclear

/-- **Fragments have one item each**, and what each goes on from is the last verse of the one before. -/
theorem parseFragments_text (fs : List (Fragment × Spacing)) (h : ∀ f ∈ fs, f.1.Clear f.2)
    (context : Verse) :
    PassageItem.parseFragments context (fs.map fun f => f.1.text f.2)
      = items context (fs.map Prod.fst) := by
  induction fs generalizing context with
  | nil => rfl
  | cons f fs ih =>
    have hitem := parseAfter_text (h f (by simp)) context
    simp only [List.map_cons, PassageItem.parseFragments, hitem, items, List.getLast?_singleton,
      Option.map_some, Option.getD_some, List.singleton_append]
    rw [ih (fun f' hf' => h f' (by simp [hf']))]

end Fragment

end Concordance
