import Concordance.Proofs.Text.Prose
import Concordance.Verse.Mention

/-!
# Mentions read piece by piece

A mention is read from left to right, and each part is taken as far as it goes. So what is read at the
head of a text is settled by the name and the numbers that stand there and by the character after them:
a name ends where a digit or a mark stands, a number where no digit does, and a mention where the text
ends or a dash stands. Blanks around a colon, and before a dash, make no difference, except that a name
is read with the blanks after it.

A text of numbers and marks alone mentions nothing, if each blank in it stands after a mark or another
blank. A blank after a digit would be read as a name.

## Main definitions

* `Blanks`, `Gap` — blanks, and the blanks around a mark
* `Number` — a number as it is written
* `Mention.IsName` — a name that is read as a whole
* `Mention.Nameless` — a text that mentions nothing

## Main results

* `Mention.IsName.read?_book`, `Mention.IsName.read?_chapter`, `Mention.IsName.read?_verse` — a book, a
  chapter and a verse are read as they are written
* `Mention.Nameless.number`, `Mention.Nameless.mark` — numbers and marks mention nothing
-/

namespace Concordance

/-! ### Characters -/

theorem isNameChar_of_isDigit {c : Char} (h : Text.isDigit c = true) :
    Mention.isNameChar c = false := by
  simp [Mention.isNameChar, h]

/-- Blanks do not end a name. -/
theorem isNameChar_of_isBlank {c : Char} (h : Text.isBlank c = true) :
    Mention.isNameChar c = true :=
  Text.of_isSeparator (P := fun c => Text.isBlank c = true → Mention.isNameChar c = true)
    (by decide +kernel) (by decide +kernel) (by simp [Text.isSeparator, h]) h

theorem isDigit_of_isNameChar {c : Char} (h : Mention.isNameChar c = true) :
    Text.isDigit c = false := by
  simp only [Mention.isNameChar, Bool.and_eq_true, Bool.not_eq_true'] at h
  exact h.1

/-! ### Blanks -/

/-- Blanks, possibly none. -/
structure Blanks where
  /-- The characters. -/
  chars : List Char
  isBlank : ∀ c ∈ chars, Text.isBlank c = true
deriving DecidableEq

namespace Blanks

/-- Spaces. -/
def spaces (n : Nat) : Blanks where
  chars := List.replicate n ' '
  isBlank c hc := by
    rw [List.eq_of_mem_replicate hc]
    decide

/-- No blanks. -/
def empty : Blanks := spaces 0

/-- One space. -/
def space : Blanks := spaces 1

@[simp] theorem chars_empty : empty.chars = [] := rfl

@[simp] theorem chars_space : space.chars = [' '] := rfl

theorem isNameChar (b : Blanks) : ∀ c ∈ b.chars, Mention.isNameChar c = true :=
  fun c hc => isNameChar_of_isBlank (b.isBlank c hc)

@[simp] theorem trimStart_append (b : Blanks) (cs : List Char) :
    Text.trimStart (b.chars ++ cs) = Text.trimStart cs :=
  Text.trimStart_append_left b.isBlank cs

/-- Blanks are no digits. -/
theorem isDigit_head? (b : Blanks) {cs : List Char} (hcs : ∀ c ∈ cs.head?, Text.isDigit c = false) :
    ∀ c ∈ (b.chars ++ cs).head?, Text.isDigit c = false := by
  intro c hc
  cases hchars : b.chars with
  | nil => exact hcs c (by simpa [hchars] using hc)
  | cons b' bs =>
    obtain rfl : b' = c := by simpa [hchars] using hc
    exact isDigit_of_isNameChar (b.isNameChar b' (by simp [hchars]))

end Blanks

/-- The blanks around a mark. -/
structure Gap where
  /-- The blanks before it. -/
  before : Blanks
  /-- The blanks after it. -/
  after : Blanks
deriving DecidableEq

namespace Gap

/-- No blanks around a mark. -/
def tight : Gap := ⟨.empty, .empty⟩

/-- A mark with the blanks around it. -/
def mark (g : Gap) (c : Char) : List Char := g.before.chars ++ c :: g.after.chars

@[simp] theorem mark_tight (c : Char) : tight.mark c = [c] := rfl

theorem mark_append (g : Gap) (c : Char) (cs : List Char) :
    g.mark c ++ cs = g.before.chars ++ c :: (g.after.chars ++ cs) := by
  simp [mark]

/-- A colon is no digit, and neither are the blanks before it. -/
theorem isDigit_colon (g : Gap) (cs : List Char) :
    ∀ c ∈ (g.mark ':' ++ cs).head?, Text.isDigit c = false := by
  rw [mark_append]
  refine g.before.isDigit_head? fun c hc => ?_
  obtain rfl : ':' = c := by simpa using hc
  decide

end Gap

/-! ### Numbers -/

/-- A number as it is written, with one to three digits, leading zeros allowed. -/
structure Number where
  /-- The digits. -/
  digits : List Char
  ne_nil : digits ≠ []
  length_le : digits.length ≤ 3
  isDigit : ∀ c ∈ digits, c.isDigit = true
deriving DecidableEq

namespace Number

/-- What the digits amount to. -/
def value (n : Number) : Nat := n.digits.foldl (fun acc c => acc * 10 + (c.toNat - '0'.toNat)) 0

/-- **The digits write the number.** -/
@[simp] theorem number?_digits (n : Number) : Text.number? n.digits = some n.value := by
  have hfrom : ∀ (cs : List Char) (acc : Nat), (∀ c ∈ cs, c.isDigit = true) →
      Text.digitsFrom acc cs
        = some (cs.foldl (fun acc c => acc * 10 + (c.toNat - '0'.toNat)) acc) := by
    intro cs
    induction cs with
    | nil => exact fun acc _ => rfl
    | cons c cs ih =>
      intro acc hcs
      rw [Text.digitsFrom, if_pos (hcs c (by simp)), List.foldl_cons]
      exact ih _ fun c' hc' => hcs c' (by simp [hc'])
  obtain ⟨d, ds, hds⟩ := List.exists_cons_of_ne_nil n.ne_nil
  have hnumber : Text.number? n.digits = Text.digitsFrom 0 n.digits := by rw [hds, Text.number?]; simp
  rw [hnumber, hfrom n.digits 0 n.isDigit, value]

/-- ASCII digits are digits, and not blank. -/
theorem of_mem (n : Number) {c : Char} (hc : c ∈ n.digits) :
    Text.isDigit c = true ∧ Text.isBlank c = false := by
  have hdigit := n.isDigit c hc
  have hall : ∀ c : Char, c.isAlphanum = true →
      c.isDigit = true → Text.isDigit c = true ∧ Text.isBlank c = false := fun c hc =>
    Text.of_isAlphanum (P := fun c => c.isDigit = true → Text.isDigit c = true ∧ Text.isBlank c = false)
      (by decide) hc
  exact hall c (by simp [Char.isAlphanum, hdigit]) hdigit

theorem exists_cons (n : Number) :
    ∃ d ds, n.digits = d :: ds ∧ Text.isDigit d = true ∧ Text.isBlank d = false := by
  obtain ⟨d, ds, hds⟩ := List.exists_cons_of_ne_nil n.ne_nil
  exact ⟨d, ds, hds, n.of_mem (by simp [hds])⟩

/-- A number is read as far as its digits go. -/
theorem readDigits_append (n : Number) (rest : List Char)
    (hrest : ∀ c ∈ rest.head?, Text.isDigit c = false) :
    Mention.readDigits (n.digits ++ rest) = (n.digits, rest) := by
  have htake : ((n.digits ++ rest).take 3).takeWhile Text.isDigit = n.digits := by
    rw [List.take_append, List.take_of_length_le n.length_le,
      List.takeWhile_append_of_pos fun c hc => (n.of_mem hc).1]
    cases rest with
    | nil => simp
    | cons c rest =>
      have hc : Text.isDigit c = false := hrest c (by simp)
      cases 3 - n.digits.length <;> simp [hc]
  rw [Mention.readDigits, htake, List.drop_left]

@[simp] theorem readDigits_digits (n : Number) : Mention.readDigits n.digits = (n.digits, []) := by
  simpa using n.readDigits_append [] (by simp)

@[simp] theorem trimStart_append (n : Number) (rest : List Char) :
    Text.trimStart (n.digits ++ rest) = n.digits ++ rest := by
  obtain ⟨d, ds, hds, -, hd⟩ := n.exists_cons
  simp [hds, Text.trimStart, hd]

@[simp] theorem trimStart_digits (n : Number) : Text.trimStart n.digits = n.digits := by
  simpa using n.trimStart_append []

@[simp] theorem skipDot_append (n : Number) (rest : List Char) :
    Mention.skipDot (n.digits ++ rest) = n.digits ++ rest := by
  obtain ⟨d, ds, hds, hd, -⟩ := n.exists_cons
  rw [hds, List.cons_append, Mention.skipDot]
  intro rest' heq
  obtain ⟨rfl, -⟩ := List.cons.inj heq
  exact absurd hd (by decide)

@[simp] theorem skipDot_digits (n : Number) : Mention.skipDot n.digits = n.digits := by
  simpa using n.skipDot_append []

/-- A number stands where a name ends. -/
theorem isNameChar_head? (n : Number) (rest : List Char) :
    ∀ c ∈ (n.digits ++ rest).head?, Mention.isNameChar c = false := by
  obtain ⟨d, ds, hds, hd, -⟩ := n.exists_cons
  simpa [hds] using isNameChar_of_isDigit hd

end Number

namespace Mention

variable {name rest : List Char}

/-! ### Names -/

/-- A name that is read as a whole, and starts a word. -/
structure IsName (name : List Char) : Prop where
  /-- It starts with a character of a word. -/
  head : name.head?.any Text.isWordChar = true
  /-- It is read as a whole. -/
  read : readName? name = some (name, [])

instance (name : List Char) : Decidable (IsName name) :=
  decidable_of_iff (name.head?.any Text.isWordChar = true ∧ readName? name = some (name, []))
    ⟨fun h => ⟨h.1, h.2⟩, fun h => ⟨h.1, h.2⟩⟩

/-- No name goes on at a digit or a mark. -/
theorem name_stops (hrest : ∀ c ∈ rest.head?, isNameChar c = false) :
    rest.takeWhile isNameChar = [] ∧ rest.dropWhile isNameChar = rest := by
  cases rest with
  | nil => simp
  | cons c rest => simp [hrest c (by simp)]

/-- A name that begins with a numeral. -/
theorem readName?_cons_of_numeral {c : Char} (hc : isBookNumeral c = true) (cs : List Char) :
    readName? (c :: cs) = if cs.takeWhile isNameChar = [] then none
      else some (c :: cs.takeWhile isNameChar, cs.dropWhile isNameChar) := by
  simp only [readName?, hc, if_true, List.isEmpty_iff, List.singleton_append]

/-- A name that begins with no numeral. -/
theorem readName?_cons_of_not_numeral {c : Char} (hc : isBookNumeral c = false) (cs : List Char) :
    readName? (c :: cs) = if (c :: cs).takeWhile isNameChar = [] then none
      else some ((c :: cs).takeWhile isNameChar, (c :: cs).dropWhile isNameChar) := by
  simp only [readName?, hc, Bool.false_eq_true, if_false, List.isEmpty_iff, List.nil_append]

/-- Characters of names go on with further ones. -/
theorem takeWhile_append_of_ne_nil {core : List Char} (hne : core.takeWhile isNameChar ≠ [])
    (hcore : core.takeWhile isNameChar = core) (rest : List Char) :
    (core ++ rest).takeWhile isNameChar ≠ [] ∧
      (core ++ rest).takeWhile isNameChar = core ++ rest.takeWhile isNameChar ∧
      (core ++ rest).dropWhile isNameChar = rest.dropWhile isNameChar := by
  have hall : ∀ c ∈ core, isNameChar c = true := List.all_eq_true.mp (hcore ▸ List.all_takeWhile)
  rw [List.takeWhile_append_of_pos hall, List.dropWhile_append_of_pos hall]
  exact ⟨fun hnil => hne (hcore.trans (List.append_eq_nil_iff.mp hnil).1), rfl, rfl⟩

/-- **A name goes on** as far as there are characters of names. -/
theorem readName?_append (h : readName? name = some (name, [])) (rest : List Char) :
    readName? (name ++ rest)
      = some (name ++ rest.takeWhile isNameChar, rest.dropWhile isNameChar) := by
  obtain ⟨c, cs, rfl⟩ : ∃ c cs, name = c :: cs :=
    List.exists_cons_of_ne_nil fun hname => by simp [hname, readName?] at h
  cases hc : isBookNumeral c with
  | true =>
    rw [readName?_cons_of_numeral hc] at h
    by_cases hnil : cs.takeWhile isNameChar = []
    · rw [if_pos hnil] at h
      cases h
    · rw [if_neg hnil, Option.some.injEq, Prod.mk.injEq, List.cons.injEq] at h
      obtain ⟨hne, htake, hdrop⟩ := takeWhile_append_of_ne_nil hnil h.1.2 rest
      rw [List.cons_append, readName?_cons_of_numeral hc, if_neg hne, htake, hdrop, List.cons_append]
  | false =>
    rw [readName?_cons_of_not_numeral hc] at h
    by_cases hnil : (c :: cs).takeWhile isNameChar = []
    · rw [if_pos hnil] at h
      cases h
    · rw [if_neg hnil, Option.some.injEq, Prod.mk.injEq] at h
      obtain ⟨hne, htake, hdrop⟩ := takeWhile_append_of_ne_nil hnil h.1 rest
      rw [List.cons_append] at hne htake hdrop ⊢
      rw [readName?_cons_of_not_numeral hc, if_neg hne, htake, hdrop]

/-- Digits are no name if none goes on after them. Only a single one could begin a name. -/
theorem readName?_digits {d : Char} {ds : List Char} (hds : ∀ c ∈ d :: ds, Text.isDigit c = true)
    (hrest : ds = [] → isBookNumeral d = true → ∀ c ∈ rest.head?, isNameChar c = false) :
    readName? (d :: (ds ++ rest)) = none := by
  have hd : isNameChar d = false := isNameChar_of_isDigit (hds d (by simp))
  by_cases hnumeral : isBookNumeral d = true
  · have hnext : (ds ++ rest).takeWhile isNameChar = [] := by
      refine (name_stops fun c hc => ?_).1
      cases ds with
      | nil => exact hrest rfl hnumeral c hc
      | cons d' ds =>
        obtain rfl : d' = c := by simpa using hc
        exact isNameChar_of_isDigit (hds d' (by simp))
    simp [readName?, hnumeral, hnext]
  · simp [readName?, hnumeral, hd]

namespace IsName

variable (h : IsName name)

include h

theorem exists_cons : ∃ c cs, name = c :: cs ∧ Text.isWordChar c = true := by
  obtain ⟨c, cs, rfl⟩ : ∃ c cs, name = c :: cs :=
    List.exists_cons_of_ne_nil fun hname => by simpa [hname] using h.head
  exact ⟨c, cs, rfl, by simpa using h.head⟩

theorem trimStart_append (rest : List Char) : Text.trimStart (name ++ rest) = name ++ rest := by
  obtain ⟨c, cs, rfl, hc⟩ := h.exists_cons
  have hblank : Text.isBlank c = false :=
    Bool.eq_false_iff.mpr fun hblank => by simp [Text.isWordChar_of_isBlank hblank] at hc
  simp [Text.trimStart, hblank]

/-- A name ends where a digit or a mark stands. Blanks after a name belong to it. -/
theorem readName?_blanks (b : Blanks) (hrest : ∀ c ∈ rest.head?, isNameChar c = false) :
    readName? (name ++ (b.chars ++ rest)) = some (name ++ b.chars, rest) := by
  rw [readName?_append h.read, List.takeWhile_append_of_pos b.isNameChar,
    List.dropWhile_append_of_pos b.isNameChar, (name_stops hrest).1, (name_stops hrest).2,
    List.append_nil]

/-- A name with a number after it. -/
theorem readName?_number (n : Number) (rest : List Char) :
    readName? (name ++ ' ' :: (n.digits ++ rest)) = some (name ++ [' '], n.digits ++ rest) :=
  h.readName?_blanks .space (n.isNameChar_head? rest)

end IsName

/-! ### Marks -/

/-- A text at whose head a mention ends: there is nothing more, or a dash. -/
def Ends (rest : List Char) : Prop := ∀ c ∈ rest.head?, c = '-'

namespace Ends

theorem nil : Ends [] := by simp [Ends]

theorem dash (cs : List Char) : Ends ('-' :: cs) := by simp [Ends]

variable (h : Ends rest)

include h

theorem eq_nil_or_cons : rest = [] ∨ ∃ cs, rest = '-' :: cs := by
  cases rest with
  | nil => exact .inl rfl
  | cons c cs => exact .inr ⟨cs, by rw [h c (by simp)]⟩

theorem isNameChar : ∀ c ∈ rest.head?, Mention.isNameChar c = false := fun c hc => by
  rw [h c hc]
  decide

theorem isDigit : ∀ c ∈ rest.head?, Text.isDigit c = false := fun c hc => by
  rw [h c hc]
  decide

theorem trimStart : Text.trimStart rest = rest := by
  obtain rfl | ⟨cs, rfl⟩ := h.eq_nil_or_cons
  · rfl
  · simp [Text.trimStart, show Text.isBlank '-' = false by decide]

theorem skipDot : Mention.skipDot rest = rest := by
  obtain rfl | ⟨cs, rfl⟩ := h.eq_nil_or_cons <;> rfl

theorem readDigits : Mention.readDigits rest = ([], rest) := by
  obtain rfl | ⟨cs, rfl⟩ := h.eq_nil_or_cons
  · rfl
  · simp [Mention.readDigits, show Text.isDigit '-' = false by decide]

/-- A mention that ends has no verse after it. -/
theorem readVerse? (b : Blanks) : Mention.readVerse? (b.chars ++ rest) = none := by
  rw [Mention.readVerse?, readColon?, b.trimStart_append, h.trimStart]
  obtain rfl | ⟨cs, rfl⟩ := h.eq_nil_or_cons <;> rfl

end Ends

@[simp] theorem readColon?_nil : readColon? [] = none := rfl

/-- Blanks are passed over before a colon and after it. -/
theorem readColon?_mark (g : Gap) (cs : List Char) :
    readColon? (g.mark ':' ++ cs) = some (Text.trimStart cs) := by
  have hcolon : Text.trimStart (':' :: (g.after.chars ++ cs)) = ':' :: (g.after.chars ++ cs) := by
    simp [Text.trimStart, show Text.isBlank ':' = false by decide]
  rw [Gap.mark_append, readColon?, g.before.trimStart_append, hcolon]
  exact congrArg some (g.after.trimStart_append cs)

theorem readVerse?_mark (g : Gap) (n : Number) (hrest : ∀ c ∈ rest.head?, Text.isDigit c = false) :
    readVerse? (g.mark ':' ++ (n.digits ++ rest)) = some (n.digits, rest) := by
  simp [readVerse?, readColon?_mark, n.readDigits_append rest hrest, n.ne_nil]

/-! ### Whole mentions -/

namespace IsName

variable (h : IsName name) (b : Blanks) (hends : Ends rest)

include h

/-- What is read at a name is the first mention in a text that has only blanks before the name. -/
theorem find?_blanks {found : Mention × List Char} (hread : read? (name ++ rest) = some found) :
    find? none (b.chars ++ (name ++ rest)) = some found := by
  obtain ⟨c, cs, rfl, hc⟩ := h.exists_cons
  have hfind : ∀ (bs : List Char) (before? : Option Char), (∀ b ∈ bs, Text.isBlank b = true) →
      before?.any Text.isWordChar = false →
      find? before? (bs ++ (c :: cs ++ rest)) = some found := by
    intro bs
    induction bs with
    | nil =>
      intro before? _ hbefore
      simp only [List.cons_append, List.nil_append] at hread ⊢
      simp [find?, atBoundary, hbefore, hc, hread]
    | cons b bs ih =>
      intro before? hbs hbefore
      have hb : Text.isWordChar b = false := Text.isWordChar_of_isBlank (hbs b (by simp))
      have hrest := ih (some b) (fun b' hb' => hbs b' (by simp [hb'])) (by simpa using hb)
      simpa [find?, atBoundary, hbefore, hb] using hrest
  exact hfind b.chars none b.isBlank rfl

/-- What is read at the start of a text with a name is the first mention in it. -/
theorem find?_eq {found : Mention × List Char} (hread : read? (name ++ rest) = some found) :
    find? none (name ++ rest) = some found :=
  h.find?_blanks .empty hread

include hends

/-- **A book.** -/
theorem read?_book : read? (name ++ (b.chars ++ rest)) = some (⟨name ++ b.chars, [], none⟩, rest) := by
  have hverse : readVerse? rest = none := hends.readVerse? .empty
  simp only [read?, h.readName?_blanks b hends.isNameChar, hends.skipDot, hends.trimStart,
    hends.readDigits, hverse]

/-- **A chapter of a book.** -/
theorem read?_chapter (chapter : Number) :
    read? (name ++ ' ' :: (chapter.digits ++ (b.chars ++ rest)))
      = some (⟨name ++ [' '], chapter.digits, none⟩, b.chars ++ rest) := by
  simp only [read?, h.readName?_number, chapter.skipDot_append, chapter.trimStart_append,
    chapter.readDigits_append _ (b.isDigit_head? hends.isDigit), hends.readVerse? b]

/-- **A verse of a chapter.** -/
theorem read?_verse (chapter : Number) (g : Gap) (verse : Number) :
    read? (name ++ ' ' :: (chapter.digits ++ (g.mark ':' ++ (verse.digits ++ (b.chars ++ rest)))))
      = some (⟨name ++ [' '], chapter.digits, some verse.digits⟩, b.chars ++ rest) := by
  simp only [read?, h.readName?_number, chapter.skipDot_append, chapter.trimStart_append,
    chapter.readDigits_append _ (g.isDigit_colon _),
    readVerse?_mark g verse (b.isDigit_head? hends.isDigit)]

end IsName

/-! ### Texts without mentions -/

/-- A text that mentions nothing, whatever it stands after. -/
def Nameless (cs : List Char) : Prop := ∀ before?, find? before? cs = none

namespace Nameless

variable {cs : List Char}

theorem nil : Nameless [] := fun _ => rfl

/-- A number mentions nothing if no name goes on after it. -/
theorem number (n : Number) (hcs : ∀ c ∈ cs.head?, isNameChar c = false) (h : Nameless cs) :
    Nameless (n.digits ++ cs) := by
  have hdigits : ∀ ds : List Char, (∀ d ∈ ds, Text.isDigit d = true) → Nameless (ds ++ cs) := by
    intro ds
    induction ds with
    | nil => exact fun _ => h
    | cons d ds ih =>
      intro hds before?
      have hread : read? (d :: (ds ++ cs)) = none := by
        simp [read?, readName?_digits hds fun _ _ => hcs]
      have hrest := ih (fun d' hd' => hds d' (by simp [hd'])) (some d)
      simp [find?, hread, hrest]
  exact hdigits n.digits fun d hd => (n.of_mem hd).1

/-- Blanks mention nothing if they do not stand after a word. -/
theorem find?_blanks (b : Blanks) (h : Nameless cs) {c : Char} (hc : Text.isWordChar c = false) :
    find? (some c) (b.chars ++ cs) = none := by
  obtain ⟨bs, hbs⟩ := b
  induction bs generalizing c with
  | nil => exact h (some c)
  | cons b bs ih =>
    have hb : Text.isWordChar b = false := Text.isWordChar_of_isBlank (hbs b (by simp))
    have hrest := ih hb fun b' hb' => hbs b' (by simp [hb'])
    simp [find?, atBoundary, hc, hb, hrest]

/-- A mark mentions nothing, with the blanks after it. -/
theorem mark {c : Char} (hc : c = ':' ∨ c = '-') (b : Blanks) (h : Nameless cs) :
    Nameless (c :: (b.chars ++ cs)) := by
  intro before?
  have hmark : Text.isWordChar c = false ∧ isNameChar c = false ∧ isBookNumeral c = false := by
    obtain rfl | rfl := hc <;> decide
  have hread : read? (c :: (b.chars ++ cs)) = none := by simp [read?, readName?, hmark]
  simp [find?, hread, h.find?_blanks b hmark.1]

end Nameless

/-- What is mentioned later in a text is mentioned in it. -/
theorem isSome_find?_cons {c : Char} {cs : List Char} (h : (find? (some c) cs).isSome = true)
    (before? : Option Char) : (find? before? (c :: cs)).isSome = true := by
  rw [find?]
  split
  · split
    · rfl
    · exact h
  · exact h

/-- **A blank after a digit is read as a name.** -/
theorem isSome_find?_blank {d b : Char} (hd : d.isDigit = true) (hb : Text.isBlank b = true)
    (xs rest : List Char) (before? : Option Char) :
    (find? before? (xs ++ d :: b :: rest)).isSome = true := by
  induction xs generalizing before? with
  | nil =>
    refine isSome_find?_cons ?_ before?
    have hedge : atBoundary (some d) b = true := by
      have hword : Text.isWordChar d = true :=
        Text.of_isAlphanum (P := fun c => c.isDigit = true → Text.isWordChar c = true) (by decide)
          (by simp [Char.isAlphanum, hd]) hd
      simp [atBoundary, hword, Text.isWordChar_of_isBlank hb]
    obtain ⟨name, after, hname⟩ : ∃ name after, readName? (b :: rest) = some (name, after) := by
      have hchar := isNameChar_of_isBlank hb
      have hnumeral : isBookNumeral b = false :=
        Text.of_isSeparator (P := fun c => isBookNumeral c = false) (by decide) (by decide)
          (by simp [Text.isSeparator, hb])
      exact ⟨_, _, by rw [readName?_cons_of_not_numeral hnumeral, if_neg (by simp [hchar])]⟩
    have hread : (read? (b :: rest)).isSome = true := by
      simp only [read?, hname]
      split <;> rfl
    obtain ⟨found, hfound⟩ := Option.isSome_iff_exists.mp hread
    rw [find?, if_pos hedge, hfound]
    rfl
  | cons x xs ih => exact isSome_find?_cons (ih (some x)) before?

end Mention

end Concordance
