import Concordance.Proofs.Text.Ascii

/-!
# Prose

Prose is made of words of letters and digits, and of separators: white space of any script, and the
signs of punctuation that a phrase passes over between its words. Its word characters are its letters
and digits. What is said of separators is checked for the few blanks beyond ASCII one by one.

## Main definitions

* `Text.isSeparator` — white space and punctuation
* `Text.IsProse` — a text is made of words and separators

## Main results

* `Text.of_isSeparator` — what is checked of every separator holds of it
* `Text.IsProseChar.isWordChar_eq` — the word characters of prose are its letters and digits
* `Text.IsProseChar.fold_eq` — the characters of prose are alike if they agree in lower case
-/

namespace Concordance

namespace Text

/-! ### Separators -/

/-- The blanks beyond ASCII. -/
def wideBlanks : List Nat :=
  [0x85, 0xA0, 0x1680, 0x2000, 0x2001, 0x2002, 0x2003, 0x2004, 0x2005, 0x2006, 0x2007, 0x2008, 0x2009,
    0x200A, 0x2028, 0x2029, 0x202F, 0x205F, 0x3000]

theorem mem_wideBlanks {c : Char} (hc : isBlank c = true) (hwide : ¬ c.toNat < 0x80) :
    c.toNat ∈ wideBlanks := by
  simp only [isBlank, Bool.or_eq_true, Bool.and_eq_true, decide_eq_true_eq, beq_iff_eq] at hc
  simp only [wideBlanks, List.mem_cons, List.not_mem_nil, or_false]
  omega

/-- The signs of punctuation that a phrase passes over between its words. -/
def signs : List Char :=
  [',', '?', '!', '.', ';', ':', '\\', '/', '(', ')', '[', ']', '"', '\'', '-']

/-- White space, or a sign of punctuation. -/
def isSeparator (c : Char) : Bool := isBlank c || signs.contains c

/-- **What is checked of every separator holds of it.** -/
theorem of_isSeparator {P : Char → Prop}
    (hascii : ∀ n < 0x80, isSeparator (Char.ofNat n) = true → P (Char.ofNat n))
    (hwide : ∀ n ∈ wideBlanks, P (Char.ofNat n)) {c : Char} (hc : isSeparator c = true) : P c := by
  by_cases hlt : c.toNat < 0x80
  · exact forall_ascii (P := fun c => isSeparator c = true → P c) hascii hlt hc
  · have hblank : isBlank c = true := by
      rcases Bool.or_eq_true_iff.mp hc with hc | hc
      · exact hc
      · have hsigns : ∀ d ∈ signs, d.toNat < 0x80 := by simp [signs]
        exact absurd (hsigns c (List.contains_iff_mem.mp hc)) hlt
    simpa using hwide c.toNat (mem_wideBlanks hblank hlt)

section

variable {c : Char} (hc : isSeparator c = true)

include hc

theorem isWordChar_of_isSeparator : isWordChar c = false :=
  of_isSeparator (P := fun c => isWordChar c = false) (by decide) (by decide +kernel) hc

omit hc in
theorem isWordChar_of_isBlank (hc : isBlank c = true) : isWordChar c = false :=
  isWordChar_of_isSeparator (by simp [isSeparator, hc])

omit hc in
theorem isDigit_of_isBlank (hc : isBlank c = true) : isDigit c = false :=
  of_isSeparator (P := fun c => isDigit c = false) (by decide) (by decide +kernel)
    (by simp [isSeparator, hc])

theorem isAlphanum_of_isSeparator : c.isAlphanum = false :=
  of_isSeparator (P := fun c => c.isAlphanum = false) (by decide) (by decide) hc

theorem toLower_of_isSeparator : c.toLower = c :=
  of_isSeparator (P := fun c => c.toLower = c) (by decide) (by decide) hc

theorem fold_of_isSeparator : fold c = c :=
  of_isSeparator (P := fun c => fold c = c) (by decide) (by decide +kernel) hc

end

/-! ### Words -/

/-- What is checked of ASCII letters and digits holds of them. -/
theorem of_isAlphanum {P : Char → Prop}
    (h : ∀ n < 0x80, (Char.ofNat n).isAlphanum = true → P (Char.ofNat n)) {c : Char}
    (hc : c.isAlphanum = true) : P c := by
  have hlt : c.toNat < 0x80 := by
    rcases Bool.or_eq_true_iff.mp hc with hc | hc
    · exact toNat_of_isAlpha hc
    · exact toNat_of_isDigit hc
  exact forall_ascii (P := fun c => c.isAlphanum = true → P c) h hlt hc

/-- A letter or a digit, or else a separator. -/
def IsProseChar (c : Char) : Prop := c.isAlphanum = true ∨ isSeparator c = true

instance (c : Char) : Decidable (IsProseChar c) :=
  inferInstanceAs (Decidable (c.isAlphanum = true ∨ isSeparator c = true))

/-- A text is made of words of letters and digits, and of separators. -/
def IsProse (cs : List Char) : Prop := ∀ c ∈ cs, IsProseChar c

instance (cs : List Char) : Decidable (IsProse cs) :=
  decidable_of_iff ((cs.all fun c => decide (IsProseChar c)) = true) (by simp [IsProse])

theorem IsProse.of_append {cs ds : List Char} (h : IsProse (cs ++ ds)) : IsProse cs ∧ IsProse ds :=
  List.forall_mem_append.mp h

namespace IsProseChar

variable {c : Char} (hc : IsProseChar c)

include hc

/-- **The word characters of prose are its letters and digits.** -/
theorem isWordChar_eq : isWordChar c = c.isAlphanum := by
  rcases hc with hc | hc
  · rw [hc]
    exact of_isAlphanum (P := fun c => isWordChar c = true) (by decide) hc
  · rw [isWordChar_of_isSeparator hc, isAlphanum_of_isSeparator hc]

/-- **The characters of prose are alike if they agree in lower case.** -/
theorem fold_eq : fold c = c.toLower := by
  rcases hc with hc | hc
  · exact of_isAlphanum (P := fun c => fold c = c.toLower) (by decide) hc
  · rw [fold_of_isSeparator hc, toLower_of_isSeparator hc]

theorem toLower : IsProseChar c.toLower := by
  rcases hc with hc | hc
  · exact .inl (of_isAlphanum (P := fun c => c.toLower.isAlphanum = true) (by decide) hc)
  · rw [toLower_of_isSeparator hc]
    exact .inr hc

end IsProseChar

theorem IsProse.fold_eq {cs : List Char} (h : IsProse cs) : ∀ c ∈ cs, fold c = c.toLower :=
  fun c hc => (h c hc).fold_eq

end Text

end Concordance
