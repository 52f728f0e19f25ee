import Concordance.Markup.Tag
import Concordance.Proofs.Text.Runs
import Concordance.Term
import Concordance.Text.CaseFold

/-!
# ASCII characters

Facts about ASCII characters are checked one character after another, and no table of another script
is consulted for them. Letters are the characters that a query for words is made of: they are
characters of words and of terms, and neither blanks nor brackets nor digits.

## Main definitions

* `Text.IsAscii` — a text of ASCII characters
* `Text.IsLetters` — a word of ASCII letters
* `Text.SameWord` — two words are the same, up to case unless case counts

## Main results

* `Text.forall_ascii` — what holds of every ASCII character holds of it
* `Text.SameWord.isLetters` — what is the same as a word of letters is one
-/

namespace Concordance

namespace Text

/-- **What is checked of every ASCII character holds of it.** -/
theorem forall_ascii {P : Char → Prop} (h : ∀ n < 0x80, P (Char.ofNat n)) {c : Char}
    (hc : c.toNat < 0x80) : P c := by
  simpa using h c.toNat hc

/-- A text of ASCII characters. -/
def IsAscii (cs : List Char) : Prop := ∀ c ∈ cs, c.toNat < 0x80

theorem isBlank_of_isWordChar {c : Char} (hc : c.toNat < 0x80) (h : isWordChar c = true) :
    isBlank c = false :=
  forall_ascii (P := fun c => isWordChar c = true → isBlank c = false) (by decide) hc h

/-! ### Lower case -/

theorem toNat_toLower {c : Char} (hc : c.toNat < 0x80) : c.toLower.toNat < 0x80 :=
  forall_ascii (P := fun c => c.toLower.toNat < 0x80) (by decide) hc

theorem toLower_toLower {c : Char} (hc : c.toNat < 0x80) : c.toLower.toLower = c.toLower :=
  forall_ascii (P := fun c => c.toLower.toLower = c.toLower) (by decide) hc

theorem isWordChar_toLower {c : Char} (hc : c.toNat < 0x80) :
    isWordChar c.toLower = isWordChar c :=
  forall_ascii (P := fun c => isWordChar c.toLower = isWordChar c) (by decide) hc

/-! ### Letters -/

theorem toNat_of_isAlpha {c : Char} (h : c.isAlpha = true) : c.toNat < 0x80 := by
  have hcase : (decide (c.val ≥ 'A'.val ∧ c.val ≤ 'Z'.val) ||
      (decide (c.val ≥ 'a'.val) && decide (c.val ≤ 'z'.val))) = true := h
  simp only [Bool.or_eq_true, Bool.and_eq_true, decide_eq_true_eq, ge_iff_le, UInt32.le_iff_toNat_le] at hcase
  have hn : c.toNat = c.val.toNat := rfl
  have h90 : ('Z'.val).toNat = 90 := rfl
  have h122 : ('z'.val).toNat = 122 := rfl
  omega

theorem toNat_of_isDigit {c : Char} (h : c.isDigit = true) : c.toNat < 0x80 := by
  simp only [Char.isDigit, Bool.and_eq_true, decide_eq_true_eq, ge_iff_le,
    UInt32.le_iff_toNat_le] at h
  have hn : c.toNat = c.val.toNat := rfl
  have h57 : ('9'.val).toNat = 57 := rfl
  omega

/-- What is checked of every ASCII character holds of letters. -/
theorem of_isAlpha {P : Char → Prop}
    (h : ∀ n < 0x80, (Char.ofNat n).isAlpha = true → P (Char.ofNat n))
    {c : Char} (hc : c.isAlpha = true) : P c :=
  forall_ascii (P := fun c => c.isAlpha = true → P c) h (toNat_of_isAlpha hc) hc

section

variable {c : Char} (hc : c.isAlpha = true)

include hc

theorem isWordChar_of_isAlpha : isWordChar c = true :=
  of_isAlpha (P := fun c => isWordChar c = true) (by decide) hc

theorem isBlank_of_isAlpha : isBlank c = false :=
  of_isAlpha (P := fun c => isBlank c = false) (by decide) hc

theorem isDigit_of_isAlpha : isDigit c = false :=
  of_isAlpha (P := fun c => isDigit c = false) (by decide) hc

theorem isBracket_of_isAlpha : Term.isBracket c = false :=
  of_isAlpha (P := fun c => Term.isBracket c = false) (by decide) hc

theorem isTermChar_of_isAlpha : Term.isTermChar c = true :=
  of_isAlpha (P := fun c => Term.isTermChar c = true) (by decide) hc

theorem isAlpha_toLower : c.toLower.isAlpha = true :=
  of_isAlpha (P := fun c => c.toLower.isAlpha = true) (by decide) hc

end

/-- Only letters are letters in lower case. -/
theorem isAlpha_of_toLower {c : Char} (hc : c.toLower.isAlpha = true) : c.isAlpha = true := by
  by_cases hupper : c.val ≥ 'A'.val ∧ c.val ≤ 'Z'.val
  · exact Bool.or_eq_true_iff.mpr (.inl (decide_eq_true hupper))
  · have hlower : c.toLower = c := dif_neg hupper
    rwa [hlower] at hc

/-- A word of ASCII letters. -/
structure IsLetters (w : List Char) : Prop where
  /-- There are letters. -/
  ne_nil : w ≠ []
  /-- There is nothing else. -/
  isAlpha : ∀ c ∈ w, c.isAlpha = true

instance (w : List Char) : Decidable (IsLetters w) :=
  decidable_of_iff (w ≠ [] ∧ w.all Char.isAlpha = true)
    ⟨fun h => ⟨h.1, List.all_eq_true.mp h.2⟩, fun h => ⟨h.ne_nil, List.all_eq_true.mpr h.isAlpha⟩⟩

namespace IsLetters

variable {w : List Char} (h : IsLetters w)

include h

theorem isAscii : IsAscii w := fun c hc => toNat_of_isAlpha (h.isAlpha c hc)

theorem isPart : IsPart w := ⟨h.ne_nil, fun c hc => isBlank_of_isAlpha (h.isAlpha c hc)⟩

theorem lower : IsLetters (lower w) := by
  rw [lower_of_ascii h.isAscii]
  refine ⟨by simpa using h.ne_nil, fun c hc => ?_⟩
  obtain ⟨d, hd, rfl⟩ := List.mem_map.mp hc
  exact isAlpha_toLower (h.isAlpha d hd)

end IsLetters

/-! ### Words up to case -/

/-- Two words are the same, up to case unless case counts. -/
def SameWord (caseSensitive : Bool) (w w' : List Char) : Prop :=
  if caseSensitive then w = w' else w.map Char.toLower = w'.map Char.toLower

instance (caseSensitive : Bool) (w w' : List Char) : Decidable (SameWord caseSensitive w w') := by
  unfold SameWord
  infer_instance

/-- Words that are the same are the same up to case. -/
theorem SameWord.ignoreCase {caseSensitive : Bool} {w w' : List Char}
    (h : SameWord caseSensitive w w') :
    SameWord false w w' := by
  cases caseSensitive with
  | true => exact congrArg (List.map Char.toLower) h
  | false => exact h

theorem SameWord.symm {caseSensitive : Bool} {w w' : List Char} (h : SameWord caseSensitive w w') :
    SameWord caseSensitive w' w := by
  cases caseSensitive <;> exact Eq.symm h

/-- What has letters only in lower case has letters only. -/
theorem isLetters_of_map_toLower {r w : List Char} (hw : IsLetters w)
    (h : r.map Char.toLower = w.map Char.toLower) : IsLetters r := by
  refine ⟨?_, fun d hd => ?_⟩
  · rintro rfl
    exact hw.ne_nil (List.map_eq_nil_iff.mp h.symm)
  · have hmem : d.toLower ∈ w.map Char.toLower := h ▸ List.mem_map_of_mem hd
    obtain ⟨e, he, heq⟩ := List.mem_map.mp hmem
    exact isAlpha_of_toLower (heq ▸ isAlpha_toLower (hw.isAlpha e he))

theorem SameWord.isLetters {caseSensitive : Bool} {r w : List Char} (h : SameWord caseSensitive r w)
    (hw : IsLetters w) : IsLetters r := by
  cases caseSensitive with
  | false => exact isLetters_of_map_toLower hw h
  | true =>
    obtain rfl : r = w := h
    exact hw

end Text

end Concordance
