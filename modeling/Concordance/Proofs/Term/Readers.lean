import Concordance.Proofs.Term.Canonical
import Concordance.Proofs.Text.UpperCase

/-!
# What the readers of queries read

A reader of tags reads what is told by the characters around it: a Strong's number is a whole word, or
all of a word up to its end, and a morphology tag is what two of its signs enclose.

## Main definitions

* `Term.IsOpening`, `Term.IsClosing` — the signs around morphology tags
* `Term.IsTagBody` — what a morphology tag holds

## Main results

* `Term.looseNumber?_eq_some_iff`, `Term.boundedMorph?_eq_some_iff` — what is read in a text
* `Term.isStrongsToken_iff`, `Term.isMorphToken_iff` — what is read as a whole
-/

namespace Concordance

namespace Term

open Markup Text

variable {cs number tag rest : List Char}

theorem startsInWord_eq_false_iff :
    startsInWord cs = false ↔ ∀ c ∈ cs.head?, isWordChar c = false := by
  cases cs <;> simp [startsInWord]

/-! ### Strong's numbers -/

theorem isWordChar_of_isNumber (h : IsNumber isLanguageAnyCase number) :
    ∀ c ∈ number, isWordChar c = true := by
  obtain ⟨c, ds, rfl, hc, -, hds⟩ := h
  have hletter : isWordChar c = true := by
    simp only [isLanguageAnyCase, isLanguage, Bool.or_eq_true, beq_iff_eq] at hc
    rcases hc with ((rfl | rfl) | rfl) | rfl <;> decide
  exact List.forall_mem_cons.mpr ⟨hletter, fun d hd => isWordChar_of_isDigit (hds d hd)⟩

theorem ne_nil_of_isNumber (h : IsNumber isLanguageAnyCase number) : number ≠ [] := by
  obtain ⟨c, ds, rfl, -⟩ := h
  exact List.cons_ne_nil c ds

/-- **A Strong's number goes up to the end of its word**, and a bracket after it is read with it. -/
theorem looseNumber?_eq_some_iff : looseNumber? cs = some (number, rest) ↔
    IsNumber isLanguageAnyCase number ∧ ∃ after, cs = number ++ after ∧ startsInWord after = false ∧
      rest = skipSign '>' after := by
  rw [looseNumber?, Option.bind_eq_some_iff]
  constructor
  · rintro ⟨⟨number', after⟩, hread, h⟩
    obtain ⟨hnumber, -, rfl⟩ := number?_eq_some_iff.mp hread
    simp only at h
    split at h
    · cases h
    · rename_i hstarts
      obtain ⟨rfl, rfl⟩ := Prod.mk.inj (Option.some.inj h)
      exact ⟨hnumber, after, rfl, by simpa using hstarts, rfl⟩
  · rintro ⟨hnumber, after, rfl, hstarts, rfl⟩
    refine ⟨(number, after), number?_eq_some_iff.mpr ⟨hnumber, fun c hc => ?_, rfl⟩, by simp [hstarts]⟩
    refine Bool.eq_false_iff.mpr fun hdigit => ?_
    have hword := startsInWord_eq_false_iff.mp hstarts c hc
    rw [isWordChar_of_isDigit hdigit] at hword
    cases hword

/-! ### Morphology tags -/

/-- A sign before a morphology tag. -/
def IsOpening (c : Char) : Prop := c = '(' ∨ c = '\x7b'

/-- A sign after a morphology tag. -/
def IsClosing (c : Char) : Prop := c = ')' ∨ c = '\x7d'

theorem IsOpening.isTagChar {c : Char} (h : IsOpening c) : isTagChar c = false := by
  rcases h with rfl | rfl <;> decide

theorem IsClosing.isTagChar {c : Char} (h : IsClosing c) : isTagChar c = false := by
  rcases h with rfl | rfl <;> decide

theorem IsOpening.isBracket {c : Char} (h : IsOpening c) : isBracket c = true := by
  rcases h with rfl | rfl <;> decide

theorem IsClosing.isBracket {c : Char} (h : IsClosing c) : isBracket c = true := by
  rcases h with rfl | rfl <;> decide

/-- The brackets of numbers are no signs around morphology tags. -/
theorem IsOpening.ne_angle {c : Char} (h : IsOpening c) : c ≠ '<' ∧ c ≠ '>' := by
  rcases h with rfl | rfl <;> decide

theorem IsClosing.ne_angle {c : Char} (h : IsClosing c) : c ≠ '<' ∧ c ≠ '>' := by
  rcases h with rfl | rfl <;> decide

/-- The brackets of numbers stand in no tag. -/
theorem ne_angle_of_isTagChar {c : Char} (h : isTagChar c = true) : c ≠ '<' ∧ c ≠ '>' := by
  constructor <;> rintro rfl <;> exact absurd h (by decide)

theorem isWordChar_of_not_isTagChar {c : Char} (h : isTagChar c = false) : isWordChar c = false :=
  (Bool.or_eq_false_iff.mp h).1

theorem tagOpening?_eq_some_iff : tagOpening? cs = some rest ↔ ∃ c, IsOpening c ∧ cs = c :: rest :=
  sign?_or_eq_some_iff

theorem tagClosing?_eq_some_iff : tagClosing? cs = some rest ↔ ∃ c, IsClosing c ∧ cs = c :: rest :=
  sign?_or_eq_some_iff

theorem looseMorph?_eq_some_iff : looseMorph? cs = some (tag, rest) ↔
    ∃ opening closing, cs = opening :: (tag ++ closing :: rest) ∧ IsOpening opening ∧
      IsClosing closing ∧ tag ≠ [] ∧ ∀ c ∈ tag, isTagChar c = true := by
  simp only [looseMorph?, Option.bind_eq_bind, Option.bind_eq_some_iff, tagOpening?_eq_some_iff,
    Option.pure_def, Prod.exists, takeSome?_eq_some_iff, tagClosing?_eq_some_iff]
  constructor
  · rintro ⟨_, ⟨opening, hopening, rfl⟩, _, _, ⟨hne, htag, -, rfl⟩, _, ⟨closing, hclosing, rfl⟩, h⟩
    obtain ⟨rfl, rfl⟩ := Prod.mk.inj (Option.some.inj h)
    exact ⟨opening, closing, rfl, hopening, hclosing, hne, htag⟩
  · rintro ⟨opening, closing, rfl, hopening, hclosing, hne, htag⟩
    refine ⟨_, ⟨opening, hopening, rfl⟩, _, _, ⟨hne, htag, ?_, rfl⟩, _, ⟨closing, hclosing, rfl⟩, rfl⟩
    simpa using hclosing.isTagChar

/-- What a morphology tag holds: word characters and hyphens, with word characters at both ends. -/
structure IsTagBody (tag : List Char) : Prop where
  /-- The characters of tags. -/
  mem : ∀ c ∈ tag, isTagChar c = true
  /-- The first one is a word character. -/
  first : startsInWord tag = true
  /-- The last one is a word character. -/
  last : startsInWord tag.reverse = true

theorem IsTagBody.ne_nil (h : IsTagBody tag) : tag ≠ [] := by
  rintro rfl
  exact absurd h.first (by decide)

/-- **A morphology tag is what two of its signs enclose.** -/
theorem boundedMorph?_eq_some_iff {afterWord : Bool} :
    boundedMorph? afterWord cs = some (tag, rest) ↔ ∃ opening closing,
      cs = opening :: (tag ++ closing :: rest) ∧ IsOpening opening ∧ IsClosing closing ∧
        IsTagBody tag := by
  simp only [boundedMorph?, Option.bind_eq_bind, Option.bind_eq_some_iff, Prod.exists,
    looseMorph?_eq_some_iff]
  constructor
  · rintro ⟨tag', rest', ⟨opening, closing, rfl, hopening, hclosing, -, htag⟩, h⟩
    split at h
    · rename_i hbounded
      obtain ⟨rfl, rfl⟩ := Prod.mk.inj (Option.some.inj h)
      obtain ⟨hfirst, hlast⟩ := Bool.and_eq_true_iff.mp hbounded
      exact ⟨opening, closing, rfl, hopening, hclosing, htag, hfirst, hlast⟩
    · cases h
  · rintro ⟨opening, closing, rfl, hopening, hclosing, hbody⟩
    exact ⟨tag, rest, ⟨opening, closing, rfl, hopening, hclosing, hbody.ne_nil, hbody.mem⟩,
      by simp [hbody.first, hbody.last]⟩

theorem isSteady_boundedMorph? : IsSteady boundedMorph? where
  eq _ _ := rfl
  length_lt h := by
    obtain ⟨opening, closing, rfl, -⟩ := boundedMorph?_eq_some_iff.mp h
    simp only [List.length_cons, List.length_append]
    omega

/-! ### Tokens -/

/-- **A token that is a Strong's number.** -/
theorem isStrongsToken_iff : isStrongsToken cs = true ↔ ∃ opening number closing,
    cs = opening ++ number ++ closing ∧ (opening = [] ∨ opening = ['<']) ∧
      IsNumber isLanguageAnyCase number ∧ (closing = [] ∨ closing = ['>']) := by
  rw [isStrongsToken]
  constructor
  · intro h
    obtain ⟨opening, hopening, hsign⟩ := exists_skipSign '<' cs
    cases hread : number? isLanguageAnyCase (skipSign '<' cs) with
    | none => simp [hread] at h
    | some r =>
      obtain ⟨number, rest⟩ := r
      obtain ⟨hnumber, -, hnumber'⟩ := number?_eq_some_iff.mp hread
      obtain ⟨closing, hclosing, hsign'⟩ := exists_skipSign '>' rest
      have hend : skipSign '>' rest = [] := by simpa [hread] using h
      rw [hend, List.append_nil] at hclosing
      subst hclosing
      exact ⟨opening, number, rest, by rw [List.append_assoc, ← hnumber', ← hopening], hsign, hnumber,
        hsign'⟩
  · rintro ⟨opening, number, closing, rfl, hopening, hnumber, hclosing⟩
    have hskip : skipSign '<' (opening ++ number ++ closing) = number ++ closing := by
      rcases hopening with rfl | rfl
      · obtain ⟨c, ds, rfl, hc, -⟩ := hnumber
        have hne : c ≠ '<' := by
          rintro rfl
          exact absurd hc (by decide)
        simp [skipSign, sign?_cons_of_ne hne]
      · simp [skipSign]
    have hread : number? isLanguageAnyCase (number ++ closing) = some (number, closing) := by
      refine number?_eq_some_iff.mpr ⟨hnumber, fun c hc => ?_, rfl⟩
      rcases hclosing with rfl | rfl
      · cases hc
      · obtain rfl : '>' = c := by simpa using hc
        decide
    simp only [hskip, hread, List.isEmpty_iff]
    rcases hclosing with rfl | rfl <;> rfl

/-- **A token that is a morphology tag.** -/
theorem isMorphToken_iff : isMorphToken cs = true ↔ ∃ opening tag closing,
    cs = opening :: (tag ++ [closing]) ∧ IsOpening opening ∧ IsClosing closing ∧ tag ≠ [] ∧
      ∀ c ∈ tag, isTagChar c = true := by
  rw [isMorphToken]
  cases hread : looseMorph? cs with
  | none =>
    simp only [Bool.false_eq_true, false_iff]
    rintro ⟨opening, tag, closing, hcs, hopening, hclosing, htag⟩
    have hread' := looseMorph?_eq_some_iff.mpr ⟨opening, closing, hcs, hopening, hclosing, htag⟩
    rw [hread] at hread'
    cases hread'
  | some r =>
    obtain ⟨tag, rest⟩ := r
    simp only [List.isEmpty_iff]
    constructor
    · rintro rfl
      obtain ⟨opening, closing, hcs, htag⟩ := looseMorph?_eq_some_iff.mp hread
      exact ⟨opening, tag, closing, hcs, htag⟩
    · rintro ⟨opening, tag', closing, hcs, hopening, hclosing, htag⟩
      have hread' := looseMorph?_eq_some_iff.mpr ⟨opening, closing, hcs, hopening, hclosing, htag⟩
      rw [hread] at hread'
      exact (Prod.mk.inj (Option.some.inj hread')).2

end Term

end Concordance
