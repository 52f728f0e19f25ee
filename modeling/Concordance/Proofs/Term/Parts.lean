import Concordance.Proofs.Term.Words

/-!
# Between the parts of a query

A query falls into parts, each a run of the characters that terms are made of. Every reader of tags
stops at a character between two parts: what it reads of the text before that character, it reads of
the whole text. So no tag reaches from one part into another.

## Main definitions

* `Term.IsApart` — a character between parts

## Main results

* `Term.IsApart.canonicalTags_append` — tags are put into their one form on either side of such a
  character
-/

namespace Concordance

namespace Term

open Markup Text

/-! ### Characters between parts -/

/-- A character of ASCII that terms are not made of. -/
def IsApart (c : Char) : Prop := c.toNat < 0x80 ∧ isTermChar c = false

section

variable {c : Char} (h : IsApart c)

include h

theorem IsApart.isTagChar_eq_false : isTagChar c = false := by
  have hterm := h.2
  simp only [isTermChar, Bool.or_eq_false_iff] at hterm
  exact hterm.1.1

theorem IsApart.isWordChar_eq_false : isWordChar c = false := by
  have htag := h.isTagChar_eq_false
  simp only [isTagChar, Bool.or_eq_false_iff] at htag
  exact htag.1

theorem IsApart.isDigit_eq_false : isDigit c = false :=
  forall_ascii (P := fun c => isTermChar c = false → isDigit c = false) (by decide) h.1 h.2

theorem IsApart.isLanguageAnyCase_eq_false : isLanguageAnyCase c = false :=
  forall_ascii (P := fun c => isTermChar c = false → isLanguageAnyCase c = false) (by decide)
    h.1 h.2

theorem IsApart.ne {d : Char} (hd : isTermChar d = true) : c ≠ d := by
  rintro rfl
  rw [h.2] at hd
  cases hd

/-! ### Readers stop between parts -/

variable (xs ys : List Char)

theorem IsApart.sign?_append {d : Char} (hd : isTermChar d = true) :
    sign? d (xs ++ c :: ys) = (sign? d xs).map (· ++ c :: ys) := by
  cases xs with
  | nil => exact sign?_cons_of_ne (h.ne hd) ys
  | cons x xs =>
    by_cases hx : x = d
    · subst hx
      simp
    · simp [sign?_cons_of_ne hx]

theorem IsApart.sign?_or_append {d e : Char} (hd : isTermChar d = true) (he : isTermChar e = true) :
    (sign? d (xs ++ c :: ys)).or (sign? e (xs ++ c :: ys))
      = ((sign? d xs).or (sign? e xs)).map (· ++ c :: ys) := by
  rw [h.sign?_append xs ys hd, h.sign?_append xs ys he]
  cases sign? d xs <;> rfl

theorem IsApart.skipSign_append {d : Char} (hd : isTermChar d = true) :
    skipSign d (xs ++ c :: ys) = skipSign d xs ++ c :: ys := by
  rw [skipSign, h.sign?_append xs ys hd, skipSign]
  cases sign? d xs <;> rfl

theorem IsApart.startsInWord_append : startsInWord (xs ++ c :: ys) = startsInWord xs := by
  cases xs with
  | nil => exact h.isWordChar_eq_false
  | cons x xs => rfl

theorem IsApart.number?_append :
    number? isLanguageAnyCase (xs ++ c :: ys)
      = (number? isLanguageAnyCase xs).map fun r => (r.1, r.2 ++ c :: ys) := by
  cases xs with
  | nil => simp [Markup.number?, h.isLanguageAnyCase_eq_false]
  | cons x xs =>
    rw [List.cons_append, Markup.number?, Markup.number?, takeSome?_append_cons h.isDigit_eq_false]
    split
    · simp only [Option.map_map, Function.comp_def]
    · rfl

theorem IsApart.looseNumber?_append :
    looseNumber? (xs ++ c :: ys) = (looseNumber? xs).map fun r => (r.1, r.2 ++ c :: ys) := by
  rw [looseNumber?, looseNumber?, h.number?_append]
  cases number? isLanguageAnyCase xs with
  | none => rfl
  | some r =>
    obtain ⟨number, rest⟩ := r
    simp only [Option.map_some, Option.bind_some, h.startsInWord_append,
      h.skipSign_append rest ys (show isTermChar '>' = true by decide)]
    split <;> rfl

theorem IsApart.looseStrongs?_append (afterWord : Bool) :
    looseStrongs? afterWord (xs ++ c :: ys)
      = (looseStrongs? afterWord xs).map fun r => (r.1, r.2 ++ c :: ys) := by
  rw [looseStrongs?_eq, looseStrongs?_eq,
    h.sign?_append xs ys (show isTermChar '<' = true by decide),
    h.looseNumber?_append xs ys]
  have hbind : ((sign? '<' xs).map (· ++ c :: ys)).bind looseNumber?
      = ((sign? '<' xs).bind looseNumber?).map fun r => (r.1, r.2 ++ c :: ys) := by
    cases sign? '<' xs with
    | none => rfl
    | some rest => exact h.looseNumber?_append rest ys
  rw [hbind]
  cases (sign? '<' xs).bind looseNumber? with
  | some r => rfl
  | none => cases afterWord <;> simp

theorem IsApart.tagOpening?_append :
    tagOpening? (xs ++ c :: ys) = (tagOpening? xs).map (· ++ c :: ys) :=
  h.sign?_or_append xs ys (by decide) (by decide)

theorem IsApart.tagClosing?_append :
    tagClosing? (xs ++ c :: ys) = (tagClosing? xs).map (· ++ c :: ys) :=
  h.sign?_or_append xs ys (by decide) (by decide)

theorem IsApart.looseMorph?_append :
    looseMorph? (xs ++ c :: ys) = (looseMorph? xs).map fun r => (r.1, r.2 ++ c :: ys) := by
  simp only [looseMorph?, Option.bind_eq_bind, h.tagOpening?_append]
  cases tagOpening? xs with
  | none => rfl
  | some rest =>
    simp only [Option.map_some, Option.bind_some, takeSome?_append_cons h.isTagChar_eq_false]
    cases takeSome? isTagChar rest with
    | none => rfl
    | some r =>
      simp only [Option.map_some, Option.bind_some, h.tagClosing?_append]
      cases tagClosing? r.2 <;> rfl

theorem IsApart.boundedMorph?_append (afterWord : Bool) :
    boundedMorph? afterWord (xs ++ c :: ys)
      = (boundedMorph? afterWord xs).map fun r => (r.1, r.2 ++ c :: ys) := by
  simp only [boundedMorph?, Option.bind_eq_bind, h.looseMorph?_append]
  cases looseMorph? xs with
  | none => rfl
  | some r =>
    simp only [Option.map_some, Option.bind_some]
    split <;> rfl

omit xs ys

theorem IsApart.stopsAt_looseStrongs? : StopsAt looseStrongs? c :=
  ⟨fun b => by cases b <;> rfl, fun b xs ys => h.looseStrongs?_append xs ys b⟩

theorem IsApart.stopsAt_boundedMorph? : StopsAt boundedMorph? c :=
  ⟨fun _ => rfl, fun b xs ys => h.boundedMorph?_append xs ys b⟩

/-- **No tag reaches from one part into another.** -/
theorem IsApart.canonicalTags_append (xs ys : List Char) :
    canonicalTags (xs ++ c :: ys) = canonicalTags xs ++ c :: canonicalTags ys := by
  rw [canonicalTags, h.stopsAt_looseStrongs?.replaceItems_append_cons h.isWordChar_eq_false,
    h.stopsAt_boundedMorph?.replaceItems_append_cons h.isWordChar_eq_false]
  rfl

end

end Term

end Concordance
