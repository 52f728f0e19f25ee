import Concordance.Passage.Expression
import Concordance.Proofs.Text.Runs

/-!
# Blanks around an expression

An expression is cut into fragments first, and every fragment is trimmed. So blanks at the ends of an
expression make no difference to the verses that it covers.

## Main results

* `VerseSet.parse_trim` — an expression covers the same verses when it is trimmed
-/

namespace Concordance

namespace PassageItem

open Text

/-- The characters of fragments. -/
def isFragmentChar (c : Char) : Bool := c != ',' && c != ';'

theorem fragments_eq (cs : List Char) :
    fragments cs = ((runs isFragmentChar cs).map trim).filter fun f => !f.isEmpty := rfl

theorem isFragmentChar_of_isBlank {c : Char} (h : isBlank c = true) : isFragmentChar c = true := by
  rw [isFragmentChar, Bool.and_eq_true, bne_iff_ne, bne_iff_ne]
  constructor <;> rintro rfl <;> exact absurd h (by decide)

/-- A comma or a semicolon separates fragments. -/
theorem fragments_append_cons {c : Char} (hc : isFragmentChar c = false) (xs ys : List Char) :
    fragments (xs ++ c :: ys) = fragments xs ++ fragments ys := by
  simp only [fragments_eq, runs_append_cons hc, List.map_append, List.filter_append]

/-- A text without separators is one fragment, if it is not blank. -/
theorem fragments_of_forall {w : List Char} (h : ∀ c ∈ w, isFragmentChar c = true) :
    fragments w = if trim w = [] then [] else [trim w] := by
  by_cases hw : w = []
  · subst hw
    rfl
  · rw [fragments_eq, runs_of_forall hw h]
    by_cases htrim : trim w = [] <;> simp [htrim]

/-- A text that is a fragment as it stands: it has no separators, and no blanks at its ends. -/
structure IsFragment (cs : List Char) : Prop where
  /-- There are characters. -/
  ne_nil : cs ≠ []
  /-- There are no separators. -/
  isFragmentChar : ∀ c ∈ cs, isFragmentChar c = true
  /-- It starts with no blank. -/
  head : ∀ c ∈ cs.head?, isBlank c = false
  /-- It ends with no blank. -/
  last : ∀ c ∈ cs.getLast?, isBlank c = false

namespace IsFragment

variable {cs ds : List Char}

theorem fragments_eq (h : IsFragment cs) : fragments cs = [cs] := by
  rw [fragments_of_forall h.isFragmentChar, trim_eq_self h.head h.last, if_neg h.ne_nil]

/-- Fragments may be put together with other characters between them. -/
theorem append (h : IsFragment cs) {mid : List Char}
    (hmid : ∀ c ∈ mid, PassageItem.isFragmentChar c = true) (h' : IsFragment ds) :
    IsFragment (cs ++ mid ++ ds) where
  ne_nil := by simp [h.ne_nil]
  isFragmentChar c hc := by
    simp only [List.mem_append] at hc
    obtain (hc | hc) | hc := hc
    · exact h.isFragmentChar c hc
    · exact hmid c hc
    · exact h'.isFragmentChar c hc
  head c hc := h.head c (by
    obtain ⟨d, cs, rfl⟩ := List.exists_cons_of_ne_nil h.ne_nil
    simpa using hc)
  last c hc := h'.last c (by
    rwa [List.getLast?_append, List.getLast?_eq_some_getLast h'.ne_nil, Option.some_or,
      ← List.getLast?_eq_some_getLast h'.ne_nil] at hc)

end IsFragment

section

variable {blanks : List Char} (h : ∀ c ∈ blanks, isBlank c = true) (cs : List Char)

include h

theorem fragments_append_left : fragments (blanks ++ cs) = fragments cs := by
  have hrun : ∀ w : List Char, (∀ c ∈ w, isFragmentChar c = true) →
      fragments (blanks ++ w) = fragments w := by
    intro w hw
    have hall : ∀ c ∈ blanks ++ w, isFragmentChar c = true := fun c hc =>
      (List.mem_append.mp hc).elim (fun hc => isFragmentChar_of_isBlank (h c hc)) (hw c)
    rw [fragments_of_forall hall, fragments_of_forall hw, trim_append_left h]
  induction cs using runs_induction (p := isFragmentChar) with
  | run w hw => exact hrun w hw
  | split w c cs hw hc ih =>
    rw [← List.append_assoc, fragments_append_cons hc, fragments_append_cons hc, hrun w hw]

theorem fragments_append_right : fragments (cs ++ blanks) = fragments cs := by
  induction cs using runs_induction (p := isFragmentChar) with
  | run w hw =>
    have hall : ∀ c ∈ w ++ blanks, isFragmentChar c = true := fun c hc =>
      (List.mem_append.mp hc).elim (hw c) fun hc => isFragmentChar_of_isBlank (h c hc)
    rw [fragments_of_forall hall, fragments_of_forall hw, trim_append_right h]
  | split w c cs hw hc ih =>
    rw [List.append_assoc, List.cons_append, fragments_append_cons hc, fragments_append_cons hc, ih]

end

theorem fragments_trim (cs : List Char) : fragments (trim cs) = fragments cs := by
  obtain ⟨before, after, hcs, hbefore, hafter⟩ := exists_trim cs
  have hblanks : fragments (before ++ trim cs ++ after) = fragments (trim cs) := by
    rw [fragments_append_right hafter, fragments_append_left hbefore]
  rw [← hblanks, ← hcs]

end PassageItem

/-- **An expression covers the same verses when it is trimmed.** -/
theorem VerseSet.parse_trim (text : String) :
    parse (String.ofList (Text.trim text.toList)) = parse text := by
  rw [parse, parse, PassageItem.parseAll, PassageItem.parseAll, String.toList_ofList,
    PassageItem.fragments_trim]

end Concordance
