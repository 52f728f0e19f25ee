import Mathlib.Data.List.Forall2
import Concordance.Proofs.Pattern.Order
import Concordance.Proofs.Pattern.Pieces

/-!
# Strict and sloppy phrases

A filler that may pass over words has every alternative of one that may not, and some more. So
whatever the pattern of a phrase matches, the pattern of the same phrase matches that may be
interrupted: inclusion of patterns is kept by sequences and by repetitions, and the two patterns differ
in their fillers only. The two are larger and smaller, though, and the engine has to take the one that may
be interrupted as well.

## Main definitions

* `Pattern.Includes` — whatever one pattern matches, another one matches too

## Main results

* `Pattern.includes_ofElements` — the pattern of a phrase is included in the one that may be interrupted
* `PhraseStyle.isMatch_sloppy` — a phrase that matches does so if it may be interrupted
-/

namespace Concordance

namespace Pattern

/-! ### Inclusion -/

/-- Whatever stretch of any text the one pattern matches, the other one matches too. -/
def Includes (q p : Pattern) : Prop := ∀ t i j, p.Spans t i j → q.Spans t i j

section

variable {p q : Pattern} {ps qs : List Pattern}

theorem Includes.refl (p : Pattern) : Includes p p := fun _ _ _ h => h

theorem includes_ofSeq (h : List.Forall₂ Includes qs ps) : Includes (ofSeq qs) (ofSeq ps) := by
  induction h with
  | nil => exact Includes.refl _
  | cons hfirst hrest ih =>
    cases hrest with
    | nil => exact hfirst
    | cons _ _ =>
      rintro t i j ⟨k, hp, hps⟩
      exact ⟨k, hfirst t i k hp, ih t k j hps⟩

/-- More alternatives match more. -/
theorem includes_ofAlt (hne : ps ≠ []) (h : ps ⊆ qs) : Includes (ofAlt qs) (ofAlt ps) := by
  intro t i j hspans
  obtain ⟨p, hp, hspans⟩ := (spans_ofAlt hne).mp hspans
  exact (spans_ofAlt (List.ne_nil_of_mem (h hp))).mpr ⟨p, h hp, hspans⟩

theorem Includes.repeated (h : Includes q p) (low : Nat) (high? : Option Nat) (greedy : Bool) :
    Includes (.repeated q low high? greedy) (.repeated p low high? greedy) := by
  intro t i j hchain
  induction (hchain : Chain (p.Spans t) low high? i j) with
  | nil => exact .nil
  | cons first room _ ih => exact .cons (h t _ _ first) room ih

/-- Where the one pattern finds a match, the other one finds a match. -/
theorem Includes.isMatch (h : Includes q p) (hp : p.InOrder) (hq : q.InOrder) {t : Array Char}
    (hmatch : p.isMatch t = true) : q.isMatch t = true := by
  obtain ⟨i, hi, j, hspans⟩ := (isMatch_iff hp).mp hmatch
  exact (isMatch_iff hq).mpr ⟨i, hi, j, h t i j hspans⟩

end

/-! ### Fillers and phrases -/

section

variable {ignoreCase : Bool} {edge : Pattern} {extra : List (List Char × List Pattern)}

/-- A filler that may pass over words has every choice of one that may not. -/
theorem fillerChoices_subset (terms : List Term) :
    fillerChoices ignoreCase extra false terms ⊆ fillerChoices ignoreCase extra true terms := by
  have horElse : ∀ (wanted : Bool) (choice : List Char × List Pattern),
      (if wanted || false then [choice] else []) ⊆ if wanted || true then [choice] else [] := by
    intro wanted choice
    cases wanted <;> simp
  intro a ha
  simp only [fillerChoices, List.mem_append] at ha ⊢
  rcases ha with ((ha | ha) | ha) | ha
  · exact .inl (.inl (.inl ha))
  · exact .inl (.inl (.inr (horElse _ _ ha)))
  · exact .inl (.inr (horElse _ _ ha))
  · exact .inr (horElse _ _ ha)

theorem includes_ofFiller (terms : List Term) :
    Includes (ofFiller ignoreCase extra true terms) (ofFiller ignoreCase extra false terms) := by
  refine Includes.repeated (includes_ofAlt (List.cons_ne_nil _ _) ?_) 0 none false
  exact List.cons_subset_cons _ (List.map_subset _ (fillerChoices_subset terms))

/-- A phrase matches more if its filler does. -/
theorem forall₂_phraseItems {filler filler' : Pattern} (h : Includes filler' filler) (count : Nat)
    (es : List (List Term)) :
    List.Forall₂ Includes (phraseItems ignoreCase edge filler' count es)
      (phraseItems ignoreCase edge filler count es) := by
  have hself : ∀ ps : List Pattern, List.Forall₂ Includes ps ps := fun ps =>
    List.forall₂_same.mpr fun p _ => Includes.refl p
  induction es generalizing count with
  | nil => exact .nil
  | cons e es ih =>
    cases es with
    | nil => exact hself _
    | cons e' es => exact List.rel_append (hself _) (.cons h (ih _))

/-- **The pattern of a phrase is included in the one that may be interrupted.** -/
theorem includes_ofElements (es : List (List Term)) :
    Includes (ofElements ignoreCase edge extra true es) (ofElements ignoreCase edge extra false es) :=
  includes_ofSeq (forall₂_phraseItems (includes_ofFiller es.flatten) 0 es)

end

end Pattern

namespace PhraseStyle

open Pattern

/-- **A phrase that matches does so if it may be interrupted**, unless the engine then refuses it. -/
theorem isMatch_sloppy {engine : Engine} {caseSensitive : Bool} {phrase : List Char} {t : Array Char}
    (hfits : ({ caseSensitive, sloppy := true } : PhraseStyle).Fits engine phrase)
    (h : (({ caseSensitive } : PhraseStyle).matcher engine phrase).pattern.isMatch t = true) :
    (({ caseSensitive, sloppy := true } : PhraseStyle).matcher engine phrase).pattern.isMatch t
      = true := by
  have hplain := fun sloppy => readsAs_plain (!caseSensitive) caseSensitive sloppy
  by_cases hne : elements phrase = []
  · have hempty : (({ caseSensitive } : PhraseStyle).source phrase).isEmpty = true := by
      rw [isEmpty_source rfl, hne]
      rfl
    rw [matcher, Matcher.compile, if_pos hempty] at h
    exact absurd ((isMatch_never t).symm.trans h) Bool.false_ne_true
  · have hstrict := @read?_phrase _ _ _ _ (hplain false) rfl phrase
    have hsloppy := @read?_phrase _ _ _ _ (hplain true) rfl phrase
    rw [pattern_matcher_eq engine (hplain true) rfl hne, isMatch_ite_never]
    rw [pattern_matcher_eq engine (hplain false) rfl hne, isMatch_ite_never] at h
    exact ⟨hfits, (includes_ofElements _).isMatch (inOrder_of_read? hstrict) (inOrder_of_read? hsloppy)
      h.2⟩

end PhraseStyle

end Concordance
