import Concordance.Markup.Tag

/-!
# What readers of tags read

Each reader of a part of a tag reads exactly the texts that start with such a part, and what it
reads is all of it: a run is followed by a character of another kind.

## Main definitions

* `Markup.IsNumber` — a language letter and digits

## Main results

* `Text.takeSome?_eq_some_iff`, `Markup.number?_eq_some_iff` — runs and numbers
* `Markup.strongs?_eq_some_iff`, `Markup.morph?_eq_some_iff` — tags in their brackets
-/

namespace Concordance

namespace Text

variable {p : Char → Bool} {cs run rest : List Char}

theorem takeWhile_append (h : ∀ c ∈ run, p c = true) (hrest : ∀ c ∈ rest.head?, p c = false) :
    (run ++ rest).takeWhile p = run ∧ (run ++ rest).dropWhile p = rest := by
  rw [List.takeWhile_append_of_pos h, List.dropWhile_append_of_pos h]
  cases rest with
  | nil => simp
  | cons c rest =>
    have hc : p c = false := hrest c (by simp)
    simp [hc]

/-- A run and what follows it are told by the whole. -/
theorem run_append_inj {run' rest' : List Char} (h : ∀ c ∈ run, p c = true)
    (hrest : ∀ c ∈ rest.head?, p c = false) (h' : ∀ c ∈ run', p c = true)
    (hrest' : ∀ c ∈ rest'.head?, p c = false) (heq : run ++ rest = run' ++ rest') :
    run = run' ∧ rest = rest' := by
  obtain ⟨htake, hdrop⟩ := takeWhile_append h hrest
  obtain ⟨htake', hdrop'⟩ := takeWhile_append h' hrest'
  exact ⟨by rw [← htake, heq, htake'], by rw [← hdrop, heq, hdrop']⟩

theorem head?_dropWhile : ∀ c ∈ (cs.dropWhile p).head?, p c = false := by
  intro c hc
  have := List.head?_dropWhile_not p cs
  simp_all

/-- **A run that is read is all of it.** -/
theorem takeSome?_eq_some_iff :
    takeSome? p cs = some (run, rest) ↔
      run ≠ [] ∧ (∀ c ∈ run, p c = true) ∧ (∀ c ∈ rest.head?, p c = false) ∧ cs = run ++ rest := by
  constructor
  · intro h
    simp only [takeSome?, List.isEmpty_iff] at h
    split at h
    · cases h
    · rename_i hne
      obtain ⟨rfl, rfl⟩ := Prod.mk.inj (Option.some.inj h)
      exact ⟨hne, List.all_eq_true.mp (List.all_takeWhile), head?_dropWhile,
        (List.takeWhile_append_dropWhile).symm⟩
  · rintro ⟨hne, hrun, hrest, rfl⟩
    obtain ⟨htake, hdrop⟩ := takeWhile_append hrun hrest
    simp [takeSome?, htake, hdrop, hne]

/-- A run goes no further than a character of another kind. -/
theorem takeSome?_append_cons {c : Char} (hc : p c = false) (xs ys : List Char) :
    takeSome? p (xs ++ c :: ys) = (takeSome? p xs).map fun r => (r.1, r.2 ++ c :: ys) := by
  have hsplit : (xs ++ c :: ys).takeWhile p = xs.takeWhile p ∧
      (xs ++ c :: ys).dropWhile p = xs.dropWhile p ++ c :: ys := by
    induction xs with
    | nil => simp [hc]
    | cons x xs ih => by_cases hx : p x = true <;> simp [hx, ih]
  simp only [takeSome?, hsplit]
  split <;> rfl

end Text

namespace Markup

theorem sign?_eq_some_iff {c : Char} {cs rest : List Char} :
    sign? c cs = some rest ↔ cs = c :: rest := by
  rw [sign?, Text.after?_eq_some_iff, List.singleton_append]

@[simp] theorem sign?_cons_self (c : Char) (cs : List Char) : sign? c (c :: cs) = some cs :=
  sign?_eq_some_iff.mpr rfl

theorem sign?_cons_of_ne {c d : Char} (h : d ≠ c) (cs : List Char) : sign? c (d :: cs) = none := by
  rw [Option.eq_none_iff_forall_ne_some]
  intro rest hrest
  exact h (List.cons.inj (sign?_eq_some_iff.mp hrest)).1

@[simp] theorem sign?_nil (c : Char) : sign? c [] = none := rfl

/-- One of two signs is read where one of them stands. -/
theorem sign?_or_eq_some_iff {c d : Char} {cs rest : List Char} :
    (sign? c cs).or (sign? d cs) = some rest ↔ ∃ s, (s = c ∨ s = d) ∧ cs = s :: rest := by
  rw [Option.or_eq_some_iff]
  simp only [sign?_eq_some_iff]
  constructor
  · rintro (h | ⟨-, h⟩)
    · exact ⟨c, .inl rfl, h⟩
    · exact ⟨d, .inr rfl, h⟩
  · rintro ⟨s, hs, rfl⟩
    by_cases hc : s = c
    · exact .inl (by rw [hc])
    · exact .inr ⟨sign?_cons_of_ne hc rest, by rw [hs.resolve_left hc]⟩

/-- A Strong's number without brackets: a letter for the language, and digits. -/
def IsNumber (language : Char → Bool) (number : List Char) : Prop :=
  ∃ c ds, number = c :: ds ∧ language c = true ∧ ds ≠ [] ∧ ∀ d ∈ ds, Text.isDigit d = true

instance (language : Char → Bool) (number : List Char) : Decidable (IsNumber language number) :=
  match number with
  | [] => isFalse (by rintro ⟨c, ds, heq, -⟩; cases heq)
  | c :: ds => decidable_of_iff (language c = true ∧ ds ≠ [] ∧ ds.all Text.isDigit = true) (by
      rw [List.all_eq_true]
      constructor
      · exact fun h => ⟨c, ds, rfl, h⟩
      · rintro ⟨c', ds', heq, h⟩
        obtain ⟨rfl, rfl⟩ := List.cons.inj heq
        exact h)

variable {language : Char → Bool} {cs number tag rest : List Char}

/-- **A number that is read is all of it.** -/
theorem number?_eq_some_iff :
    number? language cs = some (number, rest) ↔
      IsNumber language number ∧ (∀ c ∈ rest.head?, Text.isDigit c = false) ∧
        cs = number ++ rest := by
  constructor
  · intro h
    cases cs with
    | nil => cases h
    | cons c cs =>
      rw [number?] at h
      split at h
      · rename_i hc
        obtain ⟨⟨ds, rest'⟩, hds, heq⟩ := Option.map_eq_some_iff.mp h
        obtain ⟨rfl, rfl⟩ := Prod.mk.inj heq
        obtain ⟨hne, hall, hrest, rfl⟩ := Text.takeSome?_eq_some_iff.mp hds
        exact ⟨⟨c, ds, rfl, hc, hne, hall⟩, hrest, rfl⟩
      · cases h
  · rintro ⟨⟨c, ds, rfl, hc, hne, hall⟩, hrest, rfl⟩
    have hds : Text.takeSome? Text.isDigit (ds ++ rest) = some (ds, rest) :=
      Text.takeSome?_eq_some_iff.mpr ⟨hne, hall, hrest, rfl⟩
    simp [number?, hc, hds]

/-- **A Strong's number in its brackets.** -/
theorem strongs?_eq_some_iff :
    strongs? language cs = some (number, rest) ↔
      IsNumber language number ∧ cs = '<' :: number ++ '>' :: rest := by
  constructor
  · intro h
    simp only [strongs?, Option.bind_eq_bind, Option.bind_eq_some_iff, Option.pure_def,
      Option.some.injEq] at h
    obtain ⟨cs₁, h₁, ⟨number', cs₂⟩, h₂, cs₃, h₃, heq⟩ := h
    obtain ⟨rfl, rfl⟩ := Prod.mk.inj heq
    obtain ⟨hnumber, -, rfl⟩ := number?_eq_some_iff.mp h₂
    rw [sign?_eq_some_iff] at h₁ h₃
    simp only at h₃
    exact ⟨hnumber, by simp [h₁, h₃]⟩
  · rintro ⟨hnumber, rfl⟩
    have hread : number? language (number ++ '>' :: rest) = some (number, '>' :: rest) :=
      number?_eq_some_iff.mpr ⟨hnumber, by simp; decide, rfl⟩
    simp [strongs?, hread]

/-- **A morphology tag in its braces.** -/
theorem morph?_eq_some_iff :
    morph? cs = some (tag, rest) ↔
      tag ≠ [] ∧ (∀ c ∈ tag, isTagChar c = true) ∧ cs = '\x7b' :: tag ++ '\x7d' :: rest := by
  constructor
  · intro h
    simp only [morph?, Option.bind_eq_bind, Option.bind_eq_some_iff, Option.pure_def,
      Option.some.injEq] at h
    obtain ⟨cs₁, h₁, ⟨tag', cs₂⟩, h₂, cs₃, h₃, heq⟩ := h
    obtain ⟨rfl, rfl⟩ := Prod.mk.inj heq
    obtain ⟨hne, hall, -, rfl⟩ := Text.takeSome?_eq_some_iff.mp h₂
    rw [sign?_eq_some_iff] at h₁ h₃
    simp only at h₃
    exact ⟨hne, hall, by simp [h₁, h₃]⟩
  · rintro ⟨hne, hall, rfl⟩
    have hread : Text.takeSome? isTagChar (tag ++ '\x7d' :: rest) = some (tag, '\x7d' :: rest) :=
      Text.takeSome?_eq_some_iff.mpr ⟨hne, hall, by simp; decide, rfl⟩
    simp [morph?, hread]

end Markup

end Concordance
