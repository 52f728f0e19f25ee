import Concordance.Proofs.Pattern.Sound

/-!
# What holds of all outcomes

Whatever holds of an outcome that takes nothing, and of two outcomes one after the other if it holds of
each, holds of all outcomes of a repetition whose rounds have it. Neither the bounds of the repetition
nor the order of preference have to do with it. So outcomes lead forward and stay within the text, and
what is kept of a match was matched by one of the groups of the pattern.

## Main definitions

* `Pattern.IsAlong` — a relation between places and outcomes that goes along with them
* `Pattern.groups` — the groups of a pattern, each with its number
* `Pattern.Always` — a group takes part in every match

## Main results

* `Pattern.IsAlong.rounds` — what goes along with the outcomes of a round goes along with all rounds
* `Pattern.forward_of_mem_outcomes` — outcomes lead forward and stay within the text
* `Pattern.keepsOf_of_mem_outcomes` — what is kept of a match was matched by a group
* `Pattern.exists_capture_of_always` — of a group that takes part something is kept
-/

namespace Concordance

namespace Pattern

/-! ### Rounds -/

theorem forall_mem_distinct {P : Outcome → Prop} {os : List Outcome} (hos : ∀ o ∈ os, P o) :
    ∀ o ∈ distinct os, P o :=
  fun o ho => hos o (mem_of_mem_distinct ho)

/-- A relation between places and the outcomes from there that goes along with them: it holds where
nothing is taken, and of two outcomes one after the other if it holds of each. -/
structure IsAlong (R : Nat → Outcome → Prop) : Prop where
  /-- It holds where nothing is taken. -/
  here : ∀ i, R i (.here i)
  /-- It holds of one outcome after another. -/
  append : ∀ {i o o'}, R i o → R o.stop o' → R i (o.append o')

namespace IsAlong

variable {R : Nat → Outcome → Prop} {i : Nat}

theorem chain (hR : IsAlong R) {os : List Outcome} {f : Nat → List Outcome} (hos : ∀ o ∈ os, R i o)
    (hf : ∀ j, ∀ o ∈ f j, R j o) : ∀ o ∈ chain os f, R i o := by
  intro o ho
  obtain ⟨o₁, ho₁, o₂, ho₂, rfl⟩ := exists_of_mem_chain ho
  exact hR.append (hos o₁ ho₁) (hf o₁.stop o₂ ho₂)

/-- **What goes along with the outcomes of a round goes along with all rounds.** -/
theorem rounds (hR : IsAlong R) {body : Nat → List Outcome} (hbody : ∀ j, ∀ o ∈ body j, R j o)
    (greedy : Bool) (size low : Nat) (high? : Option Nat) (i : Nat) :
    ∀ o ∈ rounds body greedy size low high? i, R i o := by
  have hvisit : ∀ (r : Rounds), r.body = body → ∀ i fuel (w : Walk), w.Finds (R i) →
      ∀ left o, R i o → (r.visit fuel w left o).Finds (R i) := by
    rintro r rfl i fuel w hw left o ho
    exact Rounds.finds_visit (fun _ o => R i o)
      (fun _ o _ ho _ o' ho' => hR.append ho (hbody _ o' ho')) (fun _ _ ho => ho) fuel hw ho
  have hstart : ∀ i, Walk.Finds (R i) ⟨0, []⟩ := fun _ => List.forall_mem_nil _
  have hexactly : ∀ n, ∀ o ∈ exactly body n i, R i o := by
    intro n
    induction n with
    | zero => exact List.forall_mem_singleton.mpr (hR.here i)
    | succ n ih => exact hR.chain ih hbody
  have honeOrMore : ∀ i, ∀ o ∈ oneOrMore body greedy size i, R i o := fun i o ho =>
    Walk.Finds.foldl (fun w hw o' ho' => hvisit _ rfl i _ w hw 0 o' (hbody i o' ho')) (hstart i) o
      (List.mem_reverse.mp ho)
  have hupTo : ∀ n i, ∀ o ∈ upTo body greedy size n i, R i o := fun n i =>
    forall_mem_distinct fun o ho => hvisit _ rfl i _ _ (hstart i) n (.here i) (hR.here i) o
      (List.mem_reverse.mp ho)
  match low, high? with
  | 0, none =>
    rw [Pattern.rounds, zeroOrMore]
    split
    · exact forall_mem_distinct (List.forall_mem_append.mpr
        ⟨honeOrMore i, List.forall_mem_singleton.mpr (hR.here i)⟩)
    · exact forall_mem_distinct (List.forall_mem_cons.mpr ⟨hR.here i, honeOrMore i⟩)
  | low + 1, none => exact hR.chain (hexactly low) honeOrMore
  | low, some high =>
    simp only [Pattern.rounds]
    exact hR.chain (hexactly low) (hupTo _)

end IsAlong

/-! ### Places -/

/-- An outcome ends after its place, and within a text of some size if it starts there. -/
def IsForward (size i : Nat) (o : Outcome) : Prop := i ≤ o.stop ∧ (i ≤ size → o.stop ≤ size)

theorem isAlong_isForward (size : Nat) : IsAlong (IsForward size) where
  here _ := ⟨Nat.le_refl _, id⟩
  append h h' := ⟨Nat.le_trans h.1 h'.1, fun hi => h'.2 (h.2 hi)⟩

/-- **Outcomes lead forward and stay within the text.** -/
theorem forward_of_mem_outcomes {t : Array Char} (p : Pattern) {i : Nat} {o : Outcome}
    (ho : o ∈ p.outcomes t i) : IsForward t.size i o := by
  have hR := isAlong_isForward t.size
  induction p generalizing i o with
  | empty =>
    obtain rfl := List.mem_singleton.mp ho
    exact hR.here i
  | set s =>
    rw [outcomes] at ho
    split at ho
    · rename_i c hc
      split at ho
      · obtain rfl := List.mem_singleton.mp ho
        have hlt : i < t.size := (Array.getElem?_eq_some_iff.mp hc).1
        exact ⟨Nat.le_succ i, fun _ => hlt⟩
      · cases ho
    · cases ho
  | anchor a =>
    rw [outcomes] at ho
    split at ho
    · obtain rfl := List.mem_singleton.mp ho
      exact hR.here i
    · cases ho
  | group index p ih =>
    obtain ⟨o', ho', rfl⟩ := List.mem_map.mp ho
    exact ih (o := o') ho'
  | seq p q ihp ihq => exact hR.chain (fun _ ho => ihp ho) (fun _ _ ho => ihq ho) o ho
  | alt p q ihp ihq =>
    rcases List.mem_append.mp (mem_of_mem_distinct ho) with ho | ho
    · exact ihp ho
    · exact ihq ho
  | repeated p low high? greedy ih =>
    exact hR.rounds (fun _ _ ho => ih ho) greedy t.size low high? i o ho

/-! ### Groups -/

/-- The groups of a pattern, each with its number. -/
def groups : Pattern → List (Nat × Pattern)
  | empty | set _ | anchor _ => []
  | group index p => (index, p) :: p.groups
  | seq p q | alt p q => p.groups ++ q.groups
  | repeated p _ _ _ => p.groups

/-- All that is kept of an outcome was matched by one of some groups, within the text. -/
def KeepsOf (t : Array Char) (gs : List (Nat × Pattern)) (i : Nat) (o : Outcome) : Prop :=
  ∀ c ∈ o.captures, (i ≤ t.size → c.start ≤ t.size) ∧
    ∃ q, (c.index, q) ∈ gs ∧ q.Spans t c.start c.stop

theorem isAlong_keepsOf (t : Array Char) (gs : List (Nat × Pattern)) :
    IsAlong fun i o => IsForward t.size i o ∧ KeepsOf t gs i o where
  here i := ⟨(isAlong_isForward t.size).here i, List.forall_mem_nil _⟩
  append h h' := by
    refine ⟨(isAlong_isForward t.size).append h.1 h'.1, List.forall_mem_append.mpr ⟨?_, h.2⟩⟩
    exact fun c hc => ⟨fun hi => (h'.2 c hc).1 (h.1.2 hi), (h'.2 c hc).2⟩

theorem KeepsOf.mono {t : Array Char} {gs gs' : List (Nat × Pattern)} {i : Nat} {o : Outcome}
    (h : KeepsOf t gs i o) (hgs : gs ⊆ gs') : KeepsOf t gs' i o := fun c hc =>
  ⟨(h c hc).1, (h c hc).2.imp fun _ hq => ⟨hgs hq.1, hq.2⟩⟩

/-- **What is kept of a match was matched by a group.** -/
theorem keepsOf_of_mem_outcomes {t : Array Char} {p : Pattern} (hp : p.InOrder) {i : Nat}
    {o : Outcome} (ho : o ∈ p.outcomes t i) : KeepsOf t p.groups i o := by
  have hR := isAlong_keepsOf t
  induction p generalizing i o with
  | empty =>
    obtain rfl := List.mem_singleton.mp ho
    exact List.forall_mem_nil _
  | set s =>
    rw [outcomes] at ho
    split at ho
    · split at ho
      · obtain rfl := List.mem_singleton.mp ho
        exact List.forall_mem_nil _
      · cases ho
    · cases ho
  | anchor a =>
    rw [outcomes] at ho
    split at ho
    · obtain rfl := List.mem_singleton.mp ho
      exact List.forall_mem_nil _
    · cases ho
  | group index p ih =>
    obtain ⟨o', ho', rfl⟩ := List.mem_map.mp ho
    have hspans := spans_of_mem_outcomes (p := p) hp ho'
    refine List.forall_mem_cons.mpr ⟨⟨id, p, List.mem_cons_self, hspans⟩, ?_⟩
    exact (ih (o := o') hp ho').mono (List.subset_cons_self _ _)
  | seq p q ihp ihq =>
    have hall := (hR (groups (seq p q))).chain (i := i)
      (fun _ ho => ⟨forward_of_mem_outcomes p ho, (ihp hp.1 ho).mono (List.subset_append_left _ _)⟩)
      (fun _ _ ho => ⟨forward_of_mem_outcomes q ho, (ihq hp.2 ho).mono (List.subset_append_right _ _)⟩)
    exact (hall o ho).2
  | alt p q ihp ihq =>
    rcases List.mem_append.mp (mem_of_mem_distinct ho) with ho | ho
    · exact (ihp hp.1 ho).mono (List.subset_append_left _ _)
    · exact (ihq hp.2 ho).mono (List.subset_append_right _ _)
  | repeated p low high? greedy ih =>
    exact ((hR p.groups).rounds (fun _ _ ho => ⟨forward_of_mem_outcomes p ho, ih hp.1 ho⟩) greedy t.size
      low high? i o ho).2

theorem groups_ofSeq (ps : List Pattern) : (ofSeq ps).groups = ps.flatMap groups := by
  induction ps with
  | nil => rfl
  | cons p ps ih =>
    cases ps with
    | nil => simp [ofSeq]
    | cons q ps => exact congrArg (p.groups ++ ·) ih

theorem groups_ofAlt (ps : List Pattern) : (ofAlt ps).groups = ps.flatMap groups := by
  induction ps with
  | nil => rfl
  | cons p ps ih =>
    cases ps with
    | nil => simp [ofAlt]
    | cons q ps => exact congrArg (p.groups ++ ·) ih

/-- The number of a group is below the count of groups. -/
theorem lt_groupCount {p q : Pattern} {index : Nat} (h : (index, q) ∈ p.groups) :
    index < p.groupCount := by
  induction p with
  | empty | set _ | anchor _ => cases h
  | group i p ih =>
    rcases List.mem_cons.mp h with heq | h
    · obtain ⟨rfl, -⟩ := Prod.mk.inj heq
      exact Nat.le_max_left _ _
    · exact Nat.lt_of_lt_of_le (ih h) (Nat.le_max_right _ _)
  | seq p q ihp ihq | alt p q ihp ihq =>
    rcases List.mem_append.mp h with h | h
    · exact Nat.lt_of_lt_of_le (ihp h) (Nat.le_max_left _ _)
    · exact Nat.lt_of_lt_of_le (ihq h) (Nat.le_max_right _ _)
  | repeated p _ _ _ ih => exact ih h

/-! ### Groups that take part -/

/-- A group of some number takes part in every match. -/
def Always (index : Nat) : Pattern → Prop
  | empty | set _ | anchor _ | repeated _ _ _ _ => False
  | group i p => i = index ∨ p.Always index
  | seq p q => p.Always index ∨ q.Always index
  | alt p q => p.Always index ∧ q.Always index

theorem always_ofSeq {ps : List Pattern} {p : Pattern} {index : Nat} (hp : p ∈ ps)
    (h : p.Always index) : (ofSeq ps).Always index := by
  induction ps with
  | nil => cases hp
  | cons q ps ih =>
    cases ps with
    | nil =>
      obtain rfl := List.mem_singleton.mp hp
      exact h
    | cons q' ps =>
      rcases List.mem_cons.mp hp with rfl | hp
      · exact .inl h
      · exact .inr (ih hp)

/-- **Of a group that takes part something is kept.** -/
theorem exists_capture_of_always {t : Array Char} {p : Pattern} {index i : Nat} {o : Outcome}
    (h : p.Always index) (ho : o ∈ p.outcomes t i) : ∃ c ∈ o.captures, c.index = index := by
  induction p generalizing i o with
  | empty | set _ | anchor _ | repeated _ _ _ _ => cases h
  | group j p ih =>
    obtain ⟨o', ho', rfl⟩ := List.mem_map.mp ho
    rcases h with rfl | h
    · exact ⟨_, List.mem_cons_self, rfl⟩
    · obtain ⟨c, hc, hindex⟩ := ih h ho'
      exact ⟨c, List.mem_cons_of_mem _ hc, hindex⟩
  | seq p q ihp ihq =>
    obtain ⟨o₁, ho₁, o₂, ho₂, rfl⟩ := exists_of_mem_chain ho
    rcases h with h | h
    · obtain ⟨c, hc, hindex⟩ := ihp h ho₁
      exact ⟨c, List.mem_append_right _ hc, hindex⟩
    · obtain ⟨c, hc, hindex⟩ := ihq h ho₂
      exact ⟨c, List.mem_append_left _ hc, hindex⟩
  | alt p q ihp ihq =>
    rcases List.mem_append.mp (mem_of_mem_distinct ho) with ho | ho
    · exact ihp h.1 ho
    · exact ihq h.2 ho

end Pattern

end Concordance
