import Concordance.Pattern.Reader
import Concordance.Proofs.Pattern.Sound

/-!
# Bounds of repetitions that are read

A pattern that a text writes has the bounds of its repetitions in order: where a lower and an upper
bound are written out they are compared, and the signs for repetitions stand for bounds in order. So
whatever pattern is read, a match is found if and only if there is a stretch that the pattern matches.

## Main definitions

* `Pattern.Reading.InOrder` — what has been read so far has its bounds in order

## Main results

* `Pattern.inOrder_of_read?` — a pattern that is read has its bounds in order
-/

namespace Concordance

namespace Pattern

/-! ### What has been read -/

/-- All that is read of a sequence has its bounds in order. -/
structure Branches.InOrder (b : Branches) : Prop where
  /-- The complete alternatives. -/
  done : ∀ p ∈ b.done, p.InOrder
  /-- The items of the alternative at hand. -/
  items : ∀ p, some p ∈ b.items → p.InOrder

/-- All that has been read has its bounds in order. -/
structure Reading.InOrder (r : Reading) : Prop where
  /-- Of the group at hand. -/
  branches : r.branches.InOrder
  /-- Around the groups that are open. -/
  groups : ∀ g ∈ r.groups, g.around.InOrder

theorem inOrder_ofSeq {ps : List Pattern} (h : ∀ p ∈ ps, p.InOrder) : (ofSeq ps).InOrder := by
  induction ps with
  | nil => trivial
  | cons p ps ih =>
    have hps := ih fun q hq => h q (List.mem_cons_of_mem _ hq)
    cases ps with
    | nil => exact h p List.mem_cons_self
    | cons q ps => exact ⟨h p List.mem_cons_self, hps⟩

theorem inOrder_ofAlt {ps : List Pattern} (h : ∀ p ∈ ps, p.InOrder) : (ofAlt ps).InOrder := by
  induction ps with
  | nil => trivial
  | cons p ps ih =>
    have hps := ih fun q hq => h q (List.mem_cons_of_mem _ hq)
    cases ps with
    | nil => exact h p List.mem_cons_self
    | cons q ps => exact ⟨h p List.mem_cons_self, hps⟩

/-- A repetition in its simplest form has its bounds in order if they are. -/
theorem inOrder_ofRepeat {p : Pattern} {low : Nat} {high? : Option Nat} (hp : p.InOrder)
    (hbounds : ∀ high ∈ high?, low ≤ high) (greedy : Bool) :
    (ofRepeat p low high? greedy).InOrder := by
  have hsimple : ∀ (low : Nat) (high? : Option Nat), (∀ high ∈ high?, low ≤ high) →
      (if low == 0 && high? == some 0 then empty
        else if low == 1 && high? == some 1 then p else repeated p low high? greedy).InOrder := by
    intro low high? hbounds
    split
    · trivial
    · split
      · exact hp
      · exact ⟨hp, hbounds⟩
  refine hsimple _ _ fun high hhigh => ?_
  cases hempty : p.isEmptyOnly with
  | false => simpa [hempty] using hbounds high (by simpa [hempty] using hhigh)
  | true =>
    obtain rfl : min (high?.getD 1) 1 = high := by simpa [hempty] using hhigh
    cases high? with
    | none => exact Nat.min_le_right low 1
    | some high =>
      have hle := hbounds high rfl
      simp only [if_true, Option.getD_some]
      omega

namespace Branches

variable {b : Branches} {p : Pattern}

theorem inOrder_none : Branches.none.InOrder := ⟨fun _ h => (nomatch h), fun _ h => nomatch h⟩

theorem InOrder.push (h : b.InOrder) (hp : p.InOrder) : (b.push p).InOrder := by
  refine ⟨h.done, fun q hq => ?_⟩
  rcases List.mem_cons.mp hq with hq | hq
  · exact Option.some.inj hq ▸ hp
  · exact h.items q hq

theorem InOrder.current (h : b.InOrder) : b.current.InOrder := by
  refine inOrder_ofSeq fun p hp => h.items p ?_
  simpa using hp

theorem InOrder.next (h : b.InOrder) : b.next.InOrder := by
  refine ⟨fun p hp => ?_, fun _ h => nomatch h⟩
  rcases List.mem_cons.mp hp with rfl | hp
  · exact h.current
  · exact h.done p hp

theorem InOrder.pattern (h : b.InOrder) : b.pattern.InOrder := by
  refine inOrder_ofAlt fun p hp => ?_
  rcases List.mem_cons.mp (List.mem_reverse.mp hp) with rfl | hp
  · exact h.current
  · exact h.done p hp

theorem InOrder.repeatLast? {low : Nat} {high? : Option Nat} {greedy : Bool} {b' : Branches}
    (h : b.InOrder) (hbounds : ∀ high ∈ high?, low ≤ high)
    (hread : b.repeatLast? low high? greedy = some b') : b'.InOrder := by
  unfold Branches.repeatLast? at hread
  split at hread
  · rename_i p items hitems
    obtain rfl := Option.some.inj hread
    have hp := h.items p (hitems ▸ List.mem_cons_self)
    refine ⟨h.done, fun q hq => ?_⟩
    rcases List.mem_cons.mp hq with hq | hq
    · exact Option.some.inj hq ▸ inOrder_ofRepeat hp hbounds greedy
    · exact h.items q (hitems ▸ List.mem_cons_of_mem _ hq)
  · cases hread

end Branches

namespace Reading

variable {r r' : Reading} {p : Pattern}

theorem InOrder.push (h : r.InOrder) (hp : p.InOrder) : (r.push p).InOrder :=
  ⟨h.branches.push hp, h.groups⟩

theorem InOrder.switch (h : r.InOrder) (m : Mode) : (r.switch m).InOrder := by
  refine ⟨⟨h.branches.done, fun q hq => ?_⟩, h.groups⟩
  rcases List.mem_cons.mp hq with hq | hq
  · cases hq
  · exact h.branches.items q hq

theorem InOrder.openGroup? {index? : Option Nat} {m : Mode} (h : r.InOrder)
    (hread : r.openGroup? index? m = some r') : r'.InOrder := by
  rw [Reading.openGroup?] at hread
  split at hread
  · obtain rfl := Option.some.inj hread
    exact ⟨Branches.inOrder_none, List.forall_mem_cons.mpr ⟨h.branches, h.groups⟩⟩
  · cases hread

theorem InOrder.openCapture? (h : r.InOrder) (hread : r.openCapture? = some r') : r'.InOrder :=
  InOrder.openGroup? (r := { r with count := r.count + 1 }) ⟨h.branches, h.groups⟩ hread

theorem InOrder.openNamed? {name : List Char} (h : r.InOrder)
    (hread : r.openNamed? name = some r') : r'.InOrder := by
  rw [Reading.openNamed?] at hread
  split at hread
  · cases hread
  · exact InOrder.openCapture? (r := { r with names := name :: r.names }) ⟨h.branches, h.groups⟩ hread

theorem InOrder.closeGroup? (h : r.InOrder) (hread : r.closeGroup? = some r') : r'.InOrder := by
  unfold Reading.closeGroup? at hread
  split at hread
  · cases hread
  · rename_i g groups hgroups
    obtain rfl := Option.some.inj hread
    have hgroups' := List.forall_mem_cons.mp (hgroups ▸ h.groups)
    refine ⟨hgroups'.1.push ?_, hgroups'.2⟩
    split <;> exact h.branches.pattern

theorem InOrder.repeatLast? {low : Nat} {high? : Option Nat} {marked : Bool} (h : r.InOrder)
    (hbounds : ∀ high ∈ high?, low ≤ high)
    (hread : r.repeatLast? low high? marked = some r') : r'.InOrder := by
  obtain ⟨b, hb, rfl⟩ := Option.map_eq_some_iff.mp hread
  exact ⟨h.branches.repeatLast? hbounds hb, h.groups⟩

end Reading

/-! ### Signs -/

section

variable {r r' : Reading} {cs rest : List Char} (h : r.InOrder)

/-- Bounds that are written out are compared. -/
theorem le_of_readBounds? {m : Mode} {low : Nat} {high? : Option Nat}
    (hread : readBounds? m cs = some (low, high?, rest)) : ∀ high ∈ high?, low ≤ high := by
  unfold readBounds? at hread
  intro high hhigh
  split at hread
  · cases hread
  · obtain ⟨rfl, rfl, -⟩ := by simpa using hread
    exact Nat.le_of_eq (Option.some.inj hhigh)
  · split at hread
    · obtain ⟨rfl, rfl, -⟩ := by simpa using hread
      cases hhigh
    · split at hread
      · split at hread
        · rename_i hle
          obtain ⟨rfl, rfl, -⟩ := by simpa using hread
          exact Option.some.inj hhigh ▸ hle
        · cases hread
      · cases hread
  · cases hread

include h

theorem Reading.InOrder.readGroup? (hread : readGroup? r cs = some (r', rest)) : r'.InOrder := by
  unfold Pattern.readGroup? at hread
  split at hread
  · split at hread
    · obtain ⟨r'', hopen, heq⟩ := Option.map_eq_some_iff.mp hread
      exact (Prod.mk.inj heq).1 ▸ h.openNamed? hopen
    · cases hread
  · split at hread
    · obtain ⟨r'', hopen, heq⟩ := Option.map_eq_some_iff.mp hread
      exact (Prod.mk.inj heq).1 ▸ h.openNamed? hopen
    · cases hread
  · split at hread
    · cases hread
    · split at hread
      · exact (Prod.mk.inj (Option.some.inj hread)).1 ▸ h.switch _
      · obtain ⟨r'', hopen, heq⟩ := Option.map_eq_some_iff.mp hread
        exact (Prod.mk.inj heq).1 ▸ h.openGroup? hopen
  · obtain ⟨r'', hopen, heq⟩ := Option.map_eq_some_iff.mp hread
    exact (Prod.mk.inj heq).1 ▸ h.openCapture? hopen

theorem Reading.InOrder.repeatWith? {low : Nat} {high? : Option Nat}
    (hbounds : ∀ high ∈ high?, low ≤ high)
    (hread : repeatWith? r low high? cs = some (r', rest)) : r'.InOrder := by
  unfold Pattern.repeatWith? at hread
  split at hread <;>
  · obtain ⟨r'', hrepeat, heq⟩ := Option.map_eq_some_iff.mp hread
    exact (Prod.mk.inj heq).1 ▸ h.repeatLast? hbounds hrepeat

omit h in
theorem inOrder_of_character? {m : Mode} {c : Char} {byte : Bool} {p : Pattern}
    (hread : m.character? c byte = some p) : p.InOrder := by
  unfold Mode.character? at hread
  split at hread
  · exact Option.some.inj hread ▸ trivial
  · split at hread
    · exact Option.some.inj hread ▸ trivial
    · split at hread
      · cases hread
      · exact Option.some.inj hread ▸ trivial

omit h in
theorem inOrder_of_dot? {m : Mode} {p : Pattern} (hread : m.dot? = some p) : p.InOrder := by
  unfold Mode.dot? at hread
  split at hread
  · cases hread
  · split at hread
    · exact Option.some.inj hread ▸ trivial
    · split at hread <;> exact Option.some.inj hread ▸ trivial

theorem Reading.InOrder.pushEscape? {e : Escape} (hread : pushEscape? r e = some r') :
    r'.InOrder := by
  cases e with
  | char c byte =>
    obtain ⟨p, hp, rfl⟩ := Option.map_eq_some_iff.mp hread
    exact h.push (inOrder_of_character? hp)
  | set s => exact Option.some.inj hread ▸ h.push trivial
  | anchor a => exact Option.some.inj hread ▸ h.push trivial

/-- **One sign keeps the bounds in order.** -/
theorem Reading.InOrder.readSign? (hread : readSign? r cs = some (r', rest)) : r'.InOrder := by
  have hpush : ∀ {p? : Option Pattern}, (∀ p ∈ p?, p.InOrder) → ∀ {cs},
      (p?.map fun p => (r.push p, cs)) = some (r', rest) → r'.InOrder := by
    intro p? hp cs hread
    obtain ⟨p, hsome, heq⟩ := Option.map_eq_some_iff.mp hread
    exact (Prod.mk.inj heq).1 ▸ h.push (hp p hsome)
  unfold Pattern.readSign? at hread
  split at hread
  case h_1 => cases hread
  case h_2 => exact h.readGroup? hread
  case h_3 =>
    obtain ⟨r'', hclose, heq⟩ := Option.map_eq_some_iff.mp hread
    exact (Prod.mk.inj heq).1 ▸ h.closeGroup? hclose
  case h_4 => exact (Prod.mk.inj (Option.some.inj hread)).1 ▸ ⟨h.branches.next, h.groups⟩
  case h_5 =>
    obtain ⟨⟨s, rest'⟩, -, heq⟩ := Option.map_eq_some_iff.mp hread
    exact (Prod.mk.inj heq).1 ▸ h.push trivial
  case h_6 => exact h.repeatWith? (by simp) hread
  case h_7 => exact h.repeatWith? (by simp) hread
  case h_8 => exact h.repeatWith? (by simp) hread
  case h_9 =>
    split at hread
    · rename_i hbounds
      exact h.repeatWith? (le_of_readBounds? hbounds) hread
    · cases hread
  case h_10 =>
    split at hread
    · obtain ⟨r'', hescape, heq⟩ := Option.map_eq_some_iff.mp hread
      exact (Prod.mk.inj heq).1 ▸ h.pushEscape? hescape
    · cases hread
  case h_11 => exact hpush (fun _ => inOrder_of_dot?) hread
  case h_12 => exact (Prod.mk.inj (Option.some.inj hread)).1 ▸ h.push trivial
  case h_13 => exact (Prod.mk.inj (Option.some.inj hread)).1 ▸ h.push trivial
  case h_14 => exact hpush (fun _ => inOrder_of_character?) hread

/-! ### Patterns -/

theorem Reading.InOrder.readFrom {fuel : Nat} {p : Pattern} (hread : readFrom fuel r cs = some p) :
    p.InOrder := by
  induction fuel generalizing r cs with
  | zero => cases hread
  | succ fuel ih =>
    rw [Pattern.readFrom] at hread
    split at hread
    · split at hread
      · exact Option.some.inj hread ▸ h.branches.pattern
      · cases hread
    · split at hread
      · rename_i hsign
        exact ih (h.readSign? hsign) hread
      · cases hread

end

/-- **A pattern that is read has its bounds in order.** -/
theorem inOrder_of_read? {ignoreCase : Bool} {cs : List Char} {p : Pattern}
    (hread : read? ignoreCase cs = some p) : p.InOrder :=
  Reading.InOrder.readFrom (r := .start { ignoreCase })
    ⟨Branches.inOrder_none, fun _ hg => nomatch hg⟩ hread

/-- What must be an edge of a word and none matches nowhere. -/
theorem isMatch_never (t : Array Char) : never.isMatch t = false := by
  rw [Bool.eq_false_iff]
  intro h
  have horder : never.InOrder := ⟨trivial, trivial⟩
  obtain ⟨i, _, _, ⟨rfl, hedge⟩, rfl, hnone⟩ := exists_spans_of_isMatch horder h
  simp only [Anchor.holds, WordEdge.holds] at hedge hnone
  rw [bne, hnone] at hedge
  cases hedge

/-- A pattern that is matched under a condition only. -/
theorem isMatch_ite_never {c : Prop} [Decidable c] {t : Array Char} :
    (if c then p else never).isMatch t = true ↔ c ∧ p.isMatch t = true := by
  by_cases h : c <;> simp [h, isMatch_never]

end Pattern

end Concordance
