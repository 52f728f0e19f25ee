import Concordance.Pattern.Match

/-!
# Outcomes are stretches

Matching lists outcomes in order of preference, drops those that come too late, and walks through
repetitions head by head. None of this invents a stretch: every outcome ends where the pattern can
end, so that a text in which a match is found has a stretch that the pattern matches. What a walk
finds is governed by one invariant of its heads, which every round keeps.

A repetition with its bounds in the wrong order is no repetition, and has outcomes nevertheless; so
the bounds are asked to be in order, as they are in every pattern that is read.

## Main definitions

* `Pattern.Times` — some stretches one after another
* `Pattern.InOrder` — the bounds of repetitions are in order
* `Pattern.IsFound` — a match is an outcome of a pattern

## Main results

* `Pattern.spans_of_mem_outcomes` — an outcome ends where a stretch ends
* `Pattern.exists_spans_of_isMatch` — a match has a stretch
-/

namespace Concordance

namespace Pattern

/-! ### Chains of stretches -/

section

variable {span : Nat → Nat → Prop}

/-- Exactly `n` stretches, each right after the one before it. -/
def Times (span : Nat → Nat → Prop) : (n : Nat) → Nat → Nat → Prop
  | 0, i, j => i = j
  | n + 1, i, k => ∃ j, span i j ∧ Times span n j k

theorem Times.append {m n i j k : Nat} (h : Times span m i j) (h' : Times span n j k) :
    Times span (m + n) i k := by
  induction m generalizing i with
  | zero =>
    obtain rfl : i = j := h
    rwa [Nat.zero_add]
  | succ m ih =>
    obtain ⟨l, hspan, hrest⟩ := h
    rw [Nat.add_right_comm]
    exact ⟨l, hspan, ih hrest⟩

theorem Times.one {i j : Nat} (h : span i j) : Times span 1 i j := ⟨j, h, rfl⟩

/-- A number of stretches within the bounds makes a chain. -/
theorem Times.chain {n low : Nat} {high? : Option Nat} {i j : Nat} (h : Times span n i j)
    (hlow : low ≤ n) (hhigh : ∀ high ∈ high?, n ≤ high) : Chain span low high? i j := by
  induction n generalizing low high? i with
  | zero =>
    obtain rfl : i = j := h
    obtain rfl : low = 0 := by omega
    exact .nil
  | succ n ih =>
    obtain ⟨k, hspan, hrest⟩ := h
    refine .cons hspan (fun high hsome => ?_) (ih hrest (by omega) fun high hsome => ?_)
    · have := hhigh high hsome
      omega
    · obtain ⟨high', hsome', rfl⟩ := Option.map_eq_some_iff.mp hsome
      have := hhigh high' hsome'
      omega

end

/-! ### Lists of outcomes -/

theorem mem_of_mem_distinctFrom {seen : Nat} {os : List Outcome} {o : Outcome}
    (h : o ∈ distinctFrom seen os) : o ∈ os := by
  induction os generalizing seen with
  | nil => exact h
  | cons o' os ih =>
    rw [distinctFrom] at h
    split at h
    · exact List.mem_cons_of_mem _ (ih h)
    · rcases List.mem_cons.mp h with rfl | h
      · exact List.mem_cons_self
      · exact List.mem_cons_of_mem _ (ih h)

theorem mem_of_mem_distinct {os : List Outcome} {o : Outcome} (h : o ∈ distinct os) : o ∈ os := by
  match os with
  | [] | [_] => exact h
  | _ :: _ :: _ => exact mem_of_mem_distinctFrom h

/-- What comes out of a chain comes out of its parts, one after the other. -/
theorem exists_of_mem_chain {os : List Outcome} {f : Nat → List Outcome} {o : Outcome}
    (h : o ∈ chain os f) : ∃ o₁ ∈ os, ∃ o₂ ∈ f o₁.stop, o = o₁.append o₂ := by
  have hmem : o ∈ os.flatMap fun o => (f o.stop).map o.append := by
    match os with
    | [] => exact h
    | [o₁] => simpa [chain] using h
    | _ :: _ :: _ => exact mem_of_mem_distinct h
  obtain ⟨o₁, ho₁, hmem⟩ := List.mem_flatMap.mp hmem
  obtain ⟨o₂, ho₂, rfl⟩ := List.mem_map.mp hmem
  exact ⟨o₁, ho₁, o₂, ho₂, rfl⟩

/-! ### Walks -/

/-- All outcomes that have been found are of a kind. -/
def Walk.Finds (kind : Outcome → Prop) (w : Walk) : Prop := ∀ o ∈ w.found, kind o

theorem Walk.Finds.push {kind : Outcome → Prop} {w : Walk} (hw : w.Finds kind) {o : Outcome}
    (ho : kind o) : (w.push o).Finds kind := by
  intro o' ho'
  rcases List.mem_cons.mp ho' with rfl | ho'
  · exact ho
  · exact hw o' ho'

/-- A walk on from each of some outcomes finds what the single walks find. -/
theorem Walk.Finds.foldl {kind : Outcome → Prop} {f : Walk → Outcome → Walk} {os : List Outcome}
    (hstep : ∀ w : Walk, w.Finds kind → ∀ o ∈ os, (f w o).Finds kind) {w : Walk}
    (hw : w.Finds kind) : (os.foldl f w).Finds kind := by
  induction os generalizing w with
  | nil => exact hw
  | cons o os ih =>
    exact ih (fun w hw o' ho' => hstep w hw o' (List.mem_cons_of_mem _ ho'))
      (hstep w hw o List.mem_cons_self)

/-- **The invariant of a walk**: if every round leads from heads to heads, and the outcomes that lead
to heads are of a kind, then only outcomes of that kind are found. -/
theorem Rounds.finds_visit {r : Rounds} (head : Nat → Outcome → Prop) {kind : Outcome → Prop}
    (hround : ∀ left o left', head left o → r.again left o.stop = some left' →
      ∀ o' ∈ r.body o.stop, head left' (o.append o'))
    (hkind : ∀ left o, head left o → kind o) (fuel : Nat) {w : Walk}
    (hw : w.Finds kind) {left : Nat} {o : Outcome} (ho : head left o) :
    (r.visit fuel w left o).Finds kind := by
  induction fuel generalizing w left o with
  | zero => exact hw
  | succ fuel ih =>
    have hrounds : ∀ left', r.again left o.stop = some left' → ∀ w' : Walk, w'.Finds kind →
        ((r.body o.stop).foldl (fun w o' => r.visit fuel w left' (o.append o')) w').Finds kind :=
      fun left' hagain w' hw' =>
        Walk.Finds.foldl (f := fun w o' => r.visit fuel w left' (o.append o'))
          (fun w hw o' ho' => ih hw (hround left o left' ho hagain o' ho')) hw'
    have ho : kind o := hkind left o ho
    have hmark :
        ({ w with seen := w.seen ||| 1 <<< (left * r.width + o.stop) } : Walk).Finds kind :=
      hw
    rw [visit]
    split
    · exact hw
    · -- the outcome of the head itself is found before or after those of the rounds
      cases hagain : r.again left o.stop with
      | none => cases r.greedy <;> exact hmark.push ho
      | some left' =>
        cases r.greedy with
        | true => exact (hrounds left' hagain _ hmark).push ho
        | false => exact hrounds left' hagain _ (hmark.push ho)

/-! ### Repetition -/

section

variable {span : Nat → Nat → Prop} {body : Nat → List Outcome} {i : Nat} {o : Outcome}

/-- The outcomes of one round end where stretches end. -/
def SoundBody (span : Nat → Nat → Prop) (body : Nat → List Outcome) : Prop :=
  ∀ i, ∀ o ∈ body i, span i o.stop

variable (hbody : SoundBody span body)

include hbody

theorem times_of_mem_exactly {count : Nat} (h : o ∈ exactly body count i) :
    Times span count i o.stop := by
  induction count generalizing o with
  | zero =>
    obtain rfl := List.mem_singleton.mp h
    exact rfl
  | succ count ih =>
    obtain ⟨o₁, ho₁, o₂, ho₂, rfl⟩ := exists_of_mem_chain h
    exact (ih ho₁).append (.one (hbody _ o₂ ho₂))

theorem times_of_mem_oneOrMore {greedy : Bool} {size : Nat}
    (h : o ∈ oneOrMore body greedy size i) : ∃ n, 1 ≤ n ∧ Times span n i o.stop := by
  have hstart : Walk.Finds (fun o => ∃ n, 1 ≤ n ∧ Times span n i o.stop) ⟨0, []⟩ := by
    simp [Walk.Finds]
  refine Walk.Finds.foldl (fun w hw o' ho' => ?_) hstart o (List.mem_reverse.mp h)
  refine Rounds.finds_visit (fun _ o => ∃ n, 1 ≤ n ∧ Times span n i o.stop)
    (fun left o₁ left' hhead _ o₂ ho₂ => ?_) (fun _ _ hhead => hhead) _ hw
    ⟨1, Nat.le_refl 1, .one (hbody i o' ho')⟩
  obtain ⟨n, hn, htimes⟩ := hhead
  exact ⟨n + 1, by omega, htimes.append (.one (hbody _ o₂ ho₂))⟩

theorem times_of_mem_zeroOrMore {greedy : Bool} {size : Nat}
    (h : o ∈ zeroOrMore body greedy size i) : ∃ n, Times span n i o.stop := by
  have hmem : o ∈ oneOrMore body greedy size i ∨ o = .here i := by
    rw [zeroOrMore] at h
    split at h
    · simpa using mem_of_mem_distinct h
    · simpa [or_comm] using mem_of_mem_distinct h
  rcases hmem with h | rfl
  · obtain ⟨n, -, htimes⟩ := times_of_mem_oneOrMore hbody h
    exact ⟨n, htimes⟩
  · exact ⟨0, rfl⟩

theorem times_of_mem_upTo {greedy : Bool} {size count : Nat}
    (h : o ∈ upTo body greedy size count i) : ∃ n ≤ count, Times span n i o.stop := by
  have hstart : Walk.Finds (fun o => ∃ n ≤ count, Times span n i o.stop) ⟨0, []⟩ := by
    simp [Walk.Finds]
  refine Rounds.finds_visit (fun left o => ∃ n, n + left = count ∧ Times span n i o.stop)
    (fun left o₁ left' hhead hagain o₂ ho₂ => ?_) (fun left o hhead => ?_) (count + 1) hstart ?_ o
    (List.mem_reverse.mp (mem_of_mem_distinct h))
  · obtain ⟨n, hn, htimes⟩ := hhead
    -- a round uses up one of the rounds left
    have hleft : left = left' + 1 := by
      dsimp only at hagain
      split at hagain
      · cases hagain
      · have := Option.some.inj hagain
        omega
    exact ⟨n + 1, by omega, htimes.append (.one (hbody _ o₂ ho₂))⟩
  · obtain ⟨n, hn, htimes⟩ := hhead
    exact ⟨n, by omega, htimes⟩
  · exact ⟨0, by omega, rfl⟩

/-- The rounds within bounds make a chain. -/
theorem chain_of_mem_rounds {greedy : Bool} {size low : Nat} {high? : Option Nat}
    (hlow : ∀ high ∈ high?, low ≤ high) (h : o ∈ rounds body greedy size low high? i) :
    Chain span low high? i o.stop := by
  match low, high? with
  | 0, none =>
    obtain ⟨n, htimes⟩ := times_of_mem_zeroOrMore hbody h
    exact htimes.chain (Nat.zero_le n) (by simp)
  | low + 1, none =>
    obtain ⟨o₁, ho₁, o₂, ho₂, rfl⟩ := exists_of_mem_chain h
    obtain ⟨n, hn, htimes⟩ := times_of_mem_oneOrMore hbody ho₂
    exact ((times_of_mem_exactly hbody ho₁).append htimes).chain (by omega) (by simp)
  | low, some high =>
    obtain ⟨o₁, ho₁, o₂, ho₂, rfl⟩ :=
      exists_of_mem_chain (f := upTo body greedy size (high - low)) (by simpa [rounds] using h)
    obtain ⟨n, hn, htimes⟩ := times_of_mem_upTo hbody ho₂
    have hle := hlow high rfl
    refine ((times_of_mem_exactly hbody ho₁).append htimes).chain (by omega) fun high' hhigh => ?_
    obtain rfl := Option.some.inj hhigh
    omega

end

/-! ### Patterns -/

/-- The bounds of all repetitions are in order. -/
def InOrder : Pattern → Prop
  | empty | set _ | anchor _ => True
  | group _ p => p.InOrder
  | seq p q | alt p q => p.InOrder ∧ q.InOrder
  | repeated p low high? _ => p.InOrder ∧ ∀ high ∈ high?, low ≤ high

/-- **An outcome ends where a stretch ends.** -/
theorem spans_of_mem_outcomes {t : Array Char} {p : Pattern} (hp : p.InOrder) {i : Nat}
    {o : Outcome}
    (h : o ∈ p.outcomes t i) : p.Spans t i o.stop := by
  induction p generalizing i o with
  | empty =>
    obtain rfl := List.mem_singleton.mp h
    exact rfl
  | set s =>
    rw [outcomes] at h
    split at h
    · rename_i c hc
      split at h
      · rename_i hmem
        obtain rfl := List.mem_singleton.mp h
        exact ⟨rfl, c, hc, hmem⟩
      · cases h
    · cases h
  | anchor a =>
    rw [outcomes] at h
    split at h
    · rename_i hholds
      obtain rfl := List.mem_singleton.mp h
      exact ⟨rfl, hholds⟩
    · cases h
  | group index p ih =>
    obtain ⟨o', ho', rfl⟩ := List.mem_map.mp h
    exact ih (o := o') hp ho'
  | seq p q ihp ihq =>
    obtain ⟨o₁, ho₁, o₂, ho₂, rfl⟩ := exists_of_mem_chain h
    exact ⟨o₁.stop, ihp hp.1 ho₁, ihq (o := o₂) hp.2 ho₂⟩
  | alt p q ihp ihq =>
    rcases List.mem_append.mp (mem_of_mem_distinct h) with h | h
    · exact .inl (ihp hp.1 h)
    · exact .inr (ihq hp.2 h)
  | repeated p low high? greedy ih =>
    exact chain_of_mem_rounds (fun _ _ ho => ih hp.1 ho) hp.2 h

/-! ### Matches -/

/-- A match is an outcome of a pattern from where it starts. -/
def IsFound (p : Pattern) (t : Array Char) (m : Match) : Prop :=
  ⟨m.stop, m.captures⟩ ∈ p.outcomes t m.start

theorem isFound_of_findAmong {t : Array Char} {p : Pattern} {count i : Nat} {m : Match}
    (h : p.findAmong t count i = some m) : p.IsFound t m ∧ i ≤ m.start ∧ m.start < i + count := by
  induction count generalizing i with
  | zero => cases h
  | succ count ih =>
    rw [findAmong] at h
    split at h
    · rename_i m' hmatch
      obtain rfl := Option.some.inj h
      obtain ⟨o, ho, rfl⟩ := Option.map_eq_some_iff.mp hmatch
      exact ⟨List.mem_of_head? ho, Nat.le_refl i, by dsimp only; omega⟩
    · obtain ⟨hfound, hle, hlt⟩ := ih h
      exact ⟨hfound, by omega, by omega⟩

/-- **A match has a stretch.** -/
theorem exists_spans_of_isMatch {t : Array Char} {p : Pattern} (hp : p.InOrder)
    (h : p.isMatch t = true) : ∃ i j, p.Spans t i j := by
  obtain ⟨m, hm⟩ := Option.isSome_iff_exists.mp h
  exact ⟨m.start, m.stop, spans_of_mem_outcomes hp (isFound_of_findAmong hm).1⟩

end Pattern

end Concordance
