import Concordance.Proofs.Pattern.Sound

/-!
# Stretches have outcomes

Matching misses nothing: from a place of a text, every stretch that a pattern matches ends where one of
the outcomes ends. Dropping outcomes keeps one for each end. A walk over the heads of a repetition sees
every head that can be reached: each head that it takes is seen through, so that what it has seen is
closed under rounds; and its fuel is not short, because a round either uses up one of the rounds left
or takes characters, or else it leads to no other head.

## Main definitions

* `Rounds.Explores` — a walk goes on, and sees every head through that it takes
* `Pattern.CompleteBody` — the stretches of a round have outcomes

## Main results

* `Pattern.Rounds.explores_visit` — a walk sees every head through
* `Pattern.exists_outcome_of_spans` — a stretch has an outcome
* `Pattern.isMatch_iff` — a match is found if and only if there is a stretch
-/

namespace Concordance

namespace Pattern

/-! ### Places -/

section

variable {span : Nat → Nat → Prop} {size : Nat}

/-- Stretches lead forward and stay within a text of some length. -/
def Forward (span : Nat → Nat → Prop) (size : Nat) : Prop :=
  ∀ i j, span i j → i ≤ j ∧ (i ≤ size → j ≤ size)

theorem Forward.times (h : Forward span size) {n i j : Nat} (htimes : Times span n i j) :
    i ≤ j ∧ (i ≤ size → j ≤ size) := by
  induction n generalizing i with
  | zero =>
    obtain rfl : i = j := htimes
    exact ⟨Nat.le_refl i, id⟩
  | succ n ih =>
    obtain ⟨k, hspan, hrest⟩ := htimes
    obtain ⟨hle, hsize⟩ := h i k hspan
    obtain ⟨hle', hsize'⟩ := ih hrest
    exact ⟨Nat.le_trans hle hle', fun hi => hsize' (hsize hi)⟩

/-- A chain is a number of stretches within its bounds. -/
theorem times_of_chain {low : Nat} {high? : Option Nat} {i j : Nat}
    (h : Chain span low high? i j) :
    ∃ n, low ≤ n ∧ (∀ high ∈ high?, n ≤ high) ∧ Times span n i j := by
  induction h with
  | nil => exact ⟨0, Nat.le_refl 0, fun _ _ => Nat.zero_le _, rfl⟩
  | @cons low i k j high? hspan room _ ih =>
    obtain ⟨n, hlow, hhigh, htimes⟩ := ih
    refine ⟨n + 1, by omega, fun high hsome => ?_, k, hspan, htimes⟩
    have hroom := room high hsome
    have := hhigh (high - 1) (by rw [hsome]; rfl)
    omega

end

theorem forward_spans (t : Array Char) (p : Pattern) : Forward (p.Spans t) t.size := by
  induction p with
  | empty =>
    rintro i _ rfl
    exact ⟨Nat.le_refl i, id⟩
  | set s =>
    rintro i _ ⟨rfl, c, hget, -⟩
    obtain ⟨hi, -⟩ := Array.getElem?_eq_some_iff.mp hget
    exact ⟨Nat.le_succ i, fun _ => hi⟩
  | anchor a =>
    rintro i _ ⟨rfl, -⟩
    exact ⟨Nat.le_refl i, id⟩
  | group index p ih => exact ih
  | seq p q ihp ihq =>
    rintro i j ⟨k, hp, hq⟩
    obtain ⟨hle, hsize⟩ := ihp i k hp
    obtain ⟨hle', hsize'⟩ := ihq k j hq
    exact ⟨Nat.le_trans hle hle', fun hi => hsize' (hsize hi)⟩
  | alt p q ihp ihq =>
    rintro i j (h | h)
    · exact ihp i j h
    · exact ihq i j h
  | repeated p low high? greedy ih =>
    intro i j h
    obtain ⟨n, -, -, htimes⟩ := times_of_chain h
    exact Forward.times ih htimes

/-! ### Lists of outcomes -/

theorem testBit_mark (seen k n : Nat) :
    (seen ||| 1 <<< k).testBit n = (seen.testBit n || decide (k = n)) := by
  rw [Nat.testBit_or, Nat.one_shiftLeft, Nat.testBit_two_pow]

theorem exists_mem_distinctFrom {seen : Nat} {os : List Outcome} {o : Outcome} (h : o ∈ os)
    (hseen : seen.testBit o.stop = false) : ∃ o' ∈ distinctFrom seen os, o'.stop = o.stop := by
  induction os generalizing seen with
  | nil => cases h
  | cons o₁ os ih =>
    rw [distinctFrom]
    rcases List.mem_cons.mp h with rfl | h
    · rw [hseen]
      exact ⟨o, List.mem_cons_self, rfl⟩
    · split
      · exact ih h hseen
      · by_cases hstop : o₁.stop = o.stop
        · exact ⟨o₁, List.mem_cons_self, hstop⟩
        · obtain ⟨o', ho', hstop'⟩ := ih h (by rw [testBit_mark, hseen]; simpa using hstop)
          exact ⟨o', List.mem_cons_of_mem _ ho', hstop'⟩

/-- One outcome is kept for each end. -/
theorem exists_mem_distinct {os : List Outcome} {o : Outcome} (h : o ∈ os) :
    ∃ o' ∈ distinct os, o'.stop = o.stop := by
  match os with
  | [] => cases h
  | [_] => exact ⟨o, h, rfl⟩
  | _ :: _ :: _ => exact exists_mem_distinctFrom h (Nat.zero_testBit _)

/-- What comes out of two parts one after the other comes out of their chain. -/
theorem exists_mem_chain {os : List Outcome} {f : Nat → List Outcome} {o₁ o₂ : Outcome}
    (h₁ : o₁ ∈ os) (h₂ : o₂ ∈ f o₁.stop) : ∃ o ∈ chain os f, o.stop = o₂.stop := by
  have hmem : o₁.append o₂ ∈ os.flatMap fun o => (f o.stop).map o.append :=
    List.mem_flatMap.mpr ⟨o₁, h₁, List.mem_map.mpr ⟨o₂, h₂, rfl⟩⟩
  cases os with
  | nil => cases h₁
  | cons o os =>
    cases os with
    | nil =>
      rw [List.flatMap_singleton] at hmem
      exact ⟨o₁.append o₂, hmem, rfl⟩
    | cons o' os => exact exists_mem_distinct (o := o₁.append o₂) hmem

/-! ### Walks -/

namespace Rounds

variable {r : Rounds} {w w' w'' : Walk} {left stop : Nat}

/-- A head has been taken. -/
def Taken (r : Rounds) (w : Walk) (left stop : Nat) : Prop :=
  w.seen.testBit (left * r.width + stop) = true

/-- A walk goes on from `w` to `w'`. Every head that it takes on the way is found, and so are the heads
that one more round leads to taken. -/
structure Explores (r : Rounds) (w w' : Walk) : Prop where
  /-- What was taken remains taken. -/
  taken : ∀ left stop, r.Taken w left stop → r.Taken w' left stop
  /-- What was found remains found. -/
  found : ∀ o ∈ w.found, o ∈ w'.found
  /-- What is taken on the way is seen through. -/
  through : ∀ left stop, stop < r.width → r.Taken w' left stop → r.Taken w left stop ∨
    (∃ o ∈ w'.found, o.stop = stop) ∧
      ∀ left', r.again left stop = some left' → ∀ o ∈ r.body stop, r.Taken w' left' o.stop

theorem Explores.refl (r : Rounds) (w : Walk) : r.Explores w w :=
  ⟨fun _ _ h => h, fun _ h => h, fun _ _ _ h => .inl h⟩

theorem Explores.trans (h : r.Explores w w') (h' : r.Explores w' w'') : r.Explores w w'' := by
  refine ⟨fun left stop htaken => h'.taken _ _ (h.taken _ _ htaken),
    fun o ho => h'.found o (h.found o ho), fun left stop hstop htaken => ?_⟩
  rcases h'.through left stop hstop htaken with htaken | hthrough
  · rcases h.through left stop hstop htaken with htaken | ⟨⟨o, ho, hostop⟩, hnext⟩
    · exact .inl htaken
    · exact .inr ⟨⟨o, h'.found o ho, hostop⟩, fun left' hagain o ho =>
        h'.taken _ _ (hnext left' hagain o ho)⟩
  · exact .inr hthrough

/-- A walk on from each of some outcomes takes the heads of all of them. -/
theorem explores_foldl {f : Walk → Outcome → Walk} {os : List Outcome}
    (hstep : ∀ w', r.Explores w w' → ∀ o ∈ os,
      r.Explores w' (f w' o) ∧ r.Taken (f w' o) left o.stop) :
    r.Explores w (os.foldl f w) ∧ ∀ o ∈ os, r.Taken (os.foldl f w) left o.stop := by
  induction os generalizing w with
  | nil => exact ⟨.refl r w, by simp⟩
  | cons o os ih =>
    obtain ⟨hexplores, htaken⟩ := hstep w (.refl r w) o List.mem_cons_self
    obtain ⟨hrest, hall⟩ := ih fun w' hw' o' ho' =>
      hstep w' (hexplores.trans hw') o' (List.mem_cons_of_mem _ ho')
    refine ⟨hexplores.trans hrest, fun o' ho' => ?_⟩
    rcases List.mem_cons.mp ho' with rfl | ho'
    · exact hrest.taken _ _ htaken
    · exact hall o' ho'

/-- Different heads have different keys. -/
theorem eq_of_key_eq {left' stop' : Nat} (hstop : stop < r.width) (hstop' : stop' < r.width)
    (h : left' * r.width + stop' = left * r.width + stop) : left' = left ∧ stop' = stop := by
  have hmod := congrArg (· % r.width) h
  simp only [Nat.mul_add_mod_self_right, Nat.mod_eq_of_lt hstop, Nat.mod_eq_of_lt hstop'] at hmod
  subst hmod
  exact ⟨Nat.eq_of_mul_eq_mul_right (by omega) (Nat.add_right_cancel h), rfl⟩

/-- Taking a head, going on with its rounds and finding its outcome sees it through. -/
theorem Explores.of_mark {o : Outcome} {w₁ w₂ : Walk} (hrounds : r.Explores w' w₁)
    (ho : o.stop < r.width) (hseen : w'.seen = w.seen ||| 1 <<< (left * r.width + o.stop))
    (hfound : ∀ o' ∈ w.found, o' ∈ w'.found)
    (hnext : ∀ left', r.again left o.stop = some left' → ∀ o' ∈ r.body o.stop,
      r.Taken w₁ left' o'.stop)
    (hseen₂ : w₂.seen = w₁.seen) (hfound₂ : ∀ o' ∈ w₁.found, o' ∈ w₂.found) (hmem : o ∈ w₂.found) :
    r.Explores w w₂ ∧ r.Taken w₂ left o.stop := by
  have hmark : ∀ left' stop', r.Taken w' left' stop' ↔ r.Taken w left' stop' ∨
      left * r.width + o.stop = left' * r.width + stop' := fun left' stop' => by
    rw [Taken, Taken, hseen, testBit_mark, Bool.or_eq_true, decide_eq_true_eq]
  have hend : ∀ left' stop', r.Taken w₂ left' stop' ↔ r.Taken w₁ left' stop' := fun _ _ => by
    rw [Taken, Taken, hseen₂]
  refine ⟨⟨fun left' stop' htaken => ?_, fun o' ho' => ?_, fun left' stop' hstop' htaken => ?_⟩, ?_⟩
  · exact (hend _ _).mpr (hrounds.taken _ _ ((hmark _ _).mpr (.inl htaken)))
  · exact hfound₂ o' (hrounds.found o' (hfound o' ho'))
  · rcases hrounds.through left' stop' hstop' ((hend _ _).mp htaken) with htaken | ⟨⟨o', ho', h⟩, hn⟩
    · rcases (hmark _ _).mp htaken with htaken | hkey
      · exact .inl htaken
      · obtain ⟨rfl, rfl⟩ := eq_of_key_eq hstop' ho hkey
        exact .inr ⟨⟨o, hmem, rfl⟩, fun left' hagain o' ho' => (hend _ _).mpr (hnext _ hagain o' ho')⟩
    · exact .inr ⟨⟨o', hfound₂ o' ho', h⟩, fun left' hagain o' ho' =>
        (hend _ _).mpr (hn left' hagain o' ho')⟩
  · exact (hend _ _).mpr (hrounds.taken _ _ ((hmark _ _).mpr (.inr rfl)))

/-- A walk marks a head as taken. -/
def mark (r : Rounds) (w : Walk) (left stop : Nat) : Walk :=
  { w with seen := w.seen ||| 1 <<< (left * r.width + stop) }

/-- A walk goes on with the rounds after a head. -/
def onward (r : Rounds) (fuel : Nat) (w : Walk) (left : Nat) (o : Outcome) : Walk :=
  match r.again left o.stop with
  | some left => (r.body o.stop).foldl (fun w o' => r.visit fuel w left (o.append o')) w
  | none => w

theorem visit_of_taken {fuel : Nat} {o : Outcome} (h : r.Taken w left o.stop) :
    r.visit (fuel + 1) w left o = w := by
  rw [visit]
  exact if_pos h

/-- The outcome of a head that has not been taken is found before or after those of its rounds. -/
theorem visit_of_not_taken {fuel : Nat} {o : Outcome} (h : ¬ r.Taken w left o.stop) :
    r.visit (fuel + 1) w left o =
      if r.greedy then (r.onward fuel (r.mark w left o.stop) left o).push o
      else r.onward fuel ((r.mark w left o.stop).push o) left o := by
  rw [visit]
  refine (if_neg h).trans ?_
  cases r.greedy <;> rfl

theorem taken_mark (r : Rounds) (w : Walk) (left stop : Nat) :
    r.Taken (r.mark w left stop) left stop := by
  rw [Taken, mark, testBit_mark]
  simp

section

variable {rank : Nat → Nat → Nat}
  (hstop : ∀ stop < r.width, ∀ o ∈ r.body stop, o.stop < r.width)
  (hrank : ∀ left, ∀ stop < r.width, ∀ left', r.again left stop = some left' → ∀ o ∈ r.body stop,
    left' = left ∧ o.stop = stop ∨ rank left' o.stop < rank left stop)

include hstop hrank

/-- The rounds after a head are gone through, if the walk goes through heads of a lower rank. -/
theorem explores_onward {fuel : Nat} {o : Outcome} (ho : o.stop < r.width)
    (hfuel : rank left o.stop < fuel + 1) (htaken : r.Taken w left o.stop)
    (ih : ∀ (w : Walk) (left : Nat) (o : Outcome), o.stop < r.width →
      r.Taken w left o.stop ∨ rank left o.stop < fuel →
      r.Explores w (r.visit fuel w left o) ∧ r.Taken (r.visit fuel w left o) left o.stop) :
    r.Explores w (r.onward fuel w left o) ∧
      ∀ left', r.again left o.stop = some left' → ∀ o' ∈ r.body o.stop,
        r.Taken (r.onward fuel w left o) left' o'.stop := by
  rw [onward]
  cases hagain : r.again left o.stop with
  | none => exact ⟨.refl r w, fun left' h => by cases h⟩
  | some left' =>
    have hstep : ∀ w', r.Explores w w' → ∀ o' ∈ r.body o.stop,
        r.Explores w' (r.visit fuel w' left' (o.append o')) ∧
          r.Taken (r.visit fuel w' left' (o.append o')) left' o'.stop := by
      intro w' hw' o' ho'
      refine ih w' left' (o.append o') (hstop o.stop ho o' ho') ?_
      change r.Taken w' left' o'.stop ∨ rank left' o'.stop < fuel
      -- a round that leads nowhere else needs no fuel
      rcases hrank left o.stop ho left' hagain o' ho' with ⟨hleft, hsame⟩ | hless
      · rw [hleft, hsame]
        exact .inl (hw'.taken _ _ htaken)
      · exact .inr (by omega)
    obtain ⟨hexplores, hall⟩ := explores_foldl hstep
    refine ⟨hexplores, fun left'' h => ?_⟩
    obtain rfl := Option.some.inj h
    exact hall

/-- **A walk sees every head through that it takes.** The fuel is not short of a head that has not been
taken, if a round that leads to another head leads to one of a lower rank. -/
theorem explores_visit (fuel : Nat) {w : Walk} {left : Nat} {o : Outcome} (ho : o.stop < r.width)
    (hfuel : r.Taken w left o.stop ∨ rank left o.stop < fuel) :
    r.Explores w (r.visit fuel w left o) ∧ r.Taken (r.visit fuel w left o) left o.stop := by
  induction fuel generalizing w left o with
  | zero =>
    have htaken : r.Taken w left o.stop := hfuel.resolve_right (Nat.not_lt_zero _)
    exact ⟨.refl r w, htaken⟩
  | succ fuel ih =>
    by_cases htaken : r.Taken w left o.stop
    · rw [visit_of_taken htaken]
      exact ⟨.refl r w, htaken⟩
    · have hlt := hfuel.resolve_left htaken
      rw [visit_of_not_taken htaken]
      cases r.greedy with
      | true =>
        obtain ⟨hexplores, hnext⟩ := explores_onward hstop hrank ho hlt
          (taken_mark r w left o.stop) fun _ _ _ => ih
        exact hexplores.of_mark ho rfl (fun _ h => h) hnext rfl
          (fun _ h => List.mem_cons_of_mem _ h) List.mem_cons_self
      | false =>
        have hpush : r.Taken ((r.mark w left o.stop).push o) left o.stop := taken_mark r w left o.stop
        obtain ⟨hexplores, hnext⟩ := explores_onward hstop hrank ho hlt hpush fun _ _ _ => ih
        exact hexplores.of_mark ho rfl (fun _ h => List.mem_cons_of_mem _ h) hnext rfl
          (fun _ h => h) (hexplores.found o List.mem_cons_self)

end

/-- What a walk from the beginning has taken is found, and closed under rounds. -/
theorem Explores.of_start {seen : List Outcome} (h : r.Explores ⟨0, seen⟩ w) (hstop : stop < r.width)
    (htaken : r.Taken w left stop) :
    (∃ o ∈ w.found, o.stop = stop) ∧
      ∀ left', r.again left stop = some left' → ∀ o ∈ r.body stop, r.Taken w left' o.stop := by
  refine (h.through left stop hstop htaken).resolve_left ?_
  rw [Taken, Nat.zero_testBit]
  exact Bool.false_ne_true

end Rounds

/-! ### Repetition -/

section

variable {span : Nat → Nat → Prop} {body : Nat → List Outcome} {size i j : Nat}

/-- From a place of the text, a stretch of one round ends where one of its outcomes ends. -/
def CompleteBody (span : Nat → Nat → Prop) (body : Nat → List Outcome) (size : Nat) : Prop :=
  ∀ i ≤ size, ∀ j, span i j → ∃ o ∈ body i, o.stop = j

theorem Times.snoc_inv {n : Nat} (h : Times span (n + 1) i j) :
    ∃ k, Times span n i k ∧ span k j := by
  induction n generalizing i with
  | zero =>
    obtain ⟨k, hspan, rfl⟩ := h
    exact ⟨i, rfl, hspan⟩
  | succ n ih =>
    obtain ⟨l, hspan, hrest⟩ := h
    obtain ⟨k, htimes, hlast⟩ := ih hrest
    exact ⟨k, ⟨l, hspan, htimes⟩, hlast⟩

theorem Times.split {m n : Nat} (h : Times span (m + n) i j) :
    ∃ k, Times span m i k ∧ Times span n k j := by
  induction m generalizing i with
  | zero => exact ⟨i, rfl, by rwa [Nat.zero_add] at h⟩
  | succ m ih =>
    rw [Nat.add_right_comm] at h
    obtain ⟨l, hspan, hrest⟩ := h
    obtain ⟨k, hfirst, hlast⟩ := ih hrest
    exact ⟨k, ⟨l, hspan, hfirst⟩, hlast⟩

/-- Of several stretches, the first may be taken to have characters, or to be all of them. -/
theorem Times.first (hforward : Forward span size) {n : Nat} (h : Times span (n + 1) i j) :
    ∃ k, span i k ∧ (k = j ∨ i < k ∧ ∃ m, Times span m k j) := by
  induction n with
  | zero =>
    obtain ⟨k, hspan, rfl⟩ := h
    exact ⟨k, hspan, .inl rfl⟩
  | succ n ih =>
    obtain ⟨k, hspan, hrest⟩ := h
    by_cases hk : i = k
    · subst hk
      exact ih hrest
    · have hle := (hforward i k hspan).1
      exact ⟨k, hspan, .inr ⟨by omega, _, hrest⟩⟩

variable (hforward : Forward span size) (hsound : SoundBody span body)
  (hcomplete : CompleteBody span body size) (hi : i ≤ size)

include hforward hcomplete hi

theorem exists_mem_exactly {count : Nat} (h : Times span count i j) :
    ∃ o ∈ exactly body count i, o.stop = j := by
  induction count generalizing j with
  | zero => exact ⟨.here i, List.mem_singleton.mpr rfl, h⟩
  | succ count ih =>
    obtain ⟨k, htimes, hspan⟩ := h.snoc_inv
    obtain ⟨o₁, ho₁, rfl⟩ := ih htimes
    obtain ⟨o₂, ho₂, rfl⟩ := hcomplete o₁.stop ((hforward.times htimes).2 hi) j hspan
    exact exists_mem_chain ho₁ ho₂

include hsound

omit hcomplete hi in
/-- Rounds stay within the text. -/
theorem stop_lt_of_mem_body {stop : Nat} (hstop : stop < size + 1) {o : Outcome} (ho : o ∈ body stop) :
    o.stop < size + 1 :=
  Nat.lt_succ_of_le ((hforward stop o.stop (hsound stop o ho)).2 (Nat.le_of_lt_succ hstop))

/-- The rounds of a repetition with an upper bound. -/
def boundedRounds (body : Nat → List Outcome) (greedy : Bool) (size : Nat) : Rounds :=
  ⟨body, greedy, fun left _ => if left = 0 then none else some (left - 1), size + 1⟩

/-- The rounds of a repetition without an upper bound. -/
def freeRounds (body : Nat → List Outcome) (greedy : Bool) (size i : Nat) : Rounds :=
  ⟨body, greedy, fun _ stop => if i < stop then some 0 else none, size + 1⟩

omit hforward hsound hcomplete hi in
theorem again_boundedRounds {greedy : Bool} {left stop left' : Nat} :
    (boundedRounds body greedy size).again left stop = some left' ↔ left = left' + 1 := by
  change (if left = 0 then none else some (left - 1)) = some left' ↔ _
  split
  · simp only [reduceCtorEq, false_iff]
    omega
  · rw [Option.some.injEq]
    omega

omit hforward hsound hcomplete hi in
theorem again_freeRounds {greedy : Bool} {left stop left' : Nat} :
    (freeRounds body greedy size i).again left stop = some left' ↔ i < stop ∧ left' = 0 := by
  change (if i < stop then some 0 else none) = some left' ↔ _
  split
  · rename_i hlt
    simp [hlt, eq_comm]
  · rename_i hlt
    simp [hlt]

/-- Up to a number of rounds, every number of stretches is walked. -/
theorem exists_mem_upTo (greedy : Bool) {n count : Nat} (h : Times span n i j) (hn : n ≤ count) :
    ∃ o ∈ upTo body greedy size count i, o.stop = j := by
  obtain ⟨hexplores, htaken⟩ := @Rounds.explores_visit (boundedRounds body greedy size)
    (fun left _ => left) (fun _ hstop _ ho => stop_lt_of_mem_body hforward hsound hstop ho)
    (fun left stop _ left' hagain o _ => .inr (by have := again_boundedRounds.mp hagain; omega))
    (count + 1) ⟨0, []⟩ count (.here i) (Nat.lt_succ_of_le hi) (.inr (Nat.lt_succ_self count))
  have hfound : ∀ {w : Walk}, (boundedRounds body greedy size).Explores ⟨0, []⟩ w →
      ∀ n left k, k ≤ size → (boundedRounds body greedy size).Taken w left k → n ≤ left →
        Times span n k j → ∃ o ∈ w.found, o.stop = j := by
    intro w hexplores n
    induction n with
    | zero =>
      rintro left k hk htaken - rfl
      exact (hexplores.of_start (Nat.lt_succ_of_le hk) htaken).1
    | succ n ih =>
      rintro left k hk htaken hle ⟨l, hspan, hrest⟩
      obtain ⟨o, ho, rfl⟩ := hcomplete k hk l hspan
      refine ih (left - 1) o.stop ((hforward k o.stop hspan).2 hk) ?_ (by omega) hrest
      refine (hexplores.of_start (Nat.lt_succ_of_le hk) htaken).2 (left - 1) ?_ o ho
      exact again_boundedRounds.mpr (by omega)
  obtain ⟨o, ho, hj⟩ := hfound hexplores n count i hi htaken hn h
  obtain ⟨o', ho', hj'⟩ := exists_mem_distinct (List.mem_reverse.mpr ho)
  exact ⟨o', ho', hj'.trans hj⟩

/-- Without an upper bound, any number of stretches is walked, the first of which has characters if
others follow. -/
theorem exists_mem_oneOrMore (greedy : Bool) {n : Nat} (h : Times span (n + 1) i j) :
    ∃ o ∈ oneOrMore body greedy size i, o.stop = j := by
  -- a round takes characters, or it leads back to the head that it came from
  have hvisit : ∀ (w : Walk), ∀ o ∈ body i,
      (freeRounds body greedy size i).Explores w
        ((freeRounds body greedy size i).visit (size + 1) w 0 o) ∧
      (freeRounds body greedy size i).Taken
        ((freeRounds body greedy size i).visit (size + 1) w 0 o) 0 o.stop := by
    intro w o ho
    refine @Rounds.explores_visit (freeRounds body greedy size i)
      (fun left stop => left + (size - stop))
      (fun _ hstop _ ho => stop_lt_of_mem_body hforward hsound hstop ho) ?_ (size + 1) w 0 o
      (stop_lt_of_mem_body hforward hsound (Nat.lt_succ_of_le hi) ho) (.inr (by omega))
    intro left stop hstop left' hagain o' ho'
    obtain ⟨-, rfl⟩ := again_freeRounds.mp hagain
    obtain ⟨hle, hsize⟩ := hforward stop o'.stop (hsound stop o' ho')
    have hsize := hsize (Nat.le_of_lt_succ hstop)
    omega
  obtain ⟨hexplores, htaken⟩ := Rounds.explores_foldl (r := freeRounds body greedy size i)
    (w := ⟨0, []⟩) fun w _ o ho => hvisit w o ho
  have hfound : ∀ {w : Walk}, (freeRounds body greedy size i).Explores ⟨0, []⟩ w →
      ∀ n k, i < k → k ≤ size → (freeRounds body greedy size i).Taken w 0 k →
        Times span n k j → ∃ o ∈ w.found, o.stop = j := by
    intro w hexplores n
    induction n with
    | zero =>
      rintro k - hk htaken rfl
      exact (hexplores.of_start (Nat.lt_succ_of_le hk) htaken).1
    | succ n ih =>
      rintro k hlt hk htaken ⟨l, hspan, hrest⟩
      obtain ⟨o, ho, rfl⟩ := hcomplete k hk l hspan
      obtain ⟨hle, hsize⟩ := hforward k o.stop hspan
      refine ih o.stop (by omega) (hsize hk) ?_ hrest
      exact (hexplores.of_start (Nat.lt_succ_of_le hk) htaken).2 0 (again_freeRounds.mpr ⟨hlt, rfl⟩) o ho
  obtain ⟨k, hspan, hk⟩ := h.first hforward
  have hsize := (hforward i k hspan).2 hi
  obtain ⟨o, ho, rfl⟩ := hcomplete i hi k hspan
  have hmem : ∃ o' ∈ ((body i).foldl
      (fun w o => (freeRounds body greedy size i).visit (size + 1) w 0 o) ⟨0, []⟩).found,
      o'.stop = j := by
    rcases hk with rfl | ⟨hlt, m, hrest⟩
    · exact (hexplores.of_start (Nat.lt_succ_of_le hsize) (htaken o ho)).1
    · exact hfound hexplores m o.stop hlt hsize (htaken o ho) hrest
  obtain ⟨o', ho', hj⟩ := hmem
  exact ⟨o', List.mem_reverse.mpr ho', hj⟩

/-- Any number of stretches is walked. -/
theorem exists_mem_zeroOrMore (greedy : Bool) {n : Nat} (h : Times span n i j) :
    ∃ o ∈ zeroOrMore body greedy size i, o.stop = j := by
  have hmem : ∃ o, (o ∈ oneOrMore body greedy size i ∨ o = .here i) ∧ o.stop = j := by
    cases n with
    | zero => exact ⟨.here i, .inr rfl, h⟩
    | succ n =>
      obtain ⟨o, ho, hj⟩ := exists_mem_oneOrMore hforward hsound hcomplete hi greedy h
      exact ⟨o, .inl ho, hj⟩
  obtain ⟨o, ho, rfl⟩ := hmem
  rw [zeroOrMore]
  split
  · exact exists_mem_distinct (by simpa using ho)
  · exact exists_mem_distinct (by simpa [or_comm] using ho)

/-- **A chain of rounds within bounds is walked.** -/
theorem exists_mem_rounds {greedy : Bool} {low : Nat} {high? : Option Nat}
    (h : Chain span low high? i j) : ∃ o ∈ rounds body greedy size low high? i, o.stop = j := by
  obtain ⟨n, hlow, hhigh, htimes⟩ := times_of_chain h
  match low, high? with
  | 0, none => exact exists_mem_zeroOrMore hforward hsound hcomplete hi greedy htimes
  | low + 1, none =>
    obtain ⟨d, rfl⟩ : ∃ d, n = low + (d + 1) := ⟨n - low - 1, by omega⟩
    obtain ⟨k, hfirst, hrest⟩ := htimes.split
    have hk := (hforward.times hfirst).2 hi
    obtain ⟨o₁, ho₁, rfl⟩ := exists_mem_exactly hforward hcomplete hi hfirst
    obtain ⟨o₂, ho₂, rfl⟩ := exists_mem_oneOrMore hforward hsound hcomplete hk greedy hrest
    exact exists_mem_chain ho₁ ho₂
  | low, some high =>
    obtain ⟨d, rfl⟩ : ∃ d, n = low + d := ⟨n - low, by omega⟩
    obtain ⟨k, hfirst, hrest⟩ := htimes.split
    have hk := (hforward.times hfirst).2 hi
    have hd : d ≤ high - low := by
      have := hhigh high rfl
      omega
    obtain ⟨o₁, ho₁, rfl⟩ := exists_mem_exactly hforward hcomplete hi hfirst
    obtain ⟨o₂, ho₂, rfl⟩ := exists_mem_upTo hforward hsound hcomplete hk greedy hrest hd
    have hrounds : rounds body greedy size low (some high) i
        = chain (exactly body low i) (upTo body greedy size (high - low)) := by
      cases low <;> rfl
    rw [hrounds]
    exact exists_mem_chain ho₁ ho₂

end

/-! ### Patterns -/

/-- **A stretch from a place of the text has an outcome.** -/
theorem exists_outcome_of_spans {t : Array Char} {p : Pattern} (hp : p.InOrder) {i j : Nat}
    (hi : i ≤ t.size) (h : p.Spans t i j) : ∃ o ∈ p.outcomes t i, o.stop = j := by
  induction p generalizing i j with
  | empty => exact ⟨.here i, List.mem_singleton.mpr rfl, h⟩
  | set s =>
    obtain ⟨rfl, c, hget, hmem⟩ := h
    exact ⟨.here (i + 1), by simp [outcomes, hget, hmem], rfl⟩
  | anchor a =>
    obtain ⟨rfl, hholds⟩ := h
    exact ⟨.here i, by simp [outcomes, hholds], rfl⟩
  | group index p ih =>
    obtain ⟨o, ho, rfl⟩ := ih hp hi h
    exact ⟨_, List.mem_map.mpr ⟨o, ho, rfl⟩, rfl⟩
  | seq p q ihp ihq =>
    obtain ⟨k, hfirst, hrest⟩ := h
    obtain ⟨o₁, ho₁, rfl⟩ := ihp hp.1 hi hfirst
    obtain ⟨o₂, ho₂, rfl⟩ := ihq hp.2 ((forward_spans t p i o₁.stop hfirst).2 hi) hrest
    exact exists_mem_chain ho₁ ho₂
  | alt p q ihp ihq =>
    have hmem : ∃ o ∈ p.outcomes t i ++ q.outcomes t i, o.stop = j := by
      rcases h with h | h
      · obtain ⟨o, ho, hj⟩ := ihp hp.1 hi h
        exact ⟨o, List.mem_append_left _ ho, hj⟩
      · obtain ⟨o, ho, hj⟩ := ihq hp.2 hi h
        exact ⟨o, List.mem_append_right _ ho, hj⟩
    obtain ⟨o, ho, rfl⟩ := hmem
    exact exists_mem_distinct ho
  | repeated p low high? greedy ih =>
    exact exists_mem_rounds (forward_spans t p) (fun _ _ ho => spans_of_mem_outcomes hp.1 ho)
      (fun _ hi _ h => ih hp.1 hi h) hi h

theorem isSome_findAmong {t : Array Char} {p : Pattern} {count i k : Nat} {o : Outcome}
    (hik : i ≤ k) (hk : k < i + count) (ho : o ∈ p.outcomes t k) :
    (p.findAmong t count i).isSome = true := by
  induction count generalizing i with
  | zero => omega
  | succ count ih =>
    rw [findAmong]
    cases hmatch : p.matchAt? t i with
    | some m => rfl
    | none =>
      have hne : i ≠ k := by
        rintro rfl
        have hempty : p.outcomes t i = [] := by
          simpa [matchAt?, List.head?_eq_none_iff] using hmatch
        rw [hempty] at ho
        cases ho
      exact ih (by omega) (by omega)

/-- **A match is found if and only if there is a stretch.** -/
theorem isMatch_iff {t : Array Char} {p : Pattern} (hp : p.InOrder) :
    p.isMatch t = true ↔ ∃ i ≤ t.size, ∃ j, p.Spans t i j := by
  constructor
  · intro h
    obtain ⟨m, hm⟩ := Option.isSome_iff_exists.mp h
    obtain ⟨hfound, -, hstart⟩ := isFound_of_findAmong hm
    exact ⟨m.start, by omega, m.stop, spans_of_mem_outcomes hp hfound⟩
  · rintro ⟨i, hi, j, h⟩
    obtain ⟨o, ho, -⟩ := exists_outcome_of_spans hp hi h
    exact isSome_findAmong (Nat.zero_le i) (by omega) ho

end Pattern

end Concordance
