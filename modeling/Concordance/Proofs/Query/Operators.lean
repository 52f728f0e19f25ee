import Concordance.Proofs.Query.Leaves

/-!
# Operators among the phrases

The operators of a combined query are meant to be used up by the reduction. Since an operator waits
for its operand as a phrase like any other, one that follows another operator can be taken for a
word, and is then searched for. Whether that happens depends on the order of operators and operands
alone, never on the words themselves.

`Usage` follows a reduction without its phrases: it keeps whether there are any, whether one of them
holds an operator, and what is waiting. It is exact, so that it decides which queries search for an
operator.

## Main definitions

* `Query.Usage`: what a reduction has made of the operators so far
* `Query.Usage.leaks`: whether an operator has become part of a phrase
* `Query.spacedFrom`: no operator right after another in any row

## Main results

* `Query.usage_nodesFrom` — the usage of a row is the usage of its reduction
* `Query.operator_mem_parse_iff` — the queries that search for an operator
-/

namespace Concordance

namespace Query

/-- A word that is an operator. -/
def IsOperator (w : List Char) : Prop := w = andWord ∨ w = orWord ∨ w = notWord

instance (w : List Char) : Decidable (IsOperator w) := by
  unfold IsOperator; infer_instance

/-- A phrase with an operator among its words. -/
def Phrase.HoldsOperator (p : Phrase) : Prop := ∃ w ∈ p, IsOperator w

/-! ### Usage -/

/-- What waits at the end of the included phrases. -/
inductive Waiting where
  /-- Nothing. -/
  | nothing
  /-- The operator that lengthens phrases. -/
  | and
  /-- The operator that excludes. -/
  | not
  /-- The operator that lengthens, with another operator left waiting before it. -/
  | stacked
deriving Repr, DecidableEq

/-- What a reduction has made of the operators so far. -/
structure Usage where
  /-- Whether there are included phrases, apart from waiting operators. -/
  found : Bool
  /-- Whether one of them holds an operator. -/
  inIncluded : Bool
  /-- Whether an excluded phrase holds an operator. -/
  inExcluded : Bool
  /-- What waits. -/
  waiting : Waiting
deriving Repr, DecidableEq

namespace Usage

/-- Before anything is read. -/
def start : Usage := ⟨false, false, false, .nothing⟩

/-- Whether an operator has become part of a phrase. -/
def leaks (u : Usage) : Bool := u.inIncluded || u.inExcluded

/-- An operand, given whether it has phrases and whether one of them holds an operator. A stacked
operator is itself lengthened by the operand. -/
def operand (u : Usage) (any holds : Bool) : Usage :=
  match u.waiting with
  | .nothing => { u with found := u.found || any, inIncluded := u.inIncluded || holds }
  | .and =>
    { u with found := u.found && any, inIncluded := u.inIncluded && any || u.found && holds,
             waiting := .nothing }
  | .not => { u with inExcluded := u.inExcluded || holds, waiting := .nothing }
  | .stacked => { u with found := any, inIncluded := any, waiting := .nothing }

/-- The operator that lengthens. -/
def and (u : Usage) : Usage :=
  { u with waiting := if u.waiting = .nothing then .and else .stacked }

/-- The operator that excludes. After another operator it is an operand. -/
def not (u : Usage) : Usage :=
  if u.waiting = .nothing then { u with waiting := .not } else u.operand true true

/-- A word. -/
def word (u : Usage) (w : List Char) : Usage :=
  if w = orWord then u else if w = andWord then u.and else if w = notWord then u.not
  else u.operand true false

/-- A group, given its own usage. -/
def group (u inner : Usage) : Usage :=
  { u with inExcluded := u.inExcluded || inner.inExcluded }.operand inner.found inner.inIncluded

mutual

/-- One more node. -/
def node (u : Usage) : Node → Usage
  | .word w => u.word w
  | .group nodes => u.group (nodesFrom start nodes)

/-- More nodes. -/
def nodesFrom (u : Usage) : List Node → Usage
  | [] => u
  | n :: ns => nodesFrom (u.node n) ns

end

end Usage

/-! ### The reduction behind a usage -/

/-- Phrases that wait as `w` says. -/
def Waiting.Describes : Waiting → List Phrase → Prop
  | nothing, ps => ps = []
  | and, ps => ps = [[andWord]]
  | not, ps => ps = [[notWord]]
  | stacked, ps => ∃ qs, ps = qs ++ [[andWord]] ∧ qs ≠ [] ∧ ∀ p ∈ qs, p = [andWord] ∨ p = [notWord]

theorem Waiting.Describes.push_and {w : Waiting} {ms : List Phrase} (h : w.Describes ms) :
    Waiting.Describes (if w = .nothing then .and else .stacked) (ms ++ [[andWord]]) := by
  cases w with
  | nothing => exact congrArg (· ++ [[andWord]]) h
  | and => exact ⟨ms, rfl, by simp [show ms = [[andWord]] from h],
      by simp [show ms = [[andWord]] from h]⟩
  | not => exact ⟨ms, rfl, by simp [show ms = [[notWord]] from h],
      by simp [show ms = [[notWord]] from h]⟩
  | stacked =>
    obtain ⟨qs, rfl, -, hqs⟩ := h
    exact ⟨_, rfl, by simp, by simpa [or_imp, forall_and] using hqs⟩

theorem Waiting.Describes.forall_mem {w : Waiting} {ms : List Phrase} (h : w.Describes ms) :
    ∀ p ∈ ms, p = [andWord] ∨ p = [notWord] := by
  cases w with
  | nothing => simp [show ms = [] from h]
  | and => simp [show ms = [[andWord]] from h]
  | not => simp [show ms = [[notWord]] from h]
  | stacked =>
    obtain ⟨qs, rfl, -, hqs⟩ := h
    simpa [or_imp, forall_and] using hqs

/-- A phrase that is no waiting operator, but has words. -/
def Phrase.IsSettled (p : Phrase) : Prop := p ≠ [] ∧ p ≠ [andWord] ∧ p ≠ [notWord]

/-- Where all phrases are settled, no operator waits. -/
theorem pending_eq_nothing {q : Query} (h : ∀ p ∈ q.included, p.IsSettled) :
    q.pending = .nothing := by
  rw [pending]
  cases hl : q.included.getLast? with
  | none => rfl
  | some p =>
    obtain ⟨-, hand, hnot⟩ := h p (List.mem_of_getLast? hl)
    simp [hand, hnot]

/-- A usage tells the truth about a query whose included phrases are `ps` and then, waiting,
`ms`. -/
structure Usage.Describes (u : Usage) (q : Query) (ps ms : List Phrase) : Prop where
  /-- The included phrases, those that wait last. -/
  included : q.included = ps ++ ms
  /-- The first of them do not wait. -/
  settled : ∀ p ∈ ps, p.IsSettled
  /-- The others do. -/
  waiting : u.waiting.Describes ms
  /-- Whether there are phrases that do not wait. -/
  found : u.found = true ↔ ps ≠ []
  /-- Whether one of them holds an operator. -/
  inIncluded : u.inIncluded = true ↔ ∃ p ∈ ps, p.HoldsOperator
  /-- Whether an excluded phrase does. -/
  inExcluded : u.inExcluded = true ↔ ∃ p ∈ q.excluded, p.HoldsOperator

/-- Before anything is read there are no phrases. -/
theorem Usage.describes_start : Usage.start.Describes empty [] [] :=
  ⟨rfl, by simp, rfl, by simp [start], by simp [start], by simp [start, empty]⟩

/-- Operators at the end are dropped, and no more. -/
theorem dropOperators_append {ps ms : List Phrase} (hps : ∀ p ∈ ps, p.IsSettled)
    (hms : ∀ p ∈ ms, p = [andWord] ∨ p = [notWord]) : dropOperators (ps ++ ms) = ps := by
  have hdrop : dropOperators ms = [] := by
    induction ms with
    | nil => rfl
    | cons m ms ih =>
      have hm := hms m (by simp)
      simp [dropOperators, ih fun p hp => hms p (by simp [hp]), hm]
  induction ps with
  | nil => exact hdrop
  | cons p ps ih =>
    obtain ⟨-, hand, hnot⟩ := hps p (by simp)
    have ih := ih fun r hr => hps r (by simp [hr])
    cases ps with
    | nil => simp [dropOperators, hdrop, hand, hnot]
    | cons r ps => rw [List.cons_append, dropOperators, ih]

theorem Phrase.holdsOperator_append {p r : Phrase} :
    Phrase.HoldsOperator (p ++ r) ↔ p.HoldsOperator ∨ r.HoldsOperator := by
  simp [HoldsOperator, or_and_right, exists_or]

/-- Two phrases together are longer than an operator. -/
theorem Phrase.isSettled_append {p r : Phrase} (hp : p ≠ []) (hr : r ≠ []) :
    Phrase.IsSettled (p ++ r) := by
  cases p with
  | nil => exact absurd rfl hp
  | cons w p => cases r with
    | nil => exact absurd rfl hr
    | cons v r => simp [IsSettled]

theorem mem_lengthen {ps os : List Phrase} {p : Phrase} :
    p ∈ lengthen ps os ↔ ∃ r ∈ ps, ∃ o ∈ os, r ++ o = p := by
  simp [lengthen]

theorem lengthen_ne_nil {ps os : List Phrase} : lengthen ps os ≠ [] ↔ ps ≠ [] ∧ os ≠ [] := by
  simp only [← List.length_pos_iff, List.length_pos_iff_exists_mem, mem_lengthen]
  constructor
  · rintro ⟨_, r, hr, o, ho, rfl⟩
    exact ⟨⟨r, hr⟩, o, ho⟩
  · rintro ⟨⟨r, hr⟩, o, ho⟩
    exact ⟨_, r, hr, o, ho, rfl⟩

theorem exists_mem_lengthen_holdsOperator {ps os : List Phrase} :
    (∃ p ∈ lengthen ps os, p.HoldsOperator) ↔
      (∃ p ∈ ps, p.HoldsOperator) ∧ os ≠ [] ∨ ps ≠ [] ∧ ∃ o ∈ os, o.HoldsOperator := by
  simp only [mem_lengthen, ← List.length_pos_iff, List.length_pos_iff_exists_mem]
  constructor
  · rintro ⟨_, ⟨r, hr, o, ho, rfl⟩, h⟩
    rcases Phrase.holdsOperator_append.mp h with h | h
    · exact .inl ⟨⟨r, hr, h⟩, o, ho⟩
    · exact .inr ⟨⟨r, hr⟩, o, ho, h⟩
  · rintro (⟨⟨r, hr, h⟩, o, ho⟩ | ⟨⟨r, hr⟩, o, ho, h⟩)
    · exact ⟨_, ⟨r, hr, o, ho, rfl⟩, Phrase.holdsOperator_append.mpr (.inl h)⟩
    · exact ⟨_, ⟨r, hr, o, ho, rfl⟩, Phrase.holdsOperator_append.mpr (.inr h)⟩

/-- What the operands of a group or a word look like to a usage. -/
structure IsOperand (os : List Phrase) (any holds : Bool) : Prop where
  /-- All of its phrases have words. -/
  ne_nil : ∀ o ∈ os, o ≠ []
  /-- Whether it has phrases. -/
  any : any = true ↔ os ≠ []
  /-- Whether one of them holds an operator. -/
  holds : holds = true ↔ ∃ o ∈ os, Phrase.HoldsOperator o

namespace Usage.Describes

variable {u : Usage} {q : Query} {ps ms os : List Phrase} {any holds : Bool}

/-! ### One step of the reduction -/

/-- Nothing waits: the operand joins the phrases. -/
theorem operand_of_nothing (h : u.Describes q ps ms) (hu : u.waiting = .nothing)
    (ho : IsOperand os any holds) (hset : ∀ o ∈ os, Phrase.IsSettled o) :
    (u.operand any holds).Describes (q.operand os) (ps ++ os) [] := by
  have hms : ms = [] := by simpa [hu, Waiting.Describes] using h.waiting
  have hinc : q.included = ps := by simp [h.included, hms]
  have hpend : q.pending = .nothing := pending_eq_nothing (hinc ▸ h.settled)
  have hop : q.operand os = ⟨ps ++ os, q.excluded⟩ := by simp [Query.operand, hpend, hinc]
  rw [hop]
  refine ⟨by simp, ?_, ?_, ?_, ?_, ?_⟩
  · intro p hp
    rcases List.mem_append.mp hp with hp | hp
    · exact h.settled p hp
    · exact hset p hp
  · simp [operand, hu, Waiting.Describes]
  · simp only [operand, hu, Bool.or_eq_true, h.found, ho.any]
    cases ps <;> cases os <;> simp
  · simp [operand, hu, h.inIncluded, ho.holds, or_and_right, exists_or]
  · simpa [operand, hu] using h.inExcluded

/-- The operator that lengthens waits: every phrase there is, a waiting operator before it included,
is lengthened. -/
theorem operand_of_and (qs : List Phrase) (h : u.Describes q ps ms) (hms : ms = qs ++ [[andWord]])
    (hqs : ∀ p ∈ qs, p ≠ []) (ho : IsOperand os any holds)
    (hex : (u.operand any holds).inExcluded = u.inExcluded)
    (hwait : (u.operand any holds).waiting = .nothing)
    (hfound : (u.operand any holds).found = true ↔ ps ++ qs ≠ [] ∧ os ≠ [])
    (hinc : (u.operand any holds).inIncluded = true ↔
      (∃ p ∈ ps ++ qs, p.HoldsOperator) ∧ os ≠ [] ∨ ps ++ qs ≠ [] ∧ ∃ o ∈ os, o.HoldsOperator) :
    (u.operand any holds).Describes (q.operand os) (lengthen (ps ++ qs) os) [] := by
  have hlast : q.included = (ps ++ qs) ++ [[andWord]] := by rw [h.included, hms, List.append_assoc]
  have hpend : q.pending = .and := by simp [pending, hlast]
  have hop : q.operand os = ⟨lengthen (ps ++ qs) os, q.excluded⟩ := by
    simp [Query.operand, hpend, Query.settled, hlast]
  rw [hop]
  refine ⟨by simp, ?_, by simp [hwait, Waiting.Describes], ?_, ?_,
    by simpa [hex] using h.inExcluded⟩
  · intro p hp
    obtain ⟨r, hr, o, ho', rfl⟩ := mem_lengthen.mp hp
    refine Phrase.isSettled_append ?_ (ho.ne_nil o ho')
    rcases List.mem_append.mp hr with hr | hr
    · exact (h.settled r hr).1
    · exact hqs r hr
  · rw [hfound, lengthen_ne_nil]
  · rw [hinc, exists_mem_lengthen_holdsOperator]

/-- The operator that excludes waits: the operand joins the excluded phrases. -/
theorem operand_of_not (h : u.Describes q ps ms) (hu : u.waiting = .not)
    (ho : IsOperand os any holds) :
    (u.operand any holds).Describes (q.operand os) ps [] := by
  have hms : ms = [[notWord]] := by simpa [hu, Waiting.Describes] using h.waiting
  have hinc : q.included = ps ++ [[notWord]] := by rw [h.included, hms]
  have hpend : q.pending = .not := by simp [pending, hinc]; decide
  have hop : q.operand os = ⟨ps, q.excluded ++ os⟩ := by
    simp [Query.operand, hpend, Query.settled, hinc]
  rw [hop]
  refine ⟨by simp, h.settled, by simp [operand, hu, Waiting.Describes], ?_, ?_, ?_⟩
  · simpa [operand, hu] using h.found
  · simpa [operand, hu] using h.inIncluded
  · simp [operand, hu, h.inExcluded, ho.holds, or_and_right, exists_or]

/-- A usage follows every operand. Where nothing waits, an operand that is itself an operator would
wait, so that none may be among the phrases. -/
theorem operand (h : u.Describes q ps ms) (ho : IsOperand os any holds)
    (hset : u.waiting = .nothing → ∀ o ∈ os, Phrase.IsSettled o) :
    ∃ ps', (u.operand any holds).Describes (q.operand os) ps' [] := by
  cases hu : u.waiting with
  | nothing => exact ⟨_, h.operand_of_nothing hu ho (hset hu)⟩
  | not => exact ⟨_, h.operand_of_not hu ho⟩
  | and =>
    have hms : ms = [[andWord]] := by simpa [hu, Waiting.Describes] using h.waiting
    refine ⟨_, h.operand_of_and [] (by simpa using hms) (by simp) ho ?_ ?_ ?_ ?_⟩
    · simp [Usage.operand, hu]
    · simp [Usage.operand, hu]
    · simp [Usage.operand, hu, h.found, ho.any]
    · simp [Usage.operand, hu, h.found, h.inIncluded, ho.any, ho.holds]
  | stacked =>
    obtain ⟨qs, hms, hne, hqs⟩ : (Waiting.stacked).Describes ms := hu ▸ h.waiting
    have hqs' : ∃ p ∈ qs, p.HoldsOperator := by
      obtain ⟨p, hp⟩ := List.exists_mem_of_ne_nil qs hne
      rcases hqs p hp with rfl | rfl
      · exact ⟨_, hp, andWord, by simp, .inl rfl⟩
      · exact ⟨_, hp, notWord, by simp, .inr (.inr rfl)⟩
    refine ⟨_, h.operand_of_and qs hms ?_ ho ?_ ?_ ?_ ?_⟩
    · intro p hp
      rcases hqs p hp with rfl | rfl <;> simp
    · simp [Usage.operand, hu]
    · simp [Usage.operand, hu]
    · simp [Usage.operand, hu, ho.any, hne]
    · have hsome : ∃ p ∈ ps ++ qs, p.HoldsOperator := by
        obtain ⟨p, hp, hop⟩ := hqs'
        exact ⟨p, by simp [hp], hop⟩
      simp only [Usage.operand, hu, ho.any, hsome, true_and]
      constructor
      · exact .inl
      · rintro (hany | ⟨-, o, ho', -⟩)
        · exact hany
        · exact List.ne_nil_of_mem ho'

/-- The operator that lengthens waits after whatever waited before. -/
theorem and (h : u.Describes q ps ms) :
    u.and.Describes (q.push [andWord]) ps (ms ++ [[andWord]]) :=
  ⟨by simp [push, h.included], h.settled, h.waiting.push_and, h.found, h.inIncluded, h.inExcluded⟩

/-- The operator that excludes waits if nothing else does, and is an operand otherwise. -/
theorem not (h : u.Describes q ps ms) :
    ∃ ps' ms', u.not.Describes (q.operand [[notWord]]) ps' ms' := by
  by_cases hu : u.waiting = .nothing
  · have hms : ms = [] := by simpa [hu, Waiting.Describes] using h.waiting
    have ho : IsOperand ([] : List Phrase) false false := ⟨by simp, by simp, by simp⟩
    have hq : q.operand [[notWord]] = (q.operand []).push [notWord] := by
      have hinc : q.included = ps := by simp [h.included, hms]
      have hpend : q.pending = .nothing := pending_eq_nothing (hinc ▸ h.settled)
      simp [Query.operand, hpend, push]
    have hd := h.operand_of_nothing hu ho (by simp)
    refine ⟨ps, [[notWord]], ?_⟩
    rw [hq, Usage.not, if_pos hu]
    refine ⟨by simpa [push] using hd.included, h.settled, rfl, h.found, h.inIncluded, ?_⟩
    simpa [push, Usage.operand, hu] using hd.inExcluded
  · have ho : IsOperand [[notWord]] true true :=
      ⟨by simp, by simp, by simp [Phrase.HoldsOperator, IsOperator]⟩
    obtain ⟨ps', hd⟩ := h.operand ho fun hn => absurd hn hu
    exact ⟨ps', [], by simpa [Usage.not, hu] using hd⟩

/-- **A word.** -/
theorem word (h : u.Describes q ps ms) (w : List Char) :
    ∃ ps' ms', (u.word w).Describes (q.word w) ps' ms' := by
  by_cases hor : w = orWord
  · exact ⟨ps, ms, by simpa only [Usage.word, Query.word, if_pos hor] using h⟩
  by_cases hand : w = andWord
  · refine ⟨ps, ms ++ [[andWord]], ?_⟩
    rw [Usage.word, Query.word, if_neg hor, if_neg hor, if_pos hand, if_pos hand, hand]
    exact h.and
  by_cases hnot : w = notWord
  · obtain ⟨ps', ms', hd⟩ := h.not
    refine ⟨ps', ms', ?_⟩
    rw [Usage.word, Query.word, if_neg hor, if_neg hor, if_neg hand, if_neg hand, if_pos hnot, hnot]
    exact hd
  · have ho : IsOperand [[w]] true false := by
      refine ⟨by simp, by simp, ?_⟩
      simp [Phrase.HoldsOperator, IsOperator, hor, hand, hnot]
    obtain ⟨ps', hd⟩ := h.operand ho fun _ o hw => by
      simp only [List.mem_singleton] at hw
      simp [hw, Phrase.IsSettled, hand, hnot]
    exact ⟨ps', [], by simpa [Usage.word, Query.word, hnot, hor, hand] using hd⟩

/-- **A group**, given the usage of its own row. -/
theorem group (h : u.Describes q ps ms) {inner : Usage} {r : Query} {rs ns : List Phrase}
    (hi : inner.Describes r rs ns) :
    ∃ ps', (u.group inner).Describes (q.group r.finish) ps' [] := by
  have hfin : r.finish = ⟨rs, r.excluded⟩ := by
    rw [finish, hi.included, dropOperators_append hi.settled hi.waiting.forall_mem]
  have hout : Usage.Describes { u with inExcluded := u.inExcluded || inner.inExcluded }
      { q with excluded := q.excluded ++ r.excluded } ps ms := by
    refine ⟨h.included, h.settled, h.waiting, h.found, h.inIncluded, ?_⟩
    simp [h.inExcluded, hi.inExcluded, or_and_right, exists_or]
  rw [Usage.group, Query.group, hfin]
  exact hout.operand ⟨fun o ho => (hi.settled o ho).1, hi.found, hi.inIncluded⟩
    fun _ o ho => hi.settled o ho

end Usage.Describes

/-! ### The usage of a row -/

mutual

theorem usage_node : (n : Node) → {u : Usage} → {q : Query} → {ps ms : List Phrase} →
    u.Describes q ps ms → ∃ ps' ms', (u.node n).Describes (q.node n) ps' ms'
  | .word w, _, _, _, _, h => by
    rw [Usage.node, Query.node]
    exact h.word w
  | .group nodes, _, _, _, _, h => by
    obtain ⟨rs, ns, hi⟩ := usage_nodesFrom nodes Usage.describes_start
    obtain ⟨ps', hd⟩ := h.group hi
    rw [Usage.node, Query.node]
    exact ⟨ps', [], hd⟩

/-- **The usage of a row is the usage of its reduction.** -/
theorem usage_nodesFrom : (ns : List Node) → {u : Usage} → {q : Query} → {ps ms : List Phrase} →
    u.Describes q ps ms → ∃ ps' ms', (u.nodesFrom ns).Describes (q.nodesFrom ns) ps' ms'
  | [], _, _, ps, ms, h => by
    rw [Usage.nodesFrom, Query.nodesFrom]
    exact ⟨ps, ms, h⟩
  | n :: ns, _, _, _, _, h => by
    obtain ⟨ps', ms', hn⟩ := usage_node n h
    rw [Usage.nodesFrom, Query.nodesFrom]
    exact usage_nodesFrom ns hn

end

/-- The phrases of a reduced row hold an operator just if its usage says so. -/
theorem holdsOperator_reduce_iff (nodes : List Node) :
    (∃ p ∈ (reduce nodes).included ++ (reduce nodes).excluded, p.HoldsOperator) ↔
      (Usage.start.nodesFrom nodes).leaks = true := by
  obtain ⟨ps, ms, h⟩ := usage_nodesFrom nodes Usage.describes_start
  have hred : reduce nodes = ⟨ps, (empty.nodesFrom nodes).excluded⟩ := by
    rw [reduce, finish, h.included, dropOperators_append h.settled h.waiting.forall_mem]
  rw [hred, Usage.leaks, Bool.or_eq_true, h.inIncluded, h.inExcluded]
  simp [or_and_right, exists_or]

/-! ### Rows in which operators keep apart -/

mutual

/-- No operator right after another in a group. -/
def Node.spaced : Node → Bool
  | .word _ => true
  | .group nodes => spacedFrom false nodes

/-- No operator right after another in a row, nor in its groups; `OR` does not count. -/
def spacedFrom (afterOperator : Bool) : List Node → Bool
  | [] => true
  | .word w :: ns =>
    if w = orWord then spacedFrom afterOperator ns
    else if w = andWord ∨ w = notWord then !afterOperator && spacedFrom true ns
    else spacedFrom false ns
  | .group nodes :: ns => (Node.group nodes).spaced && spacedFrom false ns

end

/-- Nothing has leaked, and no operator is left waiting under another. -/
structure Usage.Clean (u : Usage) (afterOperator : Bool) : Prop where
  /-- No included phrase holds an operator. -/
  inIncluded : u.inIncluded = false
  /-- No excluded phrase does. -/
  inExcluded : u.inExcluded = false
  /-- At most one operator waits, and none if the last word was an operand. -/
  waiting : u.waiting ≠ .stacked ∧ (afterOperator = false → u.waiting = .nothing)

namespace Usage.Clean

variable {u : Usage} {a : Bool}

theorem start : Usage.start.Clean false := ⟨rfl, rfl, by decide, fun _ => rfl⟩

theorem operand (h : u.Clean a) (any : Bool) : (u.operand any false).Clean false := by
  obtain ⟨f, i, e, w⟩ := u
  obtain ⟨rfl, rfl, hstacked, -⟩ := h
  cases w with
  | stacked => exact absurd rfl hstacked
  | nothing | and | not => exact ⟨by simp [Usage.operand], by simp [Usage.operand],
      by simp [Usage.operand], by simp [Usage.operand]⟩

theorem word (h : u.Clean a) {w : List Char} {ns : List Node}
    (hw : spacedFrom a (.word w :: ns) = true) :
    ∃ b, (u.word w).Clean b ∧ spacedFrom b ns = true := by
  rw [spacedFrom] at hw
  rw [Usage.word]
  by_cases hor : w = orWord
  · exact ⟨a, by simpa [hor] using h, by simpa [hor] using hw⟩
  simp only [if_neg hor] at hw ⊢
  by_cases hop : w = andWord ∨ w = notWord
  · obtain ⟨ha, hns⟩ : a = false ∧ spacedFrom true ns = true := by simpa [hop] using hw
    have hnothing := h.waiting.2 ha
    refine ⟨true, ?_, hns⟩
    rcases hop with rfl | rfl
    · exact ⟨h.inIncluded, h.inExcluded, by simp [Usage.and, hnothing], by simp⟩
    · rw [if_neg (by decide), if_pos rfl, Usage.not, if_pos hnothing]
      exact ⟨h.inIncluded, h.inExcluded, by simp, by simp⟩
  · have hns : spacedFrom false ns = true := by simpa [hop] using hw
    obtain ⟨hand, hnot⟩ := not_or.mp hop
    exact ⟨false, by simpa [hand, hnot] using h.operand true, hns⟩

theorem nodesFrom : (ns : List Node) → {u : Usage} → {a : Bool} → u.Clean a →
    spacedFrom a ns = true → ∃ b, (u.nodesFrom ns).Clean b
  | [], _, a, h, _ => by
    rw [Usage.nodesFrom]
    exact ⟨a, h⟩
  | .word w :: ns, _, _, h, hns => by
    obtain ⟨b, hb, hspaced⟩ := h.word hns
    rw [Usage.nodesFrom, Usage.node]
    exact nodesFrom ns hb hspaced
  | .group nodes :: ns, _, _, h, hns => by
    rw [spacedFrom, Node.spaced, Bool.and_eq_true] at hns
    obtain ⟨b, hb⟩ := nodesFrom nodes start hns.1
    rw [Usage.nodesFrom, Usage.node]
    refine nodesFrom ns ?_ hns.2
    rw [Usage.group, hb.inIncluded, hb.inExcluded, Bool.or_false]
    exact h.operand _

end Usage.Clean

/-- **Which queries search for an operator.** The words of a phrase are read off its written form.
An operator is among them just if the usage of the row says so; so none is where no operator stands
right after another. -/
theorem operator_mem_parse_iff (cs : List Char) :
    ((∃ p ∈ (parse cs).included ++ (parse cs).excluded, ∃ w ∈ Text.words p.text, IsOperator w) ↔
      (Usage.start.nodesFrom (Node.parseAll cs)).leaks = true) ∧
    (spacedFrom false (Node.parseAll cs) = true →
      ∀ p ∈ (parse cs).included ++ (parse cs).excluded, ∀ w ∈ Text.words p.text,
        ¬ IsOperator w) := by
  have hiff : (∃ p ∈ (parse cs).included ++ (parse cs).excluded,
      ∃ w ∈ Text.words p.text, IsOperator w) ↔
      (Usage.start.nodesFrom (Node.parseAll cs)).leaks = true := by
    rw [← holdsOperator_reduce_iff]
    refine exists_congr fun p => and_congr_right fun hp => ?_
    rw [words_text_of_mem_parse hp, Phrase.HoldsOperator]
  refine ⟨hiff, fun hspaced p hp w hw hop => ?_⟩
  obtain ⟨b, hclean⟩ := Usage.Clean.nodesFrom _ .start hspaced
  have hleaks := hiff.mp ⟨p, hp, w, hw, hop⟩
  simp [Usage.leaks, hclean.inIncluded, hclean.inExcluded] at hleaks

/-- An operator right after another is taken for a word: here the second one is searched for, and
the word after it is included. -/
theorem parse_and_not : parse ['a', ' ', 'A', 'N', 'D', ' ', 'N', 'O', 'T', ' ', 'b'] =
    ⟨[[['a'], notWord], [['b']]], []⟩ := rfl

end Query

end Concordance
