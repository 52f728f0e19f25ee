import Concordance.Proofs.Pattern.Captures
import Concordance.Proofs.Pattern.Pieces

/-!
# Preferred outcomes

Of the ways in which a pattern matches from a place the first one counts, with what its groups matched.
It is found without going through the others. A sequence takes what its first part prefers, if its second
part matches after that. A greedy repetition of a set takes its characters as far as they go. And where
whatever the first part takes leads to the same end, its preferences make no difference.

Dropping later outcomes for an end keeps the first one. In a walk over the heads of a repetition, the
first outcome found is that of the head where the preferred rounds stop.

## Main definitions

* `Pattern.Rounds.Leads` — the preferred rounds lead from a head to where they stop
* `Pattern.Takes` — the piece that a pattern prefers, with what its groups matched
* `Pattern.IsFullRun` — a run of a set, as long as it may be

## Main results

* `Pattern.takes_seq`, `Pattern.takes_run`, `Pattern.takes_optional` — what patterns prefer
* `Pattern.takes_seq_of_ends` — a sequence whose first part may take more or less
* `Pattern.exists_findFrom?_of_takes` — the first match is the preferred one at the first place
-/

namespace Concordance

namespace Pattern

/-! ### First outcomes of lists -/

theorem head?_distinct (os : List Outcome) : (distinct os).head? = os.head? := by
  match os with
  | [] | [_] => rfl
  | o :: o' :: os => simp [distinct, distinctFrom]

theorem head?_chain (os : List Outcome) (f : Nat → List Outcome) :
    (chain os f).head? = (os.flatMap fun o => (f o.stop).map o.append).head? := by
  match os with
  | [] => rfl
  | [o] => simp [chain]
  | _ :: _ :: _ => exact head?_distinct _

theorem chain_singleton (o : Outcome) (f : Nat → List Outcome) :
    chain [o] f = (f o.stop).map o.append := rfl

/-- A list of lists starts with the start of one of them. -/
theorem exists_head?_of_flatMap {α β : Type} {xs : List α} {f : α → List β} {y : β}
    (h : (xs.flatMap f).head? = some y) : ∃ x ∈ xs, (f x).head? = some y := by
  induction xs with
  | nil => cases h
  | cons x xs ih =>
    rw [List.flatMap_cons, List.head?_append, Option.or_eq_some_iff] at h
    obtain h | ⟨-, h⟩ := h
    · exact ⟨x, List.mem_cons_self, h⟩
    · obtain ⟨x', hx', h⟩ := ih h
      exact ⟨x', List.mem_cons_of_mem _ hx', h⟩

/-! ### First outcomes of walks -/

namespace Rounds

variable {r : Rounds}

/-- The preferred rounds lead from a head to the outcome of the head where they stop. All heads on the
way are new. -/
inductive Leads (r : Rounds) : (fuel seen left : Nat) → Outcome → Outcome → Prop where
  /-- No round follows. -/
  | stop {fuel seen left : Nat} {o : Outcome}
      (hfresh : seen.testBit (left * r.width + o.stop) = false)
      (hlast : ∀ left', r.again left o.stop = some left' → r.body o.stop = []) :
      Leads r (fuel + 1) seen left o o
  /-- The first outcome of a round leads on. -/
  | round {fuel seen left left' : Nat} {o o₁ o' : Outcome} {os : List Outcome}
      (hfresh : seen.testBit (left * r.width + o.stop) = false)
      (hagain : r.again left o.stop = some left') (hbody : r.body o.stop = o₁ :: os)
      (hrest : Leads r fuel (seen ||| 1 <<< (left * r.width + o.stop)) left' (o.append o₁) o') :
      Leads r (fuel + 1) seen left o o'

theorem suffix_foldl {f : Walk → Outcome → Walk} (hf : ∀ w o, w.found <:+ (f w o).found)
    (os : List Outcome) (w : Walk) : w.found <:+ (os.foldl f w).found := by
  induction os generalizing w with
  | nil => exact List.suffix_rfl
  | cons o os ih => exact (hf w o).trans (ih (f w o))

/-- A walk only adds to what has been found. -/
theorem suffix_visit (r : Rounds) (fuel : Nat) (w : Walk) (left : Nat) (o : Outcome) :
    w.found <:+ (r.visit fuel w left o).found := by
  induction fuel generalizing w left o with
  | zero => exact List.suffix_rfl
  | succ fuel ih =>
    by_cases htaken : r.Taken w left o.stop
    · have hsame : r.visit (fuel + 1) w left o = w := visit_of_taken htaken
      exact hsame.symm ▸ List.suffix_rfl
    · have honward : ∀ w : Walk, w.found <:+ (r.onward fuel w left o).found := by
        intro w
        rw [onward]
        split
        · exact suffix_foldl (fun w o' => ih w _ _) _ _
        · exact List.suffix_rfl
      rw [visit_of_not_taken htaken]
      split
      · exact (honward (r.mark w left o.stop)).trans (List.suffix_cons _ _)
      · exact (List.suffix_cons o w.found).trans (honward ((r.mark w left o.stop).push o))

/-- **The first outcome that a greedy walk finds** is where the preferred rounds stop. -/
theorem Leads.first_visit (hgreedy : r.greedy = true) {fuel seen left : Nat} {o o' : Outcome}
    (h : r.Leads fuel seen left o o') : [o'] <:+ (r.visit fuel ⟨seen, []⟩ left o).found := by
  induction h with
  | @stop fuel seen left o hfresh hlast =>
    have htaken : ¬ r.Taken ⟨seen, []⟩ left o.stop := by simp [Taken, hfresh]
    rw [visit_of_not_taken htaken, if_pos hgreedy, onward]
    split
    · rename_i left' hagain
      rw [hlast left' hagain]
      exact List.suffix_rfl
    · exact List.suffix_rfl
  | @round fuel seen left left' o o₁ o' os hfresh hagain hbody hrest ih =>
    have htaken : ¬ r.Taken ⟨seen, []⟩ left o.stop := by simp [Taken, hfresh]
    rw [visit_of_not_taken htaken, if_pos hgreedy, onward, hagain]
    have hothers := suffix_foldl (fun w o' => suffix_visit r fuel w left' (o.append o')) os
      (r.visit fuel (r.mark ⟨seen, []⟩ left o.stop) left' (o.append o₁))
    refine (ih.trans ?_).trans (List.suffix_cons _ _)
    rw [hbody]
    exact hothers

end Rounds

section

variable {body : Nat → List Outcome} {size count i : Nat} {o : Outcome}

theorem head?_reverse_of_suffix {α : Type} {x : α} {xs : List α} (h : [x] <:+ xs) :
    xs.reverse.head? = some x := by
  obtain ⟨ys, rfl⟩ := h
  simp

theorem head?_upTo (h : (boundedRounds body true size).Leads (count + 1) 0 count (.here i) o) :
    (upTo body true size count i).head? = some o := by
  rw [upTo, head?_distinct]
  exact head?_reverse_of_suffix (h.first_visit rfl)

theorem head?_oneOrMore {o₁ : Outcome} {os : List Outcome} (hbody : body i = o₁ :: os)
    (h : (freeRounds body true size i).Leads (size + 1) 0 0 o₁ o) :
    (oneOrMore body true size i).head? = some o := by
  have hothers := Rounds.suffix_foldl
    (fun w o' => Rounds.suffix_visit (freeRounds body true size i) (size + 1) w 0 o') os
    ((freeRounds body true size i).visit (size + 1) ⟨0, []⟩ 0 o₁)
  rw [oneOrMore, hbody]
  exact head?_reverse_of_suffix ((h.first_visit rfl).trans hothers)

end

/-! ### What is preferred -/

/-- What a capture says: the number of the group and what it matched. -/
def said (t : Array Char) (c : Capture) : Nat × List Char := (c.index, Match.slice t c.start c.stop)

/-- The piece that a pattern prefers after what stands before, with what its groups matched. -/
def Takes (p : Pattern) (before piece after : List Char) (groups : List (Nat × List Char)) : Prop :=
  ∃ captures, (p.outcomes (before ++ (piece ++ after)).toArray before.length).head?
      = some ⟨before.length + piece.length, captures⟩ ∧
    captures.map (said (before ++ (piece ++ after)).toArray) = groups

variable {p q : Pattern} {xs r s ys : List Char} {gs hs : List (Nat × List Char)}

theorem slice_append (xs r ys : List Char) :
    Match.slice (xs ++ (r ++ ys)).toArray xs.length (xs.length + r.length) = r := by
  simp [Match.slice]

theorem Takes.opens (hp : p.InOrder) (h : p.Takes xs r ys gs) : p.Opens xs (r ++ ys) := by
  obtain ⟨captures, hhead, -⟩ := h
  refine ⟨r, ys, rfl, ?_⟩
  have hspans := spans_of_mem_outcomes hp (List.mem_of_head? hhead)
  rwa [Covers, List.append_assoc]

/-- An outcome matches a piece. -/
theorem exists_covers_of_mem_outcomes (hp : p.InOrder) {o : Outcome}
    (ho : o ∈ p.outcomes (xs ++ s).toArray xs.length) :
    ∃ r ys, s = r ++ ys ∧ o.stop = xs.length + r.length ∧ p.Covers xs r ys := by
  have hspans := spans_of_mem_outcomes hp ho
  obtain ⟨hle, hsize⟩ := forward_spans _ p _ _ hspans
  have hle' : o.stop ≤ xs.length + s.length := by simpa using hsize (by simp)
  obtain ⟨r, ys, rfl, hstop⟩ := exists_split hle hle'
  rw [hstop] at hspans
  exact ⟨r, ys, rfl, hstop, by rwa [Covers, List.append_assoc]⟩

/-- Where a pattern does not match there is no outcome. -/
theorem outcomes_eq_nil (hp : p.InOrder) (h : ¬ p.Opens xs s) :
    p.outcomes (xs ++ s).toArray xs.length = [] := by
  rw [List.eq_nil_iff_forall_not_mem]
  intro o ho
  obtain ⟨r, ys, rfl, -, hcovers⟩ := exists_covers_of_mem_outcomes hp ho
  exact h ⟨r, ys, rfl, hcovers⟩

/-- A sequence matches where its second part matches after its first. -/
theorem opens_seq (hp : p.Covers xs r s) (hq : q.Opens (xs ++ r) s) : (seq p q).Opens xs (r ++ s) := by
  obtain ⟨r', ys, rfl, hq⟩ := hq
  exact ⟨r ++ r', ys, (List.append_assoc ..).symm, covers_seq.mpr ⟨r, r', rfl, hp, hq⟩⟩

/-- Where a pattern matches it prefers something. -/
theorem exists_head?_outcomes (hp : p.InOrder) (h : p.Opens xs s) :
    ∃ o, (p.outcomes (xs ++ s).toArray xs.length).head? = some o := by
  obtain ⟨r, ys, rfl, hcovers⟩ := h
  rw [Covers, List.append_assoc] at hcovers
  obtain ⟨o, ho, -⟩ := exists_outcome_of_spans hp (by simp) hcovers
  rw [← Option.ne_none_iff_exists', ne_eq, List.head?_eq_none_iff]
  exact List.ne_nil_of_mem ho

theorem takes_empty : empty.Takes xs [] ys [] := ⟨[], rfl, rfl⟩

theorem takes_anchor {a : Anchor} (h : a.holds (xs ++ ys).toArray xs.length = true) :
    (anchor a).Takes xs [] ys [] :=
  ⟨[], by simp [outcomes, h, Outcome.here], rfl⟩

/-- An edge of a word is taken. -/
theorem takes_wordEdge (h : xs.getLast?.any Text.isWordChar ≠ ys.head?.any Text.isWordChar) :
    wordEdge.Takes xs [] ys [] := by
  have hcovers : wordEdge.Covers xs [] ys := covers_wordEdge.mpr ⟨rfl, h⟩
  refine takes_anchor ?_
  simpa only [List.append_nil] using hcovers.2

theorem takes_set {s : CharSet} {c : Char} (h : s.mem c = true) : (set s).Takes xs [c] ys [] :=
  ⟨[], by simp [outcomes, h, Outcome.here], rfl⟩

theorem takes_group (h : p.Takes xs r ys gs) (index : Nat) :
    (group index p).Takes xs r ys ((index, r) :: gs) := by
  obtain ⟨captures, hhead, rfl⟩ := h
  exact ⟨⟨index, _, _⟩ :: captures, by rw [outcomes, List.head?_map, hhead]; rfl,
    by rw [List.map_cons, said, slice_append]⟩

/-- **A sequence takes what its parts prefer**, one after the other. -/
theorem takes_seq (hp : p.Takes xs r (s ++ ys) gs) (hq : q.Takes (xs ++ r) s ys hs) :
    (seq p q).Takes xs (r ++ s) ys (hs ++ gs) := by
  obtain ⟨captures, hp, rfl⟩ := hp
  obtain ⟨captures', hq, rfl⟩ := hq
  rw [List.append_assoc, List.length_append] at hq
  have htext : xs ++ (r ++ s ++ ys) = xs ++ (r ++ (s ++ ys)) := by rw [List.append_assoc]
  refine ⟨captures' ++ captures, ?_, by rw [htext, List.map_append, List.append_assoc xs r]⟩
  obtain ⟨os, hos⟩ := List.head?_eq_some_iff.mp hp
  rw [htext, outcomes, head?_chain, hos, List.flatMap_cons, List.head?_append, List.head?_map, hq,
    List.length_append, ← Nat.add_assoc]
  rfl

theorem takes_ofSeq_cons {ps : List Pattern} {after : List Char} (hp : p.Takes xs r after gs)
    (hps : (ofSeq ps).Takes (xs ++ r) s ys hs) (hafter : after = s ++ ys) :
    (ofSeq (p :: ps)).Takes xs (r ++ s) ys (hs ++ gs) := by
  subst hafter
  cases ps with
  | nil =>
    obtain ⟨captures, hhead, rfl⟩ := hps
    obtain ⟨hstop, rfl⟩ := Outcome.mk.inj (Option.some.inj hhead)
    obtain rfl : s = [] := by simpa using hstop
    simpa [ofSeq] using hp
  | cons q ps => exact takes_seq hp hps

/-- Where its first alternative does not match, an alternation takes what the second one prefers. -/
theorem takes_alt_right (hp : p.InOrder) (hnone : ¬ p.Opens xs (r ++ ys)) (hq : q.Takes xs r ys gs) :
    (alt p q).Takes xs r ys gs := by
  obtain ⟨captures, hhead, hgroups⟩ := hq
  refine ⟨captures, ?_, hgroups⟩
  rw [outcomes, outcomes_eq_nil hp hnone, List.nil_append, head?_distinct, hhead]

/-- Sets one after another take what they match, and what follows them takes the rest. -/
theorem takes_sets_append {cs : List Char} {f : Char → CharSet} {ps : List Pattern}
    (h : (ofSeq (cs.map fun c => set (f c))).Covers xs r (s ++ ys))
    (hps : (ofSeq ps).Takes (xs ++ r) s ys gs) :
    (ofSeq (cs.map (fun c => set (f c)) ++ ps)).Takes xs (r ++ s) ys gs := by
  induction cs generalizing xs r with
  | nil =>
    obtain rfl := covers_ofSeq_nil.mp h
    simpa using hps
  | cons c cs ih =>
    obtain ⟨_, r, rfl, hfirst, hrest⟩ := covers_ofSeq_cons.mp h
    obtain ⟨d, rfl, hd⟩ := covers_set.mp hfirst
    have hrest' := ih hrest (by simpa using hps)
    simpa using takes_ofSeq_cons (takes_set hd) hrest' rfl

/-! ### Repetitions of sets -/

section

variable {s : CharSet} {t : Array Char}

theorem outcomes_set_of_mem {c : Char} (hc : s.mem c = true) (xs ys : List Char) :
    (set s).outcomes (xs ++ c :: ys).toArray xs.length = [.here (xs.length + 1)] := by
  simp [outcomes, hc]

theorem outcomes_set_of_not_mem (hys : ∀ c ∈ ys.head?, s.mem c = false) (xs : List Char) :
    (set s).outcomes (xs ++ ys).toArray xs.length = [] := by
  cases ys with
  | nil => simp [outcomes]
  | cons c ys => simp [outcomes, hys c rfl]

/-- The rounds of a set go from character to character, as long as a round may follow. The rounds left
are given by how many characters have been taken. -/
theorem leads_set {R : Rounds} (hbody : R.body = (set s).outcomes t) (hwidth : R.width = t.size + 1)
    (lefts : Nat → Nat) (n fuel seen : Nat) (xs r ys : List Char) (ht : t = (xs ++ (r ++ ys)).toArray)
    (hr : ∀ c ∈ r, s.mem c = true)
    (hagain : ∀ k < r.length, R.again (lefts (n + k)) (xs.length + k) = some (lefts (n + (k + 1))))
    (hlast : ∀ left', R.again (lefts (n + r.length)) (xs.length + r.length) = some left' →
      ∀ c ∈ ys.head?, s.mem c = false)
    (hfuel : r.length < fuel)
    (hseen : ∀ left stop, stop < R.width → seen.testBit (left * R.width + stop) = true →
      stop < xs.length) :
    R.Leads fuel seen (lefts n) (.here xs.length) (.here (xs.length + r.length)) := by
  induction r generalizing n fuel seen xs with
  | nil =>
    obtain ⟨fuel, rfl⟩ := Nat.exists_eq_succ_of_ne_zero (Nat.ne_of_gt hfuel)
    refine .stop (Bool.eq_false_iff.mpr fun h => ?_) fun left' h => ?_
    · refine Nat.lt_irrefl _ (hseen _ xs.length ?_ h)
      rw [hwidth, ht]
      simp only [List.size_toArray, List.length_append]
      omega
    · rw [hbody, ht]
      exact outcomes_set_of_not_mem (hlast left' h) xs
  | cons c r ih =>
    obtain ⟨hc, hr⟩ := List.forall_mem_cons.mp hr
    obtain ⟨fuel, rfl⟩ := Nat.exists_eq_succ_of_ne_zero (Nat.ne_of_gt (Nat.zero_lt_of_lt hfuel))
    have hxs : xs.length < R.width := by
      rw [hwidth, ht]
      simp only [List.size_toArray, List.length_append]
      omega
    have hround : R.body xs.length = [.here (xs.length + 1)] := by
      rw [hbody, ht]
      exact outcomes_set_of_mem hc xs (r ++ ys)
    have hplace : ∀ k, (xs ++ [c]).length + k = xs.length + (k + 1) := by
      intro k
      rw [List.length_append, List.length_singleton]
      omega
    have hcount : ∀ k, n + 1 + k = n + (k + 1) := by
      intro k
      omega
    refine .round (Bool.eq_false_iff.mpr fun h => Nat.lt_irrefl _ (hseen _ _ hxs h))
      (hagain 0 (Nat.succ_pos _)) hround ?_
    have hrest := ih (n + 1) fuel (seen ||| 1 <<< (lefts n * R.width + xs.length)) (xs ++ [c])
      (by rw [ht]; simp) hr (fun k hk => ?_) (fun left' h => hlast left' ?_)
      (Nat.lt_of_succ_lt_succ hfuel) fun left stop hstop h => ?_
    · rwa [hplace, List.length_append] at hrest
    · rw [hplace, hcount, hcount]
      exact hagain (k + 1) (Nat.succ_lt_succ hk)
    · rwa [hplace, hcount] at h
    · -- a head taken on the way is before the next one
      rw [testBit_mark, Bool.or_eq_true, decide_eq_true_eq] at h
      rw [List.length_append, List.length_singleton]
      obtain h | h := h
      · have := hseen left stop hstop h
        omega
      · have := (Rounds.eq_of_key_eq hstop hxs h).2
        omega

/-- A repetition of a set matches characters of the set, as many as its bounds allow. -/
theorem mem_of_covers_repeated {low : Nat} {high? : Option Nat} {greedy : Bool} {xs r ys : List Char}
    (h : (repeated (set s) low high? greedy).Covers xs r ys) :
    low ≤ r.length ∧ (∀ high ∈ high?, r.length ≤ high) ∧ ∀ c ∈ r, s.mem c = true := by
  obtain ⟨n, hlow, hhigh, htimes⟩ := times_of_chain h
  clear h
  suffices hrun : r.length = n ∧ ∀ c ∈ r, s.mem c = true by
    exact ⟨hrun.1 ▸ hlow, hrun.1 ▸ hhigh, hrun.2⟩
  clear hlow hhigh
  induction n generalizing xs r with
  | zero =>
    obtain rfl : r = [] := by simpa [Times] using htimes
    exact ⟨rfl, List.forall_mem_nil _⟩
  | succ n ih =>
    obtain ⟨k, hfirst, hrest⟩ := htimes
    obtain ⟨r₁, r₂, rfl, rfl⟩ := exists_split (forward_spans _ (set s) _ _ hfirst).1
      (Forward.times (forward_spans _ (set s)) hrest).1
    have hcovers : (set s).Covers xs r₁ (r₂ ++ ys) := by
      simpa only [Covers, List.append_assoc] using hfirst
    obtain ⟨c, rfl, hc⟩ := covers_set.mp hcovers
    have htimes : Times ((set s).Spans (xs ++ [c] ++ r₂ ++ ys).toArray) n (xs ++ [c]).length
        ((xs ++ [c]).length + r₂.length) := by
      simpa only [List.append_assoc, List.length_append, Nat.add_assoc] using hrest
    obtain ⟨hlength, hr₂⟩ := ih htimes
    exact ⟨congrArg Nat.succ hlength, List.forall_mem_cons.mpr ⟨hc, hr₂⟩⟩

/-- A run of a set, as long as an upper bound and what follows allow. -/
structure IsFullRun (s : CharSet) (high? : Option Nat) (r ys : List Char) : Prop where
  mem : ∀ c ∈ r, s.mem c = true
  length_le : ∀ high ∈ high?, r.length ≤ high
  full : high? = some r.length ∨ ∀ c ∈ ys.head?, s.mem c = false

/-- No piece of a text that keeps within the bound is longer than a full run. -/
theorem IsFullRun.length_le_of_append_eq {high? : Option Nat} {r ys r' ys' : List Char}
    (h : IsFullRun s high? r ys) (hr' : ∀ c ∈ r', s.mem c = true)
    (hhigh : ∀ high ∈ high?, r'.length ≤ high) (htext : r ++ ys = r' ++ ys') :
    r'.length ≤ r.length := by
  obtain ⟨m, rfl, rfl⟩ | ⟨m, rfl, rfl⟩ := List.append_eq_append_iff.mp htext
  · cases m with
    | nil => simp
    | cons c m =>
      obtain hfull | hstop := h.full
      · exact hhigh _ hfull
      · have hc := hr' c (by simp)
        rw [hstop c rfl] at hc
        cases hc
  · simp

/-- A text has one full run. -/
theorem IsFullRun.unique {high? : Option Nat} {r ys r' ys' : List Char} (h : IsFullRun s high? r ys)
    (h' : IsFullRun s high? r' ys') (htext : r ++ ys = r' ++ ys') : r = r' ∧ ys = ys' :=
  List.append_inj htext (Nat.le_antisymm (h'.length_le_of_append_eq h.mem h.length_le htext.symm)
    (h.length_le_of_append_eq h'.mem h'.length_le htext))

/-- As many rounds of a set as there are characters. -/
theorem exactly_set {n : Nat} {r : List Char} (hn : r.length = n) (hr : ∀ c ∈ r, s.mem c = true)
    (xs ys : List Char) :
    exactly ((set s).outcomes (xs ++ (r ++ ys)).toArray) n xs.length = [.here (xs.length + n)] := by
  induction n generalizing r ys with
  | zero => rfl
  | succ n ih =>
    obtain rfl | ⟨r, c, rfl⟩ := List.eq_nil_or_concat r
    · cases hn
    rw [List.concat_eq_append] at hn hr ⊢
    obtain ⟨hr, hc⟩ := List.forall_mem_append.mp hr
    have hlength : r.length = n := by simpa using hn
    have hrest := ih hlength hr (c :: ys)
    have hround := outcomes_set_of_mem (hc c (by simp)) (xs ++ r) ys
    have htext : xs ++ (r ++ [c] ++ ys) = xs ++ (r ++ c :: ys) := by simp
    rw [exactly] at hrest
    rw [List.append_assoc, List.length_append, hlength] at hround
    rw [exactly, Nat.repeat, htext, hrest, chain_singleton, Outcome.here, hround]
    rfl

theorem head?_upTo_set {n : Nat} {r ys : List Char} (h : IsFullRun s (some n) r ys) (xs : List Char) :
    (upTo ((set s).outcomes (xs ++ (r ++ ys)).toArray) true (xs ++ (r ++ ys)).toArray.size n
      xs.length).head? = some (.here (xs.length + r.length)) := by
  have hle : r.length ≤ n := h.length_le n rfl
  refine head?_upTo (leads_set rfl rfl (fun k => n - k) 0 _ 0 xs r ys rfl h.mem (fun k hk => ?_)
    (fun left' hagain => ?_) (Nat.lt_succ_of_le hle) fun left stop _ hseen => ?_)
  · rw [again_boundedRounds]
    omega
  · rw [again_boundedRounds] at hagain
    refine h.full.resolve_left fun hn => ?_
    have := Option.some.inj hn
    omega
  · rw [Nat.zero_testBit] at hseen
    cases hseen

theorem head?_oneOrMore_set {c : Char} {r ys : List Char} (h : IsFullRun s none (c :: r) ys)
    (xs : List Char) :
    (oneOrMore ((set s).outcomes (xs ++ (c :: r ++ ys)).toArray) true
      (xs ++ (c :: r ++ ys)).toArray.size xs.length).head?
        = some (.here (xs.length + (c :: r).length)) := by
  obtain ⟨hc, hr⟩ := List.forall_mem_cons.mp h.mem
  have hlength : (xs ++ [c]).length = xs.length + 1 := by simp
  have hleads := leads_set (R := freeRounds _ true (xs ++ (c :: r ++ ys)).toArray.size xs.length) rfl rfl
    (fun _ => 0) 0 ((xs ++ (c :: r ++ ys)).toArray.size + 1) 0 (xs ++ [c]) r ys (by simp) hr
    (fun k hk => by rw [again_freeRounds, hlength]; exact ⟨by omega, rfl⟩)
    (fun _ _ => h.full.resolve_left fun hn => nomatch hn) (by simp; omega)
    fun left stop _ hseen => by rw [Nat.zero_testBit] at hseen; cases hseen
  rw [hlength, Nat.add_assoc, Nat.add_comm 1 r.length] at hleads
  exact head?_oneOrMore (outcomes_set_of_mem hc xs (r ++ ys)) hleads

/-- What comes after the rounds that must be made starts where they end. -/
theorem head?_chain_exactly {r₁ : List Char} {f : Nat → List Outcome} {stop : Nat}
    (hr₁ : ∀ c ∈ r₁, s.mem c = true) (xs ys : List Char)
    (h : (f (xs.length + r₁.length)).head? = some (.here stop)) :
    (chain (exactly ((set s).outcomes (xs ++ (r₁ ++ ys)).toArray) r₁.length xs.length) f).head?
      = some (.here stop) := by
  rw [exactly_set rfl hr₁, chain_singleton, List.head?_map]
  exact congrArg (Option.map _) h

/-- **A greedy repetition of a set takes a run as long as it may be.** -/
theorem takes_run {low : Nat} {high? : Option Nat} {r ys : List Char} (h : IsFullRun s high? r ys)
    (hlow : low ≤ r.length) (xs : List Char) : (repeated (set s) low high? true).Takes xs r ys [] := by
  refine ⟨[], ?_, rfl⟩
  change (rounds _ true _ low high? xs.length).head? = some (.here (xs.length + r.length))
  have hsplit : ∀ n ≤ r.length, ∃ r₁ r₂, r = r₁ ++ r₂ ∧ r₁.length = n := fun n hn =>
    ⟨r.take n, r.drop n, (List.take_append_drop n r).symm, List.length_take_of_le hn⟩
  match low, high? with
  | 0, none =>
    rw [rounds, zeroOrMore, if_pos rfl, head?_distinct, List.head?_append]
    cases r with
    | nil =>
      have hround := outcomes_set_of_not_mem (h.full.resolve_left (by simp)) xs
      rw [oneOrMore, List.nil_append, hround]
      rfl
    | cons c r => rw [head?_oneOrMore_set h, Option.some_or]
  | low + 1, none =>
    obtain ⟨r₁, r₂, rfl, rfl⟩ := hsplit low (Nat.le_of_succ_le hlow)
    obtain ⟨c, r₂, rfl⟩ := List.exists_cons_of_length_pos
      (l := r₂) (by rw [List.length_append] at hlow; omega)
    obtain ⟨hr₁, hr₂⟩ := List.forall_mem_append.mp h.mem
    have hrest := head?_oneOrMore_set (s := s) ⟨hr₂, by simp, .inr (h.full.resolve_left (by simp))⟩
      (xs ++ r₁)
    simp only [List.append_assoc, List.length_append, rounds] at hrest ⊢
    refine head?_chain_exactly hr₁ xs (c :: r₂ ++ ys) ?_
    rw [← Nat.add_assoc]
    exact hrest
  | low, some high =>
    obtain ⟨r₁, r₂, rfl, rfl⟩ := hsplit low hlow
    obtain ⟨hr₁, hr₂⟩ := List.forall_mem_append.mp h.mem
    have hle := h.length_le high rfl
    have hfull : IsFullRun s (some (high - r₁.length)) r₂ ys := by
      rw [List.length_append] at hle
      refine ⟨hr₂, by simp; omega, ?_⟩
      refine h.full.imp_left fun hn => ?_
      have := Option.some.inj hn
      rw [List.length_append] at this
      exact congrArg some (by omega)
    have hrest := head?_upTo_set hfull (xs ++ r₁)
    simp only [List.append_assoc, List.length_append, rounds] at hrest ⊢
    refine head?_chain_exactly hr₁ xs (r₂ ++ ys) ?_
    rw [← Nat.add_assoc]
    exact hrest

end

/-! ### Optional parts -/

@[simp] theorem here_append (i : Nat) (o : Outcome) : (Outcome.here i).append o = o := by
  cases o
  simp [Outcome.here, Outcome.append]

/-- A repetition of at most one round makes that round or none. -/
theorem outcomes_optional (p : Pattern) (t : Array Char) (i : Nat) :
    (repeated p 0 (some 1) true).outcomes t i = upTo (p.outcomes t) true t.size 1 i := by
  rw [outcomes, rounds, exactly, Nat.repeat, chain_singleton, funext (here_append i), List.map_id']
  rfl

/-- An optional part matches nothing or what the part matches. -/
theorem covers_optional {greedy : Bool} :
    (repeated p 0 (some 1) greedy).Covers xs r ys ↔ r = [] ∨ p.Covers xs r ys := by
  constructor
  · intro h
    obtain ⟨n, -, hhigh, htimes⟩ := times_of_chain h
    match n with
    | 0 => exact .inl (by simpa [Times] using htimes)
    | 1 =>
      obtain ⟨k, hfirst, rfl⟩ := htimes
      exact .inr hfirst
    | n + 2 =>
      have := hhigh 1 rfl
      omega
  · rintro (rfl | h)
    · exact .nil
    · exact .cons h (by simp) .nil

/-- **An optional part is taken** if it matches. -/
theorem takes_optional (h : p.Takes xs r ys gs) : (repeated p 0 (some 1) true).Takes xs r ys gs := by
  obtain ⟨captures, hhead, hgroups⟩ := h
  obtain ⟨os, hos⟩ := List.head?_eq_some_iff.mp hhead
  have hstop : xs.length + r.length < (xs ++ (r ++ ys)).toArray.size + 1 := by
    simp only [List.size_toArray, List.length_append]
    omega
  refine ⟨captures, ?_, hgroups⟩
  rw [outcomes_optional]
  refine head?_upTo (.round (Nat.zero_testBit _) rfl hos ?_)
  rw [here_append]
  refine .stop ?_ fun left' hagain => ?_
  · -- the head after the round is another one, as no round is left
    rw [testBit_mark, Nat.zero_testBit, Bool.false_or, decide_eq_false_iff_not]
    change ¬ 1 * ((xs ++ (r ++ ys)).toArray.size + 1) + xs.length
      = 0 * ((xs ++ (r ++ ys)).toArray.size + 1) + (xs.length + r.length)
    omega
  · rw [again_boundedRounds] at hagain
    cases hagain

/-- An optional part that does not match is left out. -/
theorem takes_optional_nil (hp : p.InOrder) (h : ¬ p.Opens xs ys) :
    (repeated p 0 (some 1) true).Takes xs [] ys [] := by
  refine ⟨[], ?_, rfl⟩
  rw [outcomes_optional]
  exact head?_upTo (.stop (Nat.zero_testBit _) fun _ _ => outcomes_eq_nil hp h)

/-! ### Patterns without groups -/

/-- A pattern without groups. -/
def IsPlain : Pattern → Prop
  | empty | set _ | anchor _ => True
  | group _ _ => False
  | seq p q | alt p q => p.IsPlain ∧ q.IsPlain
  | repeated p _ _ _ => p.IsPlain

/-- Nothing is kept of any outcome. -/
def KeepNothing (os : List Outcome) : Prop := ∀ o ∈ os, o.captures = []

theorem append_captures {o o' : Outcome} (h : o.captures = []) (h' : o'.captures = []) :
    (o.append o').captures = [] := by
  simp [Outcome.append, h, h']

theorem isAlong_keepNothing : IsAlong fun _ o => o.captures = [] where
  here _ := rfl
  append := append_captures

/-- Where there are no groups, nothing is kept. -/
theorem keepNothing_outcomes (hp : p.IsPlain) (t : Array Char) (i : Nat) :
    KeepNothing (p.outcomes t i) := by
  induction p generalizing i with
  | empty => exact List.forall_mem_singleton.mpr rfl
  | set s =>
    rw [outcomes]
    split
    · split
      · exact List.forall_mem_singleton.mpr rfl
      · exact List.forall_mem_nil _
    · exact List.forall_mem_nil _
  | anchor a =>
    rw [outcomes]
    split
    · exact List.forall_mem_singleton.mpr rfl
    · exact List.forall_mem_nil _
  | group _ _ => exact hp.elim
  | seq p q ihp ihq => exact isAlong_keepNothing.chain (i := i) (ihp hp.1 i) (ihq hp.2)
  | alt p q ihp ihq =>
    exact forall_mem_distinct (List.forall_mem_append.mpr ⟨ihp hp.1 i, ihq hp.2 i⟩)
  | repeated p low high? greedy ih => exact isAlong_keepNothing.rounds (ih hp) greedy _ low high? i

/-- **A sequence whose first part may take more or less**: if the second part takes the rest of one piece
after whatever the first part takes, then the sequence takes that piece. -/
theorem takes_seq_of_ends (hpq : (seq p q).InOrder) (hp : p.IsPlain)
    (hopens : (seq p q).Opens xs (r ++ ys))
    (hends : ∀ r₁ s, r ++ ys = r₁ ++ s → p.Covers xs r₁ s → q.Opens (xs ++ r₁) s →
      ∃ r₂, r = r₁ ++ r₂ ∧ q.Takes (xs ++ r₁) r₂ ys []) : (seq p q).Takes xs r ys [] := by
  obtain ⟨o, ho⟩ := exists_head?_outcomes hpq hopens
  refine ⟨[], ho.trans (congrArg some ?_), rfl⟩
  rw [outcomes, head?_chain] at ho
  obtain ⟨o₁, ho₁, hrest⟩ := exists_head?_of_flatMap ho
  rw [List.head?_map, Option.map_eq_some_iff] at hrest
  obtain ⟨o₂, ho₂, rfl⟩ := hrest
  -- the first part takes a piece, and the second part the rest
  obtain ⟨r₁, s, htext, hstop, hcovers⟩ := exists_covers_of_mem_outcomes hpq.1 ho₁
  rw [htext, ← List.append_assoc, hstop, ← List.length_append] at ho₂
  have hopens' : q.Opens (xs ++ r₁) s := by
    obtain ⟨r₂, ys', rfl, -, hcovers⟩ := exists_covers_of_mem_outcomes hpq.2 (List.mem_of_head? ho₂)
    exact ⟨r₂, ys', rfl, hcovers⟩
  obtain ⟨r₂, rfl, captures, hhead, hnone⟩ := hends r₁ s htext hcovers hopens'
  obtain rfl : s = r₂ ++ ys := by simpa using htext.symm
  obtain rfl := Option.some.inj (ho₂.symm.trans hhead)
  have hkept : o₁.captures = [] := keepNothing_outcomes hp _ _ o₁ ho₁
  obtain rfl := List.map_eq_nil_iff.mp hnone
  simp [Outcome.append, hkept, Nat.add_assoc]

/-! ### First matches -/

theorem findFrom?_of_le (p : Pattern) {t : Array Char} {i : Nat} (hi : i ≤ t.size) :
    p.findFrom? t i = (p.matchAt? t i).or (p.findFrom? t (i + 1)) := by
  obtain ⟨count, hcount⟩ : ∃ count, t.size + 1 - i = count + 1 := ⟨t.size - i, by omega⟩
  have hrest : t.size + 1 - (i + 1) = count := by omega
  rw [findFrom?, hcount, findAmong, findFrom?, hrest]
  cases p.matchAt? t i <;> rfl

theorem findFrom?_of_gt (p : Pattern) {t : Array Char} {i : Nat} (hi : t.size < i) :
    p.findFrom? t i = none := by
  rw [findFrom?, Nat.sub_eq_zero_of_le hi]
  rfl

/-- Where a pattern does not match, it is looked for further on. -/
theorem findFrom?_of_not_opens (hp : p.InOrder) {c : Char} (h : ¬ p.Opens xs (c :: s)) :
    p.findFrom? (xs ++ c :: s).toArray xs.length
      = p.findFrom? (xs ++ [c] ++ s).toArray (xs ++ [c]).length := by
  rw [findFrom?_of_le p (by simp), matchAt?, outcomes_eq_nil hp h, List.append_assoc,
    List.length_append]
  rfl

/-- A pattern that matches nowhere is not found. -/
theorem findFrom?_eq_none (hp : p.InOrder)
    (h : ∀ s₁ s₂, s = s₁ ++ s₂ → ¬ p.Opens (xs ++ s₁) s₂) :
    p.findFrom? (xs ++ s).toArray xs.length = none := by
  have hfirst : ¬ p.Opens xs s := by simpa using h [] s rfl
  induction s generalizing xs with
  | nil =>
    rw [findFrom?_of_le p (by simp), matchAt?, outcomes_eq_nil hp hfirst,
      findFrom?_of_gt p (by simp)]
    rfl
  | cons c s ih =>
    have hrest : ∀ s₁ s₂, s = s₁ ++ s₂ → ¬ p.Opens (xs ++ [c] ++ s₁) s₂ := fun s₁ s₂ hs => by
      rw [List.append_assoc]
      exact h (c :: s₁) s₂ (by rw [hs]; rfl)
    rw [findFrom?_of_not_opens hp hfirst]
    exact ih hrest (by simpa using hrest [] s rfl)

/-- **The first match is the preferred one at the first place** where the pattern matches. -/
theorem exists_findFrom?_of_takes (hp : p.InOrder) {us : List Char}
    (hfirst : ∀ us₁ us₂, us = us₁ ++ us₂ → us₂ ≠ [] → ¬ p.Opens (xs ++ us₁) (us₂ ++ (r ++ ys)))
    (h : p.Takes (xs ++ us) r ys gs) :
    ∃ m, p.findFrom? (xs ++ us ++ (r ++ ys)).toArray xs.length = some m ∧
      m.start = (xs ++ us).length ∧ m.stop = (xs ++ us ++ r).length ∧
      m.captures.map (said (xs ++ us ++ (r ++ ys)).toArray) = gs := by
  induction us generalizing xs with
  | nil =>
    obtain ⟨captures, hhead, hgroups⟩ := h
    simp only [List.append_nil] at hhead hgroups ⊢
    refine ⟨⟨xs.length, xs.length + r.length, captures⟩, ?_, rfl, by simp, hgroups⟩
    rw [findFrom?_of_le p (by simp), matchAt?, hhead]
    rfl
  | cons c us ih =>
    have hstart : ¬ p.Opens xs (c :: (us ++ (r ++ ys))) := by
      simpa using hfirst [] (c :: us) rfl (List.cons_ne_nil _ _)
    have htext : xs ++ c :: us = xs ++ [c] ++ us := by simp
    rw [htext] at h ⊢
    have hrest : p.findFrom? (xs ++ [c] ++ us ++ (r ++ ys)).toArray xs.length
        = p.findFrom? (xs ++ [c] ++ us ++ (r ++ ys)).toArray (xs ++ [c]).length := by
      simpa using findFrom?_of_not_opens hp hstart
    rw [hrest]
    refine ih (fun us₁ us₂ hus hne => ?_) h
    rw [List.append_assoc]
    exact hfirst (c :: us₁) us₂ (by rw [hus]; rfl) hne

theorem group?_eq (t : Array Char) (m : Match) {index : Nat} (hindex : index ≠ 0) :
    m.group? t index
      = ((m.captures.map (said t)).find? (·.1 == index)).map Prod.snd := by
  rw [Match.group?, if_neg hindex, List.find?_map, Option.map_map]
  rfl

end Pattern

end Concordance
