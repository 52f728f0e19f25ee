import Concordance.Passage.Walk
import Concordance.Proofs.Passage.Places

/-!
# Walks take a passage apart

At every moment of a walk the verses left behind at the front, those that are left, and those left behind
at the back are, one after another, the verses of the passage. Each reply is read off the verses that are
left, so the two ends never meet, and a walk that has ended stays so.

## Main definitions

* `Passage.Ask.due` — the reply that is due when given verses are left
* `Passage.Ask.leave` — the verses that are left then
* `Passage.Cursor.IsIn` — both ends of a walk lie in the passage

## Main results

* `Passage.Cursor.ask_eq` — one ask
* `Passage.Cursor.toList_eq_run` — the verses of a walk after any number of asks
* `Passage.Cursor.ask_nth` — passing over verses at once, and one by one
* `Passage.walk_exact` — a walk loses no verse and repeats none
-/

namespace Concordance.Passage

/-! ### Replies from the verses that are left -/

/-- The reply that is due when the verses of `left` are left. -/
def Ask.due (left : List Verse) : Ask → Reply
  | .front => ⟨.verse left.head?, left.take 1, []⟩
  | .back => ⟨.verse left.getLast?, [], left.reverse.take 1⟩
  | .nth n => ⟨.verse left[n]?, left.take (n + 1), []⟩
  | .remaining => ⟨.count left.length, [], []⟩

/-- The verses that are left after an ask. -/
def Ask.leave (left : List Verse) : Ask → List Verse
  | .front => left.tail
  | .back => left.dropLast
  | .nth n => left.drop (n + 1)
  | .remaining => left

/-- **An ask takes apart what is left.** -/
theorem Ask.fronts_append_leave (left : List Verse) (ask : Ask) :
    (ask.due left).fronts ++ ask.leave left ++ (ask.due left).backs.reverse = left := by
  cases ask with
  | front => cases left <;> simp [due, leave]
  | back =>
    rcases left.eq_nil_or_concat with rfl | ⟨init, v, rfl⟩ <;> simp [due, leave]
  | nth n => simp [due, leave]
  | remaining => simp [due, leave]

/-- Where no verse is answered, none is left after it. -/
theorem Ask.leave_eq_nil {left : List Verse} {ask : Ask} (h : (ask.due left).answer = .verse none) :
    ask.leave left = [] := by
  cases ask with
  | front =>
    simp only [due, Answer.verse.injEq, List.head?_eq_none_iff] at h
    rw [leave, h, List.tail_nil]
  | back =>
    simp only [due, Answer.verse.injEq, List.getLast?_eq_none_iff] at h
    rw [leave, h, List.dropLast_nil]
  | nth n =>
    simp only [due, Answer.verse.injEq, List.getElem?_eq_none_iff] at h
    exact List.drop_eq_nil_of_le (Nat.le_succ_of_le h)
  | remaining => simp [due] at h

namespace Cursor

variable {p : Passage} {c : Cursor}

/-! ### One ask -/

theorem length_toList (c : Cursor) : c.toList.length = c.remaining := by
  rw [toList, List.length_map, List.length_range']

theorem toList_eq_nil (h : c.stop ≤ c.next) : c.toList = [] := by
  rw [← List.length_eq_zero_iff, length_toList, remaining]
  omega

theorem toList_eq_cons (h : c.next < c.stop) :
    c.toList = .ofOrdinal c.next :: toList { c with next := c.next + 1 } := by
  have hremaining : c.remaining = remaining { c with next := c.next + 1 } + 1 := by
    simp only [remaining]
    omega
  rw [toList, hremaining, List.range'_succ, List.map_cons]
  rfl

theorem toList_eq_concat (h : c.next < c.stop) :
    c.toList = toList { c with stop := c.stop - 1 } ++ [.ofOrdinal (c.stop - 1)] := by
  have hremaining : c.remaining = remaining { c with stop := c.stop - 1 } + 1 := by
    simp only [remaining]
    omega
  have hlast : c.next + remaining { c with stop := c.stop - 1 } = c.stop - 1 := by
    simp only [remaining]
    omega
  rw [toList, hremaining, List.range'_concat, List.map_append, List.map_singleton, Nat.one_mul, hlast]
  rfl

/-- **The next verse from the front.** -/
theorem takeFront_eq (c : Cursor) :
    c.takeFront.1 = c.toList.head? ∧ c.takeFront.2.toList = c.toList.tail := by
  rw [takeFront]
  split
  · rename_i h
    rw [toList_eq_cons h]
    exact ⟨rfl, rfl⟩
  · rename_i h
    rw [toList_eq_nil (Nat.le_of_not_lt h)]
    exact ⟨rfl, rfl⟩

/-- **The next verse from the back.** -/
theorem takeBack_eq (c : Cursor) :
    c.takeBack.1 = c.toList.getLast? ∧ c.takeBack.2.toList = c.toList.dropLast := by
  rw [takeBack]
  split
  · rename_i h
    rw [toList_eq_concat h, List.getLast?_concat, List.dropLast_concat]
    exact ⟨rfl, rfl⟩
  · rename_i h
    rw [toList_eq_nil (Nat.le_of_not_lt h)]
    exact ⟨rfl, rfl⟩

/-- **Verses passed over one by one.** -/
theorem passOver_eq (c : Cursor) (n : Nat) :
    (c.passOver n).1 = c.toList.take n ∧ (c.passOver n).2 = c.skip n := by
  induction n generalizing c with
  | zero => exact ⟨rfl, by simp [passOver, skip]⟩
  | succ n ih =>
    rw [passOver, takeFront]
    by_cases h : c.next < c.stop
    · obtain ⟨hpassed, hskip⟩ := ih { c with next := c.next + 1 }
      simp only [if_pos h]
      rw [hpassed, hskip, toList_eq_cons h, List.take_succ_cons]
      refine ⟨rfl, ?_⟩
      simp only [skip, remaining, Cursor.mk.injEq, and_true]
      omega
    · simp only [if_neg h]
      rw [toList_eq_nil (Nat.le_of_not_lt h), List.take_nil]
      refine ⟨rfl, ?_⟩
      have hremaining : c.remaining = 0 := Nat.sub_eq_zero_of_le (Nat.le_of_not_lt h)
      simp only [skip, hremaining, Nat.min_zero, Nat.add_zero]

/-- What is left when verses have been passed over. -/
theorem toList_skip (c : Cursor) (n : Nat) : (c.skip n).toList = c.toList.drop n := by
  rcases Nat.lt_or_ge n c.remaining with h | h
  · have hremaining : (c.skip n).remaining = c.remaining - n := by
      simp only [skip, remaining] at h ⊢
      omega
    rw [toList, toList, ← List.map_drop, List.drop_range', hremaining, skip, Nat.min_eq_left (Nat.le_of_lt h),
      Nat.mul_one]
  · rw [List.drop_eq_nil_of_le (by rwa [length_toList])]
    apply toList_eq_nil
    simp only [skip, remaining] at h ⊢
    omega

/-- **Passing over verses at once, and one by one.** -/
theorem ask_nth (c : Cursor) (n : Nat) :
    c.ask (.nth n) = (⟨.verse (c.takeNth n).1, c.toList.take (n + 1), []⟩, (c.takeNth n).2) := by
  obtain ⟨hpassed, hskip⟩ := c.passOver_eq n
  simp only [ask, hpassed, hskip, takeNth, List.length_take, length_toList]
  by_cases h : c.remaining < n
  · have hend : (c.skip n).takeFront = (none, c.skip n) := by
      refine if_neg ?_
      simp only [skip, remaining] at h ⊢
      omega
    rw [if_pos (by omega), hend, List.take_of_length_le (by rw [length_toList]; omega),
      List.take_of_length_le (by rw [length_toList]; omega)]
  · rw [if_neg (by omega), (c.skip n).takeFront_eq.1, toList_skip, List.head?_drop, ← List.take_add_one]

/-- **One ask**: the reply is read off the verses that are left, and so is what is left then. -/
theorem ask_eq (c : Cursor) (ask : Ask) :
    (c.ask ask).1 = ask.due c.toList ∧ (c.ask ask).2.toList = ask.leave c.toList := by
  cases ask with
  | front =>
    obtain ⟨hfound, hleft⟩ := c.takeFront_eq
    refine ⟨?_, hleft⟩
    simp only [Cursor.ask, Ask.due, hfound]
    cases c.toList <;> rfl
  | back =>
    obtain ⟨hfound, hleft⟩ := c.takeBack_eq
    refine ⟨?_, hleft⟩
    simp only [Cursor.ask, Ask.due, hfound]
    rw [List.getLast?_eq_head?_reverse]
    cases c.toList.reverse <;> rfl
  | nth n =>
    obtain ⟨hfound, hleft⟩ := (c.skip n).takeFront_eq
    rw [ask_nth, takeNth, hfound, hleft, toList_skip, Ask.due, Ask.leave, List.head?_drop, List.tail_drop]
    exact ⟨rfl, rfl⟩
  | remaining => exact ⟨by simp only [Cursor.ask, Ask.due, length_toList], rfl⟩

/-! ### One ask after another -/

theorem run_cons (c : Cursor) (ask : Ask) (asks : List Ask) : c.run (ask :: asks) =
    ((c.ask ask).1 :: ((c.ask ask).2.run asks).1, ((c.ask ask).2.run asks).2) := rfl

/-- **The verses of a walk** are those left behind at the front, those that are left, and those left behind
at the back. -/
theorem toList_eq_run (c : Cursor) (asks : List Ask) :
    (c.run asks).1.flatMap Reply.fronts ++ (c.run asks).2.toList ++
      ((c.run asks).1.flatMap Reply.backs).reverse = c.toList := by
  induction asks generalizing c with
  | nil => simp [run]
  | cons ask asks ih =>
    obtain ⟨hreply, hleave⟩ := c.ask_eq ask
    calc (c.run (ask :: asks)).1.flatMap Reply.fronts ++ (c.run (ask :: asks)).2.toList ++
          ((c.run (ask :: asks)).1.flatMap Reply.backs).reverse
        = (c.ask ask).1.fronts ++ (((c.ask ask).2.run asks).1.flatMap Reply.fronts ++
            ((c.ask ask).2.run asks).2.toList ++ (((c.ask ask).2.run asks).1.flatMap Reply.backs).reverse) ++
            (c.ask ask).1.backs.reverse := by
          simp only [run_cons, List.flatMap_cons, List.reverse_append, List.append_assoc]
      _ = (ask.due c.toList).fronts ++ ask.leave c.toList ++ (ask.due c.toList).backs.reverse := by
          rw [ih, hreply, hleave]
      _ = c.toList := Ask.fronts_append_leave c.toList ask

/-- On a walk that has ended no verse is found. -/
theorem answer_of_toList_eq_nil (h : c.toList = []) (asks : List Ask) :
    ∀ reply ∈ (c.run asks).1, reply.answer = .verse none ∨ reply.answer = .count 0 := by
  induction asks generalizing c with
  | nil => simp [run]
  | cons ask asks ih =>
    obtain ⟨hreply, hleave⟩ := c.ask_eq ask
    rw [h] at hreply hleave
    rw [run_cons, List.forall_mem_cons, hreply]
    refine ⟨?_, ih (by rw [hleave]; cases ask <;> simp [Ask.leave])⟩
    cases ask <;> simp [Ask.due]

/-- **Where an ask has found no verse, the walk has ended.** -/
theorem toList_run_eq_nil {asks : List Ask} {reply : Reply} (hmem : reply ∈ (c.run asks).1)
    (h : reply.answer = .verse none) : (c.run asks).2.toList = [] := by
  induction asks generalizing c with
  | nil => simp [run] at hmem
  | cons ask asks ih =>
    rw [run_cons, List.mem_cons] at hmem
    rcases hmem with rfl | hmem
    · obtain ⟨hreply, hleave⟩ := c.ask_eq ask
      have hnil : (c.ask ask).2.toList = [] := by rw [hleave, Ask.leave_eq_nil (hreply ▸ h)]
      have hall := (c.ask ask).2.toList_eq_run asks
      rw [hnil] at hall
      simp only [List.append_eq_nil_iff] at hall
      exact hall.1.2
    · exact ih hmem

/-! ### The ends of a walk -/

/-- Both ends of a walk lie in the passage. -/
structure IsIn (p : Passage) (c : Cursor) : Prop where
  lower_le : p.lower.ordinal ≤ c.next
  next_le : c.next ≤ c.stop
  stop_le : c.stop ≤ p.upper.ordinal + 1

theorem isIn_cursor (p : Passage) : IsIn p p.cursor :=
  ⟨Nat.le_refl _, Nat.le_succ_of_le p.lower_le_upper, Nat.le_refl _⟩

theorem IsIn.takeFront (h : IsIn p c) : IsIn p c.takeFront.2 := by
  obtain ⟨hlower, hnext, hstop⟩ := h
  rw [Cursor.takeFront]
  split
  · exact ⟨Nat.le_succ_of_le hlower, by assumption, hstop⟩
  · exact ⟨hlower, hnext, hstop⟩

theorem IsIn.takeBack (h : IsIn p c) : IsIn p c.takeBack.2 := by
  obtain ⟨hlower, hnext, hstop⟩ := h
  rw [Cursor.takeBack]
  split
  · exact ⟨hlower, by change c.next ≤ c.stop - 1; omega, Nat.le_trans (Nat.sub_le _ _) hstop⟩
  · exact ⟨hlower, hnext, hstop⟩

theorem IsIn.skip (h : IsIn p c) (n : Nat) : IsIn p (c.skip n) := by
  obtain ⟨hlower, hnext, hstop⟩ := h
  refine ⟨Nat.le_add_right_of_le hlower, ?_, hstop⟩
  simp only [Cursor.skip, remaining]
  omega

theorem IsIn.ask (h : IsIn p c) (ask : Ask) : IsIn p (c.ask ask).2 := by
  cases ask with
  | front => exact h.takeFront
  | back => exact h.takeBack
  | nth n => rw [ask_nth]; exact (h.skip n).takeFront
  | remaining => exact h

/-- **No walk leaves its passage.** -/
theorem IsIn.run (h : IsIn p c) (asks : List Ask) : IsIn p (c.run asks).2 := by
  induction asks generalizing c with
  | nil => exact h
  | cons ask asks ih => exact ih (h.ask ask)

end Cursor

/-! ### Walks through passages -/

theorem toList_cursor (p : Passage) : p.cursor.toList = p.toList := by
  have hsize : p.cursor.remaining = p.size := by
    have hsize := p.size_eq
    simp only [Cursor.remaining, cursor]
    omega
  rw [Cursor.toList, hsize]
  rfl

/-- **A walk loses no verse and repeats none**, whatever it is asked. The verses left behind at the front
are the next ones in ascending order, those left behind at the back the next ones in descending order, and
the two do not meet. Each reply is read off the verses that are left; the length is that of the passage less
the verses left behind; and once an ask has found no verse, no later one does. Both ends stay in the
passage, so that they are small numbers. -/
theorem walk_exact (p : Passage) (asks : List Ask) :
    let (replies, c) := p.cursor.run asks
    let fronts := replies.flatMap Reply.fronts
    let backs := replies.flatMap Reply.backs
    fronts ++ c.toList ++ backs.reverse = p.toList ∧
    (fronts.Pairwise (· < ·) ∧ backs.Pairwise (· > ·) ∧ ∀ v ∈ fronts, ∀ w ∈ backs, v < w) ∧
    (∀ ask, (c.ask ask).1 = ask.due c.toList) ∧
    (c.ask .remaining).1.answer = .count (p.size - (fronts.length + backs.length)) ∧
    ((∃ reply ∈ replies, reply.answer = .verse none) → ∀ later, ∀ reply ∈ (c.run later).1,
      reply.answer = .verse none ∨ reply.answer = .count 0) ∧
    Cursor.IsIn p c := by
  have hall := p.cursor.toList_eq_run asks
  rw [toList_cursor] at hall
  have hsorted := hall ▸ p.pairwise_toList
  have hlength := congrArg List.length hall
  simp only [List.pairwise_append, List.pairwise_reverse, List.mem_append, List.mem_reverse] at hsorted
  simp only [List.length_append, List.length_reverse, length_toList, Cursor.length_toList] at hlength
  refine ⟨hall, ⟨hsorted.1.1, hsorted.2.1, fun v hv w hw => hsorted.2.2 v (.inl hv) w hw⟩,
    fun ask => (Cursor.ask_eq _ ask).1, ?_, ?_, (Cursor.isIn_cursor p).run asks⟩
  · simp only [Cursor.ask, Answer.count.injEq]
    omega
  · rintro ⟨reply, hmem, hnone⟩ later
    exact Cursor.answer_of_toList_eq_nil (Cursor.toList_run_eq_nil hmem hnone) later

end Concordance.Passage
