import Concordance.Proofs.Pattern.Complete
import Concordance.Proofs.Pattern.Phrase

/-!
# Pieces of a text

A stretch of a text is a piece of it, with what stands before and after. Said of pieces, what a pattern
matches follows its shape without any counting of places: a sequence takes a piece apart, and a
repetition takes it apart again and again.

## Main definitions

* `Pattern.Covers` — a pattern matches a piece of a text
* `Pattern.CoversAll` — a pattern matches several pieces in a row
* `Pattern.Opens` — a pattern matches at the start of the rest of a text

## Main results

* `Pattern.isMatch_iff_opens` — a match is found if and only if the pattern matches somewhere
* `Pattern.covers_seq`, `Pattern.covers_repeated` — sequences and repetitions
* `Pattern.covers_between_edges` — what stands between edges of words
-/

namespace Concordance

namespace Pattern

open Text (isWordChar IsRun)

variable {p q : Pattern} {xs r ys : List Char}

/-- A pattern matches a piece of a text, between what stands before and after it. -/
def Covers (p : Pattern) (before piece after : List Char) : Prop :=
  p.Spans (before ++ piece ++ after).toArray before.length (before.length + piece.length)

/-- Two places cut a piece out of a text. -/
theorem exists_pieces {cs : List Char} {i j : Nat} (hij : i ≤ j) (hj : j ≤ cs.length) :
    ∃ xs r ys, cs = xs ++ r ++ ys ∧ i = xs.length ∧ j = xs.length + r.length := by
  refine ⟨cs.take i, (cs.drop i).take (j - i), (cs.drop i).drop (j - i), ?_, ?_, ?_⟩
  · rw [List.append_assoc, List.take_append_drop, List.take_append_drop]
  · rw [List.length_take]
    omega
  · rw [List.length_take, List.length_take, List.length_drop]
    omega

/-- A place within a piece takes it apart. -/
theorem exists_split {k : Nat} (hk : xs.length ≤ k) (hk' : k ≤ xs.length + r.length) :
    ∃ r₁ r₂, r = r₁ ++ r₂ ∧ k = xs.length + r₁.length := by
  refine ⟨r.take (k - xs.length), r.drop (k - xs.length), (List.take_append_drop _ r).symm, ?_⟩
  rw [List.length_take]
  omega

/-! ### Characters and edges -/

theorem covers_empty : empty.Covers xs r ys ↔ r = [] := by
  rw [Covers, Spans]
  simp

theorem covers_set {s : CharSet} : (set s).Covers xs r ys ↔ ∃ c, r = [c] ∧ s.mem c = true := by
  rw [Covers, Spans]
  constructor
  · rintro ⟨hlength, c, hget, hmem⟩
    obtain ⟨d, rfl⟩ := List.length_eq_one_iff.mp (Nat.add_left_cancel hlength)
    obtain rfl : d = c := by simpa using hget
    exact ⟨d, rfl, hmem⟩
  · rintro ⟨c, rfl, hmem⟩
    exact ⟨rfl, c, by simp, hmem⟩

theorem before_append (xs ys : List Char) (p : Char → Bool) :
    Anchor.before (xs ++ ys).toArray xs.length p = xs.getLast?.any p := by
  rcases List.eq_nil_or_concat xs with rfl | ⟨xs, c, rfl⟩
  · rfl
  · simp [Anchor.before, List.length_append]

theorem after_append (xs ys : List Char) (p : Char → Bool) :
    Anchor.after (xs ++ ys).toArray xs.length p = ys.head?.any p := by
  cases ys <;> simp [Anchor.after]

theorem covers_wordEdge : wordEdge.Covers xs r ys ↔
    r = [] ∧ xs.getLast?.any isWordChar ≠ ys.head?.any isWordChar := by
  have hedge : Anchor.holds (.word .either false) (xs ++ ys).toArray xs.length = true ↔
      xs.getLast?.any isWordChar ≠ ys.head?.any isWordChar := by
    simp only [Anchor.holds, before_append, after_append, WordEdge.holds, bne_iff_ne]
  constructor
  · rintro ⟨hlength, hholds⟩
    obtain rfl : r = [] := by simpa using hlength
    rw [List.append_nil] at hholds
    exact ⟨rfl, hedge.mp hholds⟩
  · rintro ⟨rfl, hne⟩
    refine ⟨rfl, ?_⟩
    rw [List.append_nil]
    exact hedge.mpr hne

/-! ### Sequences and alternatives -/

/-- **A sequence takes a piece apart.** -/
theorem covers_seq : (seq p q).Covers xs r ys ↔
    ∃ r₁ r₂, r = r₁ ++ r₂ ∧ p.Covers xs r₁ (r₂ ++ ys) ∧ q.Covers (xs ++ r₁) r₂ ys := by
  constructor
  · rintro ⟨k, hp, hq⟩
    obtain ⟨r₁, r₂, rfl, rfl⟩ :=
      exists_split (forward_spans _ p _ _ hp).1 (forward_spans _ q _ _ hq).1
    refine ⟨r₁, r₂, rfl, ?_, ?_⟩
    · simpa only [Covers, List.append_assoc] using hp
    · simpa only [Covers, List.append_assoc, List.length_append, Nat.add_assoc] using hq
  · rintro ⟨r₁, r₂, rfl, hp, hq⟩
    refine ⟨xs.length + r₁.length, ?_, ?_⟩
    · simpa only [Covers, List.append_assoc] using hp
    · simpa only [Covers, List.append_assoc, List.length_append, Nat.add_assoc] using hq

theorem covers_ofSeq_nil : (ofSeq []).Covers xs r ys ↔ r = [] := by
  rw [ofSeq, covers_empty]

theorem covers_ofSeq_cons {ps : List Pattern} : (ofSeq (p :: ps)).Covers xs r ys ↔
    ∃ r₁ r₂, r = r₁ ++ r₂ ∧ p.Covers xs r₁ (r₂ ++ ys) ∧ (ofSeq ps).Covers (xs ++ r₁) r₂ ys := by
  cases ps with
  | nil => simp [ofSeq, covers_empty]
  | cons q ps => exact covers_seq

/-- Patterns and more of them take a piece apart. -/
theorem covers_ofSeq_append {ps qs : List Pattern} : (ofSeq (ps ++ qs)).Covers xs r ys ↔
    ∃ r₁ r₂, r = r₁ ++ r₂ ∧ (ofSeq ps).Covers xs r₁ (r₂ ++ ys) ∧
      (ofSeq qs).Covers (xs ++ r₁) r₂ ys := by
  induction ps generalizing xs r with
  | nil =>
    simp only [covers_ofSeq_nil, List.nil_append]
    constructor
    · exact fun h => ⟨[], r, rfl, rfl, by simpa using h⟩
    · rintro ⟨_, r, rfl, rfl, h⟩
      simpa using h
  | cons p ps ih =>
    rw [List.cons_append]
    simp only [covers_ofSeq_cons, ih]
    constructor
    · rintro ⟨a, _, rfl, ha, b, c, rfl, hb, hc⟩
      refine ⟨a ++ b, c, (List.append_assoc ..).symm, ⟨a, b, rfl, ?_, hb⟩, ?_⟩
      · rwa [← List.append_assoc]
      · rwa [← List.append_assoc]
    · rintro ⟨_, c, rfl, ⟨a, b, rfl, ha, hb⟩, hc⟩
      refine ⟨a, b ++ c, List.append_assoc .., ?_, b, c, rfl, hb, ?_⟩
      · rwa [List.append_assoc]
      · rwa [List.append_assoc]

/-- Each pattern of a sequence matches a piece. -/
theorem exists_covers_of_mem {ps : List Pattern} (h : (ofSeq ps).Covers xs r ys) (hp : p ∈ ps) :
    ∃ xs' r' ys', xs ++ r ++ ys = xs' ++ r' ++ ys' ∧ p.Covers xs' r' ys' := by
  induction ps generalizing xs r with
  | nil => cases hp
  | cons q ps ih =>
    obtain ⟨r₁, r₂, rfl, hfirst, hrest⟩ := covers_ofSeq_cons.mp h
    rcases List.mem_cons.mp hp with rfl | hp
    · exact ⟨xs, r₁, r₂ ++ ys, by simp, hfirst⟩
    · obtain ⟨xs', r', ys', htext, hcovers⟩ := ih hrest hp
      exact ⟨xs', r', ys', by simpa using htext, hcovers⟩

/-- One of several alternatives matches. -/
theorem spans_ofAlt {ps : List Pattern} (hne : ps ≠ []) {t : Array Char} {i j : Nat} :
    (ofAlt ps).Spans t i j ↔ ∃ p ∈ ps, p.Spans t i j := by
  induction ps with
  | nil => exact absurd rfl hne
  | cons p ps ih =>
    cases ps with
    | nil => simp [ofAlt]
    | cons q ps =>
      have hor : (ofAlt (p :: q :: ps)).Spans t i j ↔
          p.Spans t i j ∨ (ofAlt (q :: ps)).Spans t i j := Iff.rfl
      rw [hor, ih (List.cons_ne_nil q ps)]
      simp only [List.mem_cons, exists_eq_or_imp]

theorem covers_ofAlt {ps : List Pattern} (hne : ps ≠ []) :
    (ofAlt ps).Covers xs r ys ↔ ∃ p ∈ ps, p.Covers xs r ys :=
  spans_ofAlt hne

/-! ### Edges of words -/

theorem any_eq_false_iff {o : Option Char} {p : Char → Bool} :
    o.any p = false ↔ ∀ c ∈ o, p c = false := by
  cases o <;> simp

/-- A stretch of word characters starts and ends with one. -/
theorem any_of_word (hne : r ≠ []) (hword : ∀ c ∈ r, isWordChar c = true) (xs ys : List Char) :
    (r ++ ys).head?.any isWordChar = true ∧ (xs ++ r).getLast?.any isWordChar = true := by
  constructor
  · obtain ⟨c, cs, rfl⟩ := List.exists_cons_of_ne_nil hne
    simpa using hword c List.mem_cons_self
  · rw [List.getLast?_append, List.getLast?_eq_some_getLast hne]
    simpa using hword _ (List.getLast_mem hne)

/-- Between two edges of words a pattern matches, and at either end there is an edge. -/
theorem covers_edges : (ofSeq [wordEdge, p, wordEdge]).Covers xs r ys ↔
    xs.getLast?.any isWordChar ≠ (r ++ ys).head?.any isWordChar ∧ p.Covers xs r ys ∧
      (xs ++ r).getLast?.any isWordChar ≠ ys.head?.any isWordChar := by
  simp only [covers_ofSeq_cons, covers_wordEdge, covers_ofSeq_nil]
  constructor
  · rintro ⟨_, r, rfl, ⟨rfl, hstart⟩, r', _, rfl, hr', _, _, rfl, ⟨rfl, hstop⟩, rfl⟩
    simp only [List.append_nil, List.nil_append] at hstart hr' hstop ⊢
    exact ⟨hstart, hr', hstop⟩
  · rintro ⟨hstart, hr, hstop⟩
    refine ⟨[], r, rfl, ⟨rfl, hstart⟩, r, [], (List.append_nil r).symm, ?_, [], [], rfl, ⟨rfl, ?_⟩,
      rfl⟩
    · simpa only [List.append_nil, List.nil_append] using hr
    · simpa only [List.append_nil, List.nil_append] using hstop

/-- **What stands between edges of words**, if it has word characters only, is a maximal run. -/
theorem covers_between_edges
    (hp : p.Covers xs r ys → r ≠ [] ∧ ∀ c ∈ r, isWordChar c = true) :
    (ofSeq [wordEdge, p, wordEdge]).Covers xs r ys ↔
      p.Covers xs r ys ∧ IsRun isWordChar xs r ys := by
  rw [covers_edges]
  constructor
  · rintro ⟨hstart, hr, hstop⟩
    obtain ⟨hne, hword⟩ := hp hr
    obtain ⟨hfirst, hlast⟩ := any_of_word hne hword xs ys
    rw [hfirst] at hstart
    rw [hlast] at hstop
    exact ⟨hr, hne, hword, any_eq_false_iff.mp (by simpa using hstart),
      any_eq_false_iff.mp (by simpa using hstop.symm)⟩
  · rintro ⟨hr, hrun⟩
    obtain ⟨hfirst, hlast⟩ := any_of_word hrun.ne_nil hrun.mem xs ys
    rw [hfirst, hlast, any_eq_false_iff.mpr hrun.before, any_eq_false_iff.mpr hrun.after]
    exact ⟨Bool.false_ne_true, hr, Bool.false_ne_true.symm⟩

/-! ### Repetitions -/

/-- A pattern matches several pieces in a row, between what stands before and after them. -/
inductive CoversAll (p : Pattern) : List Char → List Char → List Char → Prop
  /-- No piece. -/
  | nil {xs ys : List Char} : CoversAll p xs [] ys
  /-- A piece, and more of them after it. -/
  | cons {xs r s ys : List Char} (first : p.Covers xs r (s ++ ys))
      (rest : CoversAll p (xs ++ r) s ys) : CoversAll p xs (r ++ s) ys

/-- **A repetition takes a piece apart.** -/
theorem covers_repeated {greedy : Bool} :
    (repeated p 0 none greedy).Covers xs r ys ↔ p.CoversAll xs r ys := by
  constructor
  · intro h
    obtain ⟨n, -, -, htimes⟩ := times_of_chain h
    clear h
    induction n generalizing xs r with
    | zero =>
      obtain rfl : r = [] := by simpa [Times] using htimes
      exact .nil
    | succ n ih =>
      obtain ⟨k, hfirst, hrest⟩ := htimes
      obtain ⟨r₁, r₂, rfl, rfl⟩ := exists_split (forward_spans _ p _ _ hfirst).1
        (Forward.times (forward_spans _ p) hrest).1
      refine .cons ?_ (ih ?_)
      · simpa only [Covers, List.append_assoc] using hfirst
      · simpa only [List.append_assoc, List.length_append, Nat.add_assoc] using hrest
  · intro h
    induction h with
    | nil => exact .nil
    | cons first rest ih =>
      simp only [Covers, List.append_assoc, List.length_append, ← Nat.add_assoc] at first ih ⊢
      exact .cons first (fun _ h => nomatch h) ih

/-- At least one time, a pattern matches once and then any number of times. -/
theorem covers_repeated_one {greedy : Bool} : (repeated p 1 none greedy).Covers xs r ys ↔
    ∃ r₁ r₂, r = r₁ ++ r₂ ∧ p.Covers xs r₁ (r₂ ++ ys) ∧ p.CoversAll (xs ++ r₁) r₂ ys := by
  simp only [← @covers_repeated p _ _ _ greedy]
  rw [← covers_seq]
  constructor
  · rintro (_ | ⟨first, -, rest⟩)
    exact ⟨_, first, rest⟩
  · rintro ⟨k, first, rest⟩
    exact .cons first (fun _ h => nomatch h) rest

/-- A set matches any number of its characters. -/
theorem coversAll_set {s : CharSet} :
    (set s).CoversAll xs r ys ↔ ∀ c ∈ r, s.mem c = true := by
  constructor
  · intro h
    induction h with
    | nil => simp
    | cons first _ ih =>
      obtain ⟨c, rfl, hc⟩ := covers_set.mp first
      rintro d (_ | ⟨_, hd⟩)
      · exact hc
      · exact ih d hd
  · intro h
    induction r generalizing xs with
    | nil => exact .nil
    | cons c r ih =>
      exact .cons (covers_set.mpr ⟨c, rfl, h c List.mem_cons_self⟩)
        (ih fun d hd => h d (List.mem_cons_of_mem _ hd))

/-! ### Matches -/

/-- A pattern matches at the start of the rest of a text, after what stands before. -/
def Opens (p : Pattern) (before rest : List Char) : Prop :=
  ∃ r ys, rest = r ++ ys ∧ p.Covers before r ys

/-- A sequence matches piece by piece. -/
theorem opens_ofSeq_cons {ps : List Pattern} {s : List Char} : (ofSeq (p :: ps)).Opens xs s ↔
    ∃ r t, s = r ++ t ∧ p.Covers xs r t ∧ (ofSeq ps).Opens (xs ++ r) t := by
  constructor
  · rintro ⟨_, ys, rfl, h⟩
    obtain ⟨r₁, r₂, rfl, hp, hps⟩ := covers_ofSeq_cons.mp h
    exact ⟨r₁, r₂ ++ ys, List.append_assoc .., hp, r₂, ys, rfl, hps⟩
  · rintro ⟨r₁, _, rfl, hp, r₂, ys, rfl, hps⟩
    exact ⟨r₁ ++ r₂, ys, (List.append_assoc ..).symm, covers_ofSeq_cons.mpr ⟨r₁, r₂, rfl, hp, hps⟩⟩

/-- **A match is found if and only if the pattern matches somewhere.** -/
theorem isMatch_iff_opens (hp : p.InOrder) {cs : List Char} :
    p.isMatch cs.toArray = true ↔ ∃ xs s, cs = xs ++ s ∧ p.Opens xs s := by
  rw [isMatch_iff hp]
  constructor
  · rintro ⟨i, hi, j, h⟩
    obtain ⟨hij, hj⟩ := forward_spans cs.toArray p i j h
    obtain ⟨xs, r, ys, rfl, rfl, rfl⟩ := exists_pieces hij (hj hi)
    exact ⟨xs, r ++ ys, List.append_assoc .., r, ys, rfl, h⟩
  · rintro ⟨xs, _, rfl, r, ys, rfl, h⟩
    refine ⟨xs.length, by simp, xs.length + r.length, ?_⟩
    rw [← List.append_assoc]
    exact h

end Pattern

end Concordance
