import Concordance.Proofs.Search.Parity

/-!
# Mixed searches all at once

A mixed search goes through its terms one by one and keeps several sets at the same time. What it
comes to can be said all at once, by what each term finds on its own: the alternatives, the terms that
change sides, the required terms and the excluded terms are each put together, and these four sets make
up the answer. So the order of the terms does not matter.

This holds where a term without a sign is an alternative. If the settings say that such a term is
required once something has been found, the order does matter.

## Main definitions

* `VerseSet.commonOf` — the verses that all of several sets have
* `Searcher.Sides.Shares` — what alternatives and terms that change sides have found
* `Searcher.altogether` — the answer of a mixed search, all terms at once

## Main results

* `Searcher.Sides.total_eq` — the four sets make up the answer
* `Searcher.Sides.shares_pushAll` — every alternative and every term that changes sides is counted
* `Searcher.countP_termResults` — what terms of a role find, among what all terms find
* `Searcher.search_mixed_eq` — a mixed search, all terms at once
-/

namespace Concordance

/-! ### Common members -/

namespace VerseSet

variable {α : Type} {f : α → VerseSet} {xs ys : List α} {v : Verse}

/-- The verses that all of the sets have that `f` gives for the elements of a list; none if the list is
empty. -/
def commonOf (f : α → VerseSet) : List α → VerseSet
  | [] => ∅
  | x :: xs => xs.foldl (fun s x => s ∩ f x) (f x)

theorem mem_foldl_inter {s : VerseSet} :
    v ∈ xs.foldl (fun s x => s ∩ f x) s ↔ v ∈ s ∧ ∀ x ∈ xs, v ∈ f x := by
  induction xs generalizing s with
  | nil => simp
  | cons x xs ih => simp [ih, and_assoc]

theorem mem_commonOf : v ∈ commonOf f xs ↔ xs ≠ [] ∧ ∀ x ∈ xs, v ∈ f x := by
  cases xs with
  | nil => simp [commonOf]
  | cons x xs => simp [commonOf, mem_foldl_inter]

/-! ### Lists in another order -/

theorem unionOf_perm (h : xs.Perm ys) : unionOf f xs = unionOf f ys := by
  ext v
  simp only [mem_unionOf, h.mem_iff]

theorem oddOf_perm (h : xs.Perm ys) : oddOf f xs = oddOf f ys := by
  ext v
  rw [mem_oddOf, mem_oddOf, h.countP_eq]

theorem commonOf_perm (h : xs.Perm ys) : commonOf f xs = commonOf f ys := by
  ext v
  have hnil : xs = [] ↔ ys = [] := by rw [← List.length_eq_zero_iff, h.length_eq, List.length_eq_zero_iff]
  simp only [mem_commonOf, h.mem_iff, ne_eq, hnil]

end VerseSet

namespace Searcher

open Index

variable {s : Searcher} {flags : Flags} {terms : List String}

/-! ### Sides -/

namespace Sides

variable {m : Sides} {results : List (Role × VerseSet)}

/-- **The answer in four sets.** The required terms replace the others if they find a verse together. -/
theorem total_eq (m : Sides) : m.total =
    (if (m.required?.getD ∅).isEmpty then (m.plain ∪ m.alternative).symmDiff m.toggled
      else m.required?.getD ∅) \ m.excluded := by
  ext v
  rw [total]
  cases m.required? with
  | none => simp [VerseSet.isEmpty_iff.mpr]
  | some required =>
    by_cases hempty : required.isEmpty = true <;> simp [hempty]

/-- The sides count alternatives and terms that change sides, a term without a sign being an
alternative: a verse is found by any of them, or by an odd number of them. -/
structure Shares (m : Sides) (results : List (Role × VerseSet)) : Prop where
  /-- What any term without a sign has found. -/
  plain : ∀ v, v ∈ m.plain ↔ ∃ r ∈ results, r.1 = .plain ∧ v ∈ r.2
  /-- What any alternative has found. -/
  alternative : ∀ v, v ∈ m.alternative ↔ ∃ r ∈ results, r.1 = .alternative ∧ v ∈ r.2
  /-- What an odd number of the terms that change sides have found. -/
  toggled : ∀ v, v ∈ m.toggled ↔
    (results.countP fun r => r.1 = .toggled ∧ v ∈ r.2) % 2 = 1

theorem shares_empty : ({} : Sides).Shares [] := ⟨by simp, by simp, by simp⟩

/-- One more term is counted. -/
theorem Shares.push (h : m.Shares results) (role : Role) (result : VerseSet) :
    (m.push false role result).Shares (results ++ [(role, result)]) := by
  refine ⟨fun v => ?_, fun v => ?_, fun v => ?_⟩
  · cases role <;> simp [Sides.push, h.plain, or_and_right, exists_or]
  · cases role <;> simp [Sides.push, h.alternative, or_and_right, exists_or]
  · cases role with
    | toggled =>
      rw [Sides.push, VerseSet.mem_symmDiff, h.toggled, List.countP_append, List.countP_singleton]
      by_cases hv : v ∈ result
      · simp [hv]
        omega
      · simp [hv]
    | plain | alternative | required | excluded =>
      simp [Sides.push, h.toggled, List.countP_append]

/-- **Every alternative and every term that changes sides is counted.** -/
theorem shares_pushAll (results : List (Role × VerseSet)) :
    (pushAll false {} results).Shares results :=
  pushAll_induction shares_empty (fun _ _ role result h => h.push role result) results

end Sides

/-! ### Terms of a role -/

/-- Where there is nothing to search for, nothing is found. -/
theorem answer_termRequest_nil : answer (s.search (termRequest flags [])) = ∅ := rfl

/-- **What terms of a role find, among what all terms find.** -/
theorem countP_termResults (role : Role) (v : Verse) :
    ((s.termResults flags terms).countP fun r => r.1 = role ∧ v ∈ r.2) =
      (signed role terms).countP fun t => v ∈ answer (s.search (termRequest flags t)) := by
  rw [termResults, signed, List.countP_map, List.countP_filter, List.countP_map,
    List.countP_filterMap, List.countP_map]
  refine List.countP_congr fun t _ => ?_
  by_cases hblank : Text.trim t.toList = []
  · -- a blank term is not searched for, and would be one without a sign that finds nothing
    have hrole : roleOf [] = (.plain, []) := rfl
    by_cases hplain : Role.plain = role <;> simp [hblank, hrole, hplain, answer_termRequest_nil]
  · by_cases hrole : (roleOf (Text.trim t.toList)).1 = role <;> simp [hblank, hrole]

theorem exists_termResults (role : Role) (v : Verse) :
    (∃ r ∈ s.termResults flags terms, r.1 = role ∧ v ∈ r.2) ↔
      ∃ t ∈ signed role terms, v ∈ answer (s.search (termRequest flags t)) := by
  have hcount : 0 < ((s.termResults flags terms).countP fun r => r.1 = role ∧ v ∈ r.2) ↔
      0 < (signed role terms).countP fun t => v ∈ answer (s.search (termRequest flags t)) := by
    rw [countP_termResults]
  simpa only [List.countP_pos_iff, decide_eq_true_eq] using hcount

theorem signed_perm {terms' : List String} (h : terms.Perm terms') (role : Role) :
    (signed role terms).Perm (signed role terms') :=
  (h.map _).filterMap _

/-! ### All terms at once -/

/-- The answer of a mixed search, all terms at once: what the required terms have in common, and if that
is nothing, what the alternatives and the terms without a sign find, changed by what an odd number of
the terms find that change sides; and of this what no excluded term finds. -/
def altogether (answerOf : List Char → VerseSet) (terms : List String) : VerseSet :=
  let alternatives := VerseSet.unionOf answerOf (signed .plain terms ++ signed .alternative terms)
  let toggled := VerseSet.oddOf answerOf (signed .toggled terms)
  let required := VerseSet.commonOf answerOf (signed .required terms)
  let excluded := VerseSet.unionOf answerOf (signed .excluded terms)
  (if required.isEmpty then alternatives.symmDiff toggled else required) \ excluded

/-- All at once, the order does not matter. -/
theorem altogether_perm {terms' : List String} (h : terms.Perm terms')
    (answerOf : List Char → VerseSet) : altogether answerOf terms = altogether answerOf terms' := by
  simp only [altogether, VerseSet.unionOf_perm (signed_perm h .excluded),
    VerseSet.oddOf_perm (signed_perm h .toggled), VerseSet.commonOf_perm (signed_perm h .required),
    VerseSet.unionOf_perm ((signed_perm h .plain).append (signed_perm h .alternative))]

section

variable {m : Sides}

/-- The excluded terms, all at once. -/
theorem excluded_eq_unionOf (h : m.Counts (s.termResults flags terms)) :
    m.excluded = .unionOf (fun t => answer (s.search (termRequest flags t)))
      (signed .excluded terms) := by
  ext v
  rw [h.excluded, exists_termResults, VerseSet.mem_unionOf]

/-- The required terms, all at once. -/
theorem required_eq_commonOf (h : m.Counts (s.termResults flags terms)) :
    m.required?.getD ∅ = .commonOf (fun t => answer (s.search (termRequest flags t)))
      (signed .required terms) := by
  have hnone : m.required? = none ↔ signed .required terms = [] :=
    (h.none.trans (forall_termResults (P := fun _ => False) (by decide))).trans
      List.eq_nil_iff_forall_not_mem.symm
  ext v
  rw [VerseSet.mem_commonOf]
  cases hm : m.required? with
  | none => simp [hnone.mp hm]
  | some found =>
    have hne : signed .required terms ≠ [] := by simp [← hnone, hm]
    rw [Option.getD_some, h.required found hm, and_iff_right hne]
    exact forall_termResults (P := (v ∈ ·)) (by decide)

/-- The alternatives and the terms without a sign, all at once. -/
theorem alternatives_eq_unionOf (h : m.Shares (s.termResults flags terms)) :
    m.plain ∪ m.alternative = .unionOf (fun t => answer (s.search (termRequest flags t)))
      (signed .plain terms ++ signed .alternative terms) := by
  ext v
  rw [VerseSet.mem_union, h.plain, h.alternative, exists_termResults, exists_termResults,
    VerseSet.mem_unionOf]
  simp only [List.mem_append, or_and_right, exists_or]

/-- The terms that change sides, all at once. -/
theorem toggled_eq_oddOf (h : m.Shares (s.termResults flags terms)) :
    m.toggled = .oddOf (fun t => answer (s.search (termRequest flags t)))
      (signed .toggled terms) := by
  ext v
  rw [h.toggled, countP_termResults, VerseSet.mem_oddOf]

end

/-- **What all terms add up to.** -/
theorem total_termResults :
    (Sides.pushAll false {} (s.termResults flags terms)).total
      = altogether (fun t => answer (s.search (termRequest flags t))) terms := by
  have hcounts := Sides.counts_pushAll false (s.termResults flags terms)
  have hshares := Sides.shares_pushAll (s.termResults flags terms)
  rw [Sides.total_eq, alternatives_eq_unionOf hshares, toggled_eq_oddOf hshares,
    required_eq_commonOf hcounts, excluded_eq_unionOf hcounts, altogether]

/-- **A mixed search, all terms at once.** Over any index and source, with any settings in which a term
without a sign is an alternative, any terms and flags, and whatever the earlier searches were: what each
term finds on its own makes up the answer, and the same terms in any other order have the same answer. -/
theorem search_mixed_eq (s : Searcher) (flags : Flags) (terms : List String)
    (earlier earlier' : List Request) (halternative : s.settings.multiwordDefault = false) :
    s.resultAfter earlier ⟨.mixed, terms, flags⟩
      = altogether (fun t => s.resultAfter earlier' (termRequest flags t)) terms ∧
    ∀ terms' : List String, terms.Perm terms' →
      s.resultAfter earlier ⟨.mixed, terms', flags⟩
        = s.resultAfter earlier ⟨.mixed, terms, flags⟩ := by
  have heq : ∀ ts, s.resultAfter earlier ⟨.mixed, ts, flags⟩
      = altogether (fun t => s.resultAfter earlier' (termRequest flags t)) ts := by
    intro ts
    rw [resultAfter_mixed, halternative, total_termResults]
    simp only [resultAfter_eq]
  refine ⟨heq terms, fun terms' hperm => ?_⟩
  rw [heq, heq, altogether_perm hperm]

section

open Corpus (opening)

/-- A term that changes sides twice, and a required and an excluded term that find nothing, leave what
the term without a sign finds, in this order and in another one. -/
theorem search_mixed_eq_opening :
    (opening.searcher .unlimited opening.source {}).settings.multiwordDefault = false ∧
      .first ∈ (opening.searcher .unlimited opening.source {}).resultAfter []
        ⟨.mixed, ["^god", "god", "+zzz", "!zzz", "^god"], {}⟩ ∧
      .first ∈ (opening.searcher .unlimited opening.source {}).resultAfter []
        ⟨.mixed, ["!zzz", "^god", "^god", "+zzz", "god"], {}⟩ := by
  have hgod := mem_termRequest_god
  have hzzz : (opening.searcher .unlimited opening.source {}).resultAfter [] (termRequest {} ['z', 'z', 'z'])
      = ∅ := VerseSet.ext fun v => iff_of_false (notMem_termRequest_zzz v) (VerseSet.notMem_empty v)
  have hsigned : ∀ role, signed role ["^god", "god", "+zzz", "!zzz", "^god"] = match role with
      | .plain => [['g', 'o', 'd']]
      | .alternative => []
      | .toggled => [['g', 'o', 'd'], ['g', 'o', 'd']]
      | .required => [['z', 'z', 'z']]
      | .excluded => [['z', 'z', 'z']] := by
    intro role
    cases role <;> decide +kernel
  have hmixed := search_mixed_eq (opening.searcher .unlimited opening.source {}) {}
    ["^god", "god", "+zzz", "!zzz", "^god"] [] [] rfl
  have hfirst : .first ∈ (opening.searcher .unlimited opening.source {}).resultAfter []
      ⟨.mixed, ["^god", "god", "+zzz", "!zzz", "^god"], {}⟩ := by
    rw [hmixed.1]
    simp [altogether, hsigned, VerseSet.commonOf, VerseSet.mem_oddOf, VerseSet.isEmpty_iff, hgod, hzzz]
  refine ⟨rfl, hfirst, ?_⟩
  rw [hmixed.2 ["!zzz", "^god", "^god", "+zzz", "god"] (by decide)]
  exact hfirst

end

end Searcher

end Concordance
