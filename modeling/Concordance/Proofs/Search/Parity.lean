import Concordance.Proofs.Query.Leaves
import Concordance.Proofs.Search.Signs

/-!
# Groups of a combined query

A combined search runs one search for each phrase that its query is reduced to. What a group finds
changes sides each time it is found. So where no group is marked to be kept within what was found
before, the order of the groups does not matter: a verse is in the answer if it is found by an odd
number of the groups to include, and by an even number of the groups to exclude.

## Main definitions

* `VerseSet.oddOf` — the verses that an odd number of sets have
* `Searcher.groupRequest` — the search for a group of a combined query, as a request of its own
* `Searcher.queryText` — the text of a combined query that is given in several terms

## Main results

* `VerseSet.mem_oddOf` — folding sets by their difference counts them
* `Searcher.found_groupPlan` — a group finds what the request for it finds
* `Searcher.mem_search_combined_iff` — the verses that combined searches find
-/

namespace Concordance

/-! ### Counting sets -/

namespace VerseSet

variable {α : Type} {f : α → VerseSet} {v : Verse}

/-- The verses that an odd number of the sets have that `f` gives for the elements of a list. -/
def oddOf (f : α → VerseSet) (xs : List α) : VerseSet := xs.foldl (fun s x => s.symmDiff (f x)) ∅

/-- What is left after a fold by symmetric difference. -/
theorem mem_foldl_symmDiff {s : VerseSet} {xs : List α} :
    v ∈ xs.foldl (fun s x => s.symmDiff (f x)) s ↔
      ((if v ∈ s then 1 else 0) + xs.countP fun x => v ∈ f x) % 2 = 1 := by
  induction xs generalizing s with
  | nil => by_cases hs : v ∈ s <;> simp [hs]
  | cons x xs ih =>
    rw [List.foldl_cons, ih, List.countP_cons]
    by_cases hs : v ∈ s <;> by_cases hx : v ∈ f x <;> simp [hs, hx] <;> omega

/-- **Folding sets by their difference counts them.** -/
theorem mem_oddOf {xs : List α} : v ∈ oddOf f xs ↔ (xs.countP fun x => v ∈ f x) % 2 = 1 := by
  rw [oddOf, mem_foldl_symmDiff, if_neg (notMem_empty v), Nat.zero_add]

end VerseSet

/-! ### Texts of phrases -/

/-- The texts of phrases of a query have no blanks at their ends. -/
theorem Query.trim_text_of_mem_parse {cs : List Char} {p : Query.Phrase}
    (hp : p ∈ (parse cs).included ++ (parse cs).excluded) : Text.trim p.text = p.text :=
  Text.trim_intercalate fun _ hw =>
    Node.isPart_of_mem_leaves_parseAll (mem_leaves_of_mem_reduce hp hw)

namespace Searcher

open Index

variable {s : Searcher} {flags : Flags} {terms : List String} {phrases : Bool}

/-! ### Groups -/

/-- The strategy that combines searches for phrases, or for words. -/
def combinedStrategy (phrases : Bool) : Strategy := if phrases then .combinedPhrase else .combined

/-- The text of a combined query that is given in several terms. -/
def queryText (terms : List String) : List Char :=
  [' '].intercalate ((terms.map fun t => Text.trim t.toList).filter (!·.isEmpty))

/-- The search for a group of a combined query, as a request of its own: for a phrase if a `+` joins
its words, or if all groups are phrases, and else for all of its words. -/
def groupRequest (phrases : Bool) (flags : Flags) (group : List Char) : Request :=
  ⟨if phrases || group.contains '+' then .phrase else .multiword,
    [String.ofList (group.map fun c => if c = '+' then ' ' else c)], flags⟩

theorem text_ofTerms_combined :
    (Plan.ofTerms (combinedStrategy phrases) (terms.map String.toList) flags).text
      = queryText terms := by
  cases phrases <;>
    simp [combinedStrategy, queryText, Plan.ofTerms, Plan.withRange, Strategy.cleansWords,
      Strategy.canonicalizesTags, Function.comp_def]

/-- **A group finds what the request for it finds.** -/
theorem found_groupPlan {p : Plan} (hflags : p.flags = flags) (hrange : p.range? = Plan.rangeOf? flags)
    (group : List Char) : s.found (groupPlan p phrases ⟨false, group⟩)
      = answer (s.search (groupRequest phrases flags group)) := by
  have hplan : groupPlan p phrases ⟨false, group⟩ = .ofTerms (groupRequest phrases flags group).strategy
      ((groupRequest phrases flags group).terms.map String.toList)
      (groupRequest phrases flags group).flags := by
    rw [groupPlan, Plan.derive, Plan.ofTerms, hflags, hrange]
    simp [groupRequest]
  have hstrategy : (groupPlan p phrases ⟨false, group⟩).strategy
      = (groupRequest phrases flags group).strategy := by
    rw [groupPlan, Plan.derive, Plan.strategy_withRange]
    rfl
  rw [search, ← hplan, answer_run_of_standsAlone]
  rw [hstrategy, groupRequest]
  split <;> simp

/-- Texts without signs are groups as they stand. -/
theorem groups_eq_map {texts : List (List Char)}
    (h : ∀ t ∈ texts, Text.trim t = t ∧ t.head? ≠ some '&') :
    groups false texts = texts.map (⟨false, ·⟩) := by
  induction texts with
  | nil => rfl
  | cons t texts ih =>
    obtain ⟨⟨htrim, hsign⟩, h⟩ := List.forall_mem_cons.mp h
    rw [groups, htrim, List.map_cons, ← ih h]
    split
    · simp at hsign
    · simp at hsign
    · rfl

/-! ### Combined searches -/

/-- A combined search that has nothing to search for finds what no groups find. -/
theorem answer_run_combined :
    answer (s.run (.ofTerms (combinedStrategy phrases) (terms.map String.toList) flags))
      = answer (s.combinedSearch
        (.ofTerms (combinedStrategy phrases) (terms.map String.toList) flags) phrases) := by
  rw [answer_run, Plan.ofTerms, Plan.strategy_withRange, ← Plan.ofTerms]
  split
  · rename_i hempty
    have htext : queryText terms = [] := by
      have hraw : (Plan.ofTerms (combinedStrategy phrases) (terms.map String.toList) flags).rawTerms
          = (terms.map fun t => Text.trim t.toList).filter (!·.isEmpty) := by
        rw [Plan.ofTerms, Plan.withRange, List.map_map]
        split <;> rfl
      rw [queryText, ← hraw, List.isEmpty_iff.mp hempty]
      rfl
    have hparse : Query.parse [] = Query.empty := rfl
    rw [answer_combinedSearch, text_ofTerms_combined, htext, hparse]
    ext v
    simp [Query.empty, groups, foldFound]
  · cases phrases <;> rfl

section

variable {p : Plan} (hflags : p.flags = flags) (hrange : p.range? = Plan.rangeOf? flags)

include hflags hrange

/-- **Groups without signs change sides in any order.** -/
theorem foldFound_eq_oddOf {ps : List Query.Phrase}
    (h : ∀ q ∈ ps, Text.trim q.text = q.text ∧ q.text.head? ≠ some '&') :
    s.foldFound p phrases ∅ (groups false (ps.map Query.Phrase.text))
      = .oddOf (fun q => answer (s.search (groupRequest phrases flags q.text))) ps := by
  rw [groups_eq_map (List.forall_mem_map.mpr h), foldFound, List.foldl_map, List.foldl_map,
    VerseSet.oddOf]
  simp only [found_groupPlan hflags hrange]
  rfl

end

/-- **The verses that combined searches find.** Over any index and source, with any settings, terms and
flags, and whatever the earlier searches were: where no group starts with `&`, a verse is in the answer
if and only if an odd number of the groups to include find it, and an even number of the groups to
exclude, each group being searched for on its own with the same flags. -/
theorem mem_search_combined_iff (s : Searcher) (phrases : Bool) (terms : List String) (flags : Flags)
    (earlier earlier' : List Request) (v : Verse)
    (hunsigned : ∀ p ∈ (Query.parse (queryText terms)).included
      ++ (Query.parse (queryText terms)).excluded, p.text.head? ≠ some '&') :
    v ∈ s.resultAfter earlier ⟨combinedStrategy phrases, terms, flags⟩ ↔
      ((Query.parse (queryText terms)).included.countP fun p =>
        v ∈ s.resultAfter earlier' (groupRequest phrases flags p.text)) % 2 = 1 ∧
      ((Query.parse (queryText terms)).excluded.countP fun p =>
        v ∈ s.resultAfter earlier' (groupRequest phrases flags p.text)) % 2 = 0 := by
  have hgroups : ∀ p ∈ (Query.parse (queryText terms)).included
      ++ (Query.parse (queryText terms)).excluded,
      Text.trim p.text = p.text ∧ p.text.head? ≠ some '&' :=
    fun p hp => ⟨Query.trim_text_of_mem_parse hp, hunsigned p hp⟩
  obtain ⟨hincluded, hexcluded⟩ := List.forall_mem_append.mp hgroups
  have hplan : (Plan.ofTerms (combinedStrategy phrases) (terms.map String.toList) flags).flags = flags ∧
      (Plan.ofTerms (combinedStrategy phrases) (terms.map String.toList) flags).range?
        = Plan.rangeOf? flags := by
    rw [Plan.ofTerms, Plan.withRange]
    split <;> exact ⟨rfl, rfl⟩
  simp only [resultAfter_eq s earlier' (groupRequest phrases flags _)]
  rw [answer_search, answer_run_combined, answer_combinedSearch, text_ofTerms_combined,
    foldFound_eq_oddOf hplan.1 hplan.2 hincluded, foldFound_eq_oddOf hplan.1 hplan.2 hexcluded,
    VerseSet.mem_sdiff, VerseSet.mem_oddOf, VerseSet.mem_oddOf, Nat.mod_two_not_eq_one]

section

open Corpus (opening)

/-- Three groups that find the opening verse and one to exclude that does not, and then two groups that
find it. -/
theorem mem_search_combined_opening :
    (∀ p ∈ (Query.parse (queryText ["god god", "god NOT zzz"])).included
        ++ (Query.parse (queryText ["god god", "god NOT zzz"])).excluded, p.text.head? ≠ some '&') ∧
      .first ∈ (opening.searcher .unlimited opening.source {}).resultAfter []
        ⟨.combined, ["god god", "god NOT zzz"], {}⟩ ∧
      (∀ p ∈ (Query.parse (queryText ["god god"])).included
        ++ (Query.parse (queryText ["god god"])).excluded, p.text.head? ≠ some '&') ∧
      .first ∉ (opening.searcher .unlimited opening.source {}).resultAfter []
        ⟨.combined, ["god god"], {}⟩ := by
  have hgod : .first ∈ (opening.searcher .unlimited opening.source {}).resultAfter []
      (groupRequest false {} (Query.Phrase.text [['g', 'o', 'd']])) := by
    have hrequest : groupRequest false {} (Query.Phrase.text [['g', 'o', 'd']])
        = termRequest {} ['g', 'o', 'd'] := by decide +kernel
    exact hrequest ▸ mem_termRequest_god
  have hzzz : .first ∉ (opening.searcher .unlimited opening.source {}).resultAfter []
      (groupRequest false {} (Query.Phrase.text [['z', 'z', 'z']])) := by
    have hrequest : groupRequest false {} (Query.Phrase.text [['z', 'z', 'z']])
        = termRequest {} ['z', 'z', 'z'] := by decide +kernel
    exact hrequest ▸ notMem_termRequest_zzz .first
  have hthree : Query.parse (queryText ["god god", "god NOT zzz"])
      = ⟨[[['g', 'o', 'd']], [['g', 'o', 'd']], [['g', 'o', 'd']]], [[['z', 'z', 'z']]]⟩ := by
    decide +kernel
  have htwo : Query.parse (queryText ["god god"])
      = ⟨[[['g', 'o', 'd']], [['g', 'o', 'd']]], []⟩ := by
    decide +kernel
  have hthree' : ∀ p ∈ (Query.parse (queryText ["god god", "god NOT zzz"])).included
      ++ (Query.parse (queryText ["god god", "god NOT zzz"])).excluded,
      p.text.head? ≠ some '&' := by
    rw [hthree]
    decide +kernel
  have htwo' : ∀ p ∈ (Query.parse (queryText ["god god"])).included
      ++ (Query.parse (queryText ["god god"])).excluded, p.text.head? ≠ some '&' := by
    rw [htwo]
    decide +kernel
  refine ⟨hthree', ?_, htwo', fun hv => ?_⟩
  · refine (mem_search_combined_iff (opening.searcher .unlimited opening.source {}) false _ {} [] [] .first
      hthree').mpr ?_
    rw [hthree]
    simp [hgod, hzzz]
  · have hodd := ((mem_search_combined_iff (opening.searcher .unlimited opening.source {}) false _ {} [] []
      .first htwo').mp hv).1
    rw [htwo] at hodd
    simp [hgod] at hodd

end

end Searcher

end Concordance
