import Mathlib.Tactic.Tauto
import Concordance.Proofs.Passage.Fragments
import Concordance.Proofs.Search.Words

/-!
# Searches in a range

A range limits what a search finds and changes nothing else. Some strategies apply it to what they
have found, others to the verses whose texts they scan, and a combined query to what each of its
groups finds; the answer is the same as if the whole search had been run without a range and then
cut down to it. Only a mixed search is different, since there it matters whether something was found
at all: what it finds in a range is within the range, and may be more than is left of what it finds
without one.

## Main definitions

* `Plan.limit` — the same search in a range

## Main results

* `Searcher.found_limit`, `Searcher.foldFound_limit` — a range cuts down what is found
* `Searcher.search_range` — for every strategy
-/

namespace Concordance

/-! ### Plans in a range -/

namespace Plan

variable {p : Plan} {strategy : Strategy} {terms : List (List Char)} {flags : Flags} {range : String}

/-- The same search, limited to the verses that an expression covers. -/
def limit (p : Plan) (range : String) : Plan :=
  { p with flags := { p.flags with range? := some range }, range? := some (.parse range) }

theorem strategy_limit (p : Plan) (range : String) : (p.limit range).strategy = p.strategy := rfl

theorem isEmpty_limit (p : Plan) (range : String) : (p.limit range).isEmpty = p.isEmpty := rfl

theorem withRange_limit {range? : Option VerseSet} :
    withRange strategy terms { flags with range? := some range } (some (.parse range))
      = (withRange strategy terms flags range?).limit range := by
  rw [withRange, withRange]
  split <;> rfl

/-- A range that is not blank covers what the expression covers. -/
theorem ofTerms_limit (hrange : Text.trim range.toList ≠ []) :
    ofTerms strategy terms { flags with range? := some range }
      = (ofTerms strategy terms { flags with range? := none }).limit range := by
  have hparse : rangeOf? { flags with range? := some range } = some (.parse range) := by
    rw [← VerseSet.parse_trim range]
    simp [rangeOf?, hrange]
  rw [ofTerms, hparse]
  exact @withRange_limit strategy terms { flags with range? := none } range none

theorem range?_ofTerms (hrange : flags.range? = none) : (ofTerms strategy terms flags).range? = none := by
  rw [ofTerms, withRange, rangeOf?, hrange]
  split <;> rfl

theorem range?_derive {term : List Char} : (p.derive strategy term).range? = p.range? := by
  rw [derive, withRange]
  split <;> rfl

theorem range?_subSearch {term : List Char} : (p.subSearch strategy term).range? = p.range? := by
  rw [subSearch, withRange]
  split <;> rfl

theorem restrict_of_range?_eq_none (h : p.range? = none) (s : VerseSet) : p.restrict s = s := by
  rw [restrict, h]

theorem restrict_limit (p : Plan) (range : String) (s : VerseSet) :
    (p.limit range).restrict s = s ∩ .parse range := rfl

end Plan

namespace Searcher

variable {s : Searcher} {p : Plan} {range : String}

/-! ### Strategies that stand on their own -/

/-- Scanning within the range finds what scanning finds within the range. -/
theorem scan_limit {pattern : Pattern} {tryClean : Bool} {candidates : VerseSet} :
    s.scan (p.limit range) pattern tryClean (candidates ∩ .parse range)
      = s.scan p pattern tryClean candidates ∩ .parse range := by
  ext v
  rw [mem_scan, VerseSet.mem_inter, VerseSet.mem_inter, mem_scan]
  exact and_right_comm

theorem empty_inter (t : VerseSet) : (∅ : VerseSet) ∩ t = ∅ := by
  ext v
  simp

theorem groupPlan_limit (phrases : Bool) (g : Group) :
    groupPlan (p.limit range) phrases g = (groupPlan p phrases g).limit range :=
  Plan.withRange_limit

/-- A group keeps to a set when what it finds and what was found before do. -/
theorem Group.fold_inter (g : Group) (found result t : VerseSet) :
    g.fold (found ∩ t) (result ∩ t) = g.fold found result ∩ t := by
  ext v
  cases hwithin : g.within <;> simp [Group.fold, hwithin] <;> tauto

section

variable (hfree : p.range? = none)

include hfree

theorem patternSearch_limit :
    s.patternSearch (p.limit range) = s.patternSearch p ∩ .parse range := by
  have hfull : VerseSet.full ∩ .parse range = .parse range := by
    ext v
    simp
  simp only [patternSearch, hfree, Option.getD_none]
  rw [← scan_limit, hfull]
  rfl

theorem answer_phraseSearch_limit (sloppy : Bool) :
    Index.answer (s.phraseSearch (p.limit range) sloppy)
      = Index.answer (s.phraseSearch p sloppy) ∩ .parse range := by
  rw [answer_phraseSearch, answer_phraseSearch, Plan.restrict_limit,
    Plan.restrict_of_range?_eq_none hfree]
  change (if p.terms.isEmpty then ∅
    else if p.terms.length = 1 then s.indexed p ∩ .parse range
    else s.scan (p.limit range) (phraseMatcher s.engine p sloppy).pattern false
      (s.indexed p ∩ .parse range)) = _
  rw [scan_limit]
  split
  · exact (empty_inter _).symm
  · split <;> rfl

/-- **A range cuts down what a strategy finds.** -/
theorem found_limit : s.found (p.limit range) = s.found p ∩ .parse range := by
  cases hempty : p.isEmpty with
  | true => rw [found_of_isEmpty hempty, found_of_isEmpty (p := p.limit range) hempty, empty_inter]
  | false =>
    rw [found_eq hempty, found_eq (p := p.limit range) hempty, Plan.strategy_limit]
    cases p.strategy with
    | multiword | anyword | eitheror | partialWord =>
      exact (Plan.restrict_limit p range _).trans
        (congrArg (· ∩ _) (Plan.restrict_of_range?_eq_none hfree _).symm)
    | phrase | mixedPhrase => exact answer_phraseSearch_limit hfree false
    | orderedMultiword => exact answer_phraseSearch_limit hfree true
    | regex => exact patternSearch_limit hfree
    | combined | combinedPhrase | mixed => exact (empty_inter _).symm

/-! ### Combined searches -/

/-- **A range cuts down what groups find together.** -/
theorem foldFound_limit (phrases : Bool) (found : VerseSet) (gs : List Group) :
    s.foldFound (p.limit range) phrases (found ∩ .parse range) gs
      = s.foldFound p phrases found gs ∩ .parse range := by
  induction gs generalizing found with
  | nil => rfl
  | cons g gs ih =>
    have hgroup : (groupPlan p phrases g).range? = none := Plan.range?_derive.trans hfree
    rw [foldFound, List.foldl_cons, groupPlan_limit, found_limit hgroup, Group.fold_inter]
    exact ih _

theorem answer_combinedSearch_limit (phrases : Bool) :
    Index.answer (s.combinedSearch (p.limit range) phrases)
      = Index.answer (s.combinedSearch p phrases) ∩ .parse range := by
  have hfold : ∀ gs, s.foldFound (p.limit range) phrases ∅ gs
      = s.foldFound p phrases ∅ gs ∩ .parse range := fun gs => by
    rw [← foldFound_limit hfree, empty_inter]
  rw [answer_combinedSearch, answer_combinedSearch]
  change s.foldFound (p.limit range) phrases ∅ _ \ s.foldFound (p.limit range) phrases ∅ _ = _
  rw [hfold, hfold]
  ext v
  simp only [VerseSet.mem_sdiff, VerseSet.mem_inter]
  tauto

end

/-! ### Mixed searches -/

section

variable (hfree : p.range? = none)

include hfree

theorem termPlan_limit (range : String) (term : List Char) :
    termPlan (p.limit range) term = (termPlan p term).limit range ∧
      (termPlan p term).range? = none := by
  have hsub : ∀ strategy term, (p.limit range).subSearch strategy term
      = (p.subSearch strategy term).limit range ∧ (p.subSearch strategy term).range? = none :=
    fun strategy term => ⟨@Plan.withRange_limit strategy [term]
      { p.flags with strongs := Term.mentionsStrongs term, morph := Term.mentionsMorph term } range
      p.range?, Plan.range?_subSearch.trans hfree⟩
  unfold termPlan
  split
  · exact hsub _ _
  · split
    · split <;> exact hsub _ _
    · split <;> exact hsub _ _

/-- **What terms with signs find in a range is within the range.** -/
theorem all_sides (terms : List (List Char)) {m : Sides} (hm : m.All (· ∈ VerseSet.parse range)) :
    (s.sides (p.limit range) m terms).All (· ∈ VerseSet.parse range) := by
  induction terms generalizing m with
  | nil => exact hm
  | cons t ts ih =>
    obtain ⟨hplan, hterm⟩ := termPlan_limit hfree range (roleOf t).2
    rw [sides, List.foldl_cons, hplan, found_limit hterm]
    exact ih (hm.push (fun v hv => (VerseSet.mem_inter.mp hv).2) _ _)

end

/-! ### All strategies -/

section

variable (hfree : p.range? = none)

include hfree

/-- A range cuts down what a search finds that is not mixed. -/
theorem answer_run_limit (hstrategy : p.strategy ≠ .mixed) :
    Index.answer (s.run (p.limit range)) = Index.answer (s.run p) ∩ .parse range := by
  rw [answer_run, answer_run, Plan.isEmpty_limit, Plan.strategy_limit]
  cases p.isEmpty with
  | true => exact (empty_inter _).symm
  | false =>
    cases hs : p.strategy with
    | combined => exact answer_combinedSearch_limit hfree false
    | combinedPhrase => exact answer_combinedSearch_limit hfree true
    | mixed => exact absurd hs hstrategy
    | multiword | anyword | eitheror | partialWord | phrase | orderedMultiword | mixedPhrase
    | regex => exact found_limit hfree

/-- A mixed search in a range finds verses of the range. -/
theorem mem_of_mem_run_limit (hstrategy : p.strategy = .mixed) {v : Verse}
    (hv : v ∈ Index.answer (s.run (p.limit range))) : v ∈ VerseSet.parse range := by
  rw [answer_run_mixed (p := p.limit range) hstrategy] at hv
  exact (all_sides hfree p.rawTerms (Sides.all_empty _)).of_mem_total v hv

end

/-- **A search in a range.** Over any index and source, with any settings, terms and flags, and
whatever the earlier searches were, a search in a range that is not blank finds what the search
without a range finds within it, unless it is mixed; and a mixed search in a range finds verses of
the range. -/
theorem search_range (s : Searcher) (strategy : Strategy) (terms : List String) (flags : Flags)
    (earlier earlier' : List Request) (hrange : Text.trim range.toList ≠ []) :
    (strategy ≠ .mixed →
      s.resultAfter earlier ⟨strategy, terms, { flags with range? := some range }⟩
        = s.resultAfter earlier' ⟨strategy, terms, { flags with range? := none }⟩
          ∩ .parse range) ∧
    (strategy = .mixed →
      ∀ v ∈ s.resultAfter earlier ⟨strategy, terms, { flags with range? := some range }⟩,
        v ∈ VerseSet.parse range) := by
  have hfree : (Plan.ofTerms strategy (terms.map String.toList)
      { flags with range? := none }).range? = none := Plan.range?_ofTerms rfl
  have hplan : (Plan.ofTerms strategy (terms.map String.toList)
      { flags with range? := none }).strategy = strategy := by
    rw [Plan.ofTerms, Plan.withRange]
    split <;> rfl
  rw [answer_search, answer_search, Plan.ofTerms_limit hrange]
  exact ⟨fun hstrategy => answer_run_limit hfree (by rwa [hplan]),
    fun hstrategy v hv => mem_of_mem_run_limit hfree (hplan.trans hstrategy) hv⟩

theorem search_range_opening :
    Text.trim " Genesis 1 ".toList ≠ [] ∧
      .first ∈ (Corpus.opening.searcher .unlimited Corpus.opening.source {}).resultAfter []
        ⟨.multiword, ["god"], { range? := some " Genesis 1 " }⟩ ∧
      .first ∉ (Corpus.opening.searcher .unlimited Corpus.opening.source {}).resultAfter []
        ⟨.multiword, ["god"], { range? := some "Exodus" }⟩ ∧
      .first ∉ (Corpus.opening.searcher .unlimited Corpus.opening.source {}).resultAfter []
        ⟨.mixed, ["god", "+zzz"], { range? := some "Exodus" }⟩ := by
  have hgenesis : Text.trim " Genesis 1 ".toList ≠ [] := by decide +kernel
  have hexodus : Text.trim "Exodus".toList ≠ [] := by decide +kernel
  have hout : Verse.first ∉ VerseSet.parse "Exodus" := by decide +kernel
  have hgod : .first ∈ (Corpus.opening.searcher .unlimited Corpus.opening.source {}).resultAfter []
      ⟨.multiword, ["god"], {}⟩ := by
    have hmem : (Verse.first, Corpus.opening.entries[0].2) ∈ Corpus.opening.entries :=
      List.mem_singleton.mpr rfl
    refine (Corpus.mem_search_multiword_iff ?_ ?_ ?_).mpr ⟨?_, _, hmem, ?_⟩
    · decide
    · decide +kernel
    · decide +kernel
    · exact fun range h => nomatch h
    · decide +kernel
  refine ⟨hgenesis, ?_, ?_, fun hv => ?_⟩
  · rw [(search_range _ .multiword ["god"] {} [] [] hgenesis).1 (by decide)]
    exact VerseSet.mem_inter.mpr ⟨hgod, by decide +kernel⟩
  · rw [(search_range _ .multiword ["god"] {} [] [] hexodus).1 (by decide)]
    exact fun hv => hout (VerseSet.mem_inter.mp hv).2
  · exact hout ((search_range _ .mixed ["god", "+zzz"] {} [] [] hexodus).2 rfl _ hv)

end Searcher

end Concordance
