import Mathlib.Tactic.Tauto
import Concordance.Proofs.Search.History

/-!
# The answers of searches

A search looks things up on its way, but what it finds does not depend on what was looked up before.
So every search has an answer that can be written down without a cache: a strategy that stands on its
own finds a set, and a search that combines others combines their answers.

## Main definitions

* `Searcher.found` — what a strategy that stands on its own finds
* `Searcher.foldFound`, `Searcher.sides` — the answers of groups and of terms with signs, combined
* `Searcher.Sides.All` — what holds of everything that terms with signs find

## Main results

* `Searcher.found_eq` — what each strategy finds
* `Searcher.answer_combinedSearch`, `Searcher.answer_mixedSearch` — what combinations find
* `Searcher.answer_search` — the answer of any search
-/

namespace Concordance

theorem Plan.mem_restrict {p : Plan} {s : VerseSet} {v : Verse} :
    v ∈ p.restrict s ↔ (∀ range ∈ p.range?, v ∈ range) ∧ v ∈ s := by
  rw [restrict]
  cases p.range? with
  | none => simp
  | some range => simp [and_comm]

theorem Plan.strategy_withRange {strategy : Strategy} {terms : List (List Char)} {flags : Flags}
    {range? : Option VerseSet} : (withRange strategy terms flags range?).strategy = strategy := by
  rw [withRange]
  split <;> rfl

namespace Searcher

open Index

variable {s : Searcher} {p : Plan}

/-- What a search by a strategy that stands on its own finds. -/
def found (s : Searcher) (p : Plan) : VerseSet := answer (s.runBasic p)

/-! ### Phrases -/

/-- The verses that the index has for a phrase. -/
def indexed (s : Searcher) (p : Plan) : VerseSet :=
  if p.termTexts.any (·.contains '*') then
    answer (s.index.partialWords s.engine p.caseSensitive s.settings.phraseCommonLimit p.termTexts)
  else answer (s.index.intersect p.caseSensitive p.termTexts)

/-- Without wildcards these are the verses of all terms. -/
theorem mem_indexed_iff {v : Verse} (hstar : ∀ t ∈ p.termTexts, '*' ∉ t) :
    v ∈ s.indexed p ↔ p.termTexts ≠ [] ∧ ∀ t ∈ p.termTexts, s.index.Has p.caseSensitive t v := by
  have hindexed : s.indexed p = answer (s.index.intersect p.caseSensitive p.termTexts) :=
    if_neg (by simpa using hstar)
  rw [hindexed]
  exact finds_intersect.mem_run soundCache_empty v

theorem answer_phraseCandidates (s : Searcher) (p : Plan) :
    answer (s.phraseCandidates p) = p.restrict (s.indexed p) := by
  rw [phraseCandidates, indexed]
  split
  · exact (determined_partialWords _ _ _).answer_map _
  · exact finds_intersect.determined.answer_map _

theorem mem_scan {pattern : Pattern} {tryClean : Bool} {candidates : VerseSet} {v : Verse} :
    v ∈ s.scan p pattern tryClean candidates ↔
      v ∈ candidates ∧ s.matchesVerse p pattern tryClean v = true := by
  simp [scan]

theorem scan_empty {pattern : Pattern} {tryClean : Bool} :
    s.scan p pattern tryClean ∅ = ∅ := by
  ext v
  simp [mem_scan]

/-- A search for one term finds the candidates, and for several terms those whose texts match. -/
theorem answer_phraseSearch (s : Searcher) (p : Plan) (sloppy : Bool) :
    answer (s.phraseSearch p sloppy) =
      if p.terms.isEmpty then ∅
      else if p.terms.length = 1 then p.restrict (s.indexed p)
      else s.scan p (phraseMatcher s.engine p sloppy).pattern false (p.restrict (s.indexed p)) := by
  rw [phraseSearch]
  split
  · rfl
  · rw [determined_phraseCandidates.answer_bind, answer_phraseCandidates]
    · by_cases hone : p.terms.length = 1
      · simp [hone]
      · by_cases hempty : (p.restrict (s.indexed p)).isEmpty = true
        · -- nothing is scanned where nothing is left
          simp [hone, VerseSet.isEmpty_iff.mp hempty, scan_empty]
        · simp [hone, hempty]
    · split <;> exact determined_pure _

/-! ### Strategies that stand on their own -/

theorem found_of_isEmpty (h : p.isEmpty = true) : s.found p = ∅ := by
  rw [found, runBasic, if_pos h]
  rfl

/-- **What each strategy finds.** -/
theorem found_eq (h : p.isEmpty = false) :
    s.found p = match p.strategy with
      | .multiword => p.restrict (answer (s.index.intersect p.caseSensitive p.termTexts))
      | .anyword => p.restrict (answer (s.index.union p.caseSensitive p.termTexts))
      | .eitheror => p.restrict (answer (s.index.symmDiff p.caseSensitive p.termTexts))
      | .partialWord => p.restrict
          (answer (s.index.partialWords s.engine p.caseSensitive s.settings.commonLimit p.termTexts))
      | .phrase | .mixedPhrase => answer (s.phraseSearch p false)
      | .orderedMultiword => answer (s.phraseSearch p true)
      | .regex => s.patternSearch p
      | .combined | .combinedPhrase | .mixed => ∅ := by
  rw [found, runBasic, if_neg (by simp [h])]
  cases hs : p.strategy with
  | multiword =>
    exact (finds_intersect.determined.answer_map _).trans (if_pos (by rw [hs]; rfl))
  | anyword => exact (finds_union.determined.answer_map _).trans (if_pos (by rw [hs]; rfl))
  | eitheror => exact (finds_symmDiff.determined.answer_map _).trans (if_pos (by rw [hs]; rfl))
  | partialWord =>
    exact ((determined_partialWords _ _ _).answer_map _).trans (if_pos (by rw [hs]; rfl))
  | phrase | mixedPhrase =>
    exact ((determined_phraseSearch false).answer_map _).trans (if_neg (by rw [hs]; decide))
  | orderedMultiword =>
    exact ((determined_phraseSearch true).answer_map _).trans (if_neg (by rw [hs]; decide))
  | regex | combined | combinedPhrase | mixed => rfl

/-! ### Groups -/

/-- The verses after a group: what it finds is kept within what was found before, or changes
sides. -/
def Group.fold (g : Group) (found result : VerseSet) : VerseSet :=
  if g.within then found ∩ result else found.symmDiff result

/-- The answers of groups, folded into what was found before them. -/
def foldFound (s : Searcher) (p : Plan) (phrases : Bool) (found : VerseSet) (gs : List Group) :
    VerseSet :=
  gs.foldl (fun found g => g.fold found (s.found (groupPlan p phrases g))) found

theorem answer_foldGroups (phrases : Bool) (found : VerseSet) (gs : List Group) :
    answer (s.foldGroups p phrases found gs) = s.foldFound p phrases found gs := by
  induction gs generalizing found with
  | nil => rfl
  | cons g gs ih =>
    rw [foldGroups, determined_runBasic.answer_bind (determined_foldGroups _ _ _)]
    exact ih _

/-- **A combined query finds what its included groups find**, without what the excluded ones do. -/
theorem answer_combinedSearch (phrases : Bool) :
    answer (s.combinedSearch p phrases) =
      s.foldFound p phrases ∅ (groups false ((Query.parse p.text).included.map Query.Phrase.text)) \
      s.foldFound p phrases ∅
        (groups false ((Query.parse p.text).excluded.map Query.Phrase.text)) := by
  have hexcluded : ∀ found, s.index.Determined (do
      return found \ (← s.foldGroups p phrases ∅
        (groups false ((Query.parse p.text).excluded.map Query.Phrase.text)))) := fun _ =>
    (determined_foldGroups _ _ _).bind fun _ => determined_pure _
  rw [combinedSearch, (determined_foldGroups _ _ _).answer_bind (hexcluded _), answer_foldGroups]
  rw [(determined_foldGroups _ _ _).answer_map, answer_foldGroups]

/-! ### Terms with signs -/

namespace Sides

variable {m : Sides} {P : Verse → Prop}

/-- Everything on the sides of a mixed search has a property, apart from what is excluded. -/
structure All (m : Sides) (P : Verse → Prop) : Prop where
  /-- What terms without a sign have found. -/
  plain : ∀ v ∈ m.plain, P v
  /-- What alternatives have found. -/
  alternative : ∀ v ∈ m.alternative, P v
  /-- What all required terms have found. -/
  required : ∀ found ∈ m.required?, ∀ v ∈ found, P v
  /-- What changes sides. -/
  toggled : ∀ v ∈ m.toggled, P v

theorem all_empty (P : Verse → Prop) : ({} : Sides).All P :=
  ⟨by simp, by simp, by simp, by simp⟩

/-- One more term that finds verses with the property. -/
theorem All.push {result : VerseSet} (h : m.All P) (hresult : ∀ v ∈ result, P v)
    (multiwordDefault : Bool) (role : Role) : (m.push multiwordDefault role result).All P := by
  cases role with
  | excluded => exact ⟨h.plain, h.alternative, h.required, h.toggled⟩
  | required =>
    refine ⟨h.plain, h.alternative, ?_, h.toggled⟩
    rintro found hfound v hv
    obtain rfl := Option.some.inj hfound
    cases hrequired : m.required? with
    | none => exact hresult v (by simpa [hrequired] using hv)
    | some before => exact hresult v (by simpa [hrequired] using hv : v ∈ before ∧ v ∈ result).2
  | toggled =>
    refine ⟨h.plain, h.alternative, h.required, fun v hv => ?_⟩
    by_cases hbefore : v ∈ m.toggled
    · exact h.toggled v hbefore
    · exact hresult v (by simpa [Sides.push, hbefore] using hv)
  | alternative =>
    refine ⟨h.plain, fun v hv => ?_, h.required, h.toggled⟩
    exact (VerseSet.mem_union.mp hv).elim (h.alternative v) (hresult v)
  | plain =>
    rw [Sides.push]
    split
    · exact ⟨fun v hv => hresult v (VerseSet.mem_inter.mp hv).2, h.alternative, h.required, h.toggled⟩
    · exact ⟨fun v hv => (VerseSet.mem_union.mp hv).elim (h.plain v) (hresult v), h.alternative,
        h.required, h.toggled⟩

/-- What the whole search finds has the property too. -/
theorem All.of_mem_total (h : m.All P) : ∀ v ∈ m.total, P v := by
  intro v hv
  have hfound : v ∈ (m.plain ∪ m.alternative).symmDiff m.toggled → P v := by
    intro hv
    by_cases htoggled : v ∈ m.toggled
    · exact h.toggled v htoggled
    · have hv : v ∈ m.plain ∪ m.alternative :=
        by_contra fun hnot => VerseSet.mem_symmDiff.mp hv (iff_of_false hnot htoggled)
      exact (VerseSet.mem_union.mp hv).elim (h.plain v) (h.alternative v)
  have hv := (VerseSet.mem_sdiff.mp hv).1
  cases hrequired : m.required? with
  | none => exact hfound (by simpa only [hrequired] using hv)
  | some required =>
    simp only [hrequired] at hv
    split at hv
    · exact hfound hv
    · exact (VerseSet.mem_union.mp hv).elim (fun hv => hfound (VerseSet.mem_inter.mp hv).1)
        (h.required required hrequired v)

end Sides

/-- What terms with signs find, each on its side. -/
def sides (s : Searcher) (p : Plan) (m : Sides) (terms : List (List Char)) : Sides :=
  terms.foldl (fun m t =>
    m.push s.settings.multiwordDefault (roleOf t).1 (s.found (termPlan p (roleOf t).2))) m

theorem answer_foldTerms (m : Sides) (terms : List (List Char)) :
    answer (s.foldTerms p m terms) = s.sides p m terms := by
  induction terms generalizing m with
  | nil => rfl
  | cons t ts ih =>
    rw [foldTerms, determined_runBasic.answer_bind (determined_foldTerms _ _)]
    exact ih _

/-- **A mixed search finds what the sides of its terms add up to.** -/
theorem answer_mixedSearch : answer (s.mixedSearch p) = (s.sides p {} p.rawTerms).total := by
  rw [mixedSearch, (determined_foldTerms _ _).answer_map, answer_foldTerms]

/-! ### Any search -/

theorem answer_run (s : Searcher) (p : Plan) :
    answer (s.run p) =
      if p.isEmpty then ∅
      else match p.strategy with
        | .combined => answer (s.combinedSearch p false)
        | .combinedPhrase => answer (s.combinedSearch p true)
        | .mixed => answer (s.mixedSearch p)
        | _ => s.found p := by
  rw [run]
  split
  · rfl
  · cases p.strategy <;> rfl

/-- A strategy that stands on its own finds what it finds, also where there is nothing to search for. -/
theorem answer_run_of_standsAlone {p : Plan}
    (h : p.strategy ∉ [Strategy.combined, .combinedPhrase, .mixed]) :
    answer (s.run p) = s.found p := by
  rw [answer_run]
  split
  · rename_i hempty
    exact (found_of_isEmpty hempty).symm
  · cases hs : p.strategy with
    | combined | combinedPhrase | mixed => simp [hs] at h
    | _ => rfl

/-- A mixed search without terms finds what no terms add up to, which is nothing. -/
theorem answer_run_mixed (hs : p.strategy = .mixed) :
    answer (s.run p) = (s.sides p {} p.rawTerms).total := by
  rw [answer_run, hs]
  split
  · rename_i hempty
    rw [List.isEmpty_iff.mp hempty]
    ext v
    simp [sides, Sides.total]
  · exact answer_mixedSearch

/-- **The answer of any search**, whatever the searches before it were. -/
theorem answer_search (s : Searcher) (earlier : List Request) (r : Request) :
    s.resultAfter earlier r =
      answer (s.run (.ofTerms r.strategy (r.terms.map String.toList) r.flags)) :=
  s.resultAfter_eq earlier r

end Searcher

end Concordance
