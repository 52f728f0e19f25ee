import Concordance.Proofs.Search.Words

/-!
# Required and excluded terms

Each term of a mixed search is searched for on its own, and its sign says on which side of the answer
the verses go that it finds. Whatever the other terms are, no verse that an excluded term finds is in
the answer. The required terms together have the last word where there are verses that all of them
find: the answer is within those verses then. Where there are none, the search is answered as if the
required terms had not been given.

## Main definitions

* `Searcher.termRequest` — the search for a term of a mixed search, as a request of its own
* `Searcher.signed` — the terms that a sign puts into a role
* `Searcher.Sides.pushAll` — what terms have found, each on its side
* `Searcher.Sides.Counts` — what required and excluded terms have found

## Main results

* `Searcher.resultAfter_mixed` — a mixed search adds up the answers of requests for its terms
* `Searcher.Sides.counts_pushAll` — every required and every excluded term is counted
* `Searcher.Sides.total_of_required_apart` — required terms without a verse in common do not count
* `Searcher.search_mixed_signs` — what required and excluded terms do to the answer
-/

namespace Concordance

namespace Searcher

open Index

variable {s : Searcher} {flags : Flags} {terms : List String}

/-! ### Searches for terms -/

/-- The strategy of the search for a term, and what is searched for: a pattern after `&`, a phrase if
there are spaces, whose words may be further apart after `~`, words that match if there are wildcards,
and else a word. -/
def termSearch (term : List Char) : Strategy × List Char :=
  match term with
  | '&' :: source => (.regex, source)
  | term =>
    if term.contains ' ' then
      match term with
      | '~' :: words => (.orderedMultiword, words)
      | _ => (.mixedPhrase, term)
    else if term.contains '*' then (.partialWord, term)
    else (.multiword, term)

/-- The search for a term of a mixed search, as a request of its own. The term alone decides whether
tags take part. -/
def termRequest (flags : Flags) (term : List Char) : Request :=
  let (strategy, text) := termSearch term
  ⟨strategy, [String.ofList text],
    { flags with strongs := Term.mentionsStrongs text, morph := Term.mentionsMorph text }⟩

/-- The terms that their signs put into a role, without the signs. -/
def signed (role : Role) (terms : List String) : List (List Char) :=
  (terms.map fun t => roleOf (Text.trim t.toList)).filterMap fun t =>
    if t.1 = role then some t.2 else none

theorem termPlan_eq_subSearch (p : Plan) (term : List Char) :
    termPlan p term = p.subSearch (termSearch term).1 (termSearch term).2 := by
  unfold termPlan termSearch
  grind

/-- No term is searched for by a strategy that combines other searches. -/
theorem termSearch_standsAlone (term : List Char) :
    (termSearch term).1 ∉ [Strategy.combined, .combinedPhrase, .mixed] := by
  unfold termSearch
  split
  · simp
  · split
    · split <;> simp
    · split <;> simp

/-- **A term of a mixed search finds what the request for it finds.** -/
theorem found_termPlan {p : Plan} (hflags : p.flags = flags) (hrange : p.range? = Plan.rangeOf? flags)
    (term : List Char) : s.found (termPlan p term) = answer (s.search (termRequest flags term)) := by
  have hplan : termPlan p term = .ofTerms (termRequest flags term).strategy
      ((termRequest flags term).terms.map String.toList) (termRequest flags term).flags := by
    rw [termPlan_eq_subSearch, Plan.subSearch, Plan.ofTerms, hflags, hrange]
    simp [termRequest, Plan.rangeOf?]
  have hstrategy : (termPlan p term).strategy = (termSearch term).1 := by
    rw [termPlan_eq_subSearch, Plan.subSearch, Plan.strategy_withRange]
  rw [search, ← hplan, answer_run_of_standsAlone]
  rw [hstrategy]
  exact termSearch_standsAlone term

/-! ### The sides of an answer -/

namespace Sides

variable {m : Sides} {results : List (Role × VerseSet)} {multiwordDefault : Bool}

/-- What several terms have found, each on its side. -/
def pushAll (multiwordDefault : Bool) (m : Sides) (results : List (Role × VerseSet)) : Sides :=
  results.foldl (fun m r => m.push multiwordDefault r.1 r.2) m

/-- The sides count excluded and required terms: a verse is on the side of the excluded ones if any of
them finds it, and on the side of the required ones, if there are any, if all of them find it. -/
structure Counts (m : Sides) (results : List (Role × VerseSet)) : Prop where
  /-- What any excluded term has found. -/
  excluded : ∀ v, v ∈ m.excluded ↔ ∃ r ∈ results, r.1 = .excluded ∧ v ∈ r.2
  /-- Without required terms there is nothing to say about them. -/
  none : m.required? = none ↔ ∀ r ∈ results, r.1 ≠ .required
  /-- What all required terms have found. -/
  required : ∀ found ∈ m.required?, ∀ v, v ∈ found ↔ ∀ r ∈ results, r.1 = .required → v ∈ r.2

theorem counts_empty : ({} : Sides).Counts [] :=
  ⟨by simp, by simp, by simp⟩

/-- One more term is counted. -/
theorem Counts.push (h : m.Counts results) (role : Role) (result : VerseSet) :
    (m.push multiwordDefault role result).Counts (results ++ [(role, result)]) := by
  -- a term that is neither required nor excluded leaves both sides as they are
  have hkeep : ∀ m' : Sides, role ≠ .excluded → role ≠ .required → m'.excluded = m.excluded →
      m'.required? = m.required? → m'.Counts (results ++ [(role, result)]) := by
    intro m' hexcluded hrequired hleft hright
    refine ⟨fun v => ?_, ?_, fun found hfound v => ?_⟩
    · rw [hleft, h.excluded]
      simp [hexcluded]
    · rw [hright, h.none, List.forall_mem_append, List.forall_mem_singleton]
      exact (and_iff_left hrequired).symm
    · rw [h.required found (hright ▸ hfound), List.forall_mem_append, List.forall_mem_singleton]
      exact (and_iff_left fun h => absurd h hrequired).symm
  cases role with
  | excluded =>
    refine ⟨fun v => ?_, ?_, fun found hfound v => ?_⟩
    · rw [Sides.push, VerseSet.mem_union, h.excluded]
      simp [or_and_right, exists_or]
    · rw [Sides.push, h.none, List.forall_mem_append, List.forall_mem_singleton]
      exact (and_iff_left Role.noConfusion).symm
    · rw [h.required found hfound, List.forall_mem_append, List.forall_mem_singleton]
      exact (and_iff_left Role.noConfusion).symm
  | required =>
    refine ⟨fun v => ?_, ?_, fun found hfound v => ?_⟩
    · rw [Sides.push, h.excluded]
      simp
    · simp [Sides.push]
    · obtain rfl := Option.some.inj hfound
      rw [List.forall_mem_append, List.forall_mem_singleton]
      cases hbefore : m.required? with
      | none =>
        have hnone := h.none.mp hbefore
        constructor
        · exact fun hv => ⟨fun r hr hrequired => absurd hrequired (hnone r hr), fun _ => hv⟩
        · exact fun hall => hall.2 rfl
      | some before =>
        refine VerseSet.mem_inter.trans ?_
        rw [h.required before hbefore]
        exact and_congr_right fun _ => ⟨fun hv _ => hv, fun hv => hv rfl⟩
  | toggled | alternative => exact hkeep _ (by decide) (by decide) rfl rfl
  | plain =>
    rw [Sides.push]
    split <;> exact hkeep _ (by decide) (by decide) rfl rfl

/-- What holds before the first term and is kept by each term holds of all terms. -/
theorem pushAll_induction {P : Sides → List (Role × VerseSet) → Prop} (start : P {} [])
    (push : ∀ m before role result, P m before →
      P (m.push multiwordDefault role result) (before ++ [(role, result)]))
    (results : List (Role × VerseSet)) : P (pushAll multiwordDefault {} results) results := by
  have hrun : ∀ (before : List (Role × VerseSet)) (m : Sides), P m before →
      P (pushAll multiwordDefault m results) (before ++ results) := by
    induction results with
    | nil => exact fun before m h => by rwa [List.append_nil]
    | cons r rs ih =>
      intro before m h
      rw [List.append_cons]
      exact ih (before ++ [r]) _ (push m before r.1 r.2 h)
  exact hrun [] {} start

/-- **Every required and every excluded term is counted.** -/
theorem counts_pushAll (multiwordDefault : Bool) (results : List (Role × VerseSet)) :
    (pushAll multiwordDefault {} results).Counts results :=
  pushAll_induction counts_empty (fun _ _ role result h => h.push role result) results

/-- The sides as they are without what required terms have found. -/
def withoutRequired (m : Sides) : Sides := { m with required? := none }

theorem withoutRequired_push (role : Role) (result : VerseSet) :
    (m.push multiwordDefault role result).withoutRequired =
      if role = .required then m.withoutRequired
      else m.withoutRequired.push multiwordDefault role result := by
  cases role with
  | plain =>
    rw [if_neg (by decide), Sides.push, Sides.push]
    exact apply_ite withoutRequired _ _ _
  | _ => rfl

/-- Required terms are on a side of their own. -/
theorem withoutRequired_pushAll (results : List (Role × VerseSet)) (m : Sides) :
    (pushAll multiwordDefault m results).withoutRequired =
      pushAll multiwordDefault m.withoutRequired (results.filter (·.1 ≠ .required)) := by
  induction results generalizing m with
  | nil => rfl
  | cons r rs ih =>
    rw [pushAll, List.foldl_cons, ← pushAll, ih, withoutRequired_push]
    by_cases hrequired : r.1 = .required
    · simp [hrequired]
    · rw [if_neg hrequired, List.filter_cons_of_pos (by simpa using hrequired)]
      rfl

/-- **What an excluded term finds is not in the answer.** -/
theorem notMem_total_of_excluded {result : VerseSet} {v : Verse}
    (hresult : (.excluded, result) ∈ results) (hv : v ∈ result) :
    v ∉ (pushAll multiwordDefault {} results).total := by
  intro htotal
  have hexcluded := (counts_pushAll multiwordDefault results).excluded v
  exact (VerseSet.mem_sdiff.mp htotal).2 (hexcluded.mpr ⟨_, hresult, rfl, hv⟩)

/-- **The answer is within what a required term finds** if all required terms find some verse. -/
theorem mem_of_mem_total_of_required {result : VerseSet} {v w : Verse}
    (hresult : (.required, result) ∈ results) (hw : ∀ r ∈ results, r.1 = .required → w ∈ r.2)
    (hv : v ∈ (pushAll multiwordDefault {} results).total) : v ∈ result := by
  have hcounts := counts_pushAll multiwordDefault results
  cases hrequired : (pushAll multiwordDefault {} results).required? with
  | none => exact absurd rfl (hcounts.none.mp hrequired _ hresult)
  | some found =>
    have hfound := hcounts.required found hrequired
    have hnonempty : found.isEmpty ≠ true := by
      intro hempty
      have hw := (hfound w).mpr hw
      rw [VerseSet.isEmpty_iff.mp hempty] at hw
      exact VerseSet.notMem_empty w hw
    have hv : v ∈ found := by
      have hv := (VerseSet.mem_sdiff.mp hv).1
      simp only [hrequired, hnonempty] at hv
      exact (VerseSet.mem_union.mp hv).elim (fun hv => (VerseSet.mem_inter.mp hv).2) id
    exact (hfound v).mp hv _ hresult rfl

/-- **Required terms that find no verse together do not count.** -/
theorem total_of_required_apart (h : ¬ ∃ w, ∀ r ∈ results, r.1 = .required → w ∈ r.2) :
    (pushAll multiwordDefault {} results).total
      = (pushAll multiwordDefault {} (results.filter (·.1 ≠ .required))).total := by
  have hcounts := counts_pushAll multiwordDefault results
  have hnone : pushAll multiwordDefault {} (results.filter (·.1 ≠ .required))
      = (pushAll multiwordDefault {} results).withoutRequired := (withoutRequired_pushAll results {}).symm
  rw [hnone]
  unfold total withoutRequired
  cases hrequired : (pushAll multiwordDefault {} results).required? with
  | none => rfl
  | some found =>
    have hempty : found = ∅ := by
      ext w
      have hw : w ∉ found := fun hw => h ⟨w, (hcounts.required found hrequired w).mp hw⟩
      exact iff_of_false hw (VerseSet.notMem_empty w)
    simp only [VerseSet.isEmpty_iff.mpr hempty, if_true]

end Sides

/-! ### Mixed searches -/

/-- What the terms of a mixed search find, each as a request of its own, with its role. -/
def termResults (s : Searcher) (flags : Flags) (terms : List String) : List (Role × VerseSet) :=
  ((terms.map fun t => Text.trim t.toList).filter (!·.isEmpty)).map fun t =>
    ((roleOf t).1, answer (s.search (termRequest flags (roleOf t).2)))

/-- **A mixed search adds up the answers of requests for its terms.** -/
theorem resultAfter_mixed (s : Searcher) (flags : Flags) (terms : List String)
    (earlier : List Request) :
    s.resultAfter earlier ⟨.mixed, terms, flags⟩
      = (Sides.pushAll s.settings.multiwordDefault {} (s.termResults flags terms)).total := by
  have hterm : ∀ term, s.found (termPlan (.ofTerms .mixed (terms.map String.toList) flags) term)
      = answer (s.search (termRequest flags term)) := found_termPlan rfl rfl
  have hraw : (Plan.ofTerms .mixed (terms.map String.toList) flags).rawTerms
      = (terms.map fun t => Text.trim t.toList).filter (!·.isEmpty) := by
    simp [Plan.ofTerms, Plan.withRange, Strategy.cleansWords, Function.comp_def]
  rw [answer_search, answer_run_mixed rfl, sides, hraw, termResults, Sides.pushAll, List.foldl_map]
  simp only [hterm]

section

variable {role : Role} (hsign : role ≠ .plain)

include hsign

theorem mem_termResults_of_signed {term : List Char} (hterm : term ∈ signed role terms) :
    (role, answer (s.search (termRequest flags term))) ∈ s.termResults flags terms := by
  simp only [signed, List.mem_filterMap, List.mem_map, Option.ite_none_right_eq_some,
    Option.some.injEq] at hterm
  obtain ⟨_, ⟨t, ht, rfl⟩, rfl, rfl⟩ := hterm
  have hne : Text.trim t.toList ≠ [] := fun hempty => hsign (by rw [hempty]; rfl)
  refine List.mem_map.mpr ⟨_, List.mem_filter.mpr ⟨List.mem_map.mpr ⟨t, ht, rfl⟩, ?_⟩, rfl⟩
  simpa using hne

/-- What holds of all that terms with a sign find. -/
theorem forall_termResults {P : VerseSet → Prop} :
    (∀ r ∈ s.termResults flags terms, r.1 = role → P r.2) ↔
      ∀ term ∈ signed role terms, P (answer (s.search (termRequest flags term))) := by
  constructor
  · exact fun h term hterm => h _ (mem_termResults_of_signed hsign hterm) rfl
  · rintro h _ hr rfl
    obtain ⟨t, ht, rfl⟩ := List.mem_map.mp hr
    have ht := List.mem_of_mem_filter ht
    exact h _ (List.mem_filterMap.mpr
      ⟨roleOf t, by simpa using List.mem_map_of_mem (f := roleOf) ht, if_pos rfl⟩)

end

/-- The terms of a mixed search without the required ones. -/
def withoutRequired (terms : List String) : List String :=
  terms.filter fun t => (roleOf (Text.trim t.toList)).1 ≠ .required

theorem termResults_withoutRequired :
    s.termResults flags (withoutRequired terms)
      = (s.termResults flags terms).filter (·.1 ≠ .required) := by
  simp only [termResults, withoutRequired, List.filter_map, List.filter_filter, Function.comp_def,
    Bool.and_comm]

/-! ### Terms over the opening verse -/

section

open Corpus (opening)

/-- A word of the opening verse is a term that finds it. -/
theorem mem_termRequest_god :
    .first ∈ (opening.searcher .unlimited opening.source {}).resultAfter []
      (termRequest {} ['g', 'o', 'd']) := by
  have hterm : termRequest {} ['g', 'o', 'd'] = ⟨.multiword, ["god"], {}⟩ := by decide +kernel
  have hmem : (Verse.first, opening.entries[0].2) ∈ opening.entries := List.mem_singleton.mpr rfl
  rw [hterm]
  refine (Corpus.mem_search_multiword_iff ?_ ?_ ?_).mpr ⟨?_, _, hmem, ?_⟩
  · decide
  · decide +kernel
  · decide +kernel
  · exact fun range h => nomatch h
  · decide +kernel

/-- A word that no verse has is a term that finds none. -/
theorem notMem_termRequest_zzz (v : Verse) :
    v ∉ (opening.searcher .unlimited opening.source {}).resultAfter []
      (termRequest {} ['z', 'z', 'z']) := by
  have hterm : termRequest {} ['z', 'z', 'z'] = ⟨.multiword, ["zzz"], {}⟩ := by decide +kernel
  rw [hterm]
  intro hv
  obtain ⟨-, t, ht, hword⟩ := (Corpus.mem_search_multiword_iff (by decide) (by decide +kernel)
    (by decide +kernel)).mp hv
  obtain rfl := congrArg Prod.snd (List.mem_singleton.mp ht)
  exact absurd hword (by decide +kernel)

/-! ### Required and excluded terms -/

/-- **Required and excluded terms.** Over any index and source, with any settings, terms and flags, and
whatever the earlier searches were, no verse that an excluded term finds is in the answer of a mixed
search. If some verse is found by all required terms, every verse of the answer is; and if there is
none, the required terms do not count. -/
theorem search_mixed_signs (s : Searcher) (terms : List String) (flags : Flags)
    (earlier earlier' : List Request) :
    (∀ v ∈ s.resultAfter earlier ⟨.mixed, terms, flags⟩, ∀ term ∈ signed .excluded terms,
      v ∉ s.resultAfter earlier' (termRequest flags term)) ∧
    ((∃ w, ∀ term ∈ signed .required terms, w ∈ s.resultAfter earlier' (termRequest flags term)) →
      ∀ v ∈ s.resultAfter earlier ⟨.mixed, terms, flags⟩, ∀ term ∈ signed .required terms,
        v ∈ s.resultAfter earlier' (termRequest flags term)) ∧
    ((¬ ∃ w, ∀ term ∈ signed .required terms, w ∈ s.resultAfter earlier' (termRequest flags term)) →
      s.resultAfter earlier ⟨.mixed, terms, flags⟩
        = s.resultAfter earlier' ⟨.mixed, withoutRequired terms, flags⟩) := by
  have hrequired : ∀ v, (∀ r ∈ s.termResults flags terms, r.1 = .required → v ∈ r.2) ↔
      ∀ term ∈ signed .required terms, v ∈ answer (s.search (termRequest flags term)) := fun v =>
    @forall_termResults s flags terms .required (by decide) (v ∈ ·)
  simp only [resultAfter_mixed, resultAfter_eq s earlier' (termRequest flags _)]
  refine ⟨fun v hv term hterm hfound => ?_, ?_, fun hnone => ?_⟩
  · have hresult : (Role.excluded, _) ∈ s.termResults flags terms :=
      mem_termResults_of_signed (by decide) hterm
    exact Sides.notMem_total_of_excluded hresult hfound hv
  · rintro ⟨w, hw⟩ v hv term hterm
    have hresult : (Role.required, _) ∈ s.termResults flags terms :=
      mem_termResults_of_signed (by decide) hterm
    exact Sides.mem_of_mem_total_of_required hresult ((hrequired w).mpr hw) hv
  · rw [termResults_withoutRequired]
    refine Sides.total_of_required_apart ?_
    rintro ⟨w, hw⟩
    exact hnone ⟨w, (hrequired w).mp hw⟩

/-- The three cases on the opening verse: an excluded term finds it, a required one does, and a
required one does not. -/
theorem search_mixed_signs_opening :
    .first ∉ (opening.searcher .unlimited opening.source {}).resultAfter [] ⟨.mixed, ["in", "!god"], {}⟩ ∧
      (∀ v ∈ (opening.searcher .unlimited opening.source {}).resultAfter [] ⟨.mixed, ["zzz", "+god"], {}⟩,
        v ∈ (opening.searcher .unlimited opening.source {}).resultAfter []
          (termRequest {} ['g', 'o', 'd'])) ∧
      (opening.searcher .unlimited opening.source {}).resultAfter [] ⟨.mixed, ["god", "+zzz"], {}⟩
        = (opening.searcher .unlimited opening.source {}).resultAfter [] ⟨.mixed, ["god"], {}⟩ := by
  have hexcluded : ['g', 'o', 'd'] ∈ signed .excluded ["in", "!god"] := by decide +kernel
  have hgod : signed .required ["zzz", "+god"] = [['g', 'o', 'd']] := by decide +kernel
  have hzzz : signed .required ["god", "+zzz"] = [['z', 'z', 'z']] := by decide +kernel
  have hwithout : withoutRequired ["god", "+zzz"] = ["god"] := by decide +kernel
  refine ⟨fun hv => ?_, fun v hv => ?_, ?_⟩
  · exact (search_mixed_signs _ ["in", "!god"] {} [] []).1 _ hv _ hexcluded mem_termRequest_god
  · refine (search_mixed_signs _ ["zzz", "+god"] {} [] []).2.1 ⟨.first, ?_⟩ v hv _ ?_
    · rw [hgod]
      exact List.forall_mem_singleton.mpr mem_termRequest_god
    · rw [hgod]
      exact List.mem_singleton.mpr rfl
  · have hnone := (search_mixed_signs (opening.searcher .unlimited opening.source {})
      ["god", "+zzz"] {} [] []).2.2
    rw [hzzz, hwithout] at hnone
    apply hnone
    rintro ⟨w, hw⟩
    exact notMem_termRequest_zzz w (hw _ (List.mem_singleton.mpr rfl))

/-- A required term that finds nothing does not keep other terms from finding verses. -/
theorem mixed_required_without_verses :
    ¬ ∀ v ∈ (opening.searcher .unlimited opening.source {}).resultAfter [] ⟨.mixed, ["god", "+zzz"], {}⟩,
      ∀ term ∈ signed .required ["god", "+zzz"],
        v ∈ (opening.searcher .unlimited opening.source {}).resultAfter [] (termRequest {} term) := by
  intro hrequired
  have hzzz : ['z', 'z', 'z'] ∈ signed .required ["god", "+zzz"] := by decide +kernel
  refine notMem_termRequest_zzz .first (hrequired .first ?_ _ hzzz)
  have hgod := mem_termRequest_god
  have hnone := notMem_termRequest_zzz
  rw [resultAfter_eq] at hgod
  simp only [resultAfter_eq] at hnone
  have hresults : (opening.searcher .unlimited opening.source {}).termResults {} ["god", "+zzz"]
      = [(.plain, answer ((opening.searcher .unlimited opening.source {}).search
            (termRequest {} ['g', 'o', 'd']))),
          (.required, answer ((opening.searcher .unlimited opening.source {}).search
            (termRequest {} ['z', 'z', 'z'])))] := by
    have htrim : (["god", "+zzz"].map fun t => Text.trim t.toList)
      = [['g', 'o', 'd'], ['+', 'z', 'z', 'z']] := by decide +kernel
    rw [termResults, htrim]
    rfl
  rw [resultAfter_mixed, Sides.total_of_required_apart, hresults]
  · have hempty : (∅ : VerseSet).isEmpty = true := VerseSet.isEmpty_iff.mpr rfl
    simpa [Sides.pushAll, Sides.push, Sides.total, hempty] using hgod
  · rw [hresults]
    rintro ⟨w, hw⟩
    exact hnone w (hw _ (.tail _ (.head _)) rfl)

end

end Searcher

end Concordance
