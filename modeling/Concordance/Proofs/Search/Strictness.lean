import Concordance.Proofs.Pattern.Strictness
import Concordance.Proofs.Search.Adjacent

/-!
# Strategies by strictness

The strategies for phrases read a query in one and the same way, take the same verses from the index
for it and show texts to it in the same way; only the pattern that they look for in these texts is not
the same. So they are ordered by what their patterns match, and all of them find less than a search for
all words does, which does not look at texts at all.

## Main results

* `Plan.ofTerms_eq` — the strategies read a query in the same way
* `Searcher.mem_found_phrase` — the verses that the strategies for phrases find
* `Searcher.search_strictness` — the strategies, ordered by strictness
-/

namespace Concordance

/-- Strategies that read queries of words and tags differ in nothing but the strategy. -/
theorem Plan.ofTerms_eq {strategy : Strategy} (hcleans : strategy.cleansWords = true)
    (hcanon : strategy.canonicalizesTags = true) (terms : List (List Char)) (flags : Flags) :
    ofTerms strategy terms flags = { ofTerms .multiword terms flags with strategy } := by
  simp only [ofTerms, withRange, hcleans, hcanon, if_true]
  rfl

namespace Searcher

open Corpus Index

variable {s : Searcher} {p : Plan} {strategy : Strategy} {sloppy : Bool} {v : Verse}

/-! ### Patterns -/

/-- Only a phrase of tags of one kind has a pattern of its own. -/
theorem phraseMatcher_eq {engine : Engine} (h : tagFiller? p = none) : phraseMatcher engine p sloppy =
    ({ caseSensitive := p.caseSensitive, sloppy } : PhraseStyle).matcher engine
      ([' '].intercalate p.termTexts) := by
  rw [phraseMatcher, h]

theorem tagFiller?_of_ne (p : Plan) (h : strategy ≠ .phrase) :
    tagFiller? { p with strategy } = none := if_pos h

/-- A phrase has a pattern of its own only if a flag is set and all of its terms are tags. -/
theorem tagFiller?_eq_none (hstrongs : ¬ (p.flags.strongs = true ∧ ∀ t ∈ p.terms, t.isStrongs = true))
    (hmorph : ¬ (p.flags.morph = true ∧ ∀ t ∈ p.terms, t.isMorph = true)) : tagFiller? p = none := by
  rw [tagFiller?]
  split
  · rfl
  · rw [if_neg (by simpa using hstrongs), if_neg (by simpa using hmorph)]

/-- A pattern that matches more finds more. -/
theorem matchesVerse_mono {pattern pattern' : Pattern}
    (h : ∀ t, pattern.isMatch t = true → pattern'.isMatch t = true)
    (hmatch : s.matchesVerse p pattern false v = true) : s.matchesVerse p pattern' false v = true := by
  simp only [matchesVerse, matchesText, Bool.false_and, Bool.or_false, Option.any_eq_true]
    at hmatch ⊢
  obtain ⟨raw, hraw, hmatch⟩ := hmatch
  exact ⟨raw, hraw, h _ hmatch⟩

/-! ### Phrases -/

/-- **The verses that the strategies for phrases find**: those that the index has, and if there are
several terms, only those of them whose text the pattern matches. -/
theorem mem_found_phrase (h : (p.strategy, sloppy) ∈ phraseStrategies) :
    v ∈ s.found p ↔ p.isEmpty = false ∧ p.terms ≠ [] ∧ v ∈ p.restrict (s.indexed p) ∧
      (p.terms.length = 1 ∨
        s.matchesVerse p (phraseMatcher s.engine p sloppy).pattern false v = true) := by
  cases hempty : p.isEmpty with
  | true => simp [found_of_isEmpty hempty]
  | false =>
    have hfound : s.found p = answer (s.phraseSearch p sloppy) := by
      rw [found_eq hempty]
      simp only [phraseStrategies, List.mem_cons, Prod.mk.injEq, List.not_mem_nil, or_false] at h
      rcases h with ⟨h, rfl⟩ | ⟨h, rfl⟩ | ⟨h, rfl⟩ <;> rw [h]
    rw [hfound, answer_phraseSearch]
    cases hterms : p.terms with
    | nil => simp
    | cons t ts =>
      by_cases hone : ts = []
      · simp [hone]
      · simp [hone, mem_scan]

/-- A search for all words finds what the index has for a phrase without wildcards. -/
theorem mem_found_multiword (h : p.strategy = .multiword) (hstar : ∀ t ∈ p.termTexts, '*' ∉ t) :
    v ∈ s.found p ↔ p.isEmpty = false ∧ v ∈ p.restrict (s.indexed p) := by
  have hindexed : s.indexed p = answer (s.index.intersect p.caseSensitive p.termTexts) :=
    if_neg (by simpa using hstar)
  cases hempty : p.isEmpty with
  | true => simp [found_of_isEmpty hempty]
  | false => simp [found_eq hempty, h, hindexed]

/-! ### Searches -/

section

variable {terms : List String} {flags : Flags} {earlier : List Request}

/-- **What searches for phrases find**, whatever they were asked after. -/
theorem mem_resultAfter_phrase_iff (h : (strategy, sloppy) ∈ phraseStrategies)
    (hp : p = Plan.ofTerms strategy (terms.map String.toList) flags) :
    v ∈ s.resultAfter earlier ⟨strategy, terms, flags⟩ ↔ p.terms ≠ [] ∧ flags.InRange v ∧
      v ∈ s.indexed p ∧ (p.terms.length = 1 ∨
        s.matchesVerse p (phraseMatcher s.engine p sloppy).pattern false v = true) := by
  obtain ⟨hcleans, hcanon, -⟩ := cleansWords_of_mem h
  have hstands : ∀ a ∈ phraseStrategies,
      a.1 ∉ [Strategy.combined, .combinedPhrase, .mixed] := by decide
  have hstrategy : p.strategy = strategy := hp ▸ Plan.strategy_withRange
  have hrange : p.range? = Plan.rangeOf? flags := by
    rw [hp, Plan.ofTerms_eq hcleans hcanon]
    rfl
  have hempty : p.terms ≠ [] → p.isEmpty = false := by
    rw [hp]
    exact Plan.isEmpty_eq_false hcleans hcanon
  rw [answer_search, ← hp, answer_run_of_standsAlone (hstrategy ▸ hstands _ h),
    mem_found_phrase (hstrategy ▸ h), Plan.mem_restrict, hrange, and_assoc]
  exact ⟨fun hfound => hfound.2, fun hfound => ⟨hempty hfound.1, hfound⟩⟩

/-- What a search for all words finds, if there are no wildcards. -/
theorem mem_resultAfter_multiword_iff (hp : p = Plan.ofTerms .multiword (terms.map String.toList) flags)
    (hstar : ∀ t ∈ p.termTexts, '*' ∉ t) :
    v ∈ s.resultAfter earlier ⟨.multiword, terms, flags⟩ ↔
      p.isEmpty = false ∧ flags.InRange v ∧ v ∈ s.indexed p := by
  have hstrategy : p.strategy = .multiword := hp ▸ Plan.strategy_withRange
  have hrange : p.range? = Plan.rangeOf? flags := by
    rw [hp]
    rfl
  rw [answer_search, ← hp, answer_run_of_standsAlone (hstrategy ▸ by decide),
    mem_found_multiword hstrategy hstar, Plan.mem_restrict, hrange]
  exact Iff.rfl

end

/-! ### The order of the strategies -/

/-- **Strategies, ordered by strictness.** Over any index and source, with any settings, terms and flags,
and whatever each search was asked after: a phrase that stands as it is given is found among those that
may be interrupted, unless the engine refuses the pattern of these; without wildcards, what is found has all of
the words, and is all that has them if there is one term only; and a phrase is just a phrase for both of
the strategies for it, unless it consists of tags of one kind and a flag for that kind is set. -/
theorem search_strictness (s : Searcher) (terms : List String) (flags : Flags)
    (earlier : Strategy → List Request) :
    let p := Plan.ofTerms .multiword (terms.map String.toList) flags
    let found := fun strategy => s.resultAfter (earlier strategy) ⟨strategy, terms, flags⟩
    (({ caseSensitive := flags.caseSensitive, sloppy := true } : PhraseStyle).Fits s.engine
        ([' '].intercalate p.termTexts) →
      ∀ v, v ∈ found .mixedPhrase → v ∈ found .orderedMultiword) ∧
    ((∀ t ∈ p.termTexts, '*' ∉ t) →
      (∀ v, v ∈ found .orderedMultiword → v ∈ found .multiword) ∧
      (p.terms.length = 1 →
        found .mixedPhrase = found .multiword ∧ found .orderedMultiword = found .multiword)) ∧
    (¬ (flags.strongs = true ∧ p.terms ≠ [] ∧ ∀ t ∈ p.terms, t.isStrongs = true) →
      ¬ (flags.morph = true ∧ p.terms ≠ [] ∧ ∀ t ∈ p.terms, t.isMorph = true) →
      found .phrase = found .mixedPhrase) := by
  intro p found
  have hphrase : ∀ {strategy sloppy}, (strategy, sloppy) ∈ phraseStrategies → ∀ v,
      (v ∈ found strategy ↔ p.terms ≠ [] ∧ flags.InRange v ∧ v ∈ s.indexed p ∧
        (p.terms.length = 1 ∨ s.matchesVerse p
          (phraseMatcher s.engine { p with strategy } sloppy).pattern false v = true)) := by
    intro strategy sloppy h v
    obtain ⟨hcleans, hcanon, -⟩ := cleansWords_of_mem h
    exact mem_resultAfter_phrase_iff (p := { p with strategy }) h
      (Plan.ofTerms_eq hcleans hcanon _ _).symm
  have hwords : (∀ t ∈ p.termTexts, '*' ∉ t) → ∀ v,
      (v ∈ found .multiword ↔ p.isEmpty = false ∧ flags.InRange v ∧ v ∈ s.indexed p) :=
    fun hstar v => mem_resultAfter_multiword_iff rfl hstar
  have hempty : p.terms ≠ [] → p.isEmpty = false := Plan.isEmpty_eq_false rfl rfl
  have hmixed := @hphrase .mixedPhrase false (by decide)
  have hordered := @hphrase .orderedMultiword true (by decide)
  refine ⟨fun hfits v hv => ?interrupted, fun hstar => ⟨fun v hv => ?words, fun hone => ?single⟩,
    fun hstrongs hmorph => ?phrase⟩
  case interrupted =>
    obtain ⟨hne, hrange, hindexed, hmatch⟩ := (hmixed v).mp hv
    refine (hordered v).mpr ⟨hne, hrange, hindexed, hmatch.imp_right (matchesVerse_mono fun t => ?_)⟩
    rw [phraseMatcher_eq (tagFiller?_of_ne p (by decide)),
      phraseMatcher_eq (tagFiller?_of_ne p (by decide))]
    exact PhraseStyle.isMatch_sloppy hfits
  case words =>
    obtain ⟨hne, hrange, hindexed, -⟩ := (hordered v).mp hv
    exact (hwords hstar v).mpr ⟨hempty hne, hrange, hindexed⟩
  case single =>
    have hne : p.terms ≠ [] := by
      rintro hnil
      rw [hnil] at hone
      cases hone
    constructor <;> ext v
    · rw [hmixed, hwords hstar]
      simp [hone, hne, hempty hne]
    · rw [hordered, hwords hstar]
      simp [hone, hne, hempty hne]
  case phrase =>
    ext v
    rw [hmixed, hphrase (by decide : (Strategy.phrase, false) ∈ phraseStrategies)]
    refine and_congr_right fun hne => and_congr_right fun _ => and_congr_right fun _ => ?_
    have hnone : tagFiller? { p with strategy := .phrase } = none :=
      tagFiller?_eq_none (fun h => hstrongs ⟨h.1, hne, h.2⟩) fun h => hmorph ⟨h.1, hne, h.2⟩
    rw [phraseMatcher_eq hnone, phraseMatcher_eq (tagFiller?_of_ne p (by decide))]
    exact Iff.rfl

/-- Two words that stand next to each other are found by every strategy, and one word is found by the
strategies for phrases just as it is by a search for all words. -/
theorem search_strictness_opening :
    ({ sloppy := true } : PhraseStyle).Fits .unlimited ([' '].intercalate
        (Plan.ofTerms .multiword (["THE", "beginning"].map String.toList) {}).termTexts) ∧
      (∀ t ∈ (Plan.ofTerms .multiword (["THE", "beginning"].map String.toList) {}).termTexts,
        '*' ∉ t) ∧
      (∀ strategy ∈ [Strategy.phrase, .mixedPhrase, .orderedMultiword, .multiword],
        .first ∈ (opening.searcher .unlimited opening.source {}).resultAfter []
          ⟨strategy, ["THE", "beginning"], {}⟩) ∧
      (Plan.ofTerms .multiword (["god"].map String.toList) {}).terms.length = 1 ∧
      ∀ strategy ∈ [Strategy.mixedPhrase, .orderedMultiword],
        (opening.searcher .unlimited opening.source {}).resultAfter [] ⟨strategy, ["god"], {}⟩
          = (opening.searcher .unlimited opening.source {}).resultAfter []
            ⟨.multiword, ["god"], {}⟩ := by
  have hwords : ∀ w ∈ ["THE", "beginning"], Text.IsLetters w.toList := by decide +kernel
  have htexts : (Plan.ofTerms .multiword (["THE", "beginning"].map String.toList) {}).termTexts
      = [['t', 'h', 'e'], "beginning".toList] := by
    rw [termTexts_words {} hwords rfl rfl]
    decide +kernel
  have hgod : (Plan.ofTerms .multiword (["god"].map String.toList) {}).termTexts
      = [['g', 'o', 'd']] := by
    rw [termTexts_words {} (by decide) rfl rfl]
    decide +kernel
  have hone : (Plan.ofTerms .multiword (["god"].map String.toList) {}).terms.length = 1 := by
    rw [← List.length_map Term.text]
    exact congrArg List.length hgod
  have hstar : ∀ t ∈ (Plan.ofTerms .multiword (["THE", "beginning"].map String.toList) {}).termTexts,
      '*' ∉ t := by
    rw [htexts]
    decide +kernel
  have hmem : (Verse.first, opening.entries[0].2) ∈ opening.entries := List.mem_singleton.mpr rfl
  have hmixed : .first ∈ (opening.searcher .unlimited opening.source {}).resultAfter []
      ⟨.mixedPhrase, ["THE", "beginning"], {}⟩ := by
    have hrange : ({} : Flags).InRange .first := fun range h => nomatch h
    refine (@mem_search_phrase_iff _ _ {} .mixedPhrase false _ (by decide) hwords rfl rfl
      (by decide) []).mpr ⟨⟨hrange, PhraseStyle.fits_unlimited _ _, _,
        source_eq_some_iff.mpr ⟨_, hmem, rfl⟩, by decide +kernel⟩,
        fun w hw => has_of_hasWord (hwords w hw) hmem ?_⟩
    revert w
    decide +kernel
  obtain ⟨hinterrupted, hall, hphrase⟩ := search_strictness
    (opening.searcher .unlimited opening.source {}) ["THE", "beginning"] {} fun _ => []
  obtain ⟨-, hsingle, -⟩ := search_strictness
    (opening.searcher .unlimited opening.source {}) ["god"] {} fun _ => []
  obtain ⟨hsame, hsame'⟩ := (hsingle (by rw [hgod]; decide)).2 hone
  have hordered := hinterrupted (PhraseStyle.fits_unlimited _ _) _ hmixed
  refine ⟨PhraseStyle.fits_unlimited _ _, hstar, ?_, hone, by simp [hsame, hsame']⟩
  have hfirst : .first ∈ (opening.searcher .unlimited opening.source {}).resultAfter []
      ⟨.phrase, ["THE", "beginning"], {}⟩ :=
    (congrArg (Verse.first ∈ ·) (hphrase (fun h => Bool.false_ne_true h.1)
      fun h => Bool.false_ne_true h.1)).mpr hmixed
  simp only [List.forall_mem_cons, List.not_mem_nil, false_imp_iff, implies_true, and_true]
  exact ⟨hfirst, hmixed, hordered, (hall hstar).1 _ hordered⟩

end Searcher

end Concordance
