import Concordance.Proofs.Pattern.Words
import Concordance.Proofs.Search.Words

/-!
# Searches for phrases

A search for a phrase asks the index first, and scans only the texts of the verses that have all of
its words. Over a corpus nothing gets lost by that: a text that the pattern of the phrase matches
has every word of the phrase as a maximal run, and the index knows all of these. So the search finds
what a scan of all verses would find.

## Main definitions

* `Searcher.scanPhrase` — a search for a phrase that does not ask the index
* `Corpus.spelledPhrase` — the words of a phrase as a search spells them

## Main results

* `Corpus.isMatch_spelledPhrase` — the spelling of words does not matter to what a phrase matches
* `Corpus.search_phrase_eq_scan` — the index loses no match of a phrase
-/

namespace Concordance

/-! ### Words of rendered texts -/

namespace Markup.AnnotatedText

open Text (SameWord)

theorem hasWord_iff_mem_runs {t : AnnotatedText} {caseSensitive : Bool} {w : List Char} :
    t.HasWord caseSensitive w ↔
      ∃ r ∈ Text.runs Text.isWordChar t.plainChars, SameWord caseSensitive r w := by
  simp only [HasWord, t.runs_plainChars, List.mem_flatMap]
  constructor
  · rintro ⟨p, hp, r, hr, hsame⟩
    exact ⟨r, ⟨p, hp, hr⟩, hsame⟩
  · rintro ⟨r, ⟨p, hp, hr⟩, hsame⟩
    exact ⟨p, hp, r, hr, hsame⟩

end Markup.AnnotatedText

/-! ### Candidates and scans -/

namespace Searcher

open Index

variable {s : Searcher} {p : Plan} {pattern : Pattern} {tryClean sloppy : Bool} {v : Verse}

/-- The verses in the range whose texts a phrase matches, the index not being asked. -/
def scanPhrase (s : Searcher) (p : Plan) (sloppy : Bool) : VerseSet :=
  s.scan p (phraseMatcher s.engine p sloppy).pattern false (p.range?.getD .full)

theorem mem_scanPhrase : v ∈ s.scanPhrase p sloppy ↔
    (∀ range ∈ p.range?, v ∈ range) ∧
      s.matchesVerse p (phraseMatcher s.engine p sloppy).pattern false v = true := by
  rw [scanPhrase, mem_scan]
  cases p.range? <;> simp

/-- Without wildcards the candidates are the verses of all terms. -/
theorem finds_phraseCandidates (hstar : p.termTexts.any (·.contains '*') = false) :
    s.index.Finds (s.phraseCandidates p) fun v => (∀ range ∈ p.range?, v ∈ range) ∧
      p.termTexts ≠ [] ∧ ∀ t ∈ p.termTexts, s.index.Has p.caseSensitive t v := by
  obtain ⟨found, hfound, hmem⟩ :
      s.index.Finds (s.index.intersect p.caseSensitive p.termTexts) _ := finds_intersect
  simp only [phraseCandidates, hstar, Bool.false_eq_true, if_false]
  refine ⟨p.restrict found, hfound.bind (yields_pure _), fun v => ?_⟩
  rw [Plan.mem_restrict, hmem]

/-- A search for several words finds the candidates that a phrase matches. -/
theorem finds_phraseSearch (hterms : 2 ≤ p.terms.length)
    (hstar : p.termTexts.any (·.contains '*') = false) :
    s.index.Finds (s.phraseSearch p sloppy) fun v => v ∈ s.scanPhrase p sloppy ∧
      ∀ t ∈ p.termTexts, s.index.Has p.caseSensitive t v := by
  have hne : p.termTexts ≠ [] := by
    rw [Plan.termTexts, ne_eq, List.map_eq_nil_iff]
    rintro h
    simp [h] at hterms
  have hempty : p.terms.isEmpty = false := by
    cases h : p.terms with
    | nil => simp [h] at hterms
    | cons _ _ => rfl
  have hmany : p.terms.length ≠ 1 := by omega
  obtain ⟨candidates, hcandidates, hmem⟩ := finds_phraseCandidates (s := s) hstar
  have hall : ∀ v, v ∈ candidates ↔ (∀ range ∈ p.range?, v ∈ range) ∧
      ∀ t ∈ p.termTexts, s.index.Has p.caseSensitive t v := fun v =>
    (hmem v).trans (and_congr_right fun _ => and_iff_right hne)
  refine ⟨s.scan p (phraseMatcher s.engine p sloppy).pattern false candidates, ?_, fun v => ?_⟩
  · simp only [phraseSearch, hempty, Bool.false_eq_true, if_false, hmany]
    refine hcandidates.bind ?_
    split
    · rename_i hnone
      rw [VerseSet.isEmpty_iff.mp hnone, scan_empty]
      exact yields_pure ∅
    · exact yields_pure _
  · refine Iff.trans ?_ (and_congr_left fun _ => mem_scanPhrase.symm)
    rw [mem_scan, hall, and_right_comm]

end Searcher

/-! ### Searches over a corpus -/

namespace Corpus

open Text (IsLetters SameWord)
open Searcher

variable {c : Corpus} {words : List String} {flags : Flags} {strategy : Strategy} {sloppy : Bool}
  {engine : Engine} {settings : Settings} {v : Verse}

/-- The strategies for phrases, and whether other words may stand between those of the phrase. -/
def phraseStrategies : List (Strategy × Bool) :=
  [(.phrase, false), (.mixedPhrase, false), (.orderedMultiword, true)]

theorem cleansWords_of_mem (h : (strategy, sloppy) ∈ phraseStrategies) :
    strategy.cleansWords = true ∧ strategy.canonicalizesTags = true ∧
      strategy.restrictsAfter = false := by
  have hall : ∀ p ∈ phraseStrategies, p.1.cleansWords = true ∧ p.1.canonicalizesTags = true ∧
      p.1.restrictsAfter = false := by decide
  exact hall _ h

theorem run_phrase {s : Searcher} {p : Plan} (h : (p.strategy, sloppy) ∈ phraseStrategies)
    (hne : p.isEmpty = false) : s.run p = s.phraseSearch p sloppy := by
  have hfinish : ∀ found, p.finish found = found := fun found => by
    rw [Plan.finish, (cleansWords_of_mem h).2.2, if_neg (by decide)]
  have hbind : (do return p.finish (← s.phraseSearch p sloppy)) = s.phraseSearch p sloppy := by
    simp only [hfinish, bind_pure]
  refine Eq.trans ?_ hbind
  simp only [phraseStrategies, List.mem_cons, Prod.mk.injEq, List.not_mem_nil, or_false] at h
  rcases h with ⟨h, rfl⟩ | ⟨h, rfl⟩ | ⟨h, rfl⟩ <;> simp only [run, runBasic, hne, h] <;> rfl

/-- How texts are shown to a search for a phrase of words. -/
def wordRendering (settings : Settings) (flags : Flags) : Rendering :=
  { settings.text with strongs := false, morph := false, added := flags.added }

/-- The words of a phrase as a search spells them, with spaces between them. -/
def spelledPhrase (caseSensitive : Bool) (words : List String) : List Char :=
  [' '].intercalate (words.map fun w => Term.spelled caseSensitive w.toList)

/-- **The spelling of words does not matter to what a phrase matches**, but for an engine that takes the
one spelling and refuses the other. -/
theorem isMatch_spelledPhrase (engine : Engine) {caseSensitive : Bool} {t : Array Char} (hne : words ≠ [])
    (hwords : ∀ w ∈ words, IsLetters w.toList) :
    (({ caseSensitive, sloppy } : PhraseStyle).matcher engine
        (spelledPhrase caseSensitive words)).pattern.isMatch t = true ↔
      ({ caseSensitive, sloppy } : PhraseStyle).Fits engine (spelledPhrase caseSensitive words) ∧
        (Pattern.ofWords (!caseSensitive) sloppy (words.map String.toList)).isMatch t = true := by
  have hletters : ∀ w ∈ words.map String.toList, IsLetters w := by simpa using hwords
  have hspelled : (words.map fun w => Term.spelled caseSensitive w.toList)
      = (words.map String.toList).map (Term.spelled caseSensitive) := by simp [Function.comp_def]
  have hglobs : ∀ w ∈ (words.map String.toList).map (Term.spelled caseSensitive), Pattern.IsGlob w := by
    refine List.forall_mem_map.mpr fun w hw => Pattern.isGlob_of_isLetters ?_
    exact Term.isLetters_spelled _ (hletters w hw)
  have hsame : Pattern.SameOutcomes
      (Pattern.ofWords (!caseSensitive) sloppy
        ((words.map String.toList).map (Term.spelled caseSensitive)))
      (Pattern.ofWords (!caseSensitive) sloppy (words.map String.toList)) := by
    cases caseSensitive with
    | false => exact Pattern.sameOutcomes_ofWords_lower hletters
    | true =>
      have hself : (words.map String.toList).map (Term.spelled true) = words.map String.toList :=
        List.map_id' _
      rw [hself]
      exact fun _ _ => rfl
  rw [spelledPhrase, hspelled, PhraseStyle.isMatch_matcher engine (by simpa using hne) hglobs,
    hsame.isMatch_eq]

/-- A verse whose text a phrase matches belongs to each of its words. -/
theorem has_of_isMatch {t : Markup.AnnotatedText} (ht : (v, t) ∈ c.entries)
    (hwords : ∀ w ∈ words, IsLetters w.toList)
    (h : (Pattern.ofWords (!flags.caseSensitive) sloppy (words.map String.toList)).isMatch
      ((wordRendering settings flags).render t.chars).toArray = true) :
    ∀ w ∈ words, c.index.Has flags.caseSensitive (Term.spelled flags.caseSensitive w.toList) v := by
  have hletters : ∀ w ∈ words.map String.toList, IsLetters w := by simpa using hwords
  rw [Rendering.render_annotated_plain rfl rfl] at h
  intro w hw
  obtain ⟨r, hr, hsame⟩ := Pattern.exists_run_of_isMatch t.isAscii_plainChars hletters h w.toList
    (List.mem_map.mpr ⟨w, hw, rfl⟩)
  rw [Bool.not_not] at hsame
  exact has_of_hasWord (hwords w hw) ht
    (Markup.AnnotatedText.hasWord_iff_mem_runs.mpr ⟨r, hr, hsame⟩)

section

variable (hstrategy : (strategy, sloppy) ∈ phraseStrategies)
  (hwords : ∀ w ∈ words, IsLetters w.toList)
  (hstrongs : flags.strongs = false) (hmorph : flags.morph = false)

include hstrategy hwords hstrongs hmorph

/-- A query of words does not make tags take part. -/
theorem rendering_words {s : Searcher} :
    s.rendering (.ofTerms strategy (words.map String.toList) flags)
      = wordRendering s.settings flags := by
  have hletters : ∀ w ∈ words.map String.toList, IsLetters w := by simpa using hwords
  obtain ⟨hcleans, hcanon, -⟩ := cleansWords_of_mem hstrategy
  rw [Plan.ofTerms_words hletters hcleans hcanon, rendering, wordRendering]
  simp [Plan.strongs, Plan.morph, hstrongs, hmorph,
    Term.mentionsStrongs_eq_false (Term.isDigit_intercalate hletters),
    Term.mentionsMorph_eq_false (Term.isBracket_intercalate hletters)]

/-- A pattern is matched against the texts without their tags. -/
theorem matchesVerse_words {pattern : Pattern} :
    (c.searcher engine c.source settings).matchesVerse (.ofTerms strategy (words.map String.toList) flags)
        pattern false v = true ↔
      ∃ t, (v, t) ∈ c.entries ∧
        pattern.isMatch ((wordRendering settings flags).render t.chars).toArray = true := by
  rw [matchesVerse, rendering_words hstrategy hwords hstrongs hmorph, source_searcher]
  simp only [Option.any_eq_true, matchesText, Bool.false_and, Bool.or_false, settings_searcher]
  constructor
  · rintro ⟨raw, hraw, hmatch⟩
    obtain ⟨t, ht, rfl⟩ := source_eq_some_iff.mp hraw
    exact ⟨t, ht, hmatch⟩
  · rintro ⟨t, ht, hmatch⟩
    exact ⟨t.chars, source_eq_some_iff.mpr ⟨t, ht, rfl⟩, hmatch⟩

/-- **The matcher of a phrase of words** is that of the words as the search spells them. -/
theorem phraseMatcher_words :
    phraseMatcher engine (.ofTerms strategy (words.map String.toList) flags) sloppy
      = ({ caseSensitive := flags.caseSensitive, sloppy } : PhraseStyle).matcher engine
        (spelledPhrase flags.caseSensitive words) := by
  have hletters : ∀ w ∈ words.map String.toList, IsLetters w := by simpa using hwords
  obtain ⟨hcleans, hcanon, -⟩ := cleansWords_of_mem hstrategy
  have htexts := termTexts_words flags hwords hcleans hcanon
  have htags : tagFiller? (.ofTerms strategy (words.map String.toList) flags) = none := by
    rw [Plan.ofTerms_words hletters hcleans hcanon]
    simp [tagFiller?, hstrongs, hmorph]
  have hcase : (Plan.ofTerms strategy (words.map String.toList) flags).caseSensitive
      = flags.caseSensitive := by
    rw [Plan.ofTerms_words hletters hcleans hcanon]
    rfl
  rw [phraseMatcher, htags, hcase, htexts]
  rfl

/-- What a scan of all verses finds for a phrase of words. -/
theorem mem_scanPhrase_words (hne : words ≠ []) :
    v ∈ (c.searcher engine c.source settings).scanPhrase
        (.ofTerms strategy (words.map String.toList) flags) sloppy ↔
      flags.InRange v ∧ ∃ t, (v, t) ∈ c.entries ∧
        (({ caseSensitive := flags.caseSensitive, sloppy } : PhraseStyle).matcher engine
          (spelledPhrase flags.caseSensitive words)).pattern.isMatch
            ((wordRendering settings flags).render t.chars).toArray = true := by
  obtain ⟨hcleans, hcanon, -⟩ := cleansWords_of_mem hstrategy
  obtain ⟨-, -, hrange, -⟩ := plan_words strategy flags hne hwords hcleans hcanon
  rw [mem_scanPhrase, matchesVerse_words hstrategy hwords hstrongs hmorph, hrange, engine_searcher,
    phraseMatcher_words hstrategy hwords hstrongs hmorph]
  exact Iff.rfl

omit hstrategy hstrongs hmorph in
/-- Words have no wildcards. -/
theorem contains_star_eq_false (hcleans : strategy.cleansWords = true)
    (hcanon : strategy.canonicalizesTags = true) :
    (Plan.ofTerms strategy (words.map String.toList) flags).termTexts.any (·.contains '*') =
      false := by
  rw [termTexts_words flags hwords hcleans hcanon, List.any_eq_false]
  intro w hw hcontains
  obtain ⟨u, hu, rfl⟩ := List.mem_map.mp hw
  exact absurd ((Term.isLetters_spelled _ (hwords u hu)).isAlpha '*' (by simpa using hcontains))
    (by decide)

/-- **The index loses no match of a phrase.** For two or more words, whatever the settings and the
earlier searches are, and in any range, a search for a phrase finds what a scan of all verses finds:
the verses whose text without tags the pattern of the words matches, spelled as the search spells them.
The spelling makes no difference as long as the engine takes the words as they were given just as well. -/
theorem search_phrase_eq_scan {earlier : List Request} (hmany : 2 ≤ words.length) :
    (c.searcher engine c.source settings).resultAfter earlier ⟨strategy, words, flags⟩
      = (c.searcher engine c.source settings).scanPhrase
        (.ofTerms strategy (words.map String.toList) flags) sloppy ∧
    (∀ v, v ∈ (c.searcher engine c.source settings).resultAfter earlier ⟨strategy, words, flags⟩ ↔
      flags.InRange v ∧ ∃ t, (v, t) ∈ c.entries ∧
        (({ caseSensitive := flags.caseSensitive, sloppy } : PhraseStyle).matcher engine
          (spelledPhrase flags.caseSensitive words)).pattern.isMatch
            ((wordRendering settings flags).render t.chars).toArray = true) ∧
    ((({ caseSensitive := flags.caseSensitive, sloppy } : PhraseStyle).Fits engine
          ([' '].intercalate (words.map String.toList)) ↔
        ({ caseSensitive := flags.caseSensitive, sloppy } : PhraseStyle).Fits engine
          (spelledPhrase flags.caseSensitive words)) →
      ∀ v, v ∈ (c.searcher engine c.source settings).resultAfter earlier ⟨strategy, words, flags⟩ ↔
        flags.InRange v ∧ ∃ t, (v, t) ∈ c.entries ∧
          (({ caseSensitive := flags.caseSensitive, sloppy } : PhraseStyle).matcher engine
            ([' '].intercalate (words.map String.toList))).pattern.isMatch
              ((wordRendering settings flags).render t.chars).toArray = true) := by
  have hletters : ∀ w ∈ words.map String.toList, IsLetters w := by simpa using hwords
  have hne : words ≠ [] := by
    rintro rfl
    simp at hmany
  obtain ⟨hcleans, hcanon, -⟩ := cleansWords_of_mem hstrategy
  obtain ⟨hempty, hs, -, hcase⟩ := plan_words strategy flags hne hwords hcleans hcanon
  have hterms : 2 ≤ (Plan.ofTerms strategy (words.map String.toList) flags).terms.length := by
    rw [Plan.ofTerms_words hletters hcleans hcanon]
    simpa using hmany
  have hfind : ∀ v,
      v ∈ (c.searcher engine c.source settings).resultAfter earlier ⟨strategy, words, flags⟩ ↔
      v ∈ (c.searcher engine c.source settings).scanPhrase
        (.ofTerms strategy (words.map String.toList) flags) sloppy := by
    intro v
    have hfinds := @finds_phraseSearch (c.searcher engine c.source settings) _ sloppy hterms
      (contains_star_eq_false hwords hcleans hcanon)
    rw [← run_phrase (by rwa [hs]) hempty] at hfinds
    have hfound := Searcher.mem_resultAfter (r := ⟨strategy, words, flags⟩) hfinds earlier v
    refine hfound.trans (and_iff_left_of_imp fun hv => ?_)
    -- what the pattern matches, the index knows
    obtain ⟨-, t, ht, hmatch⟩ := (mem_scanPhrase_words hstrategy hwords hstrongs hmorph hne).mp hv
    rw [termTexts_words flags hwords hcleans hcanon, hcase]
    intro w hw
    obtain ⟨u, hu, rfl⟩ := List.mem_map.mp hw
    exact has_of_isMatch ht hwords ((isMatch_spelledPhrase engine hne hwords).mp hmatch).2 u hu
  have hspelled := fun v =>
    (hfind v).trans (mem_scanPhrase_words hstrategy hwords hstrongs hmorph hne)
  refine ⟨VerseSet.ext hfind, hspelled, fun hfits v => (hspelled v).trans ?_⟩
  simp only [isMatch_spelledPhrase engine hne hwords,
    PhraseStyle.isMatch_matcher engine (by simpa using hne)
      fun w hw => Pattern.isGlob_of_isLetters (hletters w hw), hfits]

end

theorem search_phrase_opening :
    (Strategy.phrase, false) ∈ phraseStrategies ∧ (∀ w ∈ ["THE", "beginning"], IsLetters w.toList) ∧
      2 ≤ ["THE", "beginning"].length ∧
      .first ∈ (opening.searcher .unlimited opening.source {}).resultAfter []
        ⟨.phrase, ["THE", "beginning"], {}⟩ := by
  have hwords : ∀ w ∈ ["THE", "beginning"], IsLetters w.toList := by decide +kernel
  have hrange : (({} : Flags)).InRange .first := fun range h => nomatch h
  have hmem : (Verse.first, opening.entries[0].2) ∈ opening.entries := List.mem_singleton.mpr rfl
  obtain ⟨-, -, hfound⟩ := @search_phrase_eq_scan opening _ {} .phrase false .unlimited {} (by decide)
    hwords rfl rfl [] (by decide)
  exact ⟨by decide, hwords, by decide, (hfound Iff.rfl .first).mpr ⟨hrange, _, hmem, by decide +kernel⟩⟩

end Corpus

end Concordance
