import Concordance.Proofs.Pattern.Adjacent
import Concordance.Proofs.Search.OwnText
import Concordance.Proofs.Search.Phrases

/-!
# Searches for words next to each other

A search for a phrase asks the index for the verses that have all of its words, and scans their texts.
The index splits texts at every character that words are not made of; the filler of a phrase passes over
a list of separators. So words of a text that stand next to each other are found as a phrase wherever
the characters between them are on that list, whatever the rest of the text is.

## Main results

* `Searcher.mem_search_phrase_iff` — the verses that searches for phrases find
* `Index.Builder.mem_search_adjacent` — words next to each other are found as a phrase
-/

namespace Concordance

open Markup Text

/-! ### Searches for phrases -/

namespace Searcher

open Corpus Index

variable {s : Searcher} {words : List String} {flags : Flags} {strategy : Strategy} {sloppy : Bool}
  {v : Verse}

/-- **The verses that searches for phrases find**, over any index and source, if the engine takes the
phrase: those in the range that the index has for all words, and whose text without tags the pattern of
the words matches. -/
theorem mem_search_phrase_iff (hstrategy : (strategy, sloppy) ∈ phraseStrategies)
    (hwords : ∀ w ∈ words, IsLetters w.toList) (hstrongs : flags.strongs = false)
    (hmorph : flags.morph = false) (hmany : 2 ≤ words.length) {earlier : List Request} :
    v ∈ s.resultAfter earlier ⟨strategy, words, flags⟩ ↔
      (flags.InRange v ∧
        ({ caseSensitive := flags.caseSensitive, sloppy } : PhraseStyle).Fits s.engine
          (spelledPhrase flags.caseSensitive words) ∧
        ∃ raw, s.source v = some raw ∧
          (Pattern.ofWords (!flags.caseSensitive) sloppy (words.map String.toList)).isMatch
            ((wordRendering s.settings flags).render raw).toArray = true) ∧
      ∀ w ∈ words, s.index.Has flags.caseSensitive (Term.spelled flags.caseSensitive w.toList) v := by
  have hletters : ∀ w ∈ words.map String.toList, IsLetters w := by simpa using hwords
  have hne : words ≠ [] := by
    rintro rfl
    simp at hmany
  obtain ⟨hcleans, hcanon, -⟩ := cleansWords_of_mem hstrategy
  obtain ⟨hempty, hs, hrange, hcase⟩ := plan_words strategy flags hne hwords hcleans hcanon
  have hterms : 2 ≤ (Plan.ofTerms strategy (words.map String.toList) flags).terms.length := by
    rw [Plan.ofTerms_words hletters hcleans hcanon]
    simpa using hmany
  have hfinds := @finds_phraseSearch s _ sloppy hterms (contains_star_eq_false hwords hcleans hcanon)
  rw [← run_phrase (by rwa [hs]) hempty, termTexts_words flags hwords hcleans hcanon, hcase] at hfinds
  refine (mem_resultAfter (r := ⟨strategy, words, flags⟩) hfinds earlier v).trans
    (and_congr ?_ List.forall_mem_map)
  rw [mem_scanPhrase, hrange, matchesVerse, rendering_words hstrategy hwords hstrongs hmorph,
    phraseMatcher_words hstrategy hwords hstrongs hmorph]
  simp only [Option.any_eq_true, matchesText, Bool.false_and, Bool.or_false,
    isMatch_spelledPhrase s.engine hne hwords]
  refine and_congr_right fun _ => ⟨?_, ?_⟩
  · rintro ⟨raw, hraw, hfits, hmatch⟩
    exact ⟨hfits, raw, hraw, hmatch⟩
  · rintro ⟨hfits, raw, hraw, hmatch⟩
    exact ⟨raw, hraw, hfits, hmatch⟩

end Searcher

/-! ### Words next to each other -/

namespace Index.Builder

variable {b : Builder} {words : List String} {flags : Flags} {strategy : Strategy} {sloppy : Bool}
  {v : Verse} {t : List Char}

/-- A word of letters leads to the verses that have it as a run. -/
theorem has_spelled (hadded : (v, t) ∈ b.added) (ht : IsUnmarked t) {w : List Char}
    (hw : IsLetters w) (hrun : w ∈ runs isWordChar t) (caseSensitive : Bool) :
    (ofBuilder b).Has caseSensitive (Term.spelled caseSensitive w) v := by
  refine has_of_mem_words (Term.isLetters_spelled _ hw).isSolid hadded
    (Extract.mem_words_unmarked ht hrun) hw.isAscii (Index.notMem_listKeys hw) ?_
  rw [Term.normalizeKey_spelled hw, Term.sameWord_spelled_iff hw]
  cases caseSensitive <;> rfl

/-- **Words next to each other are found as a phrase.** With any settings, whatever was added besides and
whatever the earlier searches were, and in any range that has the verse: two or more words of letters
that stand next to each other in the text of a verse, with separators between them, are found exactly if
the engine takes their phrase. -/
theorem mem_search_adjacent (engine : Engine) (settings : Settings) (earlier : List Request)
    (ht : b.texts[v]? = some t) (hunmarked : IsUnmarked t) (hmany : 2 ≤ words.length)
    (hwords : ∀ w ∈ words, IsLetters w.toList)
    (hadjacent : Adjacent isWordChar isSeparator (words.map String.toList) t)
    (hstrategy : (strategy, sloppy) ∈ Corpus.phraseStrategies) (hstrongs : flags.strongs = false)
    (hmorph : flags.morph = false) (hrange : flags.InRange v) :
    v ∈ (b.searcher engine b.source settings).resultAfter earlier ⟨strategy, words, flags⟩ ↔
      ({ caseSensitive := flags.caseSensitive, sloppy } : PhraseStyle).Fits engine
        (Corpus.spelledPhrase flags.caseSensitive words) := by
  have hletters : ∀ w ∈ words.map String.toList, IsLetters w := by simpa using hwords
  have hwordOf : ∀ w ∈ words.map String.toList, IsWordOf isWordChar w := fun w hw =>
    (hletters w hw).isWordOf
  have hruns : words.map String.toList <:+: runs isWordChar t :=
    hadjacent.infix_runs hwordOf fun _ => isWordChar_of_isSeparator
  have hsource : b.source v = some t := (b.source_eq v).trans ht
  rw [Searcher.mem_search_phrase_iff hstrategy hwords hstrongs hmorph hmany]
  constructor
  · exact fun hfound => hfound.1.2.1
  · intro hfits
    refine ⟨⟨hrange, hfits, t, hsource, ?_⟩, fun w hw => ?_⟩
    · rw [Rendering.render_unmarked _ hunmarked]
      exact Pattern.isMatch_ofWords_of_adjacent hletters
        (hadjacent.trim hwordOf fun _ => isWordChar_of_isBlank)
    · exact has_spelled (mem_added_of_getElem?_texts ht) hunmarked (hwords w hw)
        (hruns.subset (List.mem_map_of_mem hw)) _

/-- A text under the first verse is the text of that verse. -/
theorem getElem?_texts_single (t : String) : (single t).texts[Verse.first]? = some t.toList :=
  getElem?_texts_of_mem (b := single t) (List.nodup_singleton Verse.first) (List.mem_singleton_self _)

/-- Words with blanks, punctuation and brackets between them, in a text with a dash and quotes. -/
def quoted : String := "\u201CIn\u00A0 the, (beginning)\u201D \u2014 God"

theorem mem_search_adjacent_quoted :
    (single quoted).texts[Verse.first]? = some quoted.toList ∧ IsUnmarked quoted.toList ∧
      (∀ w ∈ ["In", "the", "beginning"], IsLetters w.toList) ∧
      Adjacent isWordChar isSeparator (["In", "the", "beginning"].map String.toList) quoted.toList ∧
      .first ∈ ((single quoted).searcher .unlimited (single quoted).source {}).resultAfter []
        ⟨.phrase, ["In", "the", "beginning"], {}⟩ := by
  have ht := getElem?_texts_single quoted
  have hunmarked : IsUnmarked quoted.toList := by decide +kernel
  have hwords : ∀ w ∈ ["In", "the", "beginning"], IsLetters w.toList := by decide +kernel
  have hadjacent :
      Adjacent isWordChar isSeparator (["In", "the", "beginning"].map String.toList) quoted.toList := by
    refine ⟨['\u201C'], "In\u00A0 the, (beginning".toList, ")\u201D \u2014 God".toList,
      by decide +kernel, ?_, ?_, ?_⟩
    · have hblock : Joined isSeparator ["In".toList, "the".toList, "beginning".toList]
          ("In".toList ++ ['\u00A0', ' '] ++ ("the".toList ++ [',', ' ', '('] ++ "beginning".toList)) :=
        .cons (by decide) (List.all_eq_true.mp (by decide))
          (.cons (by decide) (List.all_eq_true.mp (by decide)) (.word _))
      exact hblock
    · rintro _ ⟨⟩
      decide +kernel
    · have hafter : (")\u201D \u2014 God".toList).head? = some ')' := by decide +kernel
      rw [hafter]
      rintro _ ⟨⟩
      decide +kernel
  have hrange : ({} : Flags).InRange .first := fun range h => nomatch h
  have hfound := @mem_search_adjacent (single quoted) ["In", "the", "beginning"] {} .phrase false .first _
    .unlimited {} [] ht hunmarked (by decide) hwords hadjacent (by decide) rfl rfl hrange
  exact ⟨ht, hunmarked, hwords, hadjacent, hfound.mpr (PhraseStyle.fits_unlimited _ _)⟩

/-- Two words with a dash between them, which is not on the list of separators. -/
def dashed : String := "in\u2014the"

/-- **Not all consecutive runs are found as a phrase**: two words with a dash between them are not, whatever
the engine is. -/
theorem notMem_search_consecutive :
    IsUnmarked dashed.toList ∧ (∀ w ∈ ["in", "the"], IsLetters w.toList) ∧
      Adjacent isWordChar (fun c => !isWordChar c) (["in", "the"].map String.toList) dashed.toList ∧
      ∀ engine, .first ∉ ((single dashed).searcher engine (single dashed).source {}).resultAfter []
        ⟨.phrase, ["in", "the"], {}⟩ := by
  have hwords : ∀ w ∈ ["in", "the"], IsLetters w.toList := by decide +kernel
  have hruns : ["in", "the"].map String.toList <:+: runs isWordChar dashed.toList := by
    decide +kernel
  have hnone : (Pattern.ofWords true false (["in", "the"].map String.toList)).isMatch
      ((Corpus.wordRendering {} {}).render dashed.toList).toArray = false := by decide +kernel
  have hsource : (single dashed).source .first = some dashed.toList :=
    ((single dashed).source_eq .first).trans (getElem?_texts_single dashed)
  refine ⟨by decide +kernel, hwords, (adjacent_iff (by decide) ?_).mpr hruns, fun engine hfound => ?_⟩
  · exact fun w hw => isWordOf_of_mem_runs (hruns.subset hw)
  · obtain ⟨⟨-, -, raw, hraw, hmatch⟩, -⟩ := (@Searcher.mem_search_phrase_iff _ _ {} .phrase false _
      (by decide) hwords rfl rfl (by decide) []).mp hfound
    obtain rfl := Option.some.inj (hraw.symm.trans hsource)
    exact Bool.false_ne_true (hnone.symm.trans hmatch)

end Index.Builder

end Concordance
