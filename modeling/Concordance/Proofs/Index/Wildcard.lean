import Concordance.Proofs.Index.Algebra
import Concordance.Proofs.Pattern.Wildcard

/-!
# Looking up words with wildcards

A word with wildcards stands for all words of the vocabulary that it matches, and the verses of those are
put together, except for words that too many verses have. The patterns that the words are tried against
are written as texts and read back; nothing of this can be seen in the answer, which goes by the words
and their verses only, unless the patterns are more than the engine takes.

## Main definitions

* `Index.HasAsciiWords` — the vocabulary lists words of word characters, within ASCII

## Main results

* `Index.mem_answer_partialWords` — the verses of the words that a pattern matches and that are not
  too common
* `Corpus.hasAsciiWords` — the vocabulary of annotated texts
* `Index.partialWords_globs` — looking up words with wildcards, whatever was asked before
-/

namespace Concordance

namespace Index

open Text (IsAscii isWordChar)
open Pattern (GlobMatches)

variable {ix : Index} {engine : Engine} {cs : Bool} {limit : Nat} {ps : List (List Char)} {v : Verse}

/-! ### Words that are not too common -/

/-- The verses of a word as it is spelled. -/
theorem yields_get (form : List Char) :
    ix.Yields (ix.get form) (ix.postings (String.ofList (Term.normalizeKey form))) :=
  yields_fetch _

/-- **Words of too many verses are passed over.** -/
theorem finds_getUncommon (ws : List String) : ix.Finds (ix.getUncommon limit ws) fun v =>
    ∃ w ∈ ws, (answer (ix.get w.toList)).size < limit ∧ v ∈ answer (ix.get w.toList) := by
  induction ws with
  | nil => exact finds_empty.of_iff (by simp)
  | cons w ws ih =>
    obtain ⟨s, hs, hmem⟩ := ih
    have hget : ix.Yields (ix.get w.toList) _ := yields_get w.toList
    refine ⟨_, hget.bind (hs.bind (yields_pure _)), fun v => ?_⟩
    rw [← hget.answer_eq]
    split
    · rename_i hsize
      simp [hmem, hsize]
    · rename_i hsize
      simp [hmem, hsize]

/-- The words of the vocabulary are looked up that a pattern matches, if the engine takes the patterns. -/
theorem mem_answer_partialWords : v ∈ answer (ix.partialWords engine cs limit ps) ↔
    Wildcard.Fits engine cs ps ∧
      ∃ w ∈ ix.vocabulary, (∃ p ∈ ps, Wildcard.matchesWord cs p w.toList = true) ∧
        (answer (ix.get w.toList)).size < limit ∧ v ∈ answer (ix.get w.toList) := by
  rw [partialWords]
  split
  · rename_i hfits
    have hfinds : ix.Finds (ix.getUncommon limit (matchingWords cs ps ix.vocabulary)) _ :=
      finds_getUncommon _
    have hyields : ix.Yields (do
        ix.getUncommon limit (matchingWords cs ps (← ix.fetchList wordsKey)))
        (answer (ix.getUncommon limit (matchingWords cs ps ix.vocabulary))) :=
      (yields_fetchList wordsKey).bind (determined_getUncommon limit _).yields
    rw [hyields.answer_eq, hfinds.mem_answer, Wildcard.Fits, and_iff_right hfits]
    simp [matchingWords, and_assoc]
  · rename_i hrefused
    exact iff_of_false (VerseSet.notMem_empty v) fun h => hrefused h.1

/-! ### The vocabulary -/

/-- The vocabulary lists words of word characters, within ASCII. -/
def HasAsciiWords (ix : Index) : Prop :=
  ∀ w ∈ ix.vocabulary, w.toList ≠ [] ∧ IsAscii w.toList ∧ ∀ c ∈ w.toList, isWordChar c = true

end Index

/-- The vocabulary of annotated texts has what stands in their plain tokens. -/
theorem Corpus.mem_vocabulary_iff {c : Corpus} {w : String} :
    w ∈ c.index.vocabulary ↔ ∃ p ∈ c.entries, p.2.HasWord true w.toList := by
  have hlisted := @Index.mem_listed_iff c.builder _ List.mem_cons_self w
  rw [← Index.Builder.exists_mem_words_iff, ← builder_eq]
  exact hlisted

/-- **Annotated texts have a vocabulary of word characters.** -/
theorem Corpus.hasAsciiWords (c : Corpus) : c.index.HasAsciiWords := by
  intro w hw
  obtain ⟨p, hp, hword⟩ := mem_vocabulary_iff.mp hw
  have hmem := Markup.AnnotatedText.hasWord_true_iff.mp hword
  obtain ⟨token, htoken, hrun⟩ := (Extract.mem_words_annotated p.2).mp hmem
  exact ⟨Text.ne_nil_of_mem_runs hrun, Markup.AnnotatedText.isAscii_of_mem_words hmem,
    Text.forall_of_mem_runs hrun⟩

namespace Index

open Text (IsAscii isWordChar)
open Pattern (GlobMatches)

/-! ### Looking up -/

theorem answerAfter_get (ix : Index) (earlier : List Inquiry) (form : List Char) :
    ix.answerAfter earlier (ix.get form) = answer (ix.get form) :=
  (finds_get form).determined.answerAfter_eq earlier

theorem answerAfter_partialWords {ix : Index} {engine : Engine} {cs : Bool} {limit : Nat}
    {ps : List (List Char)} (earlier : List Inquiry) :
    ix.answerAfter earlier (ix.partialWords engine cs limit ps)
      = answer (ix.partialWords engine cs limit ps) :=
  (determined_partialWords engine limit ps).answerAfter_eq earlier

/-- **Looking up words with wildcards.** Whatever records an index has, as long as its vocabulary lists
words of word characters within ASCII, and whatever was asked before: the text of each word with wildcards
is read as a pattern, which matches the words of the vocabulary that the wildcards match; what is looked up
are the verses of the words that any of these match, and that fewer than `limit` verses have, if the engine
takes all of the patterns in one. So as long as it does, the verses for two lists are those for either of
them, and a higher limit loses none in any case. -/
theorem partialWords_globs (ix : Index) (hwords : ix.HasAsciiWords) (earlier : List Inquiry)
    (engine : Engine) (cs : Bool) (limit : Nat) (ps qs : List (List Char)) (hps : ∀ p ∈ ps, IsAscii p) :
    (∀ p ∈ ps, ∃ pattern, Pattern.read? false (Wildcard.source cs p) = some pattern ∧
      ∀ w ∈ ix.vocabulary, pattern.isMatch w.toList.toArray = true ↔ GlobMatches cs p w.toList) ∧
    (∀ v, v ∈ ix.answerAfter earlier (ix.partialWords engine cs limit ps) ↔
      Wildcard.Fits engine cs ps ∧ ∃ w ∈ ix.vocabulary, (∃ p ∈ ps, GlobMatches cs p w.toList) ∧
        (ix.answerAfter earlier (ix.get w.toList)).size < limit ∧
        v ∈ ix.answerAfter earlier (ix.get w.toList)) ∧
    (Wildcard.Fits engine cs ps → Wildcard.Fits engine cs qs → Wildcard.Fits engine cs (ps ++ qs) →
      ix.answerAfter earlier (ix.partialWords engine cs limit (ps ++ qs))
        = ix.answerAfter earlier (ix.partialWords engine cs limit ps)
          ∪ ix.answerAfter earlier (ix.partialWords engine cs limit qs)) ∧
    ∀ limit', limit ≤ limit' → ∀ v ∈ ix.answerAfter earlier (ix.partialWords engine cs limit ps),
      v ∈ ix.answerAfter earlier (ix.partialWords engine cs limit' ps) := by
  simp only [answerAfter_get, answerAfter_partialWords]
  refine ⟨fun p hp => ?read, fun v => ?globs, fun hps hqs hboth => ?both,
    fun limit' hlimit v hv => ?higher⟩
  case read =>
    refine ⟨_, Wildcard.read?_source cs p, fun w hw => ?_⟩
    obtain ⟨hne, hascii, hchars⟩ := hwords w hw
    rw [Pattern.isMatch_ofWildcards_iff (hps p hp) hascii hne hchars, Bool.not_not]
  case globs =>
    rw [mem_answer_partialWords]
    refine and_congr_right fun _ => exists_congr fun w => and_congr_right fun hw => and_congr_left' ?_
    obtain ⟨hne, hascii, hchars⟩ := hwords w hw
    exact exists_congr fun p => and_congr_right fun hp =>
      Wildcard.matchesWord_iff (hps p hp) hascii hne hchars
  case both =>
    ext v
    simp only [VerseSet.mem_union, mem_answer_partialWords, hps, hqs, hboth, true_and, List.mem_append,
      or_and_right, and_or_left, exists_or]
  case higher =>
    rw [mem_answer_partialWords] at hv ⊢
    obtain ⟨hfits, w, hw, hmatch, hsize, hv⟩ := hv
    exact ⟨hfits, w, hw, hmatch, Nat.lt_of_lt_of_le hsize hlimit, hv⟩

/-- In `In the beginning, God` the first verse is found by a wildcard and a letter in another case. -/
theorem partialWords_globs_opening :
    Corpus.opening.index.HasAsciiWords ∧ (∀ p ∈ [['g', '*', 'D'], ['(', '*']], IsAscii p) ∧
      .first ∈ Corpus.opening.index.answerAfter [.vocabulary]
        (Corpus.opening.index.partialWords .unlimited false 2 [['g', '*', 'D'], ['(', '*']]) ∧
      .first ∈ Corpus.opening.index.answerAfter [.vocabulary]
        (Corpus.opening.index.partialWords .unlimited false 100 [['g', '*', 'D'], ['(', '*']]) := by
  have hwords : Corpus.opening.index.HasAsciiWords := Corpus.opening.hasAsciiWords
  have hpatterns : ∀ p ∈ [['g', '*', 'D'], ['(', '*']], IsAscii p := by simp [IsAscii]
  have hlisted : "God" ∈ Corpus.opening.index.vocabulary :=
    Corpus.mem_vocabulary_iff.mpr ⟨_, List.mem_singleton.mpr rfl, by decide +kernel⟩
  have hrest : GlobMatches false ['*', 'D'] (['o'] ++ ['d']) :=
    .star (List.forall_mem_singleton.mpr (by decide))
    (.char (by decide) rfl .nil)
  have hglob : GlobMatches false ['g', '*', 'D'] ['G', 'o', 'd'] := .char (by decide) rfl hrest
  obtain ⟨-, hfound, -, hhigher⟩ := partialWords_globs Corpus.opening.index hwords [.vocabulary]
    .unlimited false 2 [['g', '*', 'D'], ['(', '*']] [] hpatterns
  have hfirst : .first ∈ Corpus.opening.index.answerAfter [.vocabulary]
      (Corpus.opening.index.partialWords .unlimited false 2 [['g', '*', 'D'], ['(', '*']]) := by
    refine (hfound .first).mpr ⟨rfl, "God", hlisted, ⟨_, List.mem_cons_self, by simpa using hglob⟩, ?_⟩
    rw [answerAfter_get]
    decide +kernel
  exact ⟨hwords, hpatterns, hfirst, hhigher 100 (by decide) .first hfirst⟩

end Index

end Concordance
