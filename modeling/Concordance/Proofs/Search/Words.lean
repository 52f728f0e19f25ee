import Concordance.Proofs.Index.Corpus
import Concordance.Proofs.Search.Answers

/-!
# Searches for words

Over the index of a corpus, a search for words of letters finds the verses in whose plain tokens the
words occur: all of them, any of them, or an odd number of them, as its strategy says. Nothing else
takes part: neither the texts of the source, nor the settings, nor what was looked up before.

## Main definitions

* `Flags.InRange` — a verse is within the range of the flags
* `Corpus.searcher` — a searcher over the index of a corpus

## Main results

* `Corpus.mem_search_words_iff` — the verses that searches for words find
-/

namespace Concordance

/-- A verse is within the range that the flags give, if they give one. -/
def Flags.InRange (flags : Flags) (v : Verse) : Prop := ∀ range ∈ Plan.rangeOf? flags, v ∈ range

namespace Searcher

open Index

variable {s : Searcher} {p : Plan} {P : Verse → Prop}

/-- What is found is restricted to the range. -/
theorem finds_finish {m : Lookup VerseSet} (h : s.index.Finds m P)
    (hafter : p.strategy.restrictsAfter = true) :
    s.index.Finds (do return p.finish (← m)) fun v => (∀ range ∈ p.range?, v ∈ range) ∧ P v := by
  obtain ⟨found, hfound, hmem⟩ := h
  refine ⟨p.finish found, hfound.bind (yields_pure _), fun v => ?_⟩
  rw [Plan.finish, if_pos hafter, Plan.mem_restrict, hmem]

/-! ### The three strategies -/

section

variable (hne : p.isEmpty = false)

include hne

theorem finds_run_multiword (hs : p.strategy = .multiword) :
    s.index.Finds (s.run p) fun v => (∀ range ∈ p.range?, v ∈ range) ∧
      p.termTexts ≠ [] ∧ ∀ t ∈ p.termTexts, s.index.Has p.caseSensitive t v := by
  have hrun : s.run p = do return p.finish (← s.index.intersect p.caseSensitive p.termTexts) := by
    simp only [run, runBasic, hne, hs]
    rfl
  rw [hrun]
  exact finds_finish finds_intersect (by rw [hs]; rfl)

theorem finds_run_anyword (hs : p.strategy = .anyword) :
    s.index.Finds (s.run p) fun v => (∀ range ∈ p.range?, v ∈ range) ∧
      ∃ t ∈ p.termTexts, s.index.Has p.caseSensitive t v := by
  have hrun : s.run p = do return p.finish (← s.index.union p.caseSensitive p.termTexts) := by
    simp only [run, runBasic, hne, hs]
    rfl
  rw [hrun]
  exact finds_finish finds_union (by rw [hs]; rfl)

theorem finds_run_eitheror (hs : p.strategy = .eitheror) :
    s.index.Finds (s.run p) fun v => (∀ range ∈ p.range?, v ∈ range) ∧
      p.termTexts.countP (fun t => s.index.Has p.caseSensitive t v) % 2 = 1 := by
  have hrun : s.run p = do return p.finish (← s.index.symmDiff p.caseSensitive p.termTexts) := by
    simp only [run, runBasic, hne, hs]
    rfl
  rw [hrun]
  exact finds_finish finds_symmDiff (by rw [hs]; rfl)

end

end Searcher

/-! ### Searches over a corpus -/

namespace Corpus

open Text (IsLetters SameWord)

variable {c : Corpus} {words : List String} {flags : Flags}

theorem eq_of_mem_entries {v : Verse} {t t' : Markup.AnnotatedText} (h : (v, t) ∈ c.entries)
    (h' : (v, t') ∈ c.entries) : t = t' :=
  congrArg Prod.snd (List.inj_on_of_nodup_map c.nodup h h' rfl)

/-- A searcher over the index of a corpus. -/
def searcher (c : Corpus) (engine : Engine) (source : Source) (settings : Settings) : Searcher :=
  ⟨c.index, source, settings, engine⟩

variable {engine : Engine}

@[simp] theorem source_searcher (source : Source) (settings : Settings) :
    (c.searcher engine source settings).source = source := rfl

@[simp] theorem settings_searcher (source : Source) (settings : Settings) :
    (c.searcher engine source settings).settings = settings := rfl

@[simp] theorem engine_searcher (source : Source) (settings : Settings) :
    (c.searcher engine source settings).engine = engine := rfl

/-- The terms of a query of words, as a search looks them up. -/
theorem termTexts_words {strategy : Strategy} (flags : Flags)
    (hwords : ∀ w ∈ words, IsLetters w.toList)
    (hcleans : strategy.cleansWords = true) (hcanon : strategy.canonicalizesTags = true) :
    (Plan.ofTerms strategy (words.map String.toList) flags).termTexts
      = words.map fun w => Term.spelled flags.caseSensitive w.toList := by
  have hletters : ∀ w ∈ words.map String.toList, IsLetters w := by simpa using hwords
  rw [Plan.ofTerms_words hletters hcleans hcanon, Plan.termTexts]
  simp [Term.text]

/-- The plan of a search for words. -/
theorem plan_words (strategy : Strategy) (flags : Flags) (hne : words ≠ [])
    (hwords : ∀ w ∈ words, IsLetters w.toList) (hcleans : strategy.cleansWords = true)
    (hcanon : strategy.canonicalizesTags = true) :
    (Plan.ofTerms strategy (words.map String.toList) flags).isEmpty = false ∧
      (Plan.ofTerms strategy (words.map String.toList) flags).strategy = strategy ∧
      (Plan.ofTerms strategy (words.map String.toList) flags).range? = Plan.rangeOf? flags ∧
      (Plan.ofTerms strategy (words.map String.toList) flags).caseSensitive
        = flags.caseSensitive := by
  have hletters : ∀ w ∈ words.map String.toList, IsLetters w := by simpa using hwords
  rw [Plan.ofTerms_words hletters hcleans hcanon]
  exact ⟨by simpa [Plan.isEmpty] using hne, rfl, rfl, rfl⟩

section

variable {v : Verse} {t : Markup.AnnotatedText} {w : String} (cs : Bool)
  (hw : IsLetters w.toList) (htag : ∀ body ∈ c.tagBodies, ¬ SameWord false w.toList body)

include hw htag

/-- A word leads to a verse if the text of the verse has it. -/
theorem has_iff_of_mem (ht : (v, t) ∈ c.entries) :
    c.index.Has cs (Term.spelled cs w.toList) v ↔ t.HasWord cs w.toList := by
  rw [has_iff hw htag]
  constructor
  · rintro ⟨t', ht', hword⟩
    rwa [eq_of_mem_entries ht ht']
  · exact fun hword => ⟨t, ht, hword⟩

/-- No word leads to a verse without a text. -/
theorem not_has_of_notMem (hv : ¬ ∃ t, (v, t) ∈ c.entries) :
    ¬ c.index.Has cs (Term.spelled cs w.toList) v := by
  rw [has_iff hw htag]
  rintro ⟨t, ht, -⟩
  exact hv ⟨t, ht⟩

end

section

variable {source : Source} {settings : Settings} {earlier : List Request} {v : Verse}
  (hne : words ≠ []) (hwords : ∀ w ∈ words, IsLetters w.toList)
  (htag : ∀ w ∈ words, ∀ body ∈ c.tagBodies, ¬ SameWord false w.toList body)

include hne hwords htag

theorem mem_search_multiword_iff :
    v ∈ (c.searcher engine source settings).resultAfter earlier ⟨.multiword, words, flags⟩ ↔
      flags.InRange v ∧ ∃ t, (v, t) ∈ c.entries ∧
        ∀ w ∈ words, t.HasWord flags.caseSensitive w.toList := by
  obtain ⟨hempty, hs, hrange, hcase⟩ :=
    plan_words .multiword flags hne hwords rfl rfl
  have hfind := Searcher.mem_resultAfter (r := ⟨.multiword, words, flags⟩)
    (Searcher.finds_run_multiword (s := c.searcher engine source settings) hempty hs) earlier v
  rw [hrange, hcase, termTexts_words _ hwords rfl rfl] at hfind
  refine hfind.trans (and_congr_right fun _ => ?_)
  simp only [List.forall_mem_map, ne_eq, List.map_eq_nil_iff, hne, not_false_eq_true, true_and]
  by_cases hv : ∃ t, (v, t) ∈ c.entries
  · obtain ⟨t, ht⟩ := hv
    constructor
    · exact fun h =>
        ⟨t, ht, fun w hw => (has_iff_of_mem _ (hwords w hw) (htag w hw) ht).mp (h w hw)⟩
    · rintro ⟨t', ht', h⟩ w hw
      exact (has_iff_of_mem _ (hwords w hw) (htag w hw) ht').mpr (h w hw)
  · constructor
    · intro h
      obtain ⟨w, hw⟩ := List.exists_mem_of_ne_nil _ hne
      exact absurd (h w hw) (not_has_of_notMem _ (hwords w hw) (htag w hw) hv)
    · rintro ⟨t, ht, -⟩
      exact absurd ⟨t, ht⟩ hv

theorem mem_search_anyword_iff :
    v ∈ (c.searcher engine source settings).resultAfter earlier ⟨.anyword, words, flags⟩ ↔
      flags.InRange v ∧ ∃ t, (v, t) ∈ c.entries ∧
        ∃ w ∈ words, t.HasWord flags.caseSensitive w.toList := by
  obtain ⟨hempty, hs, hrange, hcase⟩ :=
    plan_words .anyword flags hne hwords rfl rfl
  have hfind := Searcher.mem_resultAfter (r := ⟨.anyword, words, flags⟩)
    (Searcher.finds_run_anyword (s := c.searcher engine source settings) hempty hs) earlier v
  rw [hrange, hcase, termTexts_words _ hwords rfl rfl] at hfind
  refine hfind.trans (and_congr_right fun _ => ?_)
  constructor
  · rintro ⟨_, hmem, h⟩
    obtain ⟨w, hw, rfl⟩ := List.mem_map.mp hmem
    obtain ⟨t, ht, hword⟩ := (has_iff (hwords w hw) (htag w hw)).mp h
    exact ⟨t, ht, w, hw, hword⟩
  · rintro ⟨t, ht, w, hw, hword⟩
    exact ⟨_, List.mem_map.mpr ⟨w, hw, rfl⟩, (has_iff (hwords w hw) (htag w hw)).mpr ⟨t, ht, hword⟩⟩

theorem mem_search_eitheror_iff :
    v ∈ (c.searcher engine source settings).resultAfter earlier ⟨.eitheror, words, flags⟩ ↔
      flags.InRange v ∧ ∃ t, (v, t) ∈ c.entries ∧
        words.countP (fun w => t.HasWord flags.caseSensitive w.toList) % 2 = 1 := by
  obtain ⟨hempty, hs, hrange, hcase⟩ :=
    plan_words .eitheror flags hne hwords rfl rfl
  have hfind := Searcher.mem_resultAfter (r := ⟨.eitheror, words, flags⟩)
    (Searcher.finds_run_eitheror (s := c.searcher engine source settings) hempty hs) earlier v
  rw [hrange, hcase, termTexts_words _ hwords rfl rfl, List.countP_map] at hfind
  refine hfind.trans (and_congr_right fun _ => ?_)
  have hcount : ∀ t, (v, t) ∈ c.entries →
      words.countP ((fun x => decide (c.index.Has flags.caseSensitive x v)) ∘
        fun w => Term.spelled flags.caseSensitive w.toList)
      = words.countP fun w => t.HasWord flags.caseSensitive w.toList := fun t ht =>
    List.countP_congr fun w hw => by
      simpa using has_iff_of_mem _ (hwords w hw) (htag w hw) ht
  constructor
  · intro h
    by_cases hv : ∃ t, (v, t) ∈ c.entries
    · obtain ⟨t, ht⟩ := hv
      exact ⟨t, ht, hcount t ht ▸ h⟩
    · -- a verse without a text belongs to none of the words
      have hzero : words.countP ((fun x => decide (c.index.Has flags.caseSensitive x v)) ∘
          fun w => Term.spelled flags.caseSensitive w.toList) = 0 :=
        List.countP_eq_zero.mpr fun w hw => by
          simpa using not_has_of_notMem _ (hwords w hw) (htag w hw) hv
      have hodd : 0 % 2 = 1 := (congrArg (· % 2) hzero).symm.trans h
      cases hodd
  · rintro ⟨t, ht, h⟩
    have hodd := hcount t ht ▸ h
    exact hodd

end

/-- **The verses that searches for words find.** Over the index of a corpus, whatever the source of
texts, the settings and the earlier searches are, and in any range: all of the words occur in the
plain tokens of the verse, or any of them, or an odd number of them. -/
theorem mem_search_words_iff {source : Source} {settings : Settings} {earlier : List Request}
    {v : Verse} (hne : words ≠ []) (hwords : ∀ w ∈ words, IsLetters w.toList)
    (htag : ∀ w ∈ words, ∀ body ∈ c.tagBodies, ¬ SameWord false w.toList body) :
    (v ∈ (c.searcher engine source settings).resultAfter earlier ⟨.multiword, words, flags⟩ ↔
      flags.InRange v ∧ ∃ t, (v, t) ∈ c.entries ∧
        ∀ w ∈ words, t.HasWord flags.caseSensitive w.toList) ∧
    (v ∈ (c.searcher engine source settings).resultAfter earlier ⟨.anyword, words, flags⟩ ↔
      flags.InRange v ∧ ∃ t, (v, t) ∈ c.entries ∧
        ∃ w ∈ words, t.HasWord flags.caseSensitive w.toList) ∧
    (v ∈ (c.searcher engine source settings).resultAfter earlier ⟨.eitheror, words, flags⟩ ↔
      flags.InRange v ∧ ∃ t, (v, t) ∈ c.entries ∧
        words.countP (fun w => t.HasWord flags.caseSensitive w.toList) % 2 = 1) :=
  ⟨mem_search_multiword_iff hne hwords htag, mem_search_anyword_iff hne hwords htag,
    mem_search_eitheror_iff hne hwords htag⟩

/-- The text `In the beginning {N-FS}, God <H430>` under the first verse. -/
def opening : Corpus where
  entries := [(.first, {
    first := ⟨['I', 'n'], by decide, List.all_eq_true.mp (by decide)⟩
    rest := [.plain ⟨['t', 'h', 'e'], by decide, List.all_eq_true.mp (by decide)⟩,
      .plain ⟨['b', 'e', 'g', 'i', 'n', 'n', 'i', 'n', 'g'], by decide,
        List.all_eq_true.mp (by decide)⟩,
      .tag (.morph ['N', '-', 'F', 'S'] (by decide) (List.all_eq_true.mp (by decide)))
        (some ⟨',', by decide⟩),
      .plain ⟨['G', 'o', 'd'], by decide, List.all_eq_true.mp (by decide)⟩,
      .tag (.strongs 'H' ['4', '3', '0'] (by decide) (by decide)
        (List.all_eq_true.mp (by decide))) none] })]
  nodup := by simp

theorem mem_search_words_opening :
    ["god", "IN"] ≠ [] ∧ (∀ w ∈ ["god", "IN"], IsLetters w.toList) ∧
      (∀ w ∈ ["god", "IN"], ∀ body ∈ opening.tagBodies, ¬ SameWord false w.toList body) ∧
      .first ∈ (opening.searcher .unlimited opening.source {}).resultAfter []
        ⟨.multiword, ["god", "IN"], {}⟩ ∧
      .first ∈ (opening.searcher .unlimited opening.source {}).resultAfter []
        ⟨.anyword, ["god", "IN"], {}⟩ ∧
      ¬ .first ∈ (opening.searcher .unlimited opening.source {}).resultAfter []
        ⟨.eitheror, ["god", "IN"], {}⟩ := by
  have hwords : ∀ w ∈ ["god", "IN"], IsLetters w.toList := by decide +kernel
  have htag : ∀ w ∈ ["god", "IN"], ∀ body ∈ opening.tagBodies, ¬ SameWord false w.toList body := by
    decide +kernel
  have hrange : (({} : Flags)).InRange .first := fun range h => nomatch h
  have hmem : (Verse.first, opening.entries[0].2) ∈ opening.entries := List.mem_singleton.mpr rfl
  obtain ⟨hall, hany, hodd⟩ :=
    @mem_search_words_iff opening _ {} .unlimited opening.source {} [] .first (by decide) hwords htag
  refine ⟨by decide, hwords, htag, hall.mpr ⟨hrange, _, hmem, by decide +kernel⟩,
    hany.mpr ⟨hrange, _, hmem, by decide +kernel⟩, fun h => ?_⟩
  obtain ⟨-, t, ht, hcount⟩ := hodd.mp h
  obtain rfl := eq_of_mem_entries ht hmem
  exact absurd hcount (by decide +kernel)

end Corpus

end Concordance
