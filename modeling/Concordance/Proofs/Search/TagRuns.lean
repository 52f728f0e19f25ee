import Concordance.Proofs.Pattern.TagRuns
import Concordance.Proofs.Search.Strictness

/-!
# Searches for runs of tags

A phrase that is made of tags of one kind, with the flag for that kind set, looks for the tags one right
after another, whatever words and tags of the other kind stand between them. Each tag is a key of the
index, and none of the lists of the index is under such a key. So over an index of annotated texts, the
phrase finds the verses whose tags of that kind have those of the phrase as a block, as long as the
engine takes the pattern of the phrase. Case matters for one tag only, which no text has: in a search that
ignores case, the Kelvin sign in braces matches the letter that it looks like.

## Main definitions

* `Corpus.FindsRuns` — what a search would find if neither the engine nor case mattered

## Main results

* `Corpus.phraseMatcher_tagRun` — the matcher of such a phrase
* `Corpus.has_enclosed` — a tag leads to the verses that have it
* `Corpus.mem_search_tagRun_iff` — the verses that a run of tags finds
* `Corpus.not_findsRuns` — what a run may miss, and what else it may find
-/

namespace Concordance

namespace Markup.TagKind

/-- A tag of a kind as a term. -/
def term : TagKind → List Char → Term
  | strongs => .strongs
  | morph => .morph

/-- Whether the flag for tags of a kind is set. -/
def isSet : TagKind → Flags → Bool
  | strongs, flags => flags.strongs
  | morph, flags => flags.morph

variable {k : TagKind} {body token : List Char}

theorem text_term (k : TagKind) (body : List Char) : (k.term body).text = k.enclosed body := by
  cases k <;> rfl

/-- The term of a tag is in upper case. -/
theorem eq_upper_of_foldCase_eq {caseSensitive : Bool}
    (h : Term.foldCase caseSensitive (Term.ofToken token) = k.term body) :
    body = Text.upper (Term.normalizeKey token) := by
  unfold Term.ofToken at h
  split at h
  · cases k <;> cases h
    rfl
  · split at h
    · cases k <;> cases h
      rfl
    · cases k <;> cases h

theorem closing_notMem_normalizeKey : k.closing ∉ Term.normalizeKey token := by
  have hbracket : Term.isBracket k.closing = true := by cases k <;> decide
  intro hmem
  have hfiltered : k.closing ∈ token.filter (!Term.isBracket ·) :=
    (Text.trimStart_suffix _).subset ((Text.trimEnd_prefix _).subset hmem)
  simp [hbracket] at hfiltered

/-- The key of a tag is what its signs enclose. -/
theorem normalizeKey_enclosed (h : ∀ c ∈ body, k.isBodyChar c = true) :
    Term.normalizeKey (k.enclosed body) = body := by
  have hbody : ∀ c ∈ body, (c.toNat < 0x80 ∧ Text.isBlank c = false) ∧ Term.isBracket c = false :=
    fun c hc => of_isBodyChar (P := fun c => (c.toNat < 0x80 ∧ Text.isBlank c = false) ∧
      Term.isBracket c = false) (by decide) (h c hc)
  have hsigns : (k.opening.toNat < 0x80 ∧ Text.isBlank k.opening = false) ∧
      (k.closing.toNat < 0x80 ∧ Text.isBlank k.closing = false) ∧
      Term.isBracket k.opening = true ∧ Term.isBracket k.closing = true := by
    cases k <;> decide
  obtain ⟨hopening, hclosing, hopening', hclosing'⟩ := hsigns
  have hsolid : Text.IsSolid (k.enclosed body) :=
    Text.IsSolid.enclosed (fun c hc => (hbody c hc).1) hopening hclosing
  rw [Term.normalizeKey_of_isSolid hsolid, enclosed, List.cons_append, List.filter_cons,
    List.filter_append, List.filter_eq_self.mpr fun c hc => by simp [(hbody c hc).2]]
  simp [hopening', hclosing']

end Markup.TagKind

namespace Corpus

open Index Markup Pattern Searcher

variable {c : Corpus} {k : TagKind} {body : List Char} {bodies : List (List Char)} {p : Plan}
  {engine : Engine} {flags : Flags} {v : Verse}

/-! ### The pattern -/

/-- **The matcher of a phrase of tags**, with stretches without other tags of the kind. -/
theorem phraseMatcher_tagRun (hstrategy : p.strategy = .phrase) (hterms : p.terms = bodies.map k.term)
    (hne : bodies ≠ []) (hflag : k.isSet p.flags = true) (sloppy : Bool) :
    phraseMatcher engine p sloppy = .compile engine (!p.caseSensitive)
      (k.joiner.intercalate (bodies.map fun body => escape (k.enclosed body))) := by
  have htexts : p.termTexts.map escape = bodies.map fun body => escape (k.enclosed body) := by
    simp [Plan.termTexts, hterms, TagKind.text_term]
  have hfiller : tagFiller? p = some k.joiner := by
    rw [tagFiller?, if_neg (by simp [hstrategy]), hterms]
    obtain ⟨body, bodies, rfl⟩ := List.exists_cons_of_ne_nil hne
    cases k with
    | strongs =>
      have hflag : p.flags.strongs = true := hflag
      rw [if_pos (by simp [hflag, TagKind.term, Term.isStrongs])]
      rfl
    | morph =>
      have hflag : p.flags.morph = true := hflag
      rw [if_neg (by simp [TagKind.term, Term.isStrongs]),
        if_pos (by simp [hflag, TagKind.term, Term.isMorph])]
      rfl
  rw [phraseMatcher, hfiller, htexts]

/-- The terms of a query match themselves only. -/
theorem isFaithful_of_mem_terms {terms : List (List Char)}
    (hterm : k.term body ∈ (Plan.ofTerms .phrase terms flags).terms)
    (hkelvin : k = .morph → flags.caseSensitive = true ∨ '\u212A' ∉ body) :
    IsFaithful (!flags.caseSensitive) k body := by
  obtain ⟨_, hparsed, htoken⟩ := List.mem_map.mp hterm
  obtain ⟨token, -, rfl⟩ := List.mem_map.mp hparsed
  obtain rfl := TagKind.eq_upper_of_foldCase_eq htoken
  exact isFaithful_upper TagKind.closing_notMem_normalizeKey fun hk =>
    (hkelvin hk).imp_left fun hcase => by simp [hcase]

/-! ### The index -/

/-- **A tag leads to the verses that have it**, whether case counts or not. -/
theorem has_enclosed {t : AnnotatedText} (ht : (v, t) ∈ c.entries)
    (hbody : body ∈ t.tags.filterMap k.body?) (caseSensitive : Bool) :
    c.index.Has caseSensitive (k.enclosed body) v := by
  obtain ⟨τ, hτ, hvalue⟩ := List.mem_filterMap.mp hbody
  have hchars := TagKind.isBodyChar_of_mem hvalue
  have hkey : String.ofList body ∉ listKeys := by
    have hlower : ∀ key ∈ listKeys, key.toList.any Char.isLower = true := by decide
    intro hlist
    obtain ⟨c, hc, hlow⟩ := List.any_eq_true.mp (hlower _ hlist)
    rw [String.toList_ofList] at hc
    have hcapital := TagKind.of_isBodyChar (P := fun c => c.isLower = false) (by decide)
      (hchars c hc)
    rw [hcapital] at hlow
    cases hlow
  have hself : k.enclosed body ∈ c.index.forms caseSensitive (k.enclosed body) := by
    rw [forms]
    split <;> simp
  have hvalue' : τ.body = body := by
    cases k <;> cases τ <;> cases hvalue <;> rfl
  refine ⟨k.enclosed body, hself, ?_⟩
  rw [HasForm, TagKind.normalizeKey_enclosed hchars]
  refine (mem_postings_iff hkey).mpr ⟨t.chars, mem_added_iff.mpr ⟨t, ht, rfl⟩, ?_⟩
  rw [String.toList_ofList]
  exact (Extract.mem_keys_annotated t).mpr (.inr ⟨τ, hτ, hvalue'⟩)

/-! ### Searches -/

section

variable (hstrategy : p.strategy = .phrase) (hterms : p.terms = bodies.map k.term) (hne : bodies ≠ [])
  (hflag : k.isSet p.flags = true)

include hstrategy hterms hne hflag

/-- **The verses that the matcher of a phrase of tags matches.** -/
theorem matchesVerse_tagRun_iff (settings : Settings)
    (hfaithful : ∀ body ∈ bodies, IsFaithful (!p.caseSensitive) k body) :
    (c.searcher engine c.source settings).matchesVerse p (phraseMatcher engine p false).pattern false v
        = true ↔
      RunFits engine (!p.caseSensitive) k bodies ∧
        ∃ t, (v, t) ∈ c.entries ∧ bodies <:+: t.tags.filterMap k.body? := by
  have hshown : k.shows ((c.searcher engine c.source settings).rendering p) = true := by
    cases k with
    | strongs => exact Bool.or_eq_true_iff.mpr (.inl hflag)
    | morph => exact Bool.or_eq_true_iff.mpr (.inl hflag)
  have htext : ∀ t : AnnotatedText, matchesText (phraseMatcher engine p false).pattern false
      (((c.searcher engine c.source settings).rendering p).render t.chars) = true ↔
        RunFits engine (!p.caseSensitive) k bodies ∧ bodies <:+: t.tags.filterMap k.body? := by
    intro t
    rw [matchesText, Bool.false_and, Bool.or_false, Rendering.render_annotated,
      phraseMatcher_tagRun hstrategy hterms hne hflag, isMatch_compile_tagRun_iff engine hne hfaithful,
      TagKind.filterMap_filter_keeps hshown, AnnotatedText.filterMap_segments]
  rw [matchesVerse, Option.any_eq_true, source_searcher]
  constructor
  · rintro ⟨raw, hraw, hmatch⟩
    obtain ⟨t, ht, rfl⟩ := source_eq_some_iff.mp hraw
    obtain ⟨hfits, hblock⟩ := (htext t).mp hmatch
    exact ⟨hfits, t, ht, hblock⟩
  · rintro ⟨hfits, t, ht, hblock⟩
    exact ⟨t.chars, source_eq_some_iff.mpr ⟨t, ht, rfl⟩, (htext t).mpr ⟨hfits, hblock⟩⟩

omit hstrategy hflag in
/-- The index has the verses whose tags have the run as a block. -/
theorem mem_indexed_tagRun (settings : Settings) {t : AnnotatedText} (ht : (v, t) ∈ c.entries)
    (hblock : bodies <:+: t.tags.filterMap k.body?) :
    v ∈ (c.searcher engine c.source settings).indexed p := by
  have htexts : p.termTexts = bodies.map k.enclosed := by
    simp [Plan.termTexts, hterms, TagKind.text_term]
  have hstar : ∀ body ∈ bodies, '*' ∉ k.enclosed body := by
    intro body hbody
    have hsigns : '*' ≠ k.opening ∧ '*' ≠ k.closing := by cases k <;> decide
    have hchars : '*' ∉ body := fun hmem => TagKind.of_isBodyChar (P := fun c => c ≠ '*') (by decide)
      (TagKind.isBodyChar_of_mem_filterMap (hblock.subset hbody) _ hmem) rfl
    simp [TagKind.enclosed, hsigns, hchars]
  rw [mem_indexed_iff (by simpa [htexts] using hstar), htexts]
  refine ⟨by simpa using hne, List.forall_mem_map.mpr fun body hbody => ?_⟩
  exact has_enclosed ht (hblock.subset hbody) _

end

/-- A phrase of tags that match themselves only finds the verses that have them as a block. -/
theorem mem_resultAfter_tagRun_iff (settings : Settings) (earlier : List Request) {terms : List String}
    (hterms : (Plan.ofTerms .phrase (terms.map String.toList) flags).terms = bodies.map k.term)
    (hmany : 2 ≤ bodies.length) (hflag : k.isSet flags = true)
    (hfaithful : ∀ body ∈ bodies, IsFaithful (!flags.caseSensitive) k body) :
    v ∈ (c.searcher engine c.source settings).resultAfter earlier ⟨.phrase, terms, flags⟩ ↔
      flags.InRange v ∧ RunFits engine (!flags.caseSensitive) k bodies ∧
        ∃ t, (v, t) ∈ c.entries ∧ bodies <:+: t.tags.filterMap k.body? := by
  have hne : bodies ≠ [] := List.ne_nil_of_length_pos (by omega)
  have hnonempty : (Plan.ofTerms .phrase (terms.map String.toList) flags).terms ≠ [] := by
    rw [hterms]
    simpa using hne
  rw [mem_resultAfter_phrase_iff (by decide : (Strategy.phrase, false) ∈ phraseStrategies) rfl,
    engine_searcher, matchesVerse_tagRun_iff rfl hterms hne hflag settings hfaithful]
  constructor
  · rintro ⟨-, hrange, -, hone | hmatched⟩
    · rw [hterms, List.length_map] at hone
      omega
    · exact ⟨hrange, hmatched⟩
  · rintro ⟨hrange, hfits, t, ht, hblock⟩
    exact ⟨hnonempty, hrange, mem_indexed_tagRun hterms hne settings ht hblock,
      .inr ⟨hfits, t, ht, hblock⟩⟩

/-- **Runs of tags.** Over a corpus, with any settings, whatever the earlier searches were and in any
range: a phrase whose terms are all tags of one kind, the flag for which is set, finds the verses whose
tags of that kind have those of the phrase as a block, unless the engine refuses its pattern. Where case is
ignored, no morphology tag may have the Kelvin sign. -/
theorem mem_search_tagRun_iff (engine : Engine) (settings : Settings) (earlier : List Request)
    {terms : List String}
    (hterms : (Plan.ofTerms .phrase (terms.map String.toList) flags).terms = bodies.map k.term)
    (hmany : 2 ≤ bodies.length) (hflag : k.isSet flags = true)
    (hkelvin : k = .morph → flags.caseSensitive = true ∨ ∀ body ∈ bodies, '\u212A' ∉ body) :
    v ∈ (c.searcher engine c.source settings).resultAfter earlier ⟨.phrase, terms, flags⟩ ↔
      flags.InRange v ∧ RunFits engine (!flags.caseSensitive) k bodies ∧
        ∃ t, (v, t) ∈ c.entries ∧ bodies <:+: t.tags.filterMap k.body? :=
  mem_resultAfter_tagRun_iff settings earlier hterms hmany hflag fun body hbody =>
    isFaithful_of_mem_terms (hterms ▸ List.mem_map_of_mem hbody) fun hk =>
      (hkelvin hk).imp_right fun hnone => hnone body hbody

/-- The text `God <G2316> {N} loved <G25>; {V-A} world <G2889>` under the first verse. -/
def loved : Corpus where
  entries := [(.first, {
    first := ⟨"God".toList, by decide, List.all_eq_true.mp (by decide)⟩
    rest := [.tag (.strongs 'G' ['2', '3', '1', '6'] (by decide) (by decide)
        (List.all_eq_true.mp (by decide))) none,
      .tag (.morph ['N'] (by decide) (List.all_eq_true.mp (by decide))) none,
      .plain ⟨"loved".toList, by decide, List.all_eq_true.mp (by decide)⟩,
      .tag (.strongs 'G' ['2', '5'] (by decide) (by decide)
        (List.all_eq_true.mp (by decide))) (some ⟨';', by decide⟩),
      .tag (.morph ['V', '-', 'A'] (by decide) (List.all_eq_true.mp (by decide))) none,
      .plain ⟨"world".toList, by decide, List.all_eq_true.mp (by decide)⟩,
      .tag (.strongs 'G' ['2', '8', '8', '9'] (by decide) (by decide)
        (List.all_eq_true.mp (by decide))) none] })]
  nodup := by simp

/-- In that text `G2316` is followed by `G25` and not by `G2889`, and `{N}` by `{V-A}`. -/
theorem mem_search_tagRun_loved :
    (Plan.ofTerms .phrase (["g2316", "<G25>"].map String.toList) { strongs := true }).terms
        = ["G2316".toList, "G25".toList].map TagKind.strongs.term ∧
    (Plan.ofTerms .phrase (["G2316", "G2889"].map String.toList) { strongs := true }).terms
        = ["G2316".toList, "G2889".toList].map TagKind.strongs.term ∧
    (Plan.ofTerms .phrase (["(n)", "\x7bv-a\x7d"].map String.toList) { morph := true }).terms
        = ["N".toList, "V-A".toList].map TagKind.morph.term ∧
    (∀ body ∈ ["N".toList, "V-A".toList], '\u212A' ∉ body) ∧
    .first ∈ (loved.searcher .unlimited loved.source {}).resultAfter []
      ⟨.phrase, ["g2316", "<G25>"], { strongs := true }⟩ ∧
    .first ∉ (loved.searcher .unlimited loved.source {}).resultAfter []
      ⟨.phrase, ["G2316", "G2889"], { strongs := true }⟩ ∧
    .first ∈ (loved.searcher .unlimited loved.source {}).resultAfter []
      ⟨.phrase, ["(n)", "\x7bv-a\x7d"], { morph := true }⟩ := by
  have hfollows : (Plan.ofTerms .phrase (["g2316", "<G25>"].map String.toList)
      { strongs := true }).terms = ["G2316".toList, "G25".toList].map TagKind.strongs.term := by
    decide +kernel
  have hapart : (Plan.ofTerms .phrase (["G2316", "G2889"].map String.toList)
      { strongs := true }).terms = ["G2316".toList, "G2889".toList].map TagKind.strongs.term := by
    decide +kernel
  have hmorph : (Plan.ofTerms .phrase (["(n)", "\x7bv-a\x7d"].map String.toList)
      { morph := true }).terms = ["N".toList, "V-A".toList].map TagKind.morph.term := by
    decide +kernel
  have hkelvin : ∀ body ∈ ["N".toList, "V-A".toList], '\u212A' ∉ body := by decide
  have hmem : (Verse.first, loved.entries[0].2) ∈ loved.entries := List.mem_singleton.mpr rfl
  have hrange : ∀ strongs morph, ({ strongs, morph } : Flags).InRange .first :=
    fun _ _ range h => nomatch h
  refine ⟨hfollows, hapart, hmorph, hkelvin, ?_, fun hfound => ?_, ?_⟩
  · exact (mem_search_tagRun_iff .unlimited {} [] hfollows (by decide) rfl TagKind.noConfusion).mpr
      ⟨hrange _ _, rfl, _, hmem, by decide⟩
  · obtain ⟨-, -, t, ht, hblock⟩ := (mem_search_tagRun_iff .unlimited {} [] hapart (by decide) rfl
      TagKind.noConfusion).mp hfound
    obtain rfl := eq_of_mem_entries ht hmem
    exact absurd hblock (by decide)
  · exact (mem_search_tagRun_iff .unlimited {} [] hmorph (by decide) rfl fun _ => .inr hkelvin).mpr
      ⟨hrange _ _, rfl, _, hmem, by decide⟩

/-! ### Limits -/

/-- Over every corpus, phrases of tags of a kind find exactly the verses that have them as a block. -/
def FindsRuns (engine : Engine) (k : TagKind) : Prop :=
  ∀ (c : Corpus) (terms : List String) (flags : Flags) (bodies : List (List Char)) (v : Verse),
    (Plan.ofTerms .phrase (terms.map String.toList) flags).terms = bodies.map k.term →
    2 ≤ bodies.length → k.isSet flags = true →
    (v ∈ (c.searcher engine c.source {}).resultAfter [] ⟨.phrase, terms, flags⟩ ↔
      flags.InRange v ∧ ∃ t, (v, t) ∈ c.entries ∧ bodies <:+: t.tags.filterMap k.body?)

/-- Twelve thousand times one number. -/
def manyNumbers : List String := List.replicate 12000 "G1"

/-- The tag for that number. -/
def firstNumber : Tag :=
  .strongs 'G' ['1'] (by decide) (by decide) (List.all_eq_true.mp (by decide))

/-- A text with as many of these tags, under the first verse. -/
def numbered : Corpus where
  entries := [(.first, {
    first := ⟨"one".toList, by decide, List.all_eq_true.mp (by decide)⟩
    rest := List.replicate 12000 (.tag firstNumber none) })]
  nodup := List.nodup_singleton _

/-- The text `k {K} {N}` under the first verse. -/
def lettered : Corpus where
  entries := [(.first, {
    first := ⟨['k'], by decide, List.all_eq_true.mp (by decide)⟩
    rest := [.tag (.morph ['K'] (by decide) (List.all_eq_true.mp (by decide))) none,
      .tag (.morph ['N'] (by decide) (List.all_eq_true.mp (by decide))) none] })]
  nodup := by simp

/-- The text of the pattern of a run has a stretch between any two tags. -/
theorem not_runFits_upTo {n : Nat} {ignoreCase : Bool} (hmany : n + 1 < bodies.length) :
    ¬ RunFits (.upTo n) ignoreCase k bodies := by
  have hjoiner : 1 ≤ k.joiner.length := by cases k <;> decide
  have hlong := Text.le_length_intercalate k.joiner (bodies.map fun body => escape (k.enclosed body))
  rw [List.length_map] at hlong
  have hmore := Nat.mul_le_mul_right (bodies.length - 1) hjoiner
  rw [RunFits, Engine.upTo, decide_eq_true_eq]
  omega

/-- Twelve thousand numbers are too large a phrase for a text that has just these, on an engine that takes
texts of up to ten thousand characters. -/
theorem not_findsRuns_strongs : ¬ FindsRuns (.upTo 10000) .strongs := by
  have htexts : manyNumbers.map String.toList = List.replicate 12000 "G1".toList :=
    List.map_replicate
  have hterms : (Plan.ofTerms .phrase (manyNumbers.map String.toList) { strongs := true }).terms
      = (manyNumbers.map String.toList).map TagKind.strongs.term := by
    have hpart : Text.runs Term.isTermChar "G1".toList = ["G1".toList] ∧
        Term.ofToken (Term.canonicalTags "G1".toList) = .strongs "G1".toList := by decide +kernel
    have hascii : Text.IsAscii "G1".toList :=
      List.forall_mem_cons.mpr ⟨by decide, List.forall_mem_singleton.mpr (by decide)⟩
    rw [htexts, Plan.terms_ofTerms rfl rfl fun t ht => List.eq_of_mem_replicate ht ▸ hascii,
      List.flatMap_replicate, hpart.1, List.flatten_replicate_singleton, List.map_replicate,
      List.map_replicate, hpart.2]
    rfl
  have hmany : 10000 + 1 < (manyNumbers.map String.toList).length := by
    rw [htexts, List.length_replicate]
    decide
  have hblock : manyNumbers.map String.toList
      <:+: numbered.entries[0].2.tags.filterMap TagKind.strongs.body? := by
    have htag : (Token.tag firstNumber none).tag? = some firstNumber := rfl
    have hnumber : TagKind.strongs.body? firstNumber = some "G1".toList := rfl
    have htags : numbered.entries[0].2.tags.filterMap TagKind.strongs.body?
        = List.replicate 12000 "G1".toList :=
      (congrArg _ (List.filterMap_replicate_of_some htag)).trans
        (List.filterMap_replicate_of_some hnumber)
    rw [htexts]
    exact htags ▸ List.infix_rfl
  intro hall
  have hfound := (hall numbered _ _ _ .first hterms (by omega) rfl).mpr
    ⟨fun range h => (nomatch h), _, List.mem_singleton.mpr rfl, hblock⟩
  have hfaithful : ∀ body ∈ manyNumbers.map String.toList,
      IsFaithful (!({ strongs := true } : Flags).caseSensitive) .strongs body := fun body hbody =>
    isFaithful_of_mem_terms (hterms ▸ List.mem_map_of_mem hbody) TagKind.noConfusion
  exact not_runFits_upTo hmany
    ((mem_resultAfter_tagRun_iff {} [] hterms (by omega) rfl hfaithful).mp hfound).2.1

/-- Where case is ignored, a tag with the Kelvin sign matches one with a `K`, if the index has the letter
as a word. -/
theorem not_findsRuns_morph : ¬ FindsRuns .unlimited .morph := by
  have hterms : (Plan.ofTerms .phrase (["\x7b\u212A\x7d", "\x7bN\x7d"].map String.toList)
      { morph := true }).terms = [['\u212A'], ['N']].map TagKind.morph.term := by decide +kernel
  have htexts : (Plan.ofTerms .phrase (["\x7b\u212A\x7d", "\x7bN\x7d"].map String.toList)
      { morph := true }).termTexts = [['\u212A'], ['N']].map TagKind.morph.enclosed := by
    rw [Plan.termTexts, hterms]
    rfl
  have hmem : (Verse.first, lettered.entries[0].2) ∈ lettered.entries := List.mem_singleton.mpr rfl
  -- the index has the letter as a word, and the sign as the same letter in lower case
  have hletter : lettered.index.HasForm ['k'] .first := by
    have hword : lettered.index.Has true (Term.spelled true ['k']) .first :=
      has_of_hasWord (w := ['k']) ⟨by decide, List.all_eq_true.mp (by decide)⟩ hmem
        (by decide +kernel)
    obtain ⟨_, hform, hletter⟩ := hword
    rwa [List.mem_singleton.mp hform] at hletter
  have hform : ['k'] ∈ lettered.index.forms false (TagKind.morph.enclosed ['\u212A']) := by
    have hlower : Text.lower (Term.normalizeKey (TagKind.morph.enclosed ['\u212A'])) = ['k'] := by
      decide +kernel
    simp [forms, hlower]
  have hnoun : lettered.index.Has false (TagKind.morph.enclosed ['N']) .first :=
    has_enclosed hmem (by decide +kernel) false
  have hfound : .first ∈ (lettered.searcher .unlimited lettered.source {}).resultAfter []
      ⟨.phrase, ["\x7b\u212A\x7d", "\x7bN\x7d"], { morph := true }⟩ := by
    refine (mem_resultAfter_phrase_iff (by decide : (Strategy.phrase, false) ∈ phraseStrategies)
      rfl).mpr ⟨?_, fun range h => (nomatch h), ?_, .inr ?_⟩
    · rw [hterms]
      decide
    · rw [mem_indexed_iff (by rw [htexts]; decide +kernel), htexts]
      refine ⟨List.cons_ne_nil _ _, ?_⟩
      exact List.forall_mem_cons.mpr ⟨⟨['k'], hform, hletter⟩, List.forall_mem_singleton.mpr hnoun⟩
    · rw [matchesVerse, Option.any_eq_true]
      exact ⟨_, source_eq_some_iff.mpr ⟨_, hmem, rfl⟩, by decide +kernel⟩
  intro hall
  obtain ⟨-, t, ht, hblock⟩ := (hall lettered _ _ _ .first hterms (by decide) rfl).mp hfound
  obtain rfl := eq_of_mem_entries ht hmem
  exact absurd hblock (by decide +kernel)

/-- **For neither kind of tags is it just the runs that are found**, with an engine that has a limit or even
with one that has none. -/
theorem not_findsRuns : ¬ FindsRuns (.upTo 10000) .strongs ∧ ¬ FindsRuns .unlimited .morph :=
  ⟨not_findsRuns_strongs, not_findsRuns_morph⟩

end Corpus

end Concordance
