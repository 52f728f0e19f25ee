import Concordance.Proofs.Markup.PlainText
import Concordance.Proofs.Search.Words
import Concordance.Proofs.Term.WordKeys

/-!
# Searches for the text of a verse

A verse is meant to be found by its own text. A query is cut into parts at the characters that terms
are not made of, and a text is cut into words at the characters that words are not made of. The two
agree on blanks and on most of the punctuation. Hyphens, wildcards and parentheses belong to terms
and to no words, and a number in lower case is looked up in upper case; so a text with such parts
may miss its own verse.

## Main definitions

* `Index.Builder.searcher` — a searcher over the index of a builder

## Main results

* `Index.Builder.mem_search_text_iff` — a search for a text looks up its parts
* `Index.Builder.mem_search_own_text` — when a verse is found by its own text
-/

namespace Concordance

open Markup Term Text

/-! ### Plans -/

namespace Plan

variable {strategy : Strategy} (hcleans : strategy.cleansWords = true)
  (hcanon : strategy.canonicalizesTags = true) {terms : List (List Char)} {flags : Flags}

include hcleans hcanon

/-- The terms of a query are read from its texts, trimmed and joined. -/
theorem terms_eq : (ofTerms strategy terms flags).terms =
    (parseAll (cleanText (canonicalTags
      ([' '].intercalate ((terms.map trim).filter (!·.isEmpty)))))).map
        (foldCase flags.caseSensitive) := by
  simp only [ofTerms, withRange, hcleans, hcanon, if_true]

/-- A query with terms is not empty. -/
theorem isEmpty_eq_false (h : (ofTerms strategy terms flags).terms ≠ []) :
    (ofTerms strategy terms flags).isEmpty = false := by
  have hempty : parseAll (cleanText (canonicalTags [])) = [] := by
    simp [canonicalTags, replaceItems, parseAll, cleanText, collapse, blankOut, words]
  have hraw : (ofTerms strategy terms flags).rawTerms = (terms.map trim).filter (!·.isEmpty) := by
    simp only [ofTerms, withRange, hcleans, if_true]
  rw [isEmpty, hraw, Bool.eq_false_iff, ne_eq, List.isEmpty_iff]
  intro hnone
  exact h (by rw [terms_eq hcleans hcanon, hnone, List.intercalate_nil, hempty, List.map_nil])

/-- **The terms of a query are those of its parts.** -/
theorem terms_ofTerms (hascii : ∀ t ∈ terms, IsAscii t) (flags : Flags) :
    (ofTerms strategy terms flags).terms = (terms.flatMap (runs isTermChar)).map fun part =>
      foldCase flags.caseSensitive (ofToken (canonicalTags part)) := by
  have htrimmed : ∀ t ∈ terms, IsAscii (trim t) ∧
      runs isTermChar (trim t) = runs isTermChar t := by
    intro t ht
    obtain ⟨before, after, hsplit, -, -⟩ := exists_trim t
    refine ⟨fun c hc => hascii t ht c (by rw [hsplit]; simp [hc]), runs_trim fun c hc => ?_⟩
    exact forall_ascii (P := fun c => isBlank c = true → isTermChar c = false) (by decide)
      (hascii t ht c hc)
  have hraw : ∀ w ∈ (terms.map trim).filter (!·.isEmpty), ∀ c ∈ w, c.toNat < 0x80 := by
    intro w hw
    obtain ⟨t, ht, rfl⟩ := List.mem_map.mp (List.mem_filter.mp hw).1
    exact (htrimmed t ht).1
  have hjoined : IsAscii ([' '].intercalate ((terms.map trim).filter (!·.isEmpty))) := fun c hc =>
    (forall_mem_intercalate hraw c hc).elim id fun h => h ▸ by decide
  have hparts : runs isTermChar ([' '].intercalate ((terms.map trim).filter (!·.isEmpty)))
      = terms.flatMap (runs isTermChar) := by
    rw [runs_intercalate (by decide), ← List.flatMap_congr fun t ht => (htrimmed t ht).2]
    clear htrimmed hraw hjoined hascii
    induction terms with
    | nil => rfl
    | cons t terms ih => cases ht : trim t <;> simpa [ht] using ih
  rw [terms_eq hcleans hcanon, parseAll_cleanText (isAscii_canonicalTags hjoined),
    runs_canonicalTags hjoined, hparts, List.map_map, List.map_map]
  rfl

end Plan

/-- **A search for a text looks up its parts.** -/
theorem Plan.termTexts_text {t : List Char} (h : IsAscii t) (hterm : ∃ c ∈ t, isTermChar c = true)
    (flags : Flags) :
    (ofTerms .multiword [t] flags).isEmpty = false ∧
      (ofTerms .multiword [t] flags).termTexts
        = (runs isTermChar t).map (lookedUp flags.caseSensitive) := by
  have hterms := @terms_ofTerms .multiword rfl rfl [t] (List.forall_mem_singleton.mpr h) flags
  rw [List.flatMap_singleton] at hterms
  refine ⟨isEmpty_eq_false rfl rfl ?_, ?_⟩
  · obtain ⟨c, hc, hp⟩ := hterm
    obtain ⟨run, hrun, -⟩ := exists_mem_runs hc hp
    rw [hterms]
    exact List.ne_nil_of_mem (List.mem_map_of_mem hrun)
  · rw [termTexts, hterms]
    simp [lookedUp]

namespace Index.Builder

/-- A searcher over the index of a builder. -/
def searcher (b : Builder) (engine : Engine) (source : Source) (settings : Settings) : Searcher :=
  ⟨ofBuilder b, source, settings, engine⟩

variable {b : Builder} {v : Verse} {t : String} {flags : Flags} {source : Source}
  {engine : Engine} {settings : Settings} {earlier : List Request}

/-- The verses of a search for a text belong to all of its parts. -/
theorem mem_search_text_iff (hascii : IsAscii t.toList)
    (hterm : ∃ c ∈ t.toList, isTermChar c = true) :
    v ∈ (b.searcher engine source settings).resultAfter earlier ⟨.multiword, [t], flags⟩ ↔
      flags.InRange v ∧ ∀ part ∈ runs isTermChar t.toList,
        (ofBuilder b).Has flags.caseSensitive (lookedUp flags.caseSensitive part) v := by
  obtain ⟨hempty, hterms⟩ := Plan.termTexts_text hascii hterm flags
  have hfind := Searcher.mem_resultAfter (r := ⟨.multiword, [t], flags⟩)
    (Searcher.finds_run_multiword (s := b.searcher engine source settings) hempty rfl) earlier v
  have hne : runs isTermChar t.toList ≠ [] := by
    obtain ⟨c, hc, hp⟩ := hterm
    obtain ⟨run, hrun, -⟩ := exists_mem_runs hc hp
    exact List.ne_nil_of_mem hrun
  refine hfind.trans (and_congr_right fun _ => ?_)
  rw [List.map_singleton, hterms]
  simp only [ne_eq, List.map_eq_nil_iff, hne, not_false_eq_true, true_and, List.forall_mem_map]
  rfl

/-! ### Parts that are words -/

section

variable (hplain : IsPlainText t.toList)

include hplain

/-- A part that is a word of the text leads to its verse. -/
theorem has_of_mem_runs (hadded : (v, t.toList) ∈ b.added) {caseSensitive : Bool}
    {part w : List Char}
    (hpart : part ∈ runs isTermChar t.toList) (hw : w ∈ runs isWordChar t.toList)
    (hlist : String.ofList w ∉ listKeys) (hsame : SameWord caseSensitive w (keyOf part)) :
    (ofBuilder b).Has caseSensitive (lookedUp caseSensitive part) v := by
  have hterm := isTermText_of_mem_runs hplain.isAscii hpart
  have hascii : IsAscii w := fun c hc => hplain.isAscii c (subset_of_mem_runs hw c hc)
  exact has_of_mem_words (isSolid_lookedUp hterm _) hadded
    ((Extract.mem_words_plain_iff hplain).mpr hw) hascii hlist
      ((sameWord_normalizeKey_iff hterm).mpr hsame)

/-- **A verse is found by a text whose parts are words of the text.** -/
theorem mem_search_of_parts (hadded : (v, t.toList) ∈ b.added)
    (hterm : ∃ c ∈ t.toList, isTermChar c = true) (hrange : flags.InRange v)
    (hparts : ∀ part ∈ runs isTermChar t.toList, ∃ w ∈ runs isWordChar t.toList,
      String.ofList w ∉ listKeys ∧ SameWord flags.caseSensitive w (keyOf part)) :
    v ∈ (b.searcher engine source settings).resultAfter earlier ⟨.multiword, [t], flags⟩ := by
  refine (mem_search_text_iff hplain.isAscii hterm).mpr ⟨hrange, fun part hpart => ?_⟩
  obtain ⟨w, hw, hlist, hsame⟩ := hparts part hpart
  exact has_of_mem_runs hplain hadded hpart hw hlist hsame

end

/-- In an index of plain texts, a part leads to verses that have it as a word. -/
theorem exists_word_of_has (hall : ∀ p ∈ b.added, IsPlainText p.2) {caseSensitive : Bool}
    {part : List Char} (hpart : IsTermText part)
    (hlist : ∀ k ∈ listKeys, ¬ SameWord false (keyOf part) k.toList)
    (h : (ofBuilder b).Has caseSensitive (lookedUp caseSensitive part) v) :
    ∃ raw, (v, raw) ∈ b.added ∧
      ∃ w ∈ runs isWordChar raw, SameWord caseSensitive w (keyOf part) := by
  have hwords : ∀ p ∈ b.added, ∀ w ∈ (Extract.ofText p.2).words, IsAscii w := by
    intro p hp w hw c hc
    exact (hall p hp).isAscii c
      (subset_of_mem_runs ((Extract.mem_words_plain_iff (hall p hp)).mp hw) c hc)
  have hlist' : ∀ k ∈ listKeys,
      ¬ SameWord false (normalizeKey (lookedUp caseSensitive part)) k.toList := by
    intro k hk hsame
    refine hlist k hk ?_
    change (keyOf part).map Char.toLower = _
    rw [map_toLower_keyOf hpart, ← bare_lookedUp hpart caseSensitive,
      ← map_toLower_normalizeKey (isSolid_lookedUp hpart caseSensitive)]
    exact hsame
  obtain ⟨raw, hadded, k, hk, hsame⟩ :=
    exists_key_of_has (isSolid_lookedUp hpart caseSensitive) hwords hlist' h
  exact ⟨raw, hadded, k, (Extract.mem_keys_plain_iff (hall _ hadded)).mp hk,
    (sameWord_normalizeKey_iff hpart).mp hsame⟩

/-! ### Hyphens and wildcards -/

/-- A hyphen or a wildcard: a sign of terms that stays in their keys and stands in no word. -/
def IsTermSign (c : Char) : Prop := c = '-' ∨ c = '*'

theorem mem_keyOf_of_isTermSign {part : List Char} (hpart : IsTermText part) {c : Char}
    (hc : IsTermSign c) (hmem : c ∈ part) : c ∈ (keyOf part).map Char.toLower := by
  rw [map_toLower_keyOf hpart, bare, List.mem_filter]
  have hlower : c.toLower = c ∧ isBracket c = false := by
    rcases hc with rfl | rfl <;> decide
  exact ⟨List.mem_map.mpr ⟨c, hmem, hlower.1⟩, by simp [hlower.2]⟩

/-- No word has a hyphen or a wildcard. -/
theorem notMem_of_isTermSign {w : List Char} (hascii : IsAscii w)
    (hword : ∀ c ∈ w, isWordChar c = true) {c : Char} (hc : IsTermSign c) :
    c ∉ w.map Char.toLower := by
  intro hmem
  obtain ⟨d, hd, rfl⟩ := List.mem_map.mp hmem
  have hlower : isWordChar d.toLower = true := (isWordChar_toLower (hascii d hd)).trans (hword d hd)
  rcases hc with heq | heq <;> rw [heq] at hlower <;> exact absurd hlower (by decide)

/-- **A text with a hyphen or a wildcard finds nothing** in an index of plain texts. -/
theorem notMem_search_of_isTermSign (hall : ∀ p ∈ b.added, IsPlainText p.2)
    (hascii : IsAscii t.toList)
    {c : Char} (hc : IsTermSign c) (hmem : c ∈ t.toList) :
    v ∉ (b.searcher engine source settings).resultAfter earlier ⟨.multiword, [t], flags⟩ := by
  intro hfound
  have hterm : isTermChar c = true := by rcases hc with rfl | rfl <;> decide
  obtain ⟨-, hhas⟩ := (mem_search_text_iff hascii ⟨c, hmem, hterm⟩).mp hfound
  obtain ⟨part, hpart, hcpart⟩ := exists_mem_runs hmem hterm
  have hpart' := isTermText_of_mem_runs hascii hpart
  have hkey := mem_keyOf_of_isTermSign hpart' hc hcpart
  have hlist : ∀ k ∈ listKeys, ¬ SameWord false (keyOf part) k.toList := by
    intro k hk hsame
    have hsame : (keyOf part).map Char.toLower = k.toList.map Char.toLower := hsame
    rw [hsame] at hkey
    exact notMem_of_isTermSign (isAscii_of_mem_listKeys k hk)
      (isWordChar_of_mem_listKeys k hk) hc hkey
  obtain ⟨raw, hadded, w, hw, hsame⟩ := exists_word_of_has hall hpart' hlist (hhas part hpart)
  have hsame : w.map Char.toLower = (keyOf part).map Char.toLower := hsame.ignoreCase
  rw [← hsame] at hkey
  exact notMem_of_isTermSign (fun d hd => (hall _ hadded).isAscii d (subset_of_mem_runs hw d hd))
    (forall_of_mem_runs hw) hc hkey

/-! ### Texts without signs of terms -/

/-- The key of a word is the word, up to case unless case counts. -/
theorem sameWord_keyOf {caseSensitive : Bool} {w : List Char} (hascii : IsAscii w)
    (hword : ∀ c ∈ w, isWordChar c = true)
    (hcapital : caseSensitive = true → IsNumber isLanguageAnyCase w → IsNumber isLanguage w) :
    SameWord caseSensitive w (keyOf w) := by
  cases caseSensitive with
  | true => exact (keyOf_of_isWordChar hascii hword (hcapital rfl)).symm
  | false =>
    have hterm := isTermText_of_isWordChar hascii hword
    change w.map Char.toLower = _
    rw [map_toLower_keyOf hterm, ← map_toLower_normalizeKey hterm.isSolid,
      normalizeKey_of_isWordChar hascii hword]

/-- **A verse is found by a text of words and punctuation**, if none of the punctuation belongs to
terms. -/
theorem mem_search_of_words (hadded : (v, t.toList) ∈ b.added) (hplain : IsPlainText t.toList)
    (hword : ∃ c ∈ t.toList, isWordChar c = true) (hrange : flags.InRange v)
    (hsign : ∀ c ∈ t.toList, c ∉ ['-', '*', '(', ')'])
    (hlist : ∀ w ∈ runs isWordChar t.toList, String.ofList w ∉ listKeys)
    (hcapital : flags.caseSensitive = true → ∀ w ∈ runs isWordChar t.toList,
      IsNumber isLanguageAnyCase w → IsNumber isLanguage w) :
    v ∈ (b.searcher engine source settings).resultAfter earlier ⟨.multiword, [t], flags⟩ := by
  have hsame : ∀ c ∈ t.toList, isTermChar c = isWordChar c := by
    intro c hc
    have hbracket := (hplain c hc).2
    have hsign := hsign c hc
    simp only [List.mem_cons, List.not_mem_nil, or_false, not_or] at hbracket hsign
    rw [Bool.eq_iff_iff]
    simp [isTermChar, isTagChar, isBracket, hbracket, hsign]
  have hterm : ∃ c ∈ t.toList, isTermChar c = true := by
    obtain ⟨c, hc, hp⟩ := hword
    exact ⟨c, hc, (hsame c hc).trans hp⟩
  refine mem_search_of_parts hplain hadded hterm hrange fun part hpart => ?_
  rw [runs_congr hsame] at hpart
  exact ⟨part, hpart, hlist part hpart, sameWord_keyOf
    (fun c hc => hplain.isAscii c (subset_of_mem_runs hpart c hc)) (forall_of_mem_runs hpart)
    fun hcase => hcapital hcase part hpart⟩

/-- **When a verse is found by its own text**, in any case, after any searches, in any range that
has the verse. It is found if all parts of the text are words of the text, and in an index of plain
texts, in which the verse has no other text, it is found only then. So blanks, apostrophes and most
of the punctuation do no harm, while a text with a hyphen or a wildcard finds nothing. A word may
not be the key of a list. -/
theorem mem_search_own_text (hadded : (v, t.toList) ∈ b.added) (hplain : IsPlainText t.toList)
    (hword : ∃ c ∈ t.toList, c.isAlphanum = true) (hrange : flags.InRange v) :
    ((∀ c ∈ t.toList, c ∉ ['-', '*', '(', ')']) →
      (∀ w ∈ runs isWordChar t.toList, String.ofList w ∉ listKeys) →
      (flags.caseSensitive = true → ∀ w ∈ runs isWordChar t.toList,
        IsNumber isLanguageAnyCase w → IsNumber isLanguage w) →
      v ∈ (b.searcher engine source settings).resultAfter earlier ⟨.multiword, [t], flags⟩) ∧
    ((∀ part ∈ runs isTermChar t.toList, ∃ w ∈ runs isWordChar t.toList,
        String.ofList w ∉ listKeys ∧ SameWord flags.caseSensitive w (keyOf part)) →
      v ∈ (b.searcher engine source settings).resultAfter earlier ⟨.multiword, [t], flags⟩) ∧
    ((∀ p ∈ b.added, IsPlainText p.2) → (∀ raw, (v, raw) ∈ b.added → raw = t.toList) →
      (∀ part ∈ runs isTermChar t.toList, ∀ k ∈ listKeys, ¬ SameWord false (keyOf part) k.toList) →
      v ∈ (b.searcher engine source settings).resultAfter earlier ⟨.multiword, [t], flags⟩ →
      ∀ part ∈ runs isTermChar t.toList, ∃ w ∈ runs isWordChar t.toList,
        SameWord flags.caseSensitive w (keyOf part)) ∧
    ((∀ p ∈ b.added, IsPlainText p.2) → '-' ∈ t.toList ∨ '*' ∈ t.toList →
      v ∉ (b.searcher engine source settings).resultAfter earlier ⟨.multiword, [t], flags⟩) := by
  have hword : ∃ c ∈ t.toList, isWordChar c = true := by
    obtain ⟨c, hc, hp⟩ := hword
    exact ⟨c, hc, by simp [isWordChar_of_ascii (hplain c hc).1, isAsciiWordChar, hp]⟩
  have hterm : ∃ c ∈ t.toList, isTermChar c = true := by
    obtain ⟨c, hc, hp⟩ := hword
    exact ⟨c, hc, by simp [isTermChar, isTagChar, hp]⟩
  refine ⟨mem_search_of_words hadded hplain hword hrange,
    mem_search_of_parts hplain hadded hterm hrange, ?_, ?_⟩
  · intro hall honly hlist hfound part hpart
    obtain ⟨-, hhas⟩ := (mem_search_text_iff hplain.isAscii hterm).mp hfound
    obtain ⟨raw, hraw, hsame⟩ :=
      exists_word_of_has hall (isTermText_of_mem_runs hplain.isAscii hpart)
      (hlist part hpart) (hhas part hpart)
    rwa [honly raw hraw] at hsame
  · rintro hall (hmem | hmem)
    · exact notMem_search_of_isTermSign hall hplain.isAscii (.inl rfl) hmem
    · exact notMem_search_of_isTermSign hall hplain.isAscii (.inr rfl) hmem

/-- A text under the first verse, and nothing else. -/
def single (t : String) : Builder := ⟨[(.first, t.toList)]⟩

/-- A text with punctuation and an apostrophe. -/
def spirit : String := "And God's \"spirit\", moved ; see G1."

theorem mem_search_own_text_spirit :
    (Verse.first, spirit.toList) ∈ (single spirit).added ∧ IsPlainText spirit.toList ∧
      (∃ c ∈ spirit.toList, c.isAlphanum = true) ∧
      ({ caseSensitive := true } : Flags).InRange .first ∧
      .first ∈ ((single spirit).searcher .unlimited (fun _ => none) {}).resultAfter []
        ⟨.multiword, [spirit], { caseSensitive := true }⟩ := by
  have hadded : (Verse.first, spirit.toList) ∈ (single spirit).added := List.mem_singleton_self _
  have hplain : IsPlainText spirit.toList := by decide +kernel
  have hword : ∃ c ∈ spirit.toList, c.isAlphanum = true := ⟨'A', by decide +kernel, by decide⟩
  have hrange : ({ caseSensitive := true } : Flags).InRange .first := fun range h => nomatch h
  have hsign : spirit.toList.all (fun c => c ∉ ['-', '*', '(', ')']) = true := by decide +kernel
  obtain ⟨hfound, -⟩ := @mem_search_own_text (single spirit) .first spirit { caseSensitive := true }
    (fun _ => none) .unlimited {} [] hadded hplain hword hrange
  refine ⟨hadded, hplain, hword, hrange, hfound (fun c hc => ?_) ?_ fun _ => ?_⟩
  · simpa using List.all_eq_true.mp hsign c hc
  · decide +kernel
  · decide +kernel

/-- A text with a hyphen. -/
def beloved : String := "My well-beloved"

/-- A text that does not find its own verse: the index has `well` and `beloved`, and the query is
for the one term `well-beloved`. -/
theorem notMem_search_beloved :
    (Verse.first, beloved.toList) ∈ (single beloved).added ∧ IsPlainText beloved.toList ∧
      (∃ c ∈ beloved.toList, c.isAlphanum = true) ∧
      .first ∉ ((single beloved).searcher .unlimited (fun _ => none) {}).resultAfter []
        ⟨.multiword, [beloved], {}⟩ := by
  have hplain : IsPlainText beloved.toList := by decide +kernel
  have hall : ∀ p ∈ (single beloved).added, IsPlainText p.2 := List.forall_mem_singleton.mpr hplain
  exact ⟨List.mem_singleton_self _, hplain, ⟨'M', by decide +kernel, by decide⟩,
    notMem_search_of_isTermSign hall hplain.isAscii (.inl rfl) (by decide +kernel)⟩

end Index.Builder

end Concordance
