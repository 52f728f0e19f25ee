import Concordance.Proofs.Index.Terms
import Concordance.Proofs.Markup.Passes
import Concordance.Proofs.Term.Words

/-!
# Indices of annotated texts

In an index of annotated texts a word of letters leads to the verses that have it in a plain token: in
lower case the index knows a word by itself or by its spellings with capitals, and these two ways lead
together to all of its spellings. A tag is a key like a word, so that the word leads to verses with a
tag that is spelled like it as well. A corpus has each of its verses once.

## Main definitions

* `Markup.AnnotatedText.HasWord` — a word occurs in a plain token
* `Index.Builder.ofAnnotated` — a builder to which verses with annotated texts were added in order
* `Corpus` — verses with annotated texts, each verse once

## Main results

* `Index.has_letters_iff` — the keys that a word of letters leads to
* `Index.Builder.has_ofAnnotated_iff` — the verses that a word of letters leads to
* `Corpus.has_of_hasWord` — a word leads to every verse that has it
* `Corpus.has_iff` — and to no other, unless a tag is spelled like it
* `Corpus.source_eq_some_iff` — the texts of a corpus are read back
-/

namespace Concordance

/-! ### Words of annotated texts -/

namespace Markup.AnnotatedText

open Text (SameWord)

/-- A word occurs in a plain token, as a maximal run of word characters. -/
def HasWord (t : AnnotatedText) (caseSensitive : Bool) (w : List Char) : Prop :=
  ∃ p ∈ t.plainTokens, ∃ r ∈ Text.runs Text.isWordChar p.chars, SameWord caseSensitive r w

instance (t : AnnotatedText) (caseSensitive : Bool) (w : List Char) :
    Decidable (t.HasWord caseSensitive w) :=
  inferInstanceAs (Decidable (∃ p ∈ t.plainTokens, ∃ r ∈ Text.runs Text.isWordChar p.chars,
    SameWord caseSensitive r w))

theorem hasWord_iff {t : AnnotatedText} {caseSensitive : Bool} {w : List Char} :
    t.HasWord caseSensitive w ↔
      ∃ r ∈ (Extract.ofText t.chars).words, SameWord caseSensitive r w := by
  constructor
  · rintro ⟨p, hp, r, hr, hsame⟩
    exact ⟨r, (Extract.mem_words_annotated t).mpr ⟨p, hp, hr⟩, hsame⟩
  · rintro ⟨r, hr, hsame⟩
    obtain ⟨p, hp, hr⟩ := (Extract.mem_words_annotated t).mp hr
    exact ⟨p, hp, r, hr, hsame⟩

theorem isAscii_of_mem_words {t : AnnotatedText} {r : List Char}
    (h : r ∈ (Extract.ofText t.chars).words) : Text.IsAscii r := by
  obtain ⟨p, hp, hr⟩ := (Extract.mem_words_annotated t).mp h
  intro c hc
  have hplain := p.isPlain c (Text.subset_of_mem_runs hr c hc)
  simp only [isPlainChar, Bool.and_eq_true, decide_eq_true_eq] at hplain
  exact hplain.1.1

theorem hasWord_true_iff {t : AnnotatedText} {k : List Char} :
    t.HasWord true k ↔ k ∈ (Extract.ofText t.chars).words := by
  rw [hasWord_iff]
  constructor
  · rintro ⟨r, hr, hsame⟩
    obtain rfl : r = k := hsame
    exact hr
  · exact fun hk => ⟨k, hk, rfl⟩

end Markup.AnnotatedText

open Markup Text

/-- The brackets of a tag hold no word in lower case. -/
theorem Markup.Tag.body_ne_lower (τ : Tag) {w : List Char} (hw : IsLetters w) :
    τ.body ≠ lower w := by
  intro hbody
  rw [lower_of_ascii hw.isAscii] at hbody
  obtain ⟨c, cs, rfl⟩ := List.exists_cons_of_ne_nil hw.ne_nil
  have hcapital := τ.isCapitalTagChar_of_mem_body c.toLower (by simp [hbody])
  have hlower : isCapitalTagChar c.toLower = false :=
    of_isAlpha (P := fun c => isCapitalTagChar c.toLower = false) (by decide)
      (hw.isAlpha c (by simp))
  rw [hlower] at hcapital
  cases hcapital

/-! ### Words of letters -/

namespace Term

variable {caseSensitive : Bool} {w : List Char} (hw : IsLetters w)

include hw

theorem map_toLower_spelled :
    (spelled caseSensitive w).map Char.toLower = w.map Char.toLower := by
  cases caseSensitive with
  | true => rfl
  | false =>
    rw [spelled, if_neg (by decide), lower_of_ascii hw.isAscii, List.map_map]
    exact List.map_congr_left fun d hd => toLower_toLower (hw.isAscii d hd)

theorem normalizeKey_spelled :
    normalizeKey (spelled caseSensitive w) = spelled caseSensitive w := by
  have hletters := isLetters_spelled caseSensitive hw
  exact normalizeKey_eq_self hletters.isSolid fun c hc =>
    isBracket_of_isAlpha (hletters.isAlpha c hc)

theorem sameWord_spelled_iff {r : List Char} :
    SameWord caseSensitive r (spelled caseSensitive w) ↔ SameWord caseSensitive r w := by
  cases caseSensitive with
  | true => exact Iff.rfl
  | false =>
    change r.map Char.toLower = _ ↔ r.map Char.toLower = _
    rw [map_toLower_spelled hw]

end Term

namespace Index

variable {b : Builder} {v : Verse} {caseSensitive : Bool} {w : List Char}

/-- A word of letters is none of the keys of the lists. -/
theorem notMem_listKeys {w : List Char} (h : IsLetters w) : String.ofList w ∉ listKeys := by
  intro hmem
  have hunderscore : '_' ∈ w := by
    simp only [listKeys, List.mem_cons, List.not_mem_nil, or_false, ← String.toList_inj,
      String.toList_ofList] at hmem
    rcases hmem with rfl | rfl | rfl | rfl <;> decide
  exact absurd (h.isAlpha '_' hunderscore) (by decide)

/-- A spelling of letters leads to the verses whose texts have it as a key. -/
theorem hasForm_iff_of_isLetters {form : List Char} (h : IsLetters form) :
    (ofBuilder b).HasForm form v ↔
      ∃ raw, (v, raw) ∈ b.added ∧ form ∈ (Extract.ofText raw).keys := by
  have hkey : Term.normalizeKey form = form :=
    Term.normalizeKey_eq_self h.isSolid fun c hc => isBracket_of_isAlpha (h.isAlpha c hc)
  rw [HasForm, hkey, mem_postings_iff (notMem_listKeys h), String.toList_ofList]

/-- If case does not count, a word is looked up in lower case and as its variants. -/
theorem mem_forms_lower_iff {form : List Char} (hw : IsLetters w) :
    form ∈ (ofBuilder b).forms false (lower w) ↔
      form = lower w ∨ String.ofList form ∈ (ofBuilder b).variants (String.ofList (lower w)) := by
  have htwice : lower (Term.normalizeKey (lower w)) = lower w := by
    have hlower : Term.spelled false w = lower w := rfl
    rw [← hlower, Term.normalizeKey_spelled hw,
      lower_of_ascii (Term.isLetters_spelled false hw).isAscii, Term.map_toLower_spelled hw,
      hlower, lower_of_ascii hw.isAscii]
  simp only [forms, Bool.false_eq_true, if_false, htwice, List.mem_cons, List.mem_map]
  constructor
  · rintro (h | h | ⟨s, hs, rfl⟩)
    · exact .inl h
    · exact .inl h
    · exact .inr (by rwa [String.ofList_toList])
  · rintro (h | h)
    · exact .inl h
    · exact .inr (.inr ⟨_, h, String.toList_ofList⟩)

section

variable (hw : IsLetters w)
  (hwords : ∀ p ∈ b.added, ∀ r ∈ (Extract.ofText p.2).words, IsAscii r)

include hw hwords

/-- **The spellings that are looked up for a word of letters**: the one of the query, and those that
texts have as words. -/
theorem mem_forms_iff {form : List Char} :
    form ∈ (ofBuilder b).forms caseSensitive (Term.spelled caseSensitive w) ↔
      SameWord caseSensitive form w ∧
        (form = Term.spelled caseSensitive w ∨
          ∃ p ∈ b.added, form ∈ (Extract.ofText p.2).words) := by
  cases caseSensitive with
  | true =>
    have hform : form ∈ (ofBuilder b).forms true (Term.spelled true w) ↔ form = w :=
      List.mem_singleton
    rw [hform]
    exact ⟨fun h => ⟨h, .inl h⟩, fun h => h.1⟩
  | false =>
    have hlower : Term.spelled false w = lower w := rfl
    have hsame : lower w = w.map Char.toLower := lower_of_ascii hw.isAscii
    rw [hlower, mem_forms_lower_iff hw, mem_variants_iff, String.toList_ofList]
    simp only [String.ofList_inj]
    constructor
    · rintro (rfl | ⟨p, hp, hmem, -, hspelling⟩)
      · have hspelled : SameWord false (Term.spelled false w) w := Term.map_toLower_spelled hw
        exact ⟨hspelled, .inl rfl⟩
      · rw [lower_of_ascii (hwords p hp form hmem), hsame] at hspelling
        exact ⟨hspelling, .inr ⟨p, hp, hmem⟩⟩
    · rintro ⟨hspelling, h | ⟨p, hp, hmem⟩⟩
      · exact .inl h
      · have heq : lower form = lower w := by
          rw [lower_of_ascii (hwords p hp form hmem), hsame]
          exact hspelling
        by_cases hcapital : lower form = form
        · exact .inl (hcapital.symm.trans heq)
        · exact .inr ⟨p, hp, hmem, hcapital, heq⟩

/-- **The keys that a word of letters leads to** are those of its spellings that are looked up. -/
theorem has_letters_iff :
    (ofBuilder b).Has caseSensitive (Term.spelled caseSensitive w) v ↔
      ∃ k, SameWord caseSensitive k w ∧
        (k = Term.spelled caseSensitive w ∨ ∃ p ∈ b.added, k ∈ (Extract.ofText p.2).words) ∧
        ∃ raw, (v, raw) ∈ b.added ∧ k ∈ (Extract.ofText raw).keys := by
  rw [Has]
  refine exists_congr fun k => ?_
  rw [mem_forms_iff hw hwords, and_assoc]
  refine and_congr_right fun hsame => and_congr_right fun _ => ?_
  exact hasForm_iff_of_isLetters (hsame.isLetters hw)

end

/-! ### Indices of annotated texts -/

namespace Builder

/-- A builder to which verses with annotated texts were added, one after another. -/
def ofAnnotated (texts : List (Verse × AnnotatedText)) : Builder :=
  .ofTexts (texts.map fun p => (p.1, p.2.chars))

variable {texts : List (Verse × AnnotatedText)}

theorem mem_added_ofAnnotated_iff {raw : List Char} :
    (v, raw) ∈ (ofAnnotated texts).added ↔ ∃ t, (v, t) ∈ texts ∧ t.chars = raw := by
  simp [ofAnnotated]

theorem isAscii_of_mem_added :
    ∀ p ∈ (ofAnnotated texts).added, ∀ r ∈ (Extract.ofText p.2).words, IsAscii r := by
  rintro ⟨v, raw⟩ hp r hr
  obtain ⟨t, -, rfl⟩ := mem_added_ofAnnotated_iff.mp hp
  exact AnnotatedText.isAscii_of_mem_words hr

/-- A spelling is a word of a text if it occurs outside of the tags of the text. -/
theorem exists_mem_words_iff {k : List Char} :
    (∃ p ∈ (ofAnnotated texts).added, k ∈ (Extract.ofText p.2).words) ↔
      ∃ p ∈ texts, p.2.HasWord true k := by
  simp [ofAnnotated, AnnotatedText.hasWord_true_iff]

/-- **A word of letters leads to the verses that have it, and to those with a tag that is spelled like
it.** -/
theorem has_ofAnnotated_iff (hw : IsLetters w) :
    (ofBuilder (ofAnnotated texts)).Has caseSensitive (Term.spelled caseSensitive w) v ↔
      ∃ t, (v, t) ∈ texts ∧ (t.HasWord caseSensitive w ∨
        ∃ τ ∈ t.tags, SameWord caseSensitive τ.body w ∧
          (caseSensitive = true ∨ ∃ p ∈ texts, p.2.HasWord true τ.body)) := by
  rw [has_letters_iff hw isAscii_of_mem_added]
  constructor
  · rintro ⟨k, hsame, hform, raw, hadded, hkey⟩
    obtain ⟨t, ht, rfl⟩ := mem_added_ofAnnotated_iff.mp hadded
    refine ⟨t, ht, ?_⟩
    rcases (Extract.mem_keys_annotated t).mp hkey with hword | ⟨τ, hτ, rfl⟩
    · exact .inl (AnnotatedText.hasWord_iff.mpr ⟨k, hword, hsame⟩)
    · refine .inr ⟨τ, hτ, hsame, ?_⟩
      cases caseSensitive with
      | true => exact .inl rfl
      | false =>
        rcases hform with hlower | hmem
        · exact absurd hlower (τ.body_ne_lower hw)
        · exact .inr (exists_mem_words_iff.mp hmem)
  · rintro ⟨t, ht, h⟩
    have hadded : (v, t.chars) ∈ (ofAnnotated texts).added :=
      mem_added_ofAnnotated_iff.mpr ⟨t, ht, rfl⟩
    rcases h with hword | ⟨τ, hτ, hsame, hspelling⟩
    · obtain ⟨r, hr, hsame⟩ := AnnotatedText.hasWord_iff.mp hword
      exact ⟨r, hsame, .inr ⟨_, hadded, hr⟩, t.chars, hadded,
        (Extract.mem_keys_annotated t).mpr (.inl hr)⟩
    · refine ⟨τ.body, hsame, ?_, t.chars, hadded,
        (Extract.mem_keys_annotated t).mpr (.inr ⟨τ, hτ, rfl⟩)⟩
      rcases hspelling with rfl | hmem
      · exact .inl hsame
      · exact .inr (exists_mem_words_iff.mpr hmem)

end Builder

end Index

/-! ### Corpora -/

/-- Verses with annotated texts, each verse once. -/
structure Corpus where
  /-- The verses and texts. -/
  entries : List (Verse × Markup.AnnotatedText)
  nodup : (entries.map Prod.fst).Nodup

namespace Corpus

open Index Markup Text

variable (c : Corpus)

/-- The verses are added one after another. -/
def builder : Builder := c.entries.foldl (fun b p => b.add p.1 p.2.chars) {}

/-- The opened records of the index. -/
def storage : Storage := .ofRecords c.builder.records

/-- The index over the opened records. -/
def index : Index := Index.ofStorage c.storage

/-- The texts in the opened records. -/
def source : Source := Source.ofStorage c.storage

/-- What the brackets of the tags hold. -/
def tagBodies : List (List Char) := c.entries.flatMap fun p => p.2.tags.map Tag.body

theorem builder_eq : c.builder = .ofAnnotated c.entries := by
  rw [Builder.ofAnnotated, Builder.ofTexts, List.foldl_map]
  rfl

variable {c} {v : Verse} {raw : List Char}

theorem mem_added_iff : (v, raw) ∈ c.builder.added ↔ ∃ t, (v, t) ∈ c.entries ∧ t.chars = raw := by
  rw [builder_eq]
  exact Builder.mem_added_ofAnnotated_iff

/-- **The texts of a corpus are read back.** -/
theorem source_eq_some_iff : c.source v = some raw ↔ ∃ t, (v, t) ∈ c.entries ∧ t.chars = raw := by
  have hnodup : (c.builder.added.map Prod.fst).Nodup := by
    rw [builder_eq, Builder.ofAnnotated, Builder.added_ofTexts, List.map_map]
    exact c.nodup
  rw [source, storage, ofStorage_source, Builder.getElem?_texts_iff hnodup, mem_added_iff]

/-! ### Words -/

variable {caseSensitive : Bool} {w : List Char} (hw : IsLetters w)

include hw

/-- **A word leads to every verse that has it.** -/
theorem has_of_hasWord {t : AnnotatedText} (ht : (v, t) ∈ c.entries)
    (h : t.HasWord caseSensitive w) :
    c.index.Has caseSensitive (Term.spelled caseSensitive w) v := by
  have hhas := (Builder.has_ofAnnotated_iff hw).mpr ⟨t, ht, .inl h⟩
  rwa [← builder_eq] at hhas

/-- **A word leads to the verses that have it**, unless a tag is spelled like it. -/
theorem has_iff (htag : ∀ body ∈ c.tagBodies, ¬ SameWord false w body) :
    c.index.Has caseSensitive (Term.spelled caseSensitive w) v ↔
      ∃ t, (v, t) ∈ c.entries ∧ t.HasWord caseSensitive w := by
  refine ⟨fun h => ?_, fun ⟨t, ht, hword⟩ => has_of_hasWord hw ht hword⟩
  have hhas : (ofBuilder c.builder).Has caseSensitive (Term.spelled caseSensitive w) v := h
  rw [builder_eq] at hhas
  obtain ⟨t, ht, hword | ⟨τ, hτ, hsame, -⟩⟩ := (Builder.has_ofAnnotated_iff hw).mp hhas
  · exact ⟨t, ht, hword⟩
  · refine absurd hsame.ignoreCase.symm (htag τ.body ?_)
    exact List.mem_flatMap.mpr ⟨(v, t), ht, List.mem_map.mpr ⟨τ, hτ, rfl⟩⟩

end Corpus

end Concordance
