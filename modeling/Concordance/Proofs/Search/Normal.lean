import Concordance.Proofs.Search.OwnText
import Concordance.Proofs.Term.Tokens

/-!
# Queries in their normal form

Preparing a query puts its tags into their one form, and reduces it to what terms are made of. What comes
of that is a query in normal form: as a query of its own it has the same text and the same terms, and the
text of each of its terms is read as that term.

## Main results

* `Term.cleanText_cleanText` — a text that is reduced to terms is left as it is
* `Term.canonicalTags_cleanText` — and so are the tags of a query in normal form
* `Plan.withRange_text` — a query in normal form is its own normal form
-/

namespace Concordance

namespace Term

open Markup Text

variable {cs : List Char}

/-- The parts of a text that is reduced to terms. -/
theorem isTermChar_of_mem_words_blankOut {w : List Char} (hw : w ∈ words (blankOut cs)) :
    ∀ c ∈ w, isTermChar c = true := by
  intro c hc
  obtain ⟨d, -, hd⟩ := List.mem_map.mp (subset_of_mem_runs hw c hc)
  split at hd
  · rename_i hterm
    exact hd ▸ hterm
  · have hblank := (isPart_of_mem_words hw).2 c hc
    rw [← hd] at hblank
    exact absurd hblank (by decide)

/-- **A text that is reduced to terms is left as it is.** -/
theorem cleanText_cleanText (cs : List Char) : cleanText (cleanText cs) = cleanText cs := by
  have hparts : ∀ w ∈ words (blankOut cs), IsPart w := fun w hw => isPart_of_mem_words hw
  have hblank : blankOut (cleanText cs) = cleanText cs :=
    blankOut_intercalate fun w hw => isTermChar_of_mem_words_blankOut hw
  have hwords : words (cleanText cs) = words (blankOut cs) := words_intercalate hparts
  rw [cleanText, hblank, collapse, hwords]
  rfl

theorem canonicalTags_intercalate (ws : List (List Char)) :
    canonicalTags ([' '].intercalate ws) = [' '].intercalate (ws.map canonicalTags) := by
  have hspace : IsApart ' ' := ⟨by decide, by decide⟩
  induction ws with
  | nil => simp [canonicalTags, replaceItems]
  | cons w ws ih =>
    cases ws with
    | nil => simp
    | cons v ws =>
      rw [List.map_cons, List.map_cons, List.intercalate_cons_cons, List.intercalate_cons_cons,
        List.append_assoc, List.append_assoc, List.singleton_append, List.singleton_append,
        hspace.canonicalTags_append, ih]
      rfl

/-- **The tags of a query in normal form are left as they are.** -/
theorem canonicalTags_cleanText (h : IsAscii cs) :
    canonicalTags (cleanText (canonicalTags cs)) = cleanText (canonicalTags cs) := by
  have hwords := words_blankOut (isAscii_canonicalTags h)
  rw [runs_canonicalTags h] at hwords
  rw [cleanText, collapse, hwords, canonicalTags_intercalate, List.map_map]
  exact congrArg _ (List.map_congr_left fun w _ => canonicalTags_canonicalTags w)

example : canonicalTags (cleanText (canonicalTags "love, \x7bn-nsf\x7d & g26!".toList))
    = "love \x7bN-NSF\x7d <G26>".toList := by decide +kernel

end Term

namespace Plan

open Term Text

variable {strategy : Strategy} {terms : List (List Char)}

theorem canonicalizesTags_of_cleansWords (h : strategy.cleansWords = true) :
    strategy.canonicalizesTags = true := by
  cases strategy with
  | multiword | anyword | eitheror | phrase | orderedMultiword | mixedPhrase => rfl
  | partialWord | regex | combined | combinedPhrase | mixed => cases h

/-- The text of a query whose terms are trimmed and joined. -/
def joined (terms : List (List Char)) : List Char :=
  [' '].intercalate ((terms.map trim).filter (!·.isEmpty))

theorem isAscii_joined (h : ∀ t ∈ terms, IsAscii t) : IsAscii (joined terms) := by
  have hraw : ∀ w ∈ (terms.map trim).filter (!·.isEmpty), IsAscii w := by
    intro w hw c hc
    obtain ⟨t, ht, rfl⟩ := List.mem_map.mp (List.mem_filter.mp hw).1
    exact h t ht c (trim_subset t hc)
  exact fun c hc => (forall_mem_intercalate hraw c hc).elim id fun h => h ▸ by decide

/-- A text that is reduced to terms is joined already. -/
theorem joined_cleanText (cs : List Char) : joined [cleanText cs] = cleanText cs := by
  have htrim : trim (cleanText cs) = cleanText cs := trim_intercalate fun w hw => isPart_of_mem_words hw
  rw [joined, List.map_singleton, htrim]
  cases hcs : cleanText cs with
  | nil => rfl
  | cons c rest => simp

/-- What a strategy that reduces queries to terms makes of a query. -/
theorem withRange_eq (hcleans : strategy.cleansWords = true) (terms : List (List Char)) (flags : Flags)
    (range? : Option VerseSet) :
    (withRange strategy terms flags range?).text = cleanText (canonicalTags (joined terms)) ∧
      (withRange strategy terms flags range?).terms
        = (parseAll (cleanText (canonicalTags (joined terms)))).map (foldCase flags.caseSensitive) := by
  simp only [withRange, hcleans, canonicalizesTags_of_cleansWords hcleans, if_true]
  exact ⟨rfl, rfl⟩

/-- **A query in normal form is its own normal form**, for every strategy that reduces queries to terms,
and whatever the flags and the ranges are: as a query of its own it has the same text and the same terms,
and the text of each of its terms is read as that term. Putting tags into their one form and reducing a
text to terms are done once and for all. -/
theorem withRange_text (hcleans : strategy.cleansWords = true) (hascii : ∀ t ∈ terms, IsAscii t)
    (flags : Flags) (range? range?' : Option VerseSet) :
    let p := withRange strategy terms flags range?
    let q := withRange strategy [p.text] flags range?'
    q.text = p.text ∧ q.terms = p.terms ∧ (∀ t ∈ p.terms, ofToken t.text = t) ∧
      (∀ cs, canonicalTags (canonicalTags cs) = canonicalTags cs) ∧
      ∀ cs, cleanText (cleanText cs) = cleanText cs := by
  obtain ⟨htext, hterms⟩ := withRange_eq hcleans terms flags range?
  obtain ⟨htext', hterms'⟩ := withRange_eq hcleans
    [(withRange strategy terms flags range?).text] flags range?'
  have hjoined := isAscii_joined hascii
  have hsame : cleanText (canonicalTags (joined [(withRange strategy terms flags range?).text]))
      = (withRange strategy terms flags range?).text := by
    rw [htext, joined_cleanText, canonicalTags_cleanText hjoined, cleanText_cleanText]
  refine ⟨htext'.trans hsame, ?_, fun t ht => ?_, canonicalTags_canonicalTags, cleanText_cleanText⟩
  · rw [hterms', hsame, hterms, htext]
  · rw [hterms, parseAll_cleanText (isAscii_canonicalTags hjoined)] at ht
    obtain ⟨_, hterm, rfl⟩ := List.mem_map.mp ht
    obtain ⟨part, hpart, rfl⟩ := List.mem_map.mp hterm
    exact ofToken_text_foldCase
      (isTermText_of_mem_runs (isAscii_canonicalTags hjoined) hpart).isSolid flags.caseSensitive

/-- A query whose hyphens, brackets and numbers meet in many ways. -/
def tangled : List (List Char) :=
  ["  (h1 \x7bn-nsf) g2>>".toList, "(v-h3) \x7b-a\x7d <G4-x\x7d".toList]

/-- The query in normal form. -/
def untangled : List Char := "(<H1> \x7bN-NSF\x7d <G2>> (v-<H3>) \x7b-a\x7d <G4>-x\x7d".toList

theorem withRange_text_mixed :
    (∀ t ∈ tangled, IsAscii t) ∧ (withRange .phrase tangled {} none).text = untangled ∧
      (withRange .phrase [(withRange .phrase tangled {} none).text] {} none).text = untangled := by
  have hall : tangled.all (fun t => t.all fun c => c.toNat < 0x80) = true := by decide +kernel
  have hascii : ∀ t ∈ tangled, IsAscii t := fun t ht c hc => by
    simpa using List.all_eq_true.mp (List.all_eq_true.mp hall t ht) c hc
  have htext : (withRange .phrase tangled {} none).text = untangled := by decide +kernel
  obtain ⟨hsame, -⟩ := @withRange_text .phrase _ rfl hascii {} none none
  exact ⟨hascii, htext, hsame.trans htext⟩

end Plan

end Concordance
