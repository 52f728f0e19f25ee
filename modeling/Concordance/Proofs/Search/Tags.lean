import Concordance.Proofs.Search.OwnText

/-!
# Words that are spelled like tags

Words and tags are keys of one index, and a term is looked up without the brackets of tags. So a word
of letters leads to verses that have it as a word, and to verses with a tag that is spelled like it: in
the spelling of the query if case counts, and else in a spelling that the index knows as a word. Strong's
numbers are spelled like no word of letters.

## Main results

* `Index.Builder.mem_search_word_iff` — the verses that a search for one word finds
-/

namespace Concordance

open Markup Text

namespace Index.Builder

variable {b : Builder} {texts : List (Verse × AnnotatedText)} {v : Verse} {source : Source}
  {engine : Engine} {settings : Settings} {earlier : List Request} {flags : Flags}

/-- A search for one word looks the word up. -/
theorem mem_search_letters_iff {word : String} (hw : IsLetters word.toList) :
    v ∈ (b.searcher engine source settings).resultAfter earlier ⟨.multiword, [word], flags⟩ ↔
      flags.InRange v ∧
        (ofBuilder b).Has flags.caseSensitive (Term.spelled flags.caseSensitive word.toList) v := by
  have hwords : ∀ w ∈ [word], IsLetters w.toList := List.forall_mem_singleton.mpr hw
  obtain ⟨hempty, hstrategy, hrange, hcase⟩ :=
    Corpus.plan_words .multiword flags (List.cons_ne_nil word []) hwords rfl rfl
  have hfind := Searcher.mem_resultAfter (r := ⟨.multiword, [word], flags⟩)
    (Searcher.finds_run_multiword (s := b.searcher engine source settings) hempty hstrategy) earlier v
  rw [hrange, hcase, Corpus.termTexts_words _ hwords rfl rfl] at hfind
  refine hfind.trans (and_congr_right fun _ => ?_)
  simp only [List.map_cons, List.map_nil, List.forall_mem_singleton, ne_eq, List.cons_ne_nil,
    not_false_eq_true, true_and]
  rfl

/-- **The verses that a search for one word finds.** In an index of annotated texts, whatever the
source, the settings and the earlier searches are, and in any range: the word occurs in a text of the
verse outside of its tags, or the text has a tag that is spelled like the word; if case does not count,
the spelling of the tag must be one that occurs outside of tags somewhere in the index. -/
theorem mem_search_word_iff {word : String} (hw : IsLetters word.toList) :
    v ∈ ((ofAnnotated texts).searcher engine source settings).resultAfter earlier
        ⟨.multiword, [word], flags⟩ ↔
      flags.InRange v ∧ ∃ t, (v, t) ∈ texts ∧
        (t.HasWord flags.caseSensitive word.toList ∨
          ∃ τ ∈ t.tags, SameWord flags.caseSensitive τ.body word.toList ∧
            (flags.caseSensitive = true ∨ ∃ p ∈ texts, p.2.HasWord true τ.body)) := by
  rw [mem_search_letters_iff hw, has_ofAnnotated_iff hw]

/-- The tag for adverbs. -/
def adverb : Tag := .morph ['A', 'D', 'V'] (by decide) (List.all_eq_true.mp (by decide))

/-- The text `Surely {ADV}`. -/
def surely : AnnotatedText where
  first := ⟨['S', 'u', 'r', 'e', 'l', 'y'], by decide, List.all_eq_true.mp (by decide)⟩
  rest := [.tag adverb none]

/-- The text `ADV 70`. -/
def year : AnnotatedText where
  first := ⟨['A', 'D', 'V'], by decide, List.all_eq_true.mp (by decide)⟩
  rest := [.plain ⟨['7', '0'], by decide, List.all_eq_true.mp (by decide)⟩]

theorem mem_search_word_surely :
    IsLetters "adv".toList ∧
      .first ∈ ((ofAnnotated [(.first, surely), (.last, year)]).searcher .unlimited
        (fun _ => none) {}).resultAfter [] ⟨.multiword, ["adv"], {}⟩ ∧
      .first ∉ ((ofAnnotated [(.first, surely)]).searcher .unlimited (fun _ => none) {}).resultAfter
        [] ⟨.multiword, ["adv"], {}⟩ := by
  have hw : IsLetters "adv".toList := by decide +kernel
  have hyear : year.HasWord true adverb.body := by decide +kernel
  have hword : ¬ surely.HasWord false "adv".toList := by decide +kernel
  have hbody : ¬ surely.HasWord true adverb.body := by decide +kernel
  refine ⟨hw, (mem_search_word_iff hw).mpr ⟨fun range h => (nomatch h), surely, ?_, ?_⟩, fun h => ?_⟩
  · exact List.mem_cons_self
  · exact .inr ⟨adverb, List.mem_singleton_self _, by decide +kernel,
      .inr ⟨(.last, year), by simp, hyear⟩⟩
  · obtain ⟨-, t, ht, h⟩ := (mem_search_word_iff hw).mp h
    obtain ⟨-, rfl⟩ := Prod.mk.inj (List.mem_singleton.mp ht)
    rcases h with h | ⟨τ, hτ, -, hcase | ⟨p, hp, h⟩⟩
    · exact hword h
    · cases hcase
    · obtain rfl : τ = adverb := List.mem_singleton.mp hτ
      obtain rfl := List.mem_singleton.mp hp
      exact hbody h

/-- A search in which case counts finds a verse that has the word as a tag only. -/
theorem mem_search_word_tag :
    .first ∈ ((ofAnnotated [(.first, surely)]).searcher .unlimited (fun _ => none) {}).resultAfter
        [] ⟨.multiword, ["ADV"], { caseSensitive := true }⟩ ∧
      ∀ t, (.first, t) ∈ [(Verse.first, surely)] → ¬ t.HasWord true "ADV".toList := by
  have hw : IsLetters "ADV".toList := by decide +kernel
  have hbody : adverb.body = "ADV".toList := by decide +kernel
  constructor
  · refine (mem_search_letters_iff hw).mpr ⟨fun range h => (nomatch h), ?_⟩
    exact (has_ofAnnotated_iff hw).mpr ⟨surely, List.mem_singleton_self _,
      .inr ⟨adverb, List.mem_singleton_self _, hbody, .inl rfl⟩⟩
  · intro t ht
    obtain ⟨-, rfl⟩ := Prod.mk.inj (List.mem_singleton.mp ht)
    decide +kernel

end Index.Builder

end Concordance
