import Concordance.Proofs.Pattern.Colors
import Concordance.Proofs.Pattern.Matches
import Concordance.Proofs.Text.Scanning

/-!
# Marking inserts marks

Marking a text puts marks into it and does nothing else. A word that is to be marked is the first group
of the pattern that it is looked for with, edges included, and so what is put between the marks is all
that the pattern matched. Hence every one of the passes over the text leaves the characters between the
marks as they are, whatever the patterns are that say what is to be marked.

## Main definitions

* `Highlight.isMark` — whether marks are made of a character
* `Highlight.unmark` — a text without the characters that marks are made of

## Main results

* `Highlight.markWord_induction` — what holds of a text with a word marked
* `Highlight.unmark_mark` — without the characters of the marks, the text is left
-/

namespace Concordance

namespace Pattern

/-- What a group around a whole pattern has matched is what the pattern has matched. -/
theorem IsFound.group?_eq {p : Pattern} {index : Nat} {t : Array Char} {m : Match}
    (h : (group index p).IsFound t m) (hindex : index ≠ 0) : m.group? t index = some (m.text t) := by
  obtain ⟨o, -, heq⟩ := List.mem_map.mp h
  obtain ⟨hstop, hcaptures⟩ := Outcome.mk.inj heq
  rw [Match.group?, if_neg hindex, ← hcaptures, List.find?_cons_of_pos (by simp), hstop]
  rfl

end Pattern

namespace Highlight

open Pattern

variable {h : Highlight} {engine : Engine} {cs word : List Char} {p : Pattern}

/-! ### One word -/

/-- **What holds of a text with a word marked**: it holds of the text after the last place where the word
is, and with each of these places, edges included, it holds of more of the text. -/
theorem markWord_induction {motive : (before rest out : List Char) → Prop}
    (stop : ∀ xs s, cs = xs ++ s → motive xs s s)
    (next : ∀ xs u r s out, cs = xs ++ u ++ (r ++ s) →
      (Pattern.ofSeq (markedWordItems word)).Covers (xs ++ u) r s →
      motive (xs ++ u ++ r) s out → motive xs (u ++ (r ++ s)) (u ++ (h.wrap r ++ out))) :
    motive [] cs (h.markWord engine cs word) := by
  have hpattern := @pattern_wordMatcher engine word
  refine replaceAll_induction stop fun xs u r s out m htext hfound hstart hstop hout => ?_
  rw [hpattern] at hfound
  split at hfound
  · have hgroup := hfound.group?_eq Nat.one_ne_zero
    rw [htext, Match.text_eq hstart hstop] at hgroup
    rw [htext] at hfound
    rw [htext, hgroup, Option.getD_some]
    exact next xs u r s out htext (hfound.covers (inOrder_of_read? (read?_markedWord word)) hstart hstop)
      hout
  · exact (not_isFound_never _ _ hfound).elim

/-! ### The characters of marks -/

variable (h)

/-- Whether marks are made of a character. -/
def isMark (c : Char) : Bool := h.before.contains c || h.after.contains c

/-- A text without the characters that marks are made of. -/
def unmark (cs : List Char) : List Char := cs.filter fun c => !h.isMark c

theorem unmark_append (xs ys : List Char) : h.unmark (xs ++ ys) = h.unmark xs ++ h.unmark ys :=
  List.filter_append ..

theorem unmark_eq_self (hfree : ∀ c ∈ cs, h.isMark c = false) : h.unmark cs = cs :=
  List.filter_eq_self.mpr fun c hc => by rw [hfree c hc]; rfl

theorem unmark_wrap (cs : List Char) : h.unmark (h.wrap cs) = h.unmark cs := by
  have hbefore : h.unmark h.before = [] := List.filter_eq_nil_iff.mpr fun c hc => by
    simp [isMark, hc]
  have hafter : h.unmark h.after = [] := List.filter_eq_nil_iff.mpr fun c hc => by
    simp [isMark, hc]
  rw [wrap, unmark_append, unmark_append, hbefore, hafter, List.nil_append, List.append_nil]

theorem unmark_markWord (cs word : List Char) : h.unmark (h.markWord engine cs word) = h.unmark cs := by
  refine markWord_induction (motive := fun _ s out => h.unmark out = h.unmark s) (fun _ _ _ => rfl)
    fun xs u r s out _ _ hout => ?_
  simp only [unmark_append, unmark_wrap, hout]

theorem unmark_markMatch (p : Pattern) (t : Array Char) (m : Match) :
    h.unmark (h.markMatch engine p t m) = h.unmark (m.text t) := by
  have hfold : ∀ (words : List (List Char)) (cs : List Char),
      h.unmark (words.foldl (h.markWord engine) cs) = h.unmark cs := by
    intro words
    induction words with
    | nil => exact fun _ => rfl
    | cons word words ih => exact fun cs => (ih _).trans (h.unmark_markWord cs word)
  exact hfold _ _

/-- **Each pass only inserts marks.** -/
theorem unmark_markAll (cs : List Char) (p : Pattern) :
    h.unmark (h.markAll engine cs p) = h.unmark cs := by
  refine replaceAll_induction (motive := fun _ s out => h.unmark out = h.unmark s) (fun _ _ _ => rfl)
    fun xs u r s out m htext _ hstart hstop hout => ?_
  have hmatch := @unmark_markMatch h engine p cs.toArray m
  rw [htext, Match.text_eq hstart hstop, ← htext] at hmatch
  simp only [unmark_append, hmatch, hout]

/-- All passes only insert marks. -/
theorem unmark_foldl_markAll (ps : List Pattern) (cs : List Char) :
    h.unmark (ps.foldl (h.markAll engine) cs) = h.unmark cs := by
  induction ps generalizing cs with
  | nil => rfl
  | cons p ps ih => exact (ih _).trans (h.unmark_markAll cs p)

/-- **Marking only inserts marks.** If no character of the marks occurs in a text, then the text with
whatever is to be marked in it is, without the characters of the marks, the text without blanks at its
ends. The patterns that say what is to be marked may be any, and so may the engine that runs them. -/
theorem unmark_mark (engine : Engine) (ms : List Matcher) (hfree : ∀ c ∈ cs, h.isMark c = false) :
    h.unmark (h.mark engine ms cs) = Text.trim cs := by
  rw [mark, unmark_foldl_markAll]
  exact h.unmark_eq_self fun c hc => hfree c (Text.trim_subset cs hc)

/-- In ` the heaven ` one word is marked two times, for a phrase and for a word with wildcards. -/
theorem unmark_mark_heaven :
    (∀ c ∈ " the heaven ".toList, (⟨['['], [']']⟩ : Highlight).isMark c = false) ∧
      (⟨['['], [']']⟩ : Highlight).mark .unlimited
        (matchers .unlimited ["&h(eav)\\w+".toList, "the heaven".toList, "h*n".toList] false false)
        " the heaven ".toList = "[the] [[heaven]]".toList ∧
      (⟨['['], [']']⟩ : Highlight).unmark ((⟨['['], [']']⟩ : Highlight).mark .unlimited
        (matchers .unlimited ["&h(eav)\\w+".toList, "the heaven".toList, "h*n".toList] false false)
        " the heaven ".toList) = "the heaven".toList := by
  have hfree : ∀ c ∈ " the heaven ".toList, (⟨['['], [']']⟩ : Highlight).isMark c = false :=
    fun c hc => Bool.eq_false_iff.mpr (List.any_eq_false.mp (by decide) c hc)
  exact ⟨hfree, by decide +kernel, (unmark_mark _ _ _ hfree).trans (by decide)⟩

end Highlight

end Concordance
