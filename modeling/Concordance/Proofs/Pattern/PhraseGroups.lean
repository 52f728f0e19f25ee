import Concordance.Proofs.Pattern.Captures
import Concordance.Proofs.Pattern.Colors

/-!
# The groups of the pattern of a phrase

Whatever the text of a phrase is, the pattern that is made of it can be read: the characters of its
words and tags have no meaning of their own, and every parenthesis, bracket and brace is closed again.
Its groups are numbered in the order in which they open, two for each word or tag, and nothing else in
the pattern is a group with a number: neither the edges of words nor the filler between elements.

## Main definitions

* `Pattern.numbers` — the numbers of the groups of a pattern, in the order in which they open
* `PhraseStyle.IsSynthetic` — a style for phrases, in searches or in marked texts

## Main results

* `Pattern.numbers_ofElements` — a phrase has two groups for each of its words and tags
* `PhraseStyle.matcher_source` — the pattern of a phrase can be read, and is the one that is matched
-/

namespace Concordance

namespace Pattern

/-! ### Numbers of groups -/

/-- The numbers of the groups of a pattern, in the order in which they open. -/
def numbers (p : Pattern) : List Nat := p.groups.map Prod.fst

@[simp] theorem numbers_group (index : Nat) (p : Pattern) :
    (group index p).numbers = index :: p.numbers := rfl

@[simp] theorem numbers_set (s : CharSet) : (set s).numbers = [] := rfl

@[simp] theorem numbers_repeated (p : Pattern) (low : Nat) (high? : Option Nat) (greedy : Bool) :
    (repeated p low high? greedy).numbers = p.numbers := rfl

theorem numbers_ofSeq (ps : List Pattern) : (ofSeq ps).numbers = ps.flatMap numbers := by
  rw [numbers, groups_ofSeq, List.map_flatMap]
  rfl

theorem numbers_ofAlt (ps : List Pattern) : (ofAlt ps).numbers = ps.flatMap numbers := by
  rw [numbers, groups_ofAlt, List.map_flatMap]
  rfl

theorem groupCount_pos (p : Pattern) : 0 < p.groupCount := by
  induction p with
  | empty | set _ | anchor _ => exact Nat.zero_lt_one
  | group i p ih => exact Nat.lt_of_lt_of_le ih (Nat.le_max_right _ _)
  | seq p q ihp ihq | alt p q ihp ihq => exact Nat.lt_of_lt_of_le ihp (Nat.le_max_left _ _)
  | repeated p _ _ _ ih => exact ih

theorem groupCount_le {p : Pattern} {m : Nat} (hm : 0 < m) (h : ∀ i ∈ p.numbers, i < m) :
    p.groupCount ≤ m := by
  induction p with
  | empty | set _ | anchor _ => exact hm
  | group i p ih =>
    obtain ⟨hi, hp⟩ := List.forall_mem_cons.mp h
    exact Nat.max_le.mpr ⟨hi, ih hp⟩
  | seq p q ihp ihq | alt p q ihp ihq =>
    rw [numbers, groups, List.map_append, List.forall_mem_append] at h
    exact Nat.max_le.mpr ⟨ihp h.1, ihq h.2⟩
  | repeated p _ _ _ ih => exact ih h

/-- Groups that are numbered without gaps are counted by their numbers. -/
theorem groupCount_of_numbers {p : Pattern} {n : Nat} (h : p.numbers = List.range' 1 n) :
    p.groupCount = n + 1 := by
  refine Nat.le_antisymm (groupCount_le (Nat.succ_pos n) fun i hi => ?_) ?_
  · rw [h, List.mem_range'_1] at hi
    omega
  · cases n with
    | zero => exact groupCount_pos p
    | succ n =>
      have hlast : n + 1 ∈ p.numbers := by
        rw [h, List.mem_range'_1]
        omega
      obtain ⟨⟨i, q⟩, hmem, rfl⟩ := List.mem_map.mp hlast
      exact lt_groupCount hmem

variable {ignoreCase : Bool} {edge filler : Pattern}

/-- Characters that stand for themselves are no groups. -/
theorem numbers_ofLiteral (cs : List Char) : (ofLiteral ignoreCase cs).flatMap numbers = [] := by
  simp [ofLiteral, List.flatMap_map]

/-- A body is kept in two groups. -/
theorem numbers_ofBody (hedge : edge.numbers = []) {body : List Pattern}
    (hbody : body.flatMap numbers = []) (count : Nat) :
    (ofBody edge count body).numbers = [count + 1, count + 2] := by
  simp [ofBody, numbers_ofSeq, hedge, hbody]

theorem numbers_ofTerm (hedge : edge.numbers = []) (count : Nat) (t : Term) :
    (ofTerm ignoreCase edge count t).flatMap numbers = [count + 1, count + 2] := by
  cases t with
  | word w =>
    have hbody : (w.map (ofChar ignoreCase)).flatMap numbers = [] := by
      rw [List.flatMap_map, List.flatMap_eq_nil_iff]
      intro c _
      rw [ofChar]
      split <;> rfl
    simp [ofTerm, numbers_ofBody hedge hbody]
  | strongs number => simp [ofTerm, numbers_ofBody hedge (numbers_ofLiteral number)]
  | morph tag => simp [ofTerm, numbers_ofBody hedge (numbers_ofLiteral tag)]

theorem numbers_ofElement (hedge : edge.numbers = []) (count : Nat) (e : List Term) :
    (ofElement ignoreCase edge count e).flatMap numbers = List.range' (count + 1) (2 * e.length) := by
  induction e generalizing count with
  | nil => rfl
  | cons t e ih =>
    rw [ofElement, List.flatMap_append, numbers_ofTerm hedge, ih, List.length_cons, Nat.mul_succ,
      Nat.add_comm (2 * e.length) 2, ← List.range'_append_1]
    rfl

theorem numbers_phraseItems (hedge : edge.numbers = []) (hfiller : filler.numbers = []) (count : Nat)
    (es : List (List Term)) :
    (phraseItems ignoreCase edge filler count es).flatMap numbers
      = List.range' (count + 1) (2 * es.flatten.length) := by
  induction es generalizing count with
  | nil => rfl
  | cons e es ih =>
    cases es with
    | nil => simp [phraseItems, numbers_ofElement hedge]
    | cons e' es =>
      have hitems : phraseItems ignoreCase edge filler count (e :: e' :: es) =
          ofElement ignoreCase edge count e ++ filler ::
            phraseItems ignoreCase edge filler (count + 2 * e.length) (e' :: es) := rfl
      have hlength : (e :: e' :: es).flatten.length = e.length + (e' :: es).flatten.length := by
        rw [List.flatten_cons, List.length_append]
      rw [hitems, List.flatMap_append, List.flatMap_cons, hfiller, ih, numbers_ofElement hedge, hlength,
        Nat.mul_add, List.nil_append, ← List.range'_append_1, Nat.add_right_comm]

/-- What the filler passes over at a time has no groups with numbers. -/
theorem numbers_fillerChoices {extra : List (List Char × List Pattern)}
    (hextra : ∀ a ∈ extra, a.2.flatMap numbers = []) (sloppy : Bool) (terms : List Term) :
    ∀ a ∈ fillerChoices ignoreCase extra sloppy terms, a.2.flatMap numbers = [] := by
  have horElse : ∀ (wanted : Bool) (choice : List Char × List Pattern),
      choice.2.flatMap numbers = [] →
      ∀ a ∈ if wanted then [choice] else [], a.2.flatMap numbers = [] := by
    intro wanted choice hchoice a ha
    cases wanted with
    | true => exact List.mem_singleton.mp ha ▸ hchoice
    | false => cases ha
  simp only [fillerChoices, List.forall_mem_append, List.forall_mem_cons]
  exact ⟨⟨⟨⟨rfl, hextra⟩, horElse _ _ rfl⟩, horElse _ _ rfl⟩, horElse _ _ rfl⟩

theorem numbers_ofFiller {extra : List (List Char × List Pattern)}
    (hextra : ∀ a ∈ extra, a.2.flatMap numbers = []) (sloppy : Bool) (terms : List Term) :
    (ofFiller ignoreCase extra sloppy terms).numbers = [] := by
  rw [ofFiller, numbers_repeated, numbers_ofAlt, List.flatMap_cons, List.flatMap_map,
    List.append_eq_nil_iff, List.flatMap_eq_nil_iff]
  refine ⟨rfl, fun a ha => ?_⟩
  rw [numbers_ofSeq]
  exact numbers_fillerChoices hextra sloppy terms a ha

/-- **A phrase has two groups for each of its words and tags**, numbered in order. -/
theorem numbers_ofElements {extra : List (List Char × List Pattern)} (hedge : edge.numbers = [])
    (hextra : ∀ a ∈ extra, a.2.flatMap numbers = []) (sloppy : Bool) (es : List (List Term)) :
    (ofElements ignoreCase edge extra sloppy es).numbers
      = List.range' 1 (2 * es.flatten.length) := by
  rw [ofElements, ofPhrase, numbers_ofSeq,
    numbers_phraseItems hedge (numbers_ofFiller hextra sloppy es.flatten)]

end Pattern

/-! ### Styles of phrases -/

namespace PhraseStyle

open Pattern

/-- A style for phrases: the edges of words are plain, or colours may stand there, and the filler passes
over nothing else, or over the colours of marked texts as well. -/
structure IsSynthetic (s : PhraseStyle) : Prop where
  /-- The phrase is no pattern yet. -/
  isPattern : s.isPattern = false
  /-- The pattern for either side of a word. -/
  wordBound : s.wordBound = "\\b".toList ∨ s.wordBound = colorBound
  /-- The other alternatives. -/
  fillerExtra : s.fillerExtra = [] ∨ s.fillerExtra = '|' :: color ++ "|\\x1b".toList

/-- What is made of a phrase in such a style is read, and no group is added. -/
theorem IsSynthetic.exists_readsAs {s : PhraseStyle} (h : s.IsSynthetic) (ignoreCase : Bool) :
    ∃ edge extra, s.ReadsAs ignoreCase edge extra ∧ edge.numbers = [] ∧
      ∀ a ∈ extra, a.2.flatMap numbers = [] := by
  have hplain := readsAs_plain ignoreCase s.caseSensitive s.sloppy
  have hcolored := Highlight.readsAs_style ignoreCase s.caseSensitive s.sloppy []
  have hbound : ∃ edge : Pattern, IsBound ignoreCase s.wordBound edge ∧ edge.numbers = [] := by
    rcases h.wordBound with hbound | hbound
    · exact ⟨wordEdge, hbound ▸ hplain.bound, rfl⟩
    · exact ⟨colorEdge ignoreCase, hbound ▸ hcolored.bound, rfl⟩
  obtain ⟨edge, hread, hedge⟩ := hbound
  rcases h.fillerExtra with hextra | hextra
  · exact ⟨edge, [], ⟨hread, hextra, hplain.choices⟩, hedge, List.forall_mem_nil _⟩
  · refine ⟨edge, Highlight.extraChoices ignoreCase,
      ⟨hread, hextra.trans hcolored.fillerExtra, hcolored.choices⟩, hedge, ?_⟩
    simp only [Highlight.extraChoices, List.forall_mem_cons]
    exact ⟨rfl, rfl, List.forall_mem_nil _⟩

/-- A phrase with elements has words or tags. -/
theorem length_flatten_elements_pos {phrase : List Char} (h : elements phrase ≠ []) :
    0 < (elements phrase).flatten.length := by
  obtain ⟨e, he⟩ := List.exists_mem_of_ne_nil _ h
  have hne : e ≠ [] := by simpa using (List.mem_filter.mp he).2
  obtain ⟨t, ht⟩ := List.exists_mem_of_ne_nil _ hne
  exact List.length_pos_of_mem (List.mem_flatten.mpr ⟨e, he, ht⟩)

/-- **Every phrase writes a pattern**, whatever its characters are and whether or not case counts. The
text is empty only for a phrase without words and tags; for any other the pattern is the one that is
matched, if the engine takes it. Each word or tag of the phrase has two groups, and there are no
others. -/
theorem matcher_source {s : PhraseStyle} (h : s.IsSynthetic) (engine : Engine) (phrase : List Char) :
    (s.source phrase = [] ↔ elements phrase = []) ∧
    (∀ ignoreCase, ∃ p, read? ignoreCase (s.source phrase) = some p ∧
      p.numbers = List.range' 1 (2 * (elements phrase).flatten.length) ∧
      p.groupCount = 2 * (elements phrase).flatten.length + 1) ∧
    (elements phrase ≠ [] → ∃ p, read? (!s.caseSensitive) (s.source phrase) = some p ∧
      p ≠ never ∧
      s.matcher engine phrase = if s.Fits engine phrase then ⟨s.source phrase, p⟩ else .never) := by
  have hread : ∀ ignoreCase, ∃ p, read? ignoreCase (s.source phrase) = some p ∧
      p.numbers = List.range' 1 (2 * (elements phrase).flatten.length) := by
    intro ignoreCase
    obtain ⟨edge, extra, hreads, hedge, hextra⟩ := h.exists_readsAs ignoreCase
    exact ⟨_, read?_phrase hreads h.isPattern phrase, numbers_ofElements hedge hextra _ _⟩
  have hsource : s.source phrase = [] ↔ elements phrase = [] := by
    rw [← List.isEmpty_iff, isEmpty_source h.isPattern, List.isEmpty_iff]
  refine ⟨hsource, fun ignoreCase => ?_, fun hne => ?_⟩
  · obtain ⟨p, hp, hnumbers⟩ := hread ignoreCase
    exact ⟨p, hp, hnumbers, groupCount_of_numbers hnumbers⟩
  · obtain ⟨p, hp, hnumbers⟩ := hread (!s.caseSensitive)
    refine ⟨p, hp, ?_, ?_⟩
    · -- the pattern that matches nowhere has no groups
      rintro rfl
      have hpos := length_flatten_elements_pos hne
      have hlength := congrArg List.length hnumbers
      rw [List.length_range'] at hlength
      change 0 = _ at hlength
      omega
    · rw [matcher, Matcher.compile, if_neg (by simpa using mt hsource.mp hne), hp]
      rfl

/-- A phrase of a word with a wildcard, a Strong's number and a morphology tag, for marked texts. -/
theorem matcher_source_love : (Highlight.style false true []).IsSynthetic ∧
    (Highlight.style false true []).source "love* g26, (n-nsf)".toList ≠ [] ∧
    ∃ p, read? true ((Highlight.style false true []).source "love* g26, (n-nsf)".toList) = some p ∧
      p.numbers = [1, 2, 3, 4, 5, 6] ∧ p.groupCount = 7 := by
  have hstyle : (Highlight.style false true []).IsSynthetic := ⟨rfl, .inr rfl, .inr rfl⟩
  obtain ⟨hsource, hread, -⟩ := matcher_source hstyle .unlimited "love* g26, (n-nsf)".toList
  have hterms : (elements "love* g26, (n-nsf)".toList).flatten.length = 3 := by decide +kernel
  obtain ⟨p, hp, hnumbers, hcount⟩ := hread true
  rw [hterms] at hnumbers hcount
  refine ⟨hstyle, fun hempty => ?_, p, hp, hnumbers, hcount⟩
  rw [hsource.mp hempty] at hterms
  exact absurd hterms (by decide)

end PhraseStyle

end Concordance
