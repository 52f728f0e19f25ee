import Concordance.Proofs.Pattern.ColorEdges
import Concordance.Proofs.Pattern.Wildcard

/-!
# Marking what wildcards find

A word with wildcards is looked for in two ways. The index tries it against the words of its vocabulary, as
the whole of a text and with all characters but the wildcards escaped. For marking it is looked for in
texts, between edges and as it is written. Where no character but the wildcards has a meaning of its own in
patterns, both match the same words; where one has, what is marked need not have been found.

## Main results

* `Pattern.isMatch_ofColoredGlob` — the words that are marked
* `Highlight.isMatch_wildcard_iff` — they are the words that are found
-/

namespace Concordance

namespace Pattern

open Text (isWordChar IsAscii)

variable {ignoreCase : Bool} {w term : List Char}

/-! ### One word as a text -/

/-- Wildcards that match nothing match any word. -/
theorem globMatches_of_nil {caseSensitive : Bool} (hne : term ≠ []) (h : GlobMatches caseSensitive term [])
    (hword : ∀ c ∈ w, isWordChar c = true) : GlobMatches caseSensitive term w := by
  obtain ⟨c, term, rfl⟩ := List.exists_cons_of_ne_nil hne
  generalize hnil : ([] : List Char) = v at h
  cases h with
  | char _ _ _ => cases hnil
  | @star run _ v _ rest =>
    obtain ⟨rfl, rfl⟩ := List.append_eq_nil_iff.mp hnil.symm
    simpa using GlobMatches.star hword rest

/-- An edge in a text of word characters is at its start or at its end. -/
theorem eq_nil_of_edge {xs ys : List Char} (hword : ∀ c ∈ xs ++ ys, isWordChar c = true)
    (h : xs.getLast?.any isWordChar ≠ ys.head?.any isWordChar) : xs = [] ∨ ys = [] := by
  obtain ⟨hxs, hys⟩ := List.forall_mem_append.mp hword
  by_contra hboth
  obtain ⟨hxne, hyne⟩ := not_or.mp hboth
  have hlast := (any_of_word hxne hxs [] []).2
  have hfirst := (any_of_word hyne hys [] []).1
  rw [List.nil_append] at hlast
  rw [List.append_nil] at hfirst
  exact h (hlast.trans hfirst.symm)

/-- What stands between edges in a text of word characters is nothing or the whole text. -/
theorem eq_nil_of_covers_edges {p : Pattern} {xs r ys : List Char}
    (hword : ∀ c ∈ xs ++ (r ++ ys), isWordChar c = true)
    (h : (ofSeq [wordEdge, p, wordEdge]).Covers xs r ys) : r = [] ∨ xs = [] ∧ ys = [] := by
  obtain ⟨hstart, -, hstop⟩ := covers_edges.mp h
  rcases eq_nil_of_edge hword hstart with hxs | hrest
  · rcases eq_nil_of_edge (by rwa [List.append_assoc]) hstop with hr | hys
    · exact .inl (List.append_eq_nil_iff.mp hr).2
    · exact .inr ⟨hxs, hys⟩
  · exact .inl (List.append_eq_nil_iff.mp hrest).1

/-- **The words that are marked** are those that the wildcards match. -/
theorem isMatch_ofColoredGlob (hterm : IsAscii term) (hne : term ≠ []) (hw : IsAscii w) (hwne : w ≠ [])
    (hword : ∀ c ∈ w, isWordChar c = true) (hp : (ofColoredGlob ignoreCase term).InOrder) :
    (ofColoredGlob ignoreCase term).isMatch w.toArray = true ↔ GlobMatches (!ignoreCase) term w := by
  have hfold : ∀ {cs : List Char}, IsAscii cs → ∀ c ∈ cs, Text.fold c = c.toLower := fun hcs c hc =>
    Text.fold_of_ascii (hcs c hc)
  rw [isMatch_iff_opens hp]
  constructor
  · rintro ⟨xs, _, rfl, r, ys, rfl, hcovers⟩
    have hr : r ⊆ xs ++ (r ++ ys) := fun c hc => by simp [hc]
    have hesc : '\x1b' ∉ r := fun hmem => absurd (hword _ (hr hmem)) (by decide)
    have hedges := (covers_between_colorEdges hesc).mp hcovers
    have hchars : GlobMatches (!ignoreCase) term r :=
      (covers_chars (hfold hterm) (hfold fun c hc => hw c (hr hc))).mp (covers_edges.mp hedges).2.1
    obtain rfl | ⟨rfl, rfl⟩ := eq_nil_of_covers_edges hword hedges
    · exact globMatches_of_nil hne hchars hword
    · simpa using hchars
  · intro h
    obtain ⟨hfirst, hlast⟩ := any_of_word hwne hword [] []
    have hesc : '\x1b' ∉ w := fun hmem => absurd (hword _ hmem) (by decide)
    refine ⟨[], w, rfl, w, [], (List.append_nil w).symm, (covers_between_colorEdges hesc).mpr ?_⟩
    refine covers_edges.mpr ⟨?_, (covers_chars (hfold hterm) (hfold hw)).mpr h, ?_⟩
    · rw [hfirst]
      exact Bool.false_ne_true
    · rw [hlast]
      exact Bool.false_ne_true.symm

end Pattern

/-! ### Terms -/

namespace Highlight

open Pattern
open Text (isWordChar isBlank IsAscii)

variable {engine : Engine} {caseSensitive sloppy : Bool} {term w : List Char}

/-- A term without blanks is one term. -/
theorem matchers_singleton (hne : term ≠ []) (hblank : ∀ c ∈ term, isBlank c = false) :
    matchers engine [term] caseSensitive sloppy = [matcherOf engine caseSensitive sloppy term] := by
  simp [matchers, Text.trim_of_isPart ⟨hne, hblank⟩, hne]

/-- Without a sign before it, a word with wildcards is written as it is. -/
theorem read?_wildcard (hsigns : ∀ c ∈ term, c = '*' ∨ isSign c = false)
    (hhead : ∀ c ∈ term.head?, isOperator c = false) :
    read? (!caseSensitive) (wildcardSource term) = some (ofColoredGlob (!caseSensitive) term) := by
  have hdrop : term.dropWhile isOperator = term := by
    cases term with
    | nil => rfl
    | cons c term => rw [List.dropWhile_cons, if_neg (by simp [hhead c rfl])]
  have hread := @read?_wildcardSource term (!caseSensitive) (by rwa [hdrop])
  rwa [hdrop] at hread

/-- **A word with wildcards is marked where it is found.** Let a word of ASCII have wildcards, no blanks,
no sign before it, and no sign in it that has a meaning of its own in patterns. Then the pattern that is
made for marking matches a text of one word if and only if the engine takes it and the index takes the
wildcards to match that word. The index tries all words of its vocabulary against the pattern that it
writes for the wildcards. -/
theorem isMatch_wildcard_iff (engine : Engine) (caseSensitive sloppy : Bool) (hascii : IsAscii term)
    (hblank : ∀ c ∈ term, isBlank c = false) (hstar : '*' ∈ term)
    (hhead : ∀ c ∈ term.head?, c ≠ '&' ∧ isOperator c = false)
    (hsigns : ∀ c ∈ term, c = '*' ∨ isSign c = false) (hw : IsAscii w) (hwne : w ≠ [])
    (hword : ∀ c ∈ w, isWordChar c = true) :
    (∃ m, matchers engine [term] caseSensitive sloppy = [m] ∧ (m.pattern.isMatch w.toArray = true ↔
      engine.fits (!caseSensitive) (wildcardSource term) = true ∧
        Wildcard.matchesWord caseSensitive term w = true)) ∧
    ∃ p, read? false (Wildcard.source caseSensitive term) = some p ∧
      p.isMatch w.toArray = Wildcard.matchesWord caseSensitive term w := by
  have hne : term ≠ [] := List.ne_nil_of_mem hstar
  have hread := @read?_wildcard caseSensitive term hsigns fun c hc => (hhead c hc).2
  refine ⟨⟨_, matchers_singleton hne hblank, ?_⟩, ⟨_, Wildcard.read?_source caseSensitive term,
    (Wildcard.matchesWord_eq caseSensitive term w).symm⟩⟩
  have hraw : term.head? ≠ some '&' := fun hamp => (hhead '&' hamp).1 rfl
  have hspace : ' ' ∉ term := fun hmem => absurd (hblank ' ' hmem) (by decide)
  rw [pattern_matcherOf_wildcard hraw (by simp [hstar, hspace]) hread, isMatch_ite_never,
    isMatch_ofColoredGlob hascii hne hw hwne hword (inOrder_of_read? hread), Bool.not_not,
    Wildcard.matchesWord_iff hascii hw hwne hword]

/-- The wildcards of `h*N` find and mark `heaven`, if case is ignored. -/
theorem isMatch_wildcard_heaven :
    IsAscii "h*N".toList ∧ IsAscii "heaven".toList ∧
      ∃ m, matchers .unlimited ["h*N".toList] false true = [m] ∧
        m.pattern.isMatch "heaven".toList.toArray = true ∧
        Wildcard.matchesWord false "h*N".toList "heaven".toList = true := by
  have hterm : IsAscii "h*N".toList := by simp [IsAscii]
  have hword : IsAscii "heaven".toList := by simp [IsAscii]
  have hfound : Wildcard.matchesWord false "h*N".toList "heaven".toList = true := by decide
  have hsigns : ("h*N".toList.all fun c => c == '*' || !isSign c) = true := by decide
  obtain ⟨⟨m, hm, hmatch⟩, -⟩ := isMatch_wildcard_iff .unlimited false true hterm
    (fun c hc => Bool.eq_false_iff.mpr (List.any_eq_false.mp (by decide) c hc)) (by decide)
    (fun c hc => by
      obtain rfl := Option.some.inj hc
      decide)
    (fun c hc => by simpa using List.all_eq_true.mp hsigns c hc) hword (by decide)
    (List.all_eq_true.mp (by decide))
  exact ⟨hterm, hword, m, hm, hmatch.mpr ⟨rfl, hfound⟩, hfound⟩

/-- **A dot is taken as it is where words are looked up, but not where they are marked**: no word that has
no dot is found for `a.*`, and yet `ab` is marked. -/
theorem isMatch_wildcard_dot :
    (∃ m, matchers .unlimited ["a.*".toList] false false = [m] ∧
      m.pattern.isMatch "ab".toList.toArray = true) ∧
      Wildcard.matchesWord false "a.*".toList "ab".toList = false := by
  refine ⟨⟨_, rfl, by decide +kernel⟩, by decide⟩

end Highlight

end Concordance
