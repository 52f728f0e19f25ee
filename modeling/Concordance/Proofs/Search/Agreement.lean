import Concordance.Proofs.Query.Chains
import Concordance.Proofs.Search.Mixed

/-!
# Searches that agree

Some searches can be asked for in several ways. Words joined by `AND` make up one group of a combined
query, which is searched for as if its words had been given one by one; words joined by `OR` make up
groups of their own, which change sides as the terms of an either-or search do. In a mixed search, words
that all have the same sign are alternatives, required, or change sides. Each of these ways goes through
other steps, but what decides about a verse is always the same: which of the words it has.

## Main definitions

* `Searcher.Hits` — a verse has a word of a query

## Main results

* `Searcher.mem_multiword_iff`, `Searcher.mem_anyword_iff`, `Searcher.mem_eitheror_iff` — searches for
  words, by the words that a verse has
* `Searcher.answer_search_joined` — words may be given as one text
* `Searcher.resultAfter_combined_of_parse` — a combined query that excludes nothing
* `Searcher.resultAfter_chain_and`, `Searcher.resultAfter_chain_or` — words joined by `AND` or `OR`
* `Searcher.resultAfter_mixed_map` — words with the same sign in a mixed search
* `Searcher.searches_agree` — the ways to ask for the same search
-/

namespace Concordance

/-! ### Folding sets by their difference -/

namespace VerseSet

variable {α β : Type}

@[simp] theorem oddOf_singleton {f : α → VerseSet} {x : α} : oddOf f [x] = f x := by
  ext v
  by_cases hv : v ∈ f x <;> simp [mem_oddOf, hv]

theorem oddOf_map {g : α → β} {f : β → VerseSet} {f' : α → VerseSet} {xs : List α}
    (h : ∀ x ∈ xs, f (g x) = f' x) : oddOf f (xs.map g) = oddOf f' xs := by
  ext v
  have hcount : xs.countP ((fun y => decide (v ∈ f y)) ∘ g) = xs.countP fun x => v ∈ f' x :=
    List.countP_congr fun x hx => by simp [h x hx]
  rw [mem_oddOf, mem_oddOf, List.countP_map, hcount]

theorem unionOf_map {g : α → β} {f : β → VerseSet} {f' : α → VerseSet} {xs : List α}
    (h : ∀ x ∈ xs, f (g x) = f' x) : unionOf f (xs.map g) = unionOf f' xs := by
  ext v
  simp only [mem_unionOf, List.mem_map, exists_exists_and_eq_and]
  exact exists_congr fun x => and_congr_right fun hx => by rw [h x hx]

theorem commonOf_map {g : α → β} {f : β → VerseSet} {f' : α → VerseSet} {xs : List α}
    (h : ∀ x ∈ xs, f (g x) = f' x) : commonOf f (xs.map g) = commonOf f' xs := by
  ext v
  simp only [mem_commonOf, ne_eq, List.map_eq_nil_iff, List.forall_mem_map]
  exact and_congr_right fun _ => forall₂_congr fun x hx => by rw [h x hx]

end VerseSet

namespace Searcher

open Index
open Text (IsLetters)

variable {s : Searcher} {flags : Flags} {words : List String} {earlier : List Request} {v : Verse}

/-! ### Words that a verse has -/

/-- A verse has a word of a query, in any spelling unless case counts. -/
def Hits (s : Searcher) (flags : Flags) (v : Verse) (w : String) : Prop :=
  s.index.Has flags.caseSensitive (Term.spelled flags.caseSensitive w.toList) v

instance (s : Searcher) (flags : Flags) (v : Verse) (w : String) : Decidable (s.Hits flags v w) :=
  inferInstanceAs (Decidable (s.index.Has _ _ _))

instance (flags : Flags) (v : Verse) : Decidable (flags.InRange v) :=
  inferInstanceAs (Decidable (∀ range ∈ Plan.rangeOf? flags, v ∈ range))

section

variable (hne : words ≠ []) (hwords : ∀ w ∈ words, IsLetters w.toList)

include hne hwords

theorem mem_multiword_iff : v ∈ s.resultAfter earlier ⟨.multiword, words, flags⟩ ↔
    flags.InRange v ∧ ∀ w ∈ words, s.Hits flags v w := by
  obtain ⟨hempty, hs, hrange, hcase⟩ := Corpus.plan_words .multiword flags hne hwords rfl rfl
  have hfind := mem_resultAfter (r := ⟨.multiword, words, flags⟩)
    (finds_run_multiword (s := s) hempty hs) earlier v
  rw [hrange, hcase, Corpus.termTexts_words _ hwords rfl rfl] at hfind
  simpa [Flags.InRange, Hits, hne] using hfind

theorem mem_anyword_iff : v ∈ s.resultAfter earlier ⟨.anyword, words, flags⟩ ↔
    flags.InRange v ∧ ∃ w ∈ words, s.Hits flags v w := by
  obtain ⟨hempty, hs, hrange, hcase⟩ := Corpus.plan_words .anyword flags hne hwords rfl rfl
  have hfind := mem_resultAfter (r := ⟨.anyword, words, flags⟩)
    (finds_run_anyword (s := s) hempty hs) earlier v
  rw [hrange, hcase, Corpus.termTexts_words _ hwords rfl rfl] at hfind
  simpa [Flags.InRange, Hits] using hfind

theorem mem_eitheror_iff : v ∈ s.resultAfter earlier ⟨.eitheror, words, flags⟩ ↔
    flags.InRange v ∧ words.countP (s.Hits flags v ·) % 2 = 1 := by
  obtain ⟨hempty, hs, hrange, hcase⟩ := Corpus.plan_words .eitheror flags hne hwords rfl rfl
  have hfind := mem_resultAfter (r := ⟨.eitheror, words, flags⟩)
    (finds_run_eitheror (s := s) hempty hs) earlier v
  rw [hrange, hcase, Corpus.termTexts_words _ hwords rfl rfl, List.countP_map] at hfind
  exact hfind

end

/-- A search for a single word. -/
theorem mem_word_iff {w : String} (hw : IsLetters w.toList) :
    v ∈ answer (s.search ⟨.multiword, [w], flags⟩) ↔ flags.InRange v ∧ s.Hits flags v w := by
  rw [← resultAfter_eq s [], mem_multiword_iff (by simp) (List.forall_mem_singleton.mpr hw),
    List.forall_mem_singleton]

/-- The words that a verse has, counted within a range. -/
theorem countP_inRange (words : List String) :
    (words.countP fun w => flags.InRange v ∧ s.Hits flags v w) % 2 = 1 ↔
      flags.InRange v ∧ words.countP (s.Hits flags v ·) % 2 = 1 := by
  by_cases hv : flags.InRange v <;> simp [hv]

/-! ### Words given as one text -/

/-- What a strategy that stands on its own finds depends on the terms as a whole only. -/
theorem found_rawTerms {p : Plan} {raw : List (List Char)} (hraw : raw ≠ [])
    (hp : p.isEmpty = false) : s.found { p with rawTerms := raw } = s.found p := by
  have hraw : Plan.isEmpty { p with rawTerms := raw } = false := by simpa [Plan.isEmpty] using hraw
  rw [found_eq hraw, found_eq hp]
  rfl

section

variable (hne : words ≠ []) (hwords : ∀ w ∈ words, IsLetters w.toList)

include hne hwords

/-- **Words may be given as one text.** -/
theorem answer_search_joined {strategy : Strategy}
    (hstands : strategy ∉ [Strategy.combined, .combinedPhrase, .mixed]) :
    answer (s.search ⟨strategy, [String.ofList ([' '].intercalate (words.map String.toList))], flags⟩)
      = answer (s.search ⟨strategy, words, flags⟩) := by
  have hletters : ∀ w ∈ words.map String.toList, IsLetters w := by simpa using hwords
  have htrim := Text.trim_intercalate fun w hw => (hletters w hw).isPart
  have hjoined : [' '].intercalate (words.map String.toList) ≠ [] := by
    obtain ⟨w, ws, rfl⟩ := List.exists_cons_of_ne_nil hne
    obtain ⟨c, w', hw⟩ := List.exists_cons_of_ne_nil (hwords w (by simp)).ne_nil
    cases ws <;> simp [hw, List.intercalate_cons_cons]
  have hplan : Plan.ofTerms strategy [[' '].intercalate (words.map String.toList)] flags
      = { Plan.ofTerms strategy (words.map String.toList) flags with
          rawTerms := [[' '].intercalate (words.map String.toList)] } := by
    simp only [Plan.ofTerms, Plan.withRange, Plan.trimmed_eq hletters, List.map_singleton, htrim,
      List.filter_singleton, List.isEmpty_eq_false_iff.mpr hjoined, Bool.not_false, cond_true,
      List.intercalate_singleton]
    split <;> rfl
  have hempty : (Plan.ofTerms strategy (words.map String.toList) flags).isEmpty = false := by
    have hraw : (Plan.ofTerms strategy (words.map String.toList) flags).rawTerms
        = words.map String.toList := by
      rw [Plan.ofTerms, Plan.withRange, Plan.trimmed_eq hletters]
      split <;> rfl
    simpa [Plan.isEmpty, hraw] using hne
  have hstrategy : (Plan.ofTerms strategy (words.map String.toList) flags).strategy = strategy :=
    Plan.strategy_withRange
  rw [search, search, List.map_singleton, String.toList_ofList, hplan,
    answer_run_of_standsAlone (by rwa [hstrategy]), answer_run_of_standsAlone (by rwa [hstrategy])]
  exact found_rawTerms (by simp) hempty

/-- A group of words is searched for as if they had been given one by one. -/
theorem answer_groupRequest (phrases : Bool) :
    answer (s.search (groupRequest phrases flags (Query.Phrase.text (words.map String.toList))))
      = answer (s.search ⟨if phrases then .phrase else .multiword, words, flags⟩) := by
  have hchars : ∀ c ∈ Query.Phrase.text (words.map String.toList), c ≠ '+' := by
    intro c hc
    rcases Term.isAlpha_or_space (by simpa using hwords) c hc with hc | rfl
    · rintro rfl
      cases hc
    · decide
  have hplain : (Query.Phrase.text (words.map String.toList)).contains '+' = false := by
    simpa using fun h => hchars '+' h rfl
  have hmap : (Query.Phrase.text (words.map String.toList)).map (fun c => if c = '+' then ' ' else c)
      = Query.Phrase.text (words.map String.toList) :=
    (List.map_congr_left fun c hc => if_neg (hchars c hc)).trans (List.map_id _)
  rw [groupRequest, hplain, hmap, Bool.or_false]
  exact answer_search_joined hne hwords (by cases phrases <;> decide)

end

/-! ### Combined queries -/

/-- **A combined query that excludes nothing**, and whose groups have no signs. -/
theorem resultAfter_combined_of_parse (phrases : Bool) {terms : List String}
    {ps : List Query.Phrase} (hparse : Query.parse (queryText terms) = ⟨ps, []⟩)
    (hunsigned : ∀ p ∈ ps, p.text.head? ≠ some '&') :
    s.resultAfter earlier ⟨combinedStrategy phrases, terms, flags⟩
      = .oddOf (fun p => answer (s.search (groupRequest phrases flags p.text))) ps := by
  have hplan : (Plan.ofTerms (combinedStrategy phrases) (terms.map String.toList) flags).flags = flags ∧
      (Plan.ofTerms (combinedStrategy phrases) (terms.map String.toList) flags).range?
        = Plan.rangeOf? flags := by
    rw [Plan.ofTerms, Plan.withRange]
    split <;> exact ⟨rfl, rfl⟩
  have hgroups : ∀ p ∈ ps, Text.trim p.text = p.text ∧ p.text.head? ≠ some '&' := by
    intro p hp
    have hmem : p ∈ (Query.parse (queryText terms)).included
        ++ (Query.parse (queryText terms)).excluded := by simpa [hparse] using hp
    exact ⟨Query.trim_text_of_mem_parse hmem, hunsigned p hp⟩
  rw [answer_search, answer_run_combined, answer_combinedSearch, text_ofTerms_combined, hparse,
    foldFound_eq_oddOf hplan.1 hplan.2 hgroups]
  ext v
  simp [groups, foldFound]

section

variable (hwords : ∀ w ∈ words, IsLetters w.toList)

include hwords

/-- The text of a query of words with one operator between them. -/
theorem queryText_chain (operator : List Char) (hop : Text.IsPart operator) (hne : words ≠ [])
    (separator : String) (hsep : separator.toList = ' ' :: operator ++ [' ']) :
    queryText [separator.intercalate words]
      = Query.chain operator (words.map String.toList) := by
  have hparts : ∀ w ∈ (words.map String.toList).intersperse operator, Text.IsPart w :=
    Query.forall_mem_intersperse hop (by simpa using fun w hw => (hwords w hw).isPart)
  have htext : (separator.intercalate words).toList
      = Query.chain operator (words.map String.toList) := by
    rw [String.toList_intercalate, hsep, Query.intercalate_eq_chain]
  have hchain : Query.chain operator (words.map String.toList) ≠ [] := by
    obtain ⟨w, ws, rfl⟩ := List.exists_cons_of_ne_nil hne
    obtain ⟨c, w', hw⟩ := List.exists_cons_of_ne_nil (hwords w (by simp)).ne_nil
    cases ws <;> simp [Query.chain, hw, List.intercalate_cons_cons]
  rw [queryText, List.map_singleton, htext, Query.chain, Text.trim_intercalate hparts, ← Query.chain]
  simp [hchain]

/-- Words of letters are read whole. -/
theorem isWhole_of_isLetters : ∀ w ∈ words.map String.toList, Query.Node.IsWhole w := by
  refine List.forall_mem_map.mpr fun w hw => ⟨(hwords w hw).ne_nil, fun c hc => ?_⟩
  have halpha := (hwords w hw).isAlpha c hc
  refine ⟨Text.isBlank_of_isAlpha halpha, ?_, ?_⟩ <;> rintro rfl <;> cases halpha

/-- Words of letters have no sign. -/
theorem head?_text_ne (ws : List String) (hsub : ws ⊆ words) :
    (Query.Phrase.text (ws.map String.toList)).head? ≠ some '&' := by
  intro hhead
  have hletters : ∀ w ∈ ws.map String.toList, IsLetters w := by
    simpa using fun w hw => hwords w (hsub hw)
  rcases Term.isAlpha_or_space hletters '&' (List.mem_of_mem_head? hhead) with hc | hc
  · cases hc
  · cases hc

end

/-! ### Mixed searches -/

/-- The terms of a mixed search that all have the same role. -/
theorem signed_map {role : Role} {written : String → String}
    (h : ∀ w ∈ words, roleOf (Text.trim (written w).toList) = (role, w.toList)) (role' : Role) :
    signed role' (words.map written) = if role = role' then words.map String.toList else [] := by
  rw [signed, List.map_map, List.filterMap_map]
  by_cases hrole : role = role'
  · rw [if_pos hrole, ← List.filterMap_eq_map]
    exact List.filterMap_congr fun w hw => by simp [h w hw, hrole]
  · rw [if_neg hrole, List.filterMap_eq_nil_iff]
    exact fun w hw => by simp [h w hw, hrole]

/-- What terms find that all have the same role: any of them if they are alternatives, an odd number of
them if they change sides, and all of them if they are required. -/
def Role.together {α : Type} (role : Role) (f : α → VerseSet) (xs : List α) : VerseSet :=
  match role with
  | .plain | .alternative => .unionOf f xs
  | .toggled => .oddOf f xs
  | .required => .commonOf f xs
  | .excluded => ∅

/-- **Terms with the same role, all at once.** -/
theorem altogether_map {role : Role} {written : String → String} {f : List Char → VerseSet}
    {f' : String → VerseSet}
    (hwritten : ∀ w ∈ words, roleOf (Text.trim (written w).toList) = (role, w.toList))
    (hf : ∀ w ∈ words, f w.toList = f' w) :
    altogether f (words.map written) = role.together f' words := by
  have hnone : VerseSet.unionOf f [] = ∅ ∧ VerseSet.oddOf f [] = ∅ ∧ VerseSet.commonOf f [] = ∅ :=
    ⟨rfl, rfl, rfl⟩
  have hempty : (∅ : VerseSet).isEmpty = true := VerseSet.isEmpty_iff.mpr rfl
  ext v
  cases role with
  | plain | alternative =>
    simp [altogether, signed_map hwritten, hnone, hempty, VerseSet.unionOf_map hf, Role.together]
  | toggled =>
    simp [altogether, signed_map hwritten, hnone, hempty, VerseSet.oddOf_map hf, Role.together]
  | required =>
    by_cases hcommon : VerseSet.commonOf f' words = ∅
    · simp [altogether, signed_map hwritten, hnone, hempty, VerseSet.commonOf_map hf, Role.together,
        hcommon]
    · simp [altogether, signed_map hwritten, hnone, VerseSet.commonOf_map hf, Role.together,
        VerseSet.isEmpty_iff, hcommon]
  | excluded => simp [altogether, signed_map hwritten, hnone, hempty, Role.together]

/-- A word of letters has no sign in a mixed search, and a sign before it gives it a role. -/
theorem roleOf_word {w : String} (hw : IsLetters w.toList) :
    roleOf (Text.trim w.toList) = (.plain, w.toList) ∧
      roleOf (Text.trim ("^" ++ w).toList) = (.toggled, w.toList) ∧
      roleOf (Text.trim ("+" ++ w).toList) = (.required, w.toList) := by
  have hpart : ∀ c, Text.isBlank c = false → Text.IsPart (c :: w.toList) := fun c hc =>
    ⟨by simp, List.forall_mem_cons.mpr ⟨hc, hw.isPart.2⟩⟩
  refine ⟨?_, ?_, ?_⟩
  · rw [Text.trim_of_isPart hw.isPart]
    obtain ⟨c, cs, hcs⟩ := List.exists_cons_of_ne_nil hw.ne_nil
    have hc : c.isAlpha = true := hw.isAlpha c (by simp [hcs])
    rw [hcs, roleOf]
    all_goals
      rintro _ heq
      obtain ⟨rfl, -⟩ := List.cons.inj heq
      cases hc
  · have htext : ("^" ++ w).toList = '^' :: w.toList := by simp
    rw [htext, Text.trim_of_isPart (hpart '^' (by decide))]
    rfl
  · have htext : ("+" ++ w).toList = '+' :: w.toList := by simp
    rw [htext, Text.trim_of_isPart (hpart '+' (by decide))]
    rfl

/-- A word of letters as a term of a mixed search is searched for as a word. -/
theorem mem_termRequest_iff {w : String} (hw : IsLetters w.toList) :
    v ∈ answer (s.search (termRequest flags w.toList)) ↔ flags.InRange v ∧ s.Hits flags v w := by
  have hterm : termSearch w.toList = (.multiword, w.toList) := by
    have hne : ∀ c ∈ w.toList, c ≠ '&' ∧ c ≠ ' ' ∧ c ≠ '*' := by
      intro c hc
      have halpha := hw.isAlpha c hc
      refine ⟨?_, ?_, ?_⟩ <;> rintro rfl <;> cases halpha
    have hspace : w.toList.contains ' ' = false := by simpa using fun h => (hne ' ' h).2.1 rfl
    have hstar : w.toList.contains '*' = false := by simpa using fun h => (hne '*' h).2.2 rfl
    unfold termSearch
    split
    · rename_i source heq
      exact absurd rfl (hne '&' (by simp [heq])).1
    · simp only [hspace, hstar]
      rfl
  simp only [termRequest, hterm, String.ofList_toList]
  exact mem_word_iff hw

/-! ### The same search in several ways -/

section

variable (hne : words ≠ []) (hwords : ∀ w ∈ words, IsLetters w.toList)

include hne hwords

section

variable (hoperator : ∀ w ∈ words, ¬ Query.IsOperator w.toList)

include hoperator

/-- **Words joined by `AND`** are one group. -/
theorem resultAfter_chain_and (phrases : Bool) :
    s.resultAfter earlier ⟨combinedStrategy phrases, [" AND ".intercalate words], flags⟩
      = answer (s.search ⟨if phrases then .phrase else .multiword, words, flags⟩) := by
  have hparse : Query.parse (queryText [" AND ".intercalate words])
      = ⟨[words.map String.toList], []⟩ := by
    rw [queryText_chain hwords Query.andWord (by decide) hne _ rfl]
    exact Query.parse_chain_and (isWhole_of_isLetters hwords) (by simpa using hoperator)
      (by simpa using hne)
  rw [resultAfter_combined_of_parse phrases hparse
    (List.forall_mem_singleton.mpr (head?_text_ne hwords words fun _ h => h)), VerseSet.oddOf_singleton]
  exact answer_groupRequest hne hwords phrases

/-- **Words joined by `OR`** are groups of their own. -/
theorem resultAfter_chain_or :
    s.resultAfter earlier ⟨.combined, [" OR ".intercalate words], flags⟩
      = .oddOf (fun w => answer (s.search ⟨.multiword, [w], flags⟩)) words := by
  have hparse : Query.parse (queryText [" OR ".intercalate words])
      = ⟨words.map fun w => [w.toList], []⟩ := by
    rw [queryText_chain hwords Query.orWord (by decide) hne _ rfl,
      Query.parse_chain_or (isWhole_of_isLetters hwords) (by simpa using hoperator), List.map_map]
    rfl
  have hunsigned : ∀ p ∈ words.map fun w => [w.toList],
      (Query.Phrase.text p).head? ≠ some '&' :=
    List.forall_mem_map.mpr fun w hw => head?_text_ne hwords [w] (by simpa using hw)
  refine (resultAfter_combined_of_parse false hparse hunsigned).trans ?_
  refine VerseSet.oddOf_map fun w hw => ?_
  have hword : ∀ w' ∈ [w], IsLetters w'.toList := by simpa using hwords w hw
  exact answer_groupRequest (by simp) hword false

end

end

section

variable (hwords : ∀ w ∈ words, IsLetters w.toList)
  (halternative : s.settings.multiwordDefault = false)

include hwords halternative

/-- **Words with the same sign** in a mixed search. -/
theorem resultAfter_mixed_map {role : Role} (written : String → String)
    (hwritten : ∀ w ∈ words, roleOf (Text.trim (written w).toList) = (role, w.toList)) :
    s.resultAfter earlier ⟨.mixed, words.map written, flags⟩
      = role.together (fun w => answer (s.search ⟨.multiword, [w], flags⟩)) words := by
  rw [resultAfter_mixed, halternative, total_termResults]
  refine altogether_map hwritten fun w hw => ?_
  ext v
  rw [mem_termRequest_iff (hwords w hw), mem_word_iff (hwords w hw)]

end

/-- **The ways to ask for the same search.** With `AND` between the words of a query, or `+` before
each, all of them are required; with `OR` between them, or `^` before each, they change sides; on their
own they are alternatives in a mixed search. -/
theorem searches_agree (s : Searcher) (flags : Flags) (words : List String)
    (earlier earlier' : List Request) (halternative : s.settings.multiwordDefault = false)
    (hne : words ≠ []) (hwords : ∀ w ∈ words, IsLetters w.toList)
    (hoperator : ∀ w ∈ words, ¬ Query.IsOperator w.toList) :
    s.resultAfter earlier ⟨.combined, [" AND ".intercalate words], flags⟩
        = s.resultAfter earlier' ⟨.multiword, words, flags⟩ ∧
      s.resultAfter earlier ⟨.combined, [" OR ".intercalate words], flags⟩
        = s.resultAfter earlier' ⟨.eitheror, words, flags⟩ ∧
      s.resultAfter earlier ⟨.combinedPhrase, [" AND ".intercalate words], flags⟩
        = s.resultAfter earlier' ⟨.phrase, words, flags⟩ ∧
      s.resultAfter earlier ⟨.mixed, words, flags⟩
        = s.resultAfter earlier' ⟨.anyword, words, flags⟩ ∧
      s.resultAfter earlier ⟨.mixed, words.map ("^" ++ ·), flags⟩
        = s.resultAfter earlier' ⟨.eitheror, words, flags⟩ ∧
      s.resultAfter earlier ⟨.mixed, words.map ("+" ++ ·), flags⟩
        = s.resultAfter earlier' ⟨.multiword, words, flags⟩ := by
  have hodd : .oddOf (fun w => answer (s.search ⟨.multiword, [w], flags⟩)) words
      = s.resultAfter earlier' ⟨.eitheror, words, flags⟩ := by
    ext v
    have hcount : words.countP (fun w => v ∈ answer (s.search ⟨.multiword, [w], flags⟩))
        = words.countP fun w => flags.InRange v ∧ s.Hits flags v w :=
      List.countP_congr fun w hw => by simp [mem_word_iff (hwords w hw)]
    rw [VerseSet.mem_oddOf, hcount, countP_inRange, mem_eitheror_iff hne hwords]
  refine ⟨?_, ?_, ?_, ?_, ?_, ?_⟩
  · exact (resultAfter_chain_and hne hwords hoperator false).trans (resultAfter_eq s earlier' _).symm
  · exact (resultAfter_chain_or hne hwords hoperator).trans hodd
  · exact (resultAfter_chain_and hne hwords hoperator true).trans (resultAfter_eq s earlier' _).symm
  · have hmixed : s.resultAfter earlier ⟨.mixed, words.map id, flags⟩
        = Role.plain.together (fun w => answer (s.search ⟨.multiword, [w], flags⟩)) words :=
      resultAfter_mixed_map hwords halternative id fun w hw => (roleOf_word (hwords w hw)).1
    rw [List.map_id] at hmixed
    ext v
    rw [hmixed, Role.together, VerseSet.mem_unionOf, mem_anyword_iff hne hwords]
    constructor
    · rintro ⟨w, hw, hv⟩
      obtain ⟨hrange, hhit⟩ := (mem_word_iff (hwords w hw)).mp hv
      exact ⟨hrange, w, hw, hhit⟩
    · rintro ⟨hrange, w, hw, hhit⟩
      exact ⟨w, hw, (mem_word_iff (hwords w hw)).mpr ⟨hrange, hhit⟩⟩
  · exact (resultAfter_mixed_map hwords halternative ("^" ++ ·)
      fun w hw => (roleOf_word (hwords w hw)).2.1).trans hodd
  · rw [resultAfter_mixed_map hwords halternative ("+" ++ ·)
      fun w hw => (roleOf_word (hwords w hw)).2.2]
    ext v
    rw [Role.together, VerseSet.mem_commonOf, mem_multiword_iff hne hwords]
    constructor
    · rintro ⟨-, hall⟩
      obtain ⟨w, hw⟩ := List.exists_mem_of_ne_nil _ hne
      exact ⟨((mem_word_iff (hwords w hw)).mp (hall w hw)).1,
        fun w hw => ((mem_word_iff (hwords w hw)).mp (hall w hw)).2⟩
    · rintro ⟨hrange, hall⟩
      exact ⟨hne, fun w hw => (mem_word_iff (hwords w hw)).mpr ⟨hrange, hall w hw⟩⟩

section

open Corpus (opening)

/-- Three words of the opening verse, one of them given twice: it is found with all words required,
and, there being three, also as an either-or search. -/
theorem searches_agree_opening :
    .first ∈ (opening.searcher .unlimited opening.source {}).resultAfter []
        ⟨.combined, [" AND ".intercalate ["god", "IN", "god"]], {}⟩ ∧
      .first ∈ (opening.searcher .unlimited opening.source {}).resultAfter []
        ⟨.combined, [" OR ".intercalate ["god", "IN", "god"]], {}⟩ ∧
      .first ∈ (opening.searcher .unlimited opening.source {}).resultAfter []
        ⟨.mixed, ["^god", "^IN", "^god"], {}⟩ ∧
      .first ∈ (opening.searcher .unlimited opening.source {}).resultAfter []
        ⟨.mixed, ["+god", "+IN", "+god"], {}⟩ := by
  obtain ⟨hand, hor, -, -, htoggled, hrequired⟩ := searches_agree
    (opening.searcher .unlimited opening.source {}) {} ["god", "IN", "god"] [] [] rfl (by decide)
    (by decide +kernel) (by decide +kernel)
  have htoggles : ["god", "IN", "god"].map ("^" ++ ·) = ["^god", "^IN", "^god"] := by decide
  have hrequires : ["god", "IN", "god"].map ("+" ++ ·) = ["+god", "+IN", "+god"] := by decide
  have hmem : (Verse.first, opening.entries[0].2) ∈ opening.entries := List.mem_singleton.mpr rfl
  have hrange : Flags.InRange {} .first := fun range h => nomatch h
  have hmultiword : .first ∈ (opening.searcher .unlimited opening.source {}).resultAfter []
      ⟨.multiword, ["god", "IN", "god"], {}⟩ :=
    (Corpus.mem_search_multiword_iff (by decide) (by decide +kernel) (by decide +kernel)).mpr
      ⟨hrange, _, hmem, by decide +kernel⟩
  have heitheror : .first ∈ (opening.searcher .unlimited opening.source {}).resultAfter []
      ⟨.eitheror, ["god", "IN", "god"], {}⟩ :=
    (Corpus.mem_search_eitheror_iff (by decide) (by decide +kernel) (by decide +kernel)).mpr
      ⟨hrange, _, hmem, by decide +kernel⟩
  refine ⟨?_, ?_, ?_, ?_⟩
  · rw [hand]
    exact hmultiword
  · rw [hor]
    exact heitheror
  · rw [← htoggles, htoggled]
    exact heitheror
  · rw [← hrequires, hrequired]
    exact hmultiword

end

end Searcher

end Concordance
