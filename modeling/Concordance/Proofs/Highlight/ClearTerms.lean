import Concordance.Proofs.Highlight.ClearWords
import Concordance.Proofs.Pattern.Matches

/-!
# Terms that can be undone

The pattern of a phrase starts and ends with a word between two edges, or with a sign that marks do not
have. If the words are clear, then what the pattern matches is a piece of the row of a marked text, and
what is kept of a match are clear texts, some with the marks at their edges. So it is with a word with
wildcards.

## Main definitions

* `Highlight.IsClearTerm` — all that a term looks for is clear
* `Highlight.IsMarkable` — what a pattern matches in a marked text may be marked
* `Highlight.IsMarking`, `Highlight.IsUndoable` — what is marked for a pattern are pieces of the row

## Main results

* `Highlight.exists_isPiece_of_bounded` — what a word between two edges matches
* `Highlight.isUndoable_ofElements`, `Highlight.isUndoable_ofColoredGlob` — phrases, and words with
  wildcards
* `Highlight.isUndoable_pattern_matcherOf` — all terms that are clear
-/

namespace Concordance

namespace Highlight

open Pattern
open Markup (IsNumber isLanguageAnyCase isTagChar)
open PhraseStyle (elements isPhraseChar IsElementTerm)
open Text (isWordChar upper)

/-! ### Terms -/

/-- The word or tag of a term is clear. Numbers are, whatever they are. -/
def IsClearPart (ignoreCase : Bool) : Term → Prop
  | .word w => IsClear ignoreCase w
  | .strongs _ => True
  | .morph tag => IsClear ignoreCase tag

instance (ignoreCase : Bool) : (t : Term) → Decidable (IsClearPart ignoreCase t)
  | .word w => inferInstanceAs (Decidable (IsClear ignoreCase w))
  | .strongs _ => inferInstanceAs (Decidable True)
  | .morph tag => inferInstanceAs (Decidable (IsClear ignoreCase tag))

/-- All that a term looks for is clear: the word with wildcards, in which nothing else has a meaning of
its own, or else the words and tags of the phrase. -/
def IsClearTerm (caseSensitive : Bool) (term : List Char) : Prop :=
  term.head? ≠ some '&' ∧
    if (term.contains '*' && !term.contains ' ') = true then
      (∀ c ∈ term.dropWhile isOperator, c = '*' ∨ isSign c = false) ∧
        IsClear (!caseSensitive) (term.dropWhile isOperator)
    else ∀ e ∈ elements term, ∀ t ∈ e, IsClearPart (!caseSensitive) t

instance (caseSensitive : Bool) (term : List Char) : Decidable (IsClearTerm caseSensitive term) :=
  decidable_of_iff (term.head? ≠ some '&' ∧
    if (term.contains '*' && !term.contains ' ') = true then
      ((term.dropWhile isOperator).all fun c => c == '*' || !isSign c) = true ∧
        IsClear (!caseSensitive) (term.dropWhile isOperator)
    else ∀ e ∈ elements term, ∀ t ∈ e, IsClearPart (!caseSensitive) t) (by simp [IsClearTerm])

/-! ### Patterns -/

/-- What a pattern matches is a clear text. -/
def IsClearPattern (p : Pattern) : Prop := ∀ ⦃xs r ys⦄, p.Covers xs r ys → IsClearText r

/-- What a pattern matches in the text of a row may be marked. -/
def IsMarkable (p : Pattern) : Prop :=
  ∀ ⦃before after ts xs r ys⦄, IsWellMarked before ts after → write ts = xs ++ (r ++ ys) →
    p.Covers xs r ys → ∃ vs, IsTarget vs ∧ r = write vs

/-- Whatever a pattern matches is a piece of the row, and what its groups hold may be marked. -/
structure IsMarking (p : Pattern) : Prop where
  /-- It matches pieces of the row. -/
  seamed : IsSeamed p
  /-- What a group holds may be marked. -/
  markable : ∀ q ∈ p.groups, q.1 ≠ 0 ∧ IsMarkable q.2

/-- What is marked for a pattern are whole pieces of the row, and the groups of the pattern say which. -/
structure IsUndoable (p : Pattern) : Prop extends IsMarking p where
  /-- Its bounds are in order. -/
  inOrder : p.InOrder
  /-- One of the groups takes part in every match. -/
  always : ∃ q ∈ p.groups, p.Always q.1

variable {ignoreCase caseSensitive sloppy : Bool} {p : Pattern} {before after xs r ys w term : List Char}
  {ts : List Shade} {t : Term} {es : List (List Term)}

theorem isTarget_chars {g : List Char} (hg : IsClearText g) : IsTarget (g.map .char) :=
  ⟨[], g, [], by simp, rfl, rfl, hg⟩

theorem isMarkable_of_clear (hp : IsClearPattern p) : IsMarkable p :=
  fun _ _ _ _ r _ _ _ hcovers => ⟨r.map .char, isTarget_chars (hp hcovers), (write_chars r).symm⟩

/-- **What a word between two edges matches** is a piece of the row and may be marked. -/
theorem exists_isPiece_of_bounded (hp : IsClearPattern p) (h : IsWellMarked before ts after)
    (hts : write ts = xs ++ (r ++ ys))
    (hcovers : (Pattern.ofSeq [colorEdge ignoreCase, p, colorEdge ignoreCase]).Covers xs r ys) :
    ∃ us rs vs, IsTarget rs ∧ IsPiece before ts after xs r ys us rs vs := by
  obtain ⟨a, _, rfl, ha, hrest⟩ := covers_ofSeq_cons.mp hcovers
  obtain ⟨g, _, rfl, hg, hrest⟩ := covers_ofSeq_cons.mp hrest
  obtain ⟨b, _, rfl, hb, hnil⟩ := covers_ofSeq_cons.mp hrest
  obtain rfl := covers_ofSeq_nil.mp hnil
  simp only [List.append_nil, List.append_assoc, List.nil_append] at hts ha hb ⊢
  have hpiece := exists_isPiece_of_edges (a := a) (b := b) h (isTarget_chars (hp hg))
    (by rwa [write_chars]) (by rwa [write_chars]) (by rwa [write_chars])
  rwa [write_chars] at hpiece

theorem isSeamed_bounded (hp : IsClearPattern p) :
    IsSeamed (.ofSeq [colorEdge ignoreCase, p, colorEdge ignoreCase]) := by
  intro before after ts xs r ys h hts hcovers
  obtain ⟨us, rs, vs, -, hpiece⟩ := exists_isPiece_of_bounded hp h hts hcovers
  exact ⟨us, rs, vs, hpiece⟩

theorem isMarkable_bounded (hp : IsClearPattern p) :
    IsMarkable (.ofSeq [colorEdge ignoreCase, p, colorEdge ignoreCase]) := by
  intro before after ts xs r ys h hts hcovers
  obtain ⟨us, rs, vs, htarget, hpiece⟩ := exists_isPiece_of_bounded hp h hts hcovers
  exact ⟨rs, htarget, hpiece.text⟩

/-! ### Words with wildcards -/

theorem groups_ofChars (w : List Char) : (Pattern.ofSeq (w.map (ofChar ignoreCase))).groups = [] := by
  rw [groups_ofSeq, List.flatMap_map, List.flatMap_eq_nil_iff]
  intro c _
  rw [ofChar]
  split <;> rfl

theorem isClearPattern_of_isClear (hw : IsClear ignoreCase w) :
    IsClearPattern (.ofSeq (w.map (ofChar ignoreCase))) :=
  fun _ _ _ hcovers => isClearText_of_covers hw hcovers

/-- A clear word with wildcards. -/
theorem isUndoable_ofColoredGlob (hw : IsClear ignoreCase w) :
    IsUndoable (ofColoredGlob ignoreCase w) := by
  have hclear : IsClearPattern (.group 1 (.ofSeq (w.map (ofChar ignoreCase)))) :=
    isClearPattern_of_isClear hw
  have hgroups : (ofColoredGlob ignoreCase w).groups = [(1, .ofSeq (w.map (ofChar ignoreCase)))] := by
    rw [ofColoredGlob, coloredGlobItems, groups_ofSeq]
    simp only [List.flatMap_cons, List.flatMap_nil, groups, groups_ofChars]
    rfl
  refine ⟨⟨isSeamed_bounded hclear, ?_⟩, ⟨inOrder_colorEdge, inOrder_ofChars w, inOrder_colorEdge⟩, ?_⟩
  · rw [hgroups]
    exact List.forall_mem_singleton.mpr
      ⟨Nat.one_ne_zero, isMarkable_of_clear (isClearPattern_of_isClear hw)⟩
  · rw [hgroups]
    exact ⟨_, List.mem_singleton_self _, .inr (.inl (.inl rfl))⟩

/-! ### Phrases -/

/-- A clear body in its two groups. -/
theorem isMarking_ofBody {count : Nat} {body : List Pattern} (hbody : IsClearPattern (.ofSeq body))
    (hgroups : (Pattern.ofSeq body).groups = []) :
    IsMarking (ofBody (colorEdge ignoreCase) count body) := by
  have hclear : IsClearPattern (.group (count + 2) (.ofSeq body)) := hbody
  have hall : (ofBody (colorEdge ignoreCase) count body).groups =
      [(count + 1, .ofSeq [colorEdge ignoreCase, .group (count + 2) (.ofSeq body),
        colorEdge ignoreCase]), (count + 2, .ofSeq body)] := by
    rw [ofBody, groups, groups_ofSeq]
    simp only [List.flatMap_cons, List.flatMap_nil, groups, hgroups]
    rfl
  refine ⟨isSeamed_bounded hclear, ?_⟩
  rw [hall]
  exact List.forall_mem_cons.mpr ⟨⟨Nat.succ_ne_zero _, isMarkable_bounded hclear⟩,
    List.forall_mem_singleton.mpr ⟨Nat.succ_ne_zero _, isMarkable_of_clear hbody⟩⟩

/-- The signs around numbers and tags. -/
theorem isMarking_sign {c : Char} (hc : c ∈ ['<', '>', '\x7b', '\x7d']) :
    IsMarking (.set (Pattern.setOf ignoreCase c)) := by
  obtain ⟨hascii, hcase, hzero, hmark, hword⟩ : c.toNat < 0x80 ∧ c.isAlpha = false ∧ c ≠ '\x00' ∧
      c ∉ ['\x1b', '[', '7', 'm'] ∧ isWordChar c = false := by
    simp only [List.mem_cons, List.not_mem_nil, or_false] at hc
    rcases hc with rfl | rfl | rfl | rfl <;> decide
  exact ⟨isSeamed_sign hascii hcase hzero hmark hword, List.forall_mem_nil _⟩

/-- **A clear word or tag in its groups.** -/
theorem isMarking_ofTerm {count : Nat} (ht : IsElementTerm t) (hclear : IsClearPart ignoreCase t)
    (hp : p ∈ ofTerm ignoreCase (colorEdge ignoreCase) count t) : IsMarking p := by
  have hchars : ∀ {w : List Char}, IsClear ignoreCase w →
      IsMarking (ofBody (colorEdge ignoreCase) count (w.map (ofChar ignoreCase))) := fun hw =>
    isMarking_ofBody (isClearPattern_of_isClear hw) (groups_ofChars _)
  have hliteral : ∀ {cs : List Char}, '*' ∉ cs → IsClear ignoreCase (upper cs) →
      IsMarking (ofBody (colorEdge ignoreCase) count (ofLiteral ignoreCase (upper cs))) := by
    intro cs hcs hw
    rw [← map_ofChar_eq_ofLiteral (notMem_upper (by decide) (by decide) (by decide) hcs)]
    exact hchars hw
  cases t with
  | word w =>
    obtain rfl := List.mem_singleton.mp hp
    exact hchars hclear
  | strongs number =>
    obtain ⟨cs, hcs, rfl⟩ := ht
    have hstar : '*' ∉ cs := by
      obtain ⟨l, ds, rfl, hl, -, hds⟩ := hcs
      rintro (_ | ⟨_, hmem⟩)
      · exact absurd hl (by decide)
      · exact absurd (hds '*' hmem) (by decide)
    rw [ofTerm, List.mem_cons, List.mem_cons, List.mem_singleton] at hp
    rcases hp with rfl | rfl | rfl
    · exact isMarking_sign (by decide)
    · exact hliteral hstar (isClear_upper hcs)
    · exact isMarking_sign (by decide)
  | morph tag =>
    obtain ⟨cs, hcs, rfl⟩ := ht
    have hstar : '*' ∉ cs := fun hmem => absurd (hcs '*' hmem) (by decide)
    rw [ofTerm, List.mem_cons, List.mem_cons, List.mem_singleton] at hp
    rcases hp with rfl | rfl | rfl
    · exact isMarking_sign (by decide)
    · exact hliteral hstar hclear
    · exact isMarking_sign (by decide)

/-- An item is one of those of the terms of a phrase. -/
def IsItemOf (ignoreCase : Bool) (edge : Pattern) (es : List (List Term)) (p : Pattern) : Prop :=
  ∃ e ∈ es, ∃ t ∈ e, ∃ k, p ∈ ofTerm ignoreCase edge k t

theorem isItemOf_of_mem_ofElement {edge : Pattern} {count : Nat} {e : List Term}
    (hp : p ∈ ofElement ignoreCase edge count e) : IsItemOf ignoreCase edge (e :: es) p := by
  refine ⟨e, List.mem_cons_self, ?_⟩
  induction e generalizing count with
  | nil => cases hp
  | cons t e ih =>
    rcases List.mem_append.mp hp with hp | hp
    · exact ⟨t, List.mem_cons_self, count, hp⟩
    · obtain ⟨t, ht, hk⟩ := ih hp
      exact ⟨t, List.mem_cons_of_mem _ ht, hk⟩

theorem IsItemOf.cons {edge : Pattern} {e : List Term} (h : IsItemOf ignoreCase edge es p) :
    IsItemOf ignoreCase edge (e :: es) p :=
  h.imp fun _ he => ⟨List.mem_cons_of_mem _ he.1, he.2⟩

theorem ofElement_ne_nil {edge : Pattern} {count : Nat} {e : List Term} (he : e ≠ []) :
    ofElement ignoreCase edge count e ≠ [] := by
  obtain ⟨t, e, rfl⟩ := List.exists_cons_of_ne_nil he
  cases t <;> exact List.cons_ne_nil _ _

/-- **The items of a phrase are those of its terms, and fillers between them.** -/
theorem isItemOf_phraseItems {edge filler : Pattern} {count : Nat} (hes : ∀ e ∈ es, e ≠ [])
    (hne : es ≠ []) :
    phraseItems ignoreCase edge filler count es ≠ [] ∧
      (∀ p ∈ phraseItems ignoreCase edge filler count es, p = filler ∨ IsItemOf ignoreCase edge es p) ∧
      (∀ p ∈ (phraseItems ignoreCase edge filler count es).head?, IsItemOf ignoreCase edge es p) ∧
      ∀ p ∈ (phraseItems ignoreCase edge filler count es).getLast?, IsItemOf ignoreCase edge es p := by
  induction es generalizing count with
  | nil => exact absurd rfl hne
  | cons e es ih =>
    obtain ⟨he, hes⟩ := List.forall_mem_cons.mp hes
    have hfirst := @ofElement_ne_nil ignoreCase edge count e he
    cases es with
    | nil =>
      exact ⟨hfirst, fun p hp => .inr (isItemOf_of_mem_ofElement hp),
        fun p hp => isItemOf_of_mem_ofElement (List.mem_of_head? hp),
        fun p hp => isItemOf_of_mem_ofElement (List.mem_of_getLast? hp)⟩
    | cons e' es =>
      obtain ⟨hrest, hall, -, hlast⟩ := @ih (count + 2 * e.length) hes (List.cons_ne_nil _ _)
      have hitems : phraseItems ignoreCase edge filler count (e :: e' :: es) =
        ofElement ignoreCase edge count e ++
          filler :: phraseItems ignoreCase edge filler (count + 2 * e.length) (e' :: es) := rfl
      rw [hitems]
      refine ⟨List.append_ne_nil_of_left_ne_nil hfirst _, fun p hp => ?_, fun p hp => ?_, fun p hp => ?_⟩
      · rcases List.mem_append.mp hp with hp | hp
        · exact .inr (isItemOf_of_mem_ofElement hp)
        · rcases List.mem_cons.mp hp with rfl | hp
          · exact .inl rfl
          · exact (hall p hp).imp_right IsItemOf.cons
      · rw [List.head?_append_of_ne_nil _ hfirst] at hp
        exact isItemOf_of_mem_ofElement (List.mem_of_head? hp)
      · rw [List.getLast?_append_of_ne_nil _ (List.cons_ne_nil _ _), List.getLast?_cons,
          List.getLast?_eq_some_getLast hrest] at hp
        refine (hlast p ?_).cons
        rwa [List.getLast?_eq_some_getLast hrest]

/-- Fillers keep nothing. -/
theorem groups_ofFiller (terms : List Term) :
    (ofFiller ignoreCase (extraChoices ignoreCase) sloppy terms).groups = [] := by
  have hchoices : ∀ a ∈ fillerChoices ignoreCase (extraChoices ignoreCase) sloppy terms,
      (Pattern.ofSeq a.2).groups = [] := by
    intro a ha
    simp only [fillerChoices, extraChoices, List.mem_append, List.mem_cons, List.not_mem_nil,
      or_false, List.mem_ite_nil_right] at ha
    rcases ha with (((rfl | rfl | rfl) | ⟨-, rfl⟩) | ⟨-, rfl⟩) | ⟨-, rfl⟩ <;> rfl
  rw [ofFiller, groups, groups_ofAlt, List.flatMap_cons, List.flatMap_map]
  exact List.flatMap_eq_nil_iff.mpr hchoices

/-- The groups of the first term of a phrase take part in every match. -/
theorem exists_always_mem_phraseItems {edge filler : Pattern} (hes : ∀ e ∈ es, e ≠ []) (hne : es ≠ []) :
    ∃ p ∈ phraseItems ignoreCase edge filler 0 es, ∃ q ∈ p.groups, p.Always q.1 := by
  obtain ⟨e, es, rfl⟩ := List.exists_cons_of_ne_nil hne
  obtain ⟨t, e, rfl⟩ := List.exists_cons_of_ne_nil (hes e List.mem_cons_self)
  have hbody : ∀ body, ∃ q ∈ (ofBody edge 0 body).groups, (ofBody edge 0 body).Always q.1 := fun body =>
    ⟨(1, .ofSeq [edge, .group 2 (.ofSeq body), edge]), List.mem_cons_self, .inl rfl⟩
  have hterm : ∃ body, ofBody edge 0 body ∈ ofTerm ignoreCase edge 0 t := by
    cases t with
    | word w => exact ⟨_, List.mem_singleton_self _⟩
    | strongs _ | morph _ => exact ⟨_, List.mem_cons_of_mem _ List.mem_cons_self⟩
  obtain ⟨body, hmem⟩ := hterm
  have helement : ofBody edge 0 body ∈ ofElement ignoreCase edge 0 (t :: e) :=
    List.mem_append_left _ hmem
  refine ⟨ofBody edge 0 body, ?_, hbody body⟩
  cases es with
  | nil => exact helement
  | cons e' es => exact List.mem_append_left _ helement

/-- **A phrase of clear words and tags.** -/
theorem isUndoable_ofElements (hes : ∀ e ∈ es, e ≠ []) (hne : es ≠ [])
    (hterms : ∀ e ∈ es, ∀ t ∈ e, IsElementTerm t ∧ IsClearPart ignoreCase t)
    (hp : (ofElements ignoreCase (colorEdge ignoreCase) (extraChoices ignoreCase) sloppy es).InOrder) :
    IsUndoable (ofElements ignoreCase (colorEdge ignoreCase) (extraChoices ignoreCase) sloppy es) := by
  let filler := ofFiller ignoreCase (extraChoices ignoreCase) sloppy es.flatten
  obtain ⟨hitems, hall, hfirst, hlast⟩ :=
    @isItemOf_phraseItems ignoreCase es (colorEdge ignoreCase) filler 0 hes hne
  have hitem : ∀ {p}, IsItemOf ignoreCase (colorEdge ignoreCase) es p → IsMarking p := by
    rintro p ⟨e, he, t, ht, k, hp⟩
    exact isMarking_ofTerm (hterms e he t ht).1 (hterms e he t ht).2 hp
  refine ⟨⟨?_, fun q hq => ?_⟩, hp, ?_⟩
  · exact isSeamed_ofSeq hitems (fun p hp => (hitem (hfirst p hp)).seamed)
      fun p hp => (hitem (hlast p hp)).seamed
  · rw [ofElements, ofPhrase, groups_ofSeq] at hq
    obtain ⟨p, hp, hq⟩ := List.mem_flatMap.mp hq
    rcases hall p hp with rfl | hp
    · rw [groups_ofFiller] at hq
      cases hq
    · exact (hitem hp).markable q hq
  · obtain ⟨p, hmem, q, hq, halways⟩ :=
      @exists_always_mem_phraseItems ignoreCase es (colorEdge ignoreCase) filler hes hne
    refine ⟨q, ?_, always_ofSeq hmem halways⟩
    rw [ofElements, ofPhrase, groups_ofSeq]
    exact List.mem_flatMap.mpr ⟨p, hmem, hq⟩

/-! ### Matchers -/

/-- **The pattern of a clear term**, unless it matches nowhere. -/
theorem isUndoable_pattern_matcherOf {engine : Engine} (hterm : IsClearTerm caseSensitive term) :
    IsUndoable (matcherOf engine caseSensitive sloppy term).pattern ∨
      (matcherOf engine caseSensitive sloppy term).pattern = .never := by
  obtain ⟨hraw, hclear⟩ := hterm
  split at hclear
  · rename_i hwildcard
    rw [pattern_matcherOf_wildcard hraw hwildcard (read?_wildcardSource hclear.1)]
    split
    · exact .inl (isUndoable_ofColoredGlob hclear.2)
    · exact .inr rfl
  · rename_i hwildcard
    have hphrase := Bool.eq_false_iff.mpr hwildcard
    by_cases hne : elements term = []
    · right
      have hempty : ((style caseSensitive sloppy term).source term).isEmpty = true := by
        rw [PhraseStyle.isEmpty_source rfl, hne]
        rfl
      rw [matcherOf_phrase hraw hphrase, PhraseStyle.matcher, Matcher.compile, if_pos hempty]
      rfl
    · have hread := PhraseStyle.read?_phrase
        (readsAs_style (!caseSensitive) caseSensitive sloppy term) rfl term
      have hes : ∀ e ∈ elements term, e ≠ [] := fun e he => by simpa using (List.mem_filter.mp he).2
      have hterms : ∀ e ∈ elements term, ∀ t ∈ e, IsElementTerm t ∧ IsClearPart (!caseSensitive) t :=
        fun e he t ht => ⟨PhraseStyle.isElementTerm_of_mem_elements he ht, hclear e he t ht⟩
      rw [pattern_matcherOf_phrase hraw hphrase hne]
      split
      · exact .inl (isUndoable_ofElements hes hne hterms (inOrder_of_read? hread))
      · exact .inr rfl

end Highlight

end Concordance
