import Concordance.Proofs.Pattern.Reading
import Concordance.Proofs.Term.Canonical
import Concordance.Proofs.Text.LetterCase

/-!
# The pattern of a phrase

The text of the pattern of a phrase is read as the patterns of its words and tags, each in its two
groups, with one and the same filler between any two elements of the phrase. What the filler passes over
depends on the kinds of terms that the phrase has. This holds of every text of a phrase: whatever the
characters of its words are, none of them has a meaning of its own in a pattern, and those of a
morphology tag are escaped.

How edges of words are written, and what else the filler passes over, is left open here.

## Main definitions

* `Pattern.ofTerm`, `Pattern.ofFiller` — the patterns of a word or tag and of the filler
* `Pattern.ofPhrase`, `Pattern.ofElements` — the pattern of a phrase
* `PhraseStyle.IsElementTerm` — a term as a phrase has it
* `PhraseStyle.Fits` — the engine takes the pattern of a phrase
* `PhraseStyle.ReadsAs` — what the edges and the other alternatives of a style are read as

## Main results

* `PhraseStyle.leads_termSource`, `PhraseStyle.leads_filler` — a word or tag and the filler are read
* `PhraseStyle.read?_phrase` — the pattern that the text of a phrase writes
* `PhraseStyle.pattern_matcher_eq` — it is the pattern of the matcher, if the engine takes it
-/

namespace Concordance

namespace Pattern

/-! ### Patterns of phrases -/

section

variable (ignoreCase : Bool)

/-- The items of a word or tag. -/
def ofTerm (edge : Pattern) (count : Nat) : Term → List Pattern
  | .word w => [ofBody edge count (w.map (ofChar ignoreCase))]
  | .strongs number => [.set (setOf ignoreCase '<'), ofBody edge count (ofLiteral ignoreCase number),
      .set (setOf ignoreCase '>')]
  | .morph tag => [.set (setOf ignoreCase '\x7b'), ofBody edge count (ofLiteral ignoreCase tag),
      .set (setOf ignoreCase '\x7d')]

/-- The items of an element, after some groups. -/
def ofElement (edge : Pattern) : (count : Nat) → List Term → List Pattern
  | _, [] => []
  | count, t :: ts => ofTerm ignoreCase edge count t ++ ofElement edge (count + 2) ts

/-- The items of elements with fillers between them, after some groups. -/
def phraseItems (edge filler : Pattern) : (count : Nat) → List (List Term) → List Pattern
  | _, [] => []
  | count, [e] => ofElement ignoreCase edge count e
  | count, e :: es =>
    ofElement ignoreCase edge count e ++ filler :: phraseItems edge filler (count + 2 * e.length) es

/-- The pattern of a phrase. -/
def ofPhrase (edge filler : Pattern) (es : List (List Term)) : Pattern :=
  .ofSeq (phraseItems ignoreCase edge filler 0 es)

/-- What the filler passes over at a time besides punctuation: texts with the items that they write.
Some are given; others depend on the terms of the phrase. -/
def fillerChoices (extra : List (List Char × List Pattern)) (sloppy : Bool) (terms : List Term) :
    List (List Char × List Pattern) :=
  let orElse (wanted : Bool) (choice : List Char × List Pattern) := if wanted then [choice] else []
  let hasStrongs := terms.any Term.isStrongs
  let hasMorph := terms.any Term.isMorph
  let hasWords := terms.any Term.isWord
  (PhraseStyle.color, colorItems ignoreCase) :: extra
    ++ orElse (!hasStrongs || sloppy) (PhraseStyle.anyAngles, enclosedItems ignoreCase '<' '>')
    ++ orElse (!hasMorph || sloppy) (PhraseStyle.anyBraces, enclosedItems ignoreCase '\x7b' '\x7d')
    ++ orElse (!hasWords || hasStrongs || hasMorph || sloppy) (PhraseStyle.anyWord, anyWordItems)

/-- What may stand between two elements of a phrase. -/
def ofFiller (extra : List (List Char × List Pattern)) (sloppy : Bool) (terms : List Term) :
    Pattern :=
  .repeated (.ofAlt (ofPunctuation ignoreCase ::
    (fillerChoices ignoreCase extra sloppy terms).map fun a => ofSeq a.2)) 0 none false

/-- The pattern of a phrase, with the filler that its terms ask for. -/
def ofElements (edge : Pattern) (extra : List (List Char × List Pattern)) (sloppy : Bool)
    (es : List (List Term)) : Pattern :=
  ofPhrase ignoreCase edge (ofFiller ignoreCase extra sloppy es.flatten) es

end

/-! ### Alternatives -/

section

variable {ignoreCase : Bool}

/-- All alternatives of a sequence that is being read. -/
def Branches.alternatives (b : Branches) : List Pattern := (b.current :: b.done).reverse

/-- Alternatives with bars before them are read one after another. -/
theorem leads_choices {choices : List (List Char × List Pattern)}
    (h : ∀ a ∈ choices, WritesOn ignoreCase a.1 a.2) (b : Branches) (groups : List OpenGroup)
    (count : Nat) :
    ∃ b' : Branches, b'.alternatives = b.alternatives ++ choices.map (fun a => ofSeq a.2) ∧
      Reading.LeadsOn ⟨{ ignoreCase }, b, groups, count, []⟩ (choices.flatMap fun a => '|' :: a.1)
        ⟨{ ignoreCase }, b', groups, count, []⟩ := by
  induction choices generalizing b with
  | nil => exact ⟨b, by simp, (Reading.leads_nil _).leadsOn⟩
  | cons a choices ih =>
    obtain ⟨ha, hchoices⟩ := List.forall_mem_cons.mp h
    have hbar : Reading.Leads ⟨{ ignoreCase }, b, groups, count, []⟩ ['|']
        ⟨{ ignoreCase }, b.next, groups, count, []⟩ := ⟨1, Nat.le_refl 1, fun _ _ => rfl⟩
    obtain ⟨b', halternatives, hleads⟩ := ih hchoices ⟨b.current :: b.done, (a.2.map some).reverse⟩
    refine ⟨b', ?_, ?_⟩
    · rw [halternatives]
      simp [Branches.alternatives, Branches.current, List.filterMap_map]
    · have hfirst := hbar.append_leadsOn (ha (b.current :: b.done) [] groups count)
      rw [List.append_nil] at hfirst
      rw [List.flatMap_cons]
      refine hfirst.append hleads ?_
      cases choices with
      | nil => exact Reading.closes_nil
      | cons a choices => exact Reading.closes_cons (by decide)

/-- The alternatives are closed and repeated as seldom as possible. -/
theorem leads_repeated {b : Branches} {p : Pattern} {ps : List Pattern}
    (h : b.alternatives = p :: ps) (hp : p.isEmptyOnly = false) (items : List (Option Pattern))
    (count : Nat) :
    Reading.Leads ⟨{ ignoreCase }, b, [⟨none, { ignoreCase }, ⟨[], items⟩⟩], count, []⟩
      ")*?".toList
      (outermost ignoreCase (some (.repeated (ofAlt b.alternatives) 0 none false) :: items) count) := by
  have hempty : (ofAlt b.alternatives).isEmptyOnly = false := by
    rw [h]
    cases ps with
    | nil => exact hp
    | cons q ps => simp [ofAlt, isEmptyOnly, hp]
  have hrepeat : ofRepeat (ofAlt b.alternatives) 0 none false
      = .repeated (ofAlt b.alternatives) 0 none false := by
    simp [ofRepeat, hempty]
  rw [← hrepeat]
  simp only [String.reduceToList]
  exact ⟨2, by decide, fun _ _ => rfl⟩

end

end Pattern

/-- The pattern of a matcher is what its text writes, if the engine takes it. -/
theorem Matcher.pattern_compile (engine : Engine) {ignoreCase : Bool} {source : List Char} {p : Pattern}
    (hne : source ≠ []) (hread : Pattern.read? ignoreCase source = some p) :
    (compile engine ignoreCase source).pattern
      = if engine.fits ignoreCase source = true then p else .never := by
  rw [compile, if_neg (by simpa using hne), hread]
  dsimp only
  split <;> rfl

/-! ### Texts of phrases -/

/-- What is joined has a separator between any two parts. -/
theorem Text.le_length_intercalate (sep : List Char) (parts : List (List Char)) :
    sep.length * (parts.length - 1) ≤ (sep.intercalate parts).length := by
  induction parts with
  | nil => simp
  | cons part parts ih =>
    cases parts with
    | nil => simp
    | cons next parts =>
      rw [List.intercalate_cons_cons, List.length_append, List.length_append]
      rw [List.length_cons, Nat.add_sub_cancel] at ih
      rw [List.length_cons, List.length_cons, Nat.add_sub_cancel, Nat.mul_succ]
      omega

namespace PhraseStyle

open Pattern Text Markup

/-- What the text of a term is made of can be read: but for morphology tags, which are escaped, it has
no signs. -/
def IsReadable : Term → Prop
  | .word w => ∀ c ∈ w, c = '*' ∨ isSign c = false
  | .strongs number => ∀ c ∈ number, isSign c = false
  | .morph _ => True

/-- No sign is part of a word, a tag or a number. -/
theorem isSign_eq_false {c : Char} (hc : isTagChar c = true ∨ isDigit c = true) :
    isSign c = false := by
  rw [Bool.eq_false_iff]
  intro hsign
  have hother := of_isSign (fun c => !isTagChar c && !isDigit c) (by decide) hsign
  rcases hc with hc | hc <;> simp [hc] at hother

/-- A number in upper case has no signs. -/
theorem isSign_upper {number : List Char} (h : IsNumber isLanguageAnyCase number) :
    ∀ c ∈ upper number, isSign c = false := by
  intro c hc
  rw [Bool.eq_false_iff]
  intro hsign
  have hother := of_isSign (fun c => decide (c.toNat < 0x80) && !c.isUpper && c != '\x00')
    (by decide) hsign
  simp only [Bool.and_eq_true, decide_eq_true_eq, Bool.not_eq_true', bne_iff_ne] at hother
  have hmem := mem_of_mem_upper hc hother.1.1 hother.1.2 hother.2
  obtain ⟨l, ds, rfl, hl, -, hds⟩ := h
  rcases List.mem_cons.mp hmem with rfl | hmem
  · have hletter : c = 'G' ∨ c = 'H' ∨ c = 'g' ∨ c = 'h' := by
      simpa [isLanguageAnyCase, isLanguage, or_assoc] using hl
    rcases hletter with rfl | rfl | rfl | rfl <;> exact absurd hsign (by decide)
  · rw [isSign_eq_false (.inr (hds c hmem))] at hsign
    cases hsign

theorem isNumber_of_looseStrongs? {afterWord : Bool} {cs number rest : List Char}
    (h : Term.looseStrongs? afterWord cs = some (number, rest)) :
    IsNumber isLanguageAnyCase number := by
  have hloose : ∀ cs, Term.looseNumber? cs = some (number, rest) →
      IsNumber isLanguageAnyCase number := fun cs h =>
    (Term.exists_of_looseNumber? h).elim fun _ h => h.2.2
  rw [Term.looseStrongs?_eq, Option.or_eq_some_iff] at h
  rcases h with h | ⟨-, h⟩
  · obtain ⟨cs', -, h⟩ := Option.bind_eq_some_iff.mp h
    exact hloose cs' h
  · cases afterWord with
    | true => cases h
    | false => exact hloose cs h

/-- A term as a phrase has it: a number or a tag in upper case, or a word with wildcards. -/
def IsElementTerm : Term → Prop
  | .word w => ∀ c ∈ w, isPhraseChar c = true
  | .strongs number => ∃ cs, IsNumber isLanguageAnyCase cs ∧ number = upper cs
  | .morph tag => ∃ cs, (∀ c ∈ cs, isTagChar c = true) ∧ tag = upper cs

/-- Which terms a phrase has. -/
theorem isElementTerm_of_mem_elements {phrase : List Char} {e : List Term} {t : Term}
    (he : e ∈ elements phrase) (ht : t ∈ e) : IsElementTerm t := by
  obtain ⟨w, -, rfl⟩ := List.mem_map.mp (List.mem_filter.mp he).1
  obtain ⟨b, cs, rest, hread⟩ := exists_of_mem_items ht
  rw [term?] at hread
  split at hread
  · rename_i number _ hnumber
    obtain ⟨rfl, -⟩ := Prod.mk.inj (Option.some.inj hread)
    exact ⟨number, isNumber_of_looseStrongs? hnumber, rfl⟩
  · split at hread
    · rename_i tag _ hmorph
      obtain ⟨rfl, -⟩ := Prod.mk.inj (Option.some.inj hread)
      obtain ⟨cs', -, hmorph⟩ := Option.bind_eq_some_iff.mp hmorph
      obtain ⟨⟨tag', _⟩, htake, hmorph⟩ := Option.bind_eq_some_iff.mp hmorph
      obtain ⟨_, -, hmorph⟩ := Option.bind_eq_some_iff.mp hmorph
      obtain ⟨rfl, -⟩ := Prod.mk.inj (Option.some.inj hmorph)
      exact ⟨tag', (takeSome?_eq_some_iff.mp htake).2.1, rfl⟩
    · obtain ⟨⟨w, rest⟩, htake, heq⟩ := Option.map_eq_some_iff.mp hread
      obtain ⟨rfl, -⟩ := Prod.mk.inj heq
      exact (takeSome?_eq_some_iff.mp htake).2.1

/-- The terms of a phrase can be read. -/
theorem isReadable_of_mem_elements {phrase : List Char} {e : List Term} {t : Term}
    (he : e ∈ elements phrase) (ht : t ∈ e) : IsReadable t := by
  have hterm := isElementTerm_of_mem_elements he ht
  cases t with
  | word w =>
    intro c hc
    have hchar := hterm c hc
    rw [isPhraseChar, Bool.or_eq_true, beq_iff_eq] at hchar
    exact hchar.symm.imp_right fun htag => isSign_eq_false (.inl htag)
  | strongs number =>
    obtain ⟨cs, hcs, rfl⟩ := hterm
    exact isSign_upper hcs
  | morph tag => trivial

/-- The engine takes the pattern of a phrase. -/
def Fits (s : PhraseStyle) (engine : Engine) (phrase : List Char) : Prop :=
  engine.fits (!s.caseSensitive) (s.source phrase) = true

instance (s : PhraseStyle) (engine : Engine) (phrase : List Char) : Decidable (s.Fits engine phrase) :=
  inferInstanceAs (Decidable (_ = true))

/-- An engine without a limit takes all phrases. -/
theorem fits_unlimited (s : PhraseStyle) (phrase : List Char) : s.Fits .unlimited phrase := rfl

/-- What the edges of a style and its other alternatives are read as. -/
structure ReadsAs (s : PhraseStyle) (ignoreCase : Bool) (edge : Pattern)
    (extra : List (List Char × List Pattern)) : Prop where
  /-- The pattern for either side of a word. -/
  bound : IsBound ignoreCase s.wordBound edge
  /-- The other alternatives, each with a bar before it. -/
  fillerExtra : s.fillerExtra = extra.flatMap fun a => '|' :: a.1
  /-- What they write. -/
  choices : ∀ a ∈ extra, WritesOn ignoreCase a.1 a.2

/-- In searches there are plain edges of words, and no other alternatives. -/
theorem readsAs_plain (ignoreCase caseSensitive sloppy : Bool) :
    ({ caseSensitive, sloppy } : PhraseStyle).ReadsAs ignoreCase wordEdge [] :=
  ⟨isBound_wordEdge, rfl, by simp⟩

variable {s : PhraseStyle} {ignoreCase : Bool} {edge : Pattern}
  {extra : List (List Char × List Pattern)} (h : s.ReadsAs ignoreCase edge extra)

include h

/-- **A word or tag in its groups is read.** -/
theorem leads_termSource {t : Term} (ht : IsReadable t) (items : List (Option Pattern))
    (count : Nat) :
    (outermost ignoreCase items count).Leads (s.termSource t)
      (outermost ignoreCase (((ofTerm ignoreCase edge count t).map some).reverse ++ items)
        (count + 2)) := by
  cases t with
  | word w => exact h.bound.leads (writesOn_word ht) (closes_expandWildcards ht) items count
  | strongs number =>
    have hhead : Reading.Closes number := by
      intro c hc
      have hsign := ht c (List.mem_of_head? hc)
      constructor <;> rintro rfl <;> exact absurd hsign (by decide)
    have hopen : Writes ignoreCase ['<'] _ := writes_char (by decide)
    have hclose : Writes ignoreCase ['>'] _ := writes_char (by decide)
    have hbody := h.bound.leads (writes_chars ht).writesOn hhead
    exact ((hopen [] items [] count).append (hbody _ count)).append (hclose [] _ [] (count + 2))
  | morph tag =>
    have hopen : Writes ignoreCase ['\\', '\x7b'] _ := writes_escaped (by decide)
    have hclose : Writes ignoreCase ['\\', '\x7d'] _ := writes_escaped (by decide)
    have hbody := h.bound.leads (writes_escape tag).writesOn (closes_escape tag)
    exact ((hopen [] items [] count).append (hbody _ count)).append (hclose [] _ [] (count + 2))

/-- The words and tags of an element are read one after another. -/
theorem leads_element {e : List Term} (he : ∀ t ∈ e, IsReadable t) (items : List (Option Pattern))
    (count : Nat) :
    (outermost ignoreCase items count).Leads (e.flatMap s.termSource)
      (outermost ignoreCase (((ofElement ignoreCase edge count e).map some).reverse ++ items)
        (count + 2 * e.length)) := by
  induction e generalizing items count with
  | nil => exact Reading.leads_nil _
  | cons t e ih =>
    obtain ⟨ht, he⟩ := List.forall_mem_cons.mp he
    have hfirst := leads_termSource h ht items count
    have hrest := ih he (((ofTerm ignoreCase edge count t).map some).reverse ++ items) (count + 2)
    have hcount : count + 2 + 2 * e.length = count + 2 * (t :: e).length := by
      rw [List.length_cons]
      omega
    rw [hcount] at hrest
    simpa [ofElement] using hfirst.append hrest

omit h in
theorem writesOn_color : WritesOn ignoreCase color (colorItems ignoreCase) := by
  unfold color
  simp only [String.reduceToList]
  exact Writes.writesOn fun _ _ _ _ => ⟨5, by decide, fun _ _ => rfl⟩

omit h in
theorem writesOn_anyAngles : WritesOn ignoreCase anyAngles (enclosedItems ignoreCase '<' '>') := by
  unfold anyAngles
  simp only [String.reduceToList]
  exact Writes.writesOn fun _ _ _ _ => ⟨4, by decide, fun _ _ => rfl⟩

omit h in
theorem writesOn_anyBraces :
    WritesOn ignoreCase anyBraces (enclosedItems ignoreCase '\x7b' '\x7d') := by
  unfold anyBraces
  simp only [String.reduceToList]
  exact Writes.writesOn fun _ _ _ _ => ⟨4, by decide, fun _ _ => rfl⟩

omit h in
/-- After the edge of a word no brace may follow. -/
theorem writesOn_anyWord : WritesOn ignoreCase anyWord anyWordItems := by
  unfold anyWord
  simp only [String.reduceToList]
  exact fun done items groups count => ⟨4, by decide, fun fuel rest hrest =>
    readFrom_wordEdge hrest fuel
      ⟨done, some (.repeated (.set .word) 1 none true) :: some wordEdge :: items⟩ groups count⟩

/-- What the filler passes over at a time has bars before it. -/
theorem filler_eq (terms : List Term) :
    s.filler terms = "(?:".toList ++ punctuation
      ++ ((fillerChoices ignoreCase extra s.sloppy terms).flatMap fun a => '|' :: a.1)
      ++ ")*?".toList := by
  have horElse : ∀ (wanted : Bool) (choice : List Char × List Pattern),
      (if wanted then [choice] else []).flatMap (fun a => '|' :: a.1)
        = if wanted then '|' :: choice.1 else [] := by
    intro wanted choice
    cases wanted <;> simp
  unfold filler fillerChoices
  rw [h.fillerExtra]
  generalize "(?:".toList = opening
  generalize ")*?".toList = closing
  simp only [List.flatMap_append, List.flatMap_cons, horElse, List.append_assoc, List.cons_append]

/-- What the filler passes over at a time is read. -/
theorem writesOn_fillerChoices (sloppy : Bool) (terms : List Term) :
    ∀ a ∈ fillerChoices ignoreCase extra sloppy terms, WritesOn ignoreCase a.1 a.2 := by
  have horElse : ∀ (wanted : Bool) (choice : List Char × List Pattern),
      WritesOn ignoreCase choice.1 choice.2 →
      ∀ a ∈ if wanted then [choice] else [], WritesOn ignoreCase a.1 a.2 := by
    intro wanted choice hchoice a ha
    cases wanted with
    | true => exact List.mem_singleton.mp ha ▸ hchoice
    | false => cases ha
  simp only [fillerChoices, List.forall_mem_append, List.forall_mem_cons]
  exact ⟨⟨⟨⟨writesOn_color, h.choices⟩, horElse _ _ writesOn_anyAngles⟩,
    horElse _ _ writesOn_anyBraces⟩, horElse _ _ writesOn_anyWord⟩

omit h in
/-- Punctuation is the first thing that the filler passes over. -/
theorem leads_punctuation (items : List (Option Pattern)) (count : Nat) :
    (outermost ignoreCase items count).Leads ("(?:".toList ++ punctuation)
      ⟨{ ignoreCase }, ⟨[], [some (ofPunctuation ignoreCase)]⟩,
        [⟨none, { ignoreCase }, ⟨[], items⟩⟩], count, []⟩ := by
  unfold punctuation
  simp only [String.reduceToList]
  exact ⟨2, by decide, fun _ _ => rfl⟩

/-- **The filler is read.** -/
theorem leads_filler (terms : List Term) (items : List (Option Pattern)) (count : Nat) :
    (outermost ignoreCase items count).Leads (s.filler terms)
      (outermost ignoreCase (some (ofFiller ignoreCase extra s.sloppy terms) :: items) count) := by
  obtain ⟨b, halternatives, hchoices⟩ := leads_choices (writesOn_fillerChoices h s.sloppy terms)
    ⟨[], [some (ofPunctuation ignoreCase)]⟩ [⟨none, { ignoreCase }, ⟨[], items⟩⟩] count
  have hlast := @leads_repeated ignoreCase _ _ _ halternatives rfl items count
  rw [halternatives] at hlast
  rw [filler_eq h]
  have hend : ")*?".toList = [')', '*', '?'] := by simp
  rw [hend] at hlast ⊢
  exact ((leads_punctuation items count).append_leadsOn hchoices).append_cons hlast (by decide)

/-- The elements of a phrase and the fillers between them are read one after another. -/
theorem leads_phrase {filler : List Char} {p : Pattern}
    (hfiller : ∀ items count, (outermost ignoreCase items count).Leads filler
      (outermost ignoreCase (some p :: items) count))
    {es : List (List Term)} (hes : ∀ e ∈ es, ∀ t ∈ e, IsReadable t) (items : List (Option Pattern))
    (count : Nat) :
    ∃ count', (outermost ignoreCase items count).Leads
      (filler.intercalate (es.map fun e => e.flatMap s.termSource))
      (outermost ignoreCase
        (((phraseItems ignoreCase edge p count es).map some).reverse ++ items) count') := by
  induction es generalizing items count with
  | nil => exact ⟨count, Reading.leads_nil _⟩
  | cons e es ih =>
    obtain ⟨he, hes⟩ := List.forall_mem_cons.mp hes
    have hfirst := leads_element h he items count
    cases es with
    | nil => exact ⟨_, by simpa [List.intercalate, phraseItems] using hfirst⟩
    | cons e' es =>
      obtain ⟨count', hrest⟩ := ih hes
        (some p :: (((ofElement ignoreCase edge count e).map some).reverse ++ items)) _
      refine ⟨count', ?_⟩
      rw [List.map_cons, List.map_cons, List.intercalate_cons_cons]
      simpa [phraseItems] using (hfirst.append (hfiller _ _)).append hrest

/-- **The pattern that the text of a phrase writes.** -/
theorem read?_phrase (hpattern : s.isPattern = false) (phrase : List Char) :
    read? ignoreCase (s.source phrase)
      = some (ofElements ignoreCase edge extra s.sloppy (elements phrase)) := by
  obtain ⟨count, hleads⟩ := leads_phrase h (leads_filler h (elements phrase).flatten)
    (fun e he t ht => isReadable_of_mem_elements he ht) [] 0
  rw [source, if_neg (by simp [hpattern])]
  rw [Reading.Leads.read? hleads rfl rfl]
  simp [outermost, Branches.pattern, Branches.current, ofElements, ofPhrase, ofAlt,
    List.filterMap_map]

omit h in
/-- Only a phrase without elements writes nothing. -/
theorem isEmpty_source (hpattern : s.isPattern = false) (phrase : List Char) :
    (s.source phrase).isEmpty = (elements phrase).isEmpty := by
  have hterm : ∀ t, s.termSource t ≠ [] := by
    intro t
    cases t <;> exact List.cons_ne_nil _ _
  have helement : ∀ e ∈ elements phrase, e.flatMap s.termSource ≠ [] := by
    intro e he
    have hne : e ≠ [] := by simpa using (List.mem_filter.mp he).2
    obtain ⟨t, e, rfl⟩ := List.exists_cons_of_ne_nil hne
    simp [hterm]
  rw [source, if_neg (by simp [hpattern])]
  cases hes : elements phrase with
  | nil => rfl
  | cons e es =>
    have hfirst := helement e (hes ▸ List.mem_cons_self)
    cases es <;> simp [List.intercalate, hfirst]

omit h in
/-- **The pattern of the matcher of a phrase**, if the engine takes it. -/
theorem pattern_matcher_eq (engine : Engine) (h : s.ReadsAs (!s.caseSensitive) edge extra)
    (hpattern : s.isPattern = false) {phrase : List Char} (hne : elements phrase ≠ []) :
    (s.matcher engine phrase).pattern =
      if s.Fits engine phrase then ofElements (!s.caseSensitive) edge extra s.sloppy (elements phrase)
      else never := by
  have hsource : s.source phrase ≠ [] := fun hnil => hne (by
    simpa [hnil] using isEmpty_source hpattern phrase)
  exact Matcher.pattern_compile engine hsource (read?_phrase h hpattern phrase)

end PhraseStyle

end Concordance
