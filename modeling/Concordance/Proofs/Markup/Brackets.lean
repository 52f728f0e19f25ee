import Concordance.Proofs.Markup.Passes
import Concordance.Proofs.Text.Prose

/-!
# Tags in brackets

Whatever reads tags reads them in brackets that hold neither blanks nor further brackets. So two tags
never overlap, whichever reader finds them; those that stand after blanks are found wherever they stand;
and it makes no difference whether two kinds of tags are dropped in two passes or in one, unless a tag is
made up of what the first pass leaves.

## Main definitions

* `Markup.OpensWith` — a text opens with brackets
* `Markup.tag?` — reads a tag of either kind, in any case
* `Extract.withoutTags` — a text without the tags that count

## Main results

* `Markup.OpensWith.unique` — there is one way to read brackets
* `Extract.mem_items_afterBlank_iff` — the items after blanks are what can be read in a text
* `Extract.dropItems_dropItems` — one pass for numbers and one for tags, or one for both
-/

namespace Concordance

namespace Markup

open Text

/-! ### Brackets -/

/-- The signs that open and close tags. -/
def brackets : List (Char × Char) := [('<', '>'), ('\x7b', '\x7d')]

theorem brackets_signs : ∀ p ∈ brackets, isBlank p.1 = false ∧ isBlank p.2 = false ∧
    isWordChar p.1 = false ∧ isWordChar p.2 = false := by
  decide

/-- A text opens with brackets: what stands in them, and the text after them. Neither blanks nor
brackets are within. -/
structure OpensWith (cs body rest : List Char) : Prop where
  eq : ∃ p ∈ brackets, cs = p.1 :: body ++ p.2 :: rest
  within : ∀ c ∈ body, IsDull c ∧ ∀ p ∈ brackets, c ≠ p.2

namespace OpensWith

variable {cs body rest : List Char} (h : OpensWith cs body rest)

include h

/-- The brackets are a stretch without blanks, and no word goes on across its ends. -/
theorem exists_stretch : ∃ stretch, cs = stretch ++ rest ∧
    (∀ c ∈ stretch, isBlank c = false) ∧ (∀ c ∈ stretch.head?, isWordChar c = false) ∧
    ∀ c ∈ stretch.getLast?, isWordChar c = false := by
  obtain ⟨p, hp, rfl⟩ := h.eq
  obtain ⟨hopen, hclose, hopenWord, hcloseWord⟩ := brackets_signs p hp
  refine ⟨p.1 :: body ++ [p.2], by simp, fun c hc => ?_, by simpa using hopenWord, ?_⟩
  · simp only [List.cons_append, List.mem_cons, List.mem_append, List.not_mem_nil, or_false] at hc
    rcases hc with rfl | hc | rfl
    · exact hopen
    · exact (h.within c hc).1.1
    · exact hclose
  · rw [List.getLast?_concat]
    simpa using hcloseWord

theorem head?_not_blank : ∀ c ∈ cs.head?, isBlank c = false := by
  obtain ⟨p, hp, rfl⟩ := h.eq
  simpa using (brackets_signs p hp).1

theorem length_lt : rest.length < cs.length := by
  obtain ⟨p, -, rfl⟩ := h.eq
  simp only [List.cons_append, List.length_cons, List.length_append]
  omega

/-- There is one way to read brackets. -/
theorem unique {body' rest' : List Char} (h' : OpensWith cs body' rest') :
    body = body' ∧ rest = rest' := by
  have hopen : ∀ p ∈ brackets, ∀ p' ∈ brackets, p.1 = p'.1 → p = p' := by decide
  obtain ⟨p, hp, heq⟩ := h.eq
  obtain ⟨p', hp', heq'⟩ := h'.eq
  obtain ⟨hsign, hafter⟩ := List.cons.inj (heq.symm.trans heq')
  obtain rfl := hopen p hp p' hp' hsign
  -- the closing sign is the first one
  have hsplit : (body ++ p.2 :: rest).takeWhile (· != p.2) = body ∧
      (body ++ p.2 :: rest).dropWhile (· != p.2) = p.2 :: rest :=
    takeWhile_append (fun c hc => by simpa using (h.within c hc).2 p hp) (by simp)
  have hsplit' : (body' ++ p.2 :: rest').takeWhile (· != p.2) = body' ∧
      (body' ++ p.2 :: rest').dropWhile (· != p.2) = p.2 :: rest' :=
    takeWhile_append (fun c hc => by simpa using (h'.within c hc).2 p hp) (by simp)
  change body ++ p.2 :: rest = body' ++ p.2 :: rest' at hafter
  rw [hafter] at hsplit
  exact ⟨hsplit.1.symm.trans hsplit'.1, (List.cons.inj (hsplit.2.symm.trans hsplit'.2)).2⟩

end OpensWith

/-- What consists of characters of a class without blanks and brackets may stand in brackets. -/
theorem within_of_forall {p : Char → Bool} {body : List Char} (hbody : ∀ c ∈ body, p c = true)
    (hblank : ∀ c, isBlank c = true → p c = false)
    (hsigns : ∀ q ∈ brackets, p q.1 = false ∧ p q.2 = false) :
    ∀ c ∈ body, IsDull c ∧ ∀ q ∈ brackets, c ≠ q.2 := by
  intro c hc
  have hne : ∀ d, p d = false → c ≠ d := by
    rintro d hd rfl
    simp [hbody c hc] at hd
  have hnotBlank : isBlank c = false := by
    rw [Bool.eq_false_iff]
    exact fun hb => hne c (hblank c hb) rfl
  exact ⟨⟨hnotBlank, hne _ (hsigns ('<', '>') (by decide)).1,
    hne _ (hsigns ('\x7b', '\x7d') (by decide)).1⟩,
    fun q hq => hne _ (hsigns q hq).2⟩

section

variable {c : Char} (hc : isBlank c = true)

include hc

theorem ne_of_isBlank {d : Char} (hd : isBlank d = false) : c ≠ d := by
  rintro rfl
  rw [hc] at hd
  cases hd

theorem isNumberChar_of_isBlank : (isLanguageAnyCase c || isDigit c) = false := by
  simp [isLanguageAnyCase, isLanguage, isDigit_of_isBlank hc,
    ne_of_isBlank hc (show isBlank 'G' = false by decide),
    ne_of_isBlank hc (show isBlank 'H' = false by decide),
    ne_of_isBlank hc (show isBlank 'g' = false by decide),
    ne_of_isBlank hc (show isBlank 'h' = false by decide)]

theorem isTagChar_of_isBlank : isTagChar c = false := by
  simp [isTagChar, isWordChar_of_isBlank hc, ne_of_isBlank hc (show isBlank '-' = false by decide)]

theorem isUpperTagChar_of_isBlank : Extract.isUpperTagChar c = false := by
  have halphanum : ((c.isUpper || c.isLower) || c.isDigit) = false :=
    isAlphanum_of_isSeparator (by simp [isSeparator, hc])
  have hupper : c.isUpper = false :=
    (Bool.or_eq_false_iff.mp (Bool.or_eq_false_iff.mp halphanum).1).1
  simp [Extract.isUpperTagChar, hupper, isDigit_of_isBlank hc,
    ne_of_isBlank hc (show isBlank '-' = false by decide)]

end

/-! ### Readers of tags -/

/-- What a reader reads stands in brackets. -/
def ReadsBrackets (g : List Char → Option (List Char × List Char)) : Prop :=
  ∀ cs body rest, g cs = some (body, rest) → OpensWith cs body rest

theorem readsBrackets_strongs? : ReadsBrackets (strongs? isLanguageAnyCase) := by
  intro cs number rest h
  obtain ⟨⟨c, ds, rfl, hc, -, hds⟩, rfl⟩ := strongs?_eq_some_iff.mp h
  refine ⟨⟨('<', '>'), by decide, rfl⟩,
    within_of_forall (p := fun c => isLanguageAnyCase c || isDigit c) ?_
      (fun _ => isNumberChar_of_isBlank) (by decide)⟩
  intro d hd
  rcases List.mem_cons.mp hd with rfl | hd
  · simp [hc]
  · simp [hds d hd]

/-- A morphology tag is read whatever follows it. -/
theorem exists_stretch_of_morph? {cs tag rest : List Char} (h : morph? cs = some (tag, rest)) :
    ∃ stretch, cs = stretch ++ rest ∧ (∀ c ∈ stretch, isBlank c = false) ∧
      ∀ ys, morph? (stretch ++ ys) = some (tag, ys) := by
  obtain ⟨hne, hall, rfl⟩ := morph?_eq_some_iff.mp h
  refine ⟨'\x7b' :: tag ++ ['\x7d'], by simp, fun c hc => ?_, fun ys => ?_⟩
  · simp only [List.cons_append, List.mem_cons, List.mem_append, List.not_mem_nil, or_false] at hc
    rcases hc with rfl | hc | rfl
    · decide
    · exact (within_of_forall hall (fun _ => isTagChar_of_isBlank) (by decide) c hc).1.1
    · decide
  · exact morph?_eq_some_iff.mpr ⟨hne, hall, by simp⟩

theorem readsBrackets_morph? : ReadsBrackets morph? := by
  intro cs tag rest h
  obtain ⟨-, hall, rfl⟩ := morph?_eq_some_iff.mp h
  exact ⟨⟨('\x7b', '\x7d'), by decide, rfl⟩,
    within_of_forall hall (fun _ => isTagChar_of_isBlank) (by decide)⟩

/-- Reads a tag in any case, and gives what its brackets hold. -/
def tag? (cs : List Char) : Option (List Char × List Char) :=
  (strongs? isLanguageAnyCase cs).or (morph? cs)

theorem readsBrackets_tag? : ReadsBrackets tag? := by
  intro cs body rest h
  rcases Option.or_eq_some_iff.mp h with h | ⟨-, h⟩
  · exact readsBrackets_strongs? _ _ _ h
  · exact readsBrackets_morph? _ _ _ h

end Markup

namespace Extract

open Markup Text

/-! ### Tags after blanks -/

/-- What begins with a character that a stretch does not have begins after the stretch. -/
theorem suffix_of_suffix_append {cs xs ys : List Char} (hxs : ∀ c ∈ xs, c ∉ cs.head?)
    (h : cs <:+ xs ++ ys) : cs <:+ ys := by
  induction xs with
  | nil => exact h
  | cons c xs ih =>
    obtain ⟨hc, hxs⟩ := List.forall_mem_cons.mp hxs
    rcases List.suffix_cons_iff.mp h with rfl | h
    · exact absurd rfl hc
    · exact ih hxs h

theorem afterBlank_eq_some_iff {α : Type} {g : List Char → Option (α × List Char)} {b : Bool}
    {cs rest : List Char} {a : α} :
    afterBlank g b cs = some (a, rest) ↔
      ∃ blank cs', cs = blank :: cs' ∧ isBlank blank = true ∧ g cs' = some (a, rest) := by
  cases cs with
  | nil => simp [afterBlank]
  | cons c cs =>
    rw [afterBlank]
    split
    · rename_i hc
      constructor
      · exact fun h => ⟨c, cs, rfl, hc, h⟩
      · rintro ⟨_, _, heq, -, h⟩
        obtain ⟨rfl, rfl⟩ := List.cons.inj heq
        exact h
    · rename_i hc
      simp only [reduceCtorEq, false_iff]
      rintro ⟨_, _, heq, hblank, -⟩
      exact hc ((List.cons.inj heq).1 ▸ hblank)

/-- What is read after a blank and what follows it are of the text. -/
theorem afterBlank_subset {g : List Char → Option (List Char × List Char)} (hg : ReadsBrackets g)
    {b : Bool} {cs body rest : List Char} (h : afterBlank g b cs = some (body, rest)) :
    body ⊆ cs ∧ rest ⊆ cs := by
  obtain ⟨blank, cs', rfl, -, hread⟩ := afterBlank_eq_some_iff.mp h
  obtain ⟨p, -, rfl⟩ := (hg _ _ _ hread).eq
  constructor <;> intro c hc <;> simp [hc]

/-- Nothing is read where there is no blank. -/
theorem afterBlank_of_not_blank {α : Type} {g : List Char → Option (α × List Char)} {b : Bool}
    {c : Char} (hc : isBlank c = false) (cs : List Char) : afterBlank g b (c :: cs) = none := by
  simp [afterBlank, hc]

section

variable {g : List Char → Option (List Char × List Char)} (hg : ReadsBrackets g)

include hg

theorem isSteady_afterBlank : IsSteady (afterBlank g) := by
  refine ⟨fun b cs => rfl, fun {cs a rest} h => ?_⟩
  obtain ⟨blank, cs', rfl, -, hread⟩ := afterBlank_eq_some_iff.mp h
  exact Nat.lt_succ_of_lt (hg _ _ _ hread).length_lt

/-- A stretch without blanks is passed over. -/
theorem afterBlank_append {xs : List Char} (hxs : ∀ c ∈ xs, isBlank c = false) (ys : List Char) :
    dropItems (afterBlank g) (xs ++ ys) = xs ++ dropItems (afterBlank g) ys ∧
      items (afterBlank g) (xs ++ ys) = items (afterBlank g) ys := by
  have hsteady := isSteady_afterBlank hg
  induction xs with
  | nil => exact ⟨rfl, rfl⟩
  | cons c xs ih =>
    obtain ⟨hc, hxs⟩ := List.forall_mem_cons.mp hxs
    have hnone : afterBlank g false (c :: (xs ++ ys)) = none := afterBlank_of_not_blank hc _
    rw [List.cons_append, hsteady.dropItems_other hnone, hsteady.items_other hnone]
    exact ⟨congrArg (c :: ·) (ih hxs).1, (ih hxs).2⟩

/-- **The items after blanks are what can be read in a text**, wherever it stands. -/
theorem mem_items_afterBlank_iff {t a : List Char} :
    a ∈ items (afterBlank g) t ↔
      ∃ cs rest, cs <:+ t ∧ afterBlank g false cs = some (a, rest) := by
  have hsteady := isSteady_afterBlank hg
  induction t using hsteady.induction with
  | nil =>
    simp only [items, scan_nil, List.filterMap_nil, List.not_mem_nil, false_iff]
    rintro ⟨cs, rest, hsuffix, hread⟩
    rw [List.suffix_nil.mp hsuffix] at hread
    cases hread
  | item t a' rest' hitem ih =>
    obtain ⟨blank, t', rfl, -, hbrackets⟩ := afterBlank_eq_some_iff.mp hitem
    obtain ⟨stretch, rfl, hstretch, -⟩ := (hg _ _ _ hbrackets).exists_stretch
    rw [hsteady.items_item hitem, List.mem_cons]
    constructor
    · rintro (rfl | hmem)
      · exact ⟨_, _, List.suffix_refl _, hitem⟩
      · obtain ⟨cs, rest, hsuffix, hread⟩ := ih.mp hmem
        exact ⟨cs, rest, (hsuffix.trans (List.suffix_append _ _)).trans (List.suffix_cons _ _), hread⟩
    · rintro ⟨cs, rest, hsuffix, hread⟩
      rcases List.suffix_cons_iff.mp hsuffix with rfl | hsuffix
      · rw [hread] at hitem
        exact .inl (Prod.mk.inj (Option.some.inj hitem)).1
      · -- nothing is read inside of the tag, since it has no blanks
        have hblank : ∀ c ∈ stretch, c ∉ cs.head? := by
          obtain ⟨blank, cs', rfl, hblank, -⟩ := afterBlank_eq_some_iff.mp hread
          intro c hc hhead
          obtain rfl := Option.some.inj hhead
          rw [hstretch _ hc] at hblank
          cases hblank
        exact .inr (ih.mpr ⟨cs, rest, suffix_of_suffix_append hblank hsuffix, hread⟩)
  | other c t hnone ih =>
    rw [hsteady.items_other hnone]
    constructor
    · intro hmem
      obtain ⟨cs, rest, hsuffix, hread⟩ := ih.mp hmem
      exact ⟨cs, rest, hsuffix.trans (List.suffix_cons c t), hread⟩
    · rintro ⟨cs, rest, hsuffix, hread⟩
      rcases List.suffix_cons_iff.mp hsuffix with rfl | hsuffix
      · rw [hread] at hnone
        cases hnone
      · exact ih.mpr ⟨cs, rest, hsuffix, hread⟩

/-- The items after blanks are of the text. -/
theorem subset_of_mem_items {t a : List Char} (h : a ∈ items (afterBlank g) t) : a ⊆ t := by
  obtain ⟨cs, rest, hsuffix, hread⟩ := (mem_items_afterBlank_iff hg).mp h
  exact List.Subset.trans (afterBlank_subset hg hread).1 hsuffix.subset

end

/-! ### One pass or two -/

/-- Reads a tag in any case after a blank. -/
def spacedTag? : Recognizer (List Char) := afterBlank tag?

/-- A text without the tags that count. -/
def withoutTags (cs : List Char) : List Char := dropItems spacedTag? cs

theorem spacedTag?_eq (b : Bool) (cs : List Char) :
    spacedTag? b cs = (spacedStrongs? b cs).or (spacedMorph? b cs) := by
  cases cs with
  | nil => rfl
  | cons c cs =>
    simp only [spacedTag?, spacedStrongs?, spacedMorph?, afterBlank]
    split <;> rfl

theorem isSteady_spacedStrongs? : IsSteady spacedStrongs? :=
  isSteady_afterBlank readsBrackets_strongs?

theorem isSteady_spacedMorph? : IsSteady spacedMorph? := isSteady_afterBlank readsBrackets_morph?

theorem isSteady_spacedTag? : IsSteady spacedTag? := isSteady_afterBlank readsBrackets_tag?

/-- Where a number stands no morphology tag does. -/
theorem spacedMorph?_eq_none {b : Bool} {cs number rest : List Char}
    (h : spacedStrongs? b cs = some (number, rest)) : spacedMorph? b cs = none := by
  obtain ⟨blank, cs', rfl, hblank, hread⟩ := afterBlank_eq_some_iff.mp h
  obtain ⟨-, rfl⟩ := strongs?_eq_some_iff.mp hread
  simp [spacedMorph?, afterBlank, hblank, morph?, sign?_cons_of_ne (show '<' ≠ '\x7b' by decide)]

/-- **Numbers and then tags are dropped, or both at once**, unless a tag comes to be when the numbers
are gone. -/
theorem dropItems_dropItems (cs : List Char) :
    (items spacedMorph? (dropItems spacedStrongs? cs)).length = (items spacedMorph? cs).length ∧
        dropItems spacedMorph? (dropItems spacedStrongs? cs) = withoutTags cs ∨
      (items spacedMorph? cs).length
        < (items spacedMorph? (dropItems spacedStrongs? cs)).length := by
  have hstrongs := isSteady_spacedStrongs?
  have hmorph := isSteady_spacedMorph?
  have htag := isSteady_spacedTag?
  induction cs using htag.induction with
  | nil => exact .inl (by simp [withoutTags, dropItems, replaceItems])
  | item cs a rest hread ih =>
    have hboth : withoutTags cs = withoutTags rest := htag.dropItems_item hread
    rw [spacedTag?_eq] at hread
    rcases Option.or_eq_some_iff.mp hread with hnumber | ⟨hnumber, htag⟩
    · have hnone := spacedMorph?_eq_none hnumber
      obtain ⟨blank, cs', rfl, -, hbrackets⟩ := afterBlank_eq_some_iff.mp hnumber
      obtain ⟨stretch, rfl, hstretch, -⟩ := (readsBrackets_strongs? _ _ _ hbrackets).exists_stretch
      have hitems : items spacedMorph? (blank :: (stretch ++ rest)) = items spacedMorph? rest :=
        (hmorph.items_other hnone).trans (afterBlank_append readsBrackets_morph? hstretch rest).2
      rw [hstrongs.dropItems_item hnumber, hitems, hboth]
      exact ih
    · obtain ⟨blank, cs', rfl, hblank, hbrackets⟩ := afterBlank_eq_some_iff.mp htag
      obtain ⟨stretch, rfl, hstretch, hlater⟩ := exists_stretch_of_morph? hbrackets
      have hdrop : dropItems spacedStrongs? (blank :: (stretch ++ rest))
          = blank :: (stretch ++ dropItems spacedStrongs? rest) :=
        (hstrongs.dropItems_other hnumber).trans
          (congrArg (blank :: ·) (afterBlank_append readsBrackets_strongs? hstretch rest).1)
      have hagain : spacedMorph? false (blank :: (stretch ++ dropItems spacedStrongs? rest))
          = some (a, dropItems spacedStrongs? rest) :=
        afterBlank_eq_some_iff.mpr ⟨blank, _, rfl, hblank, hlater _⟩
      rw [hdrop, hmorph.items_item hagain, hmorph.items_item htag, hmorph.dropItems_item hagain,
        hboth, List.length_cons, List.length_cons, Nat.add_right_cancel_iff, Nat.add_lt_add_iff_right]
      exact ih
  | other c cs hread ih =>
    have hboth : withoutTags (c :: cs) = c :: withoutTags cs := htag.dropItems_other hread
    rw [spacedTag?_eq, Option.or_eq_none_iff] at hread
    rw [hstrongs.dropItems_other hread.1, hmorph.items_other hread.2, hboth]
    cases hnew : spacedMorph? false (c :: dropItems spacedStrongs? cs) with
    | none =>
      rw [hmorph.items_other hnew, hmorph.dropItems_other hnew, List.cons_inj_right]
      exact ih
    | some r =>
      -- a tag has come to be, and it is one more than before
      obtain ⟨blank, cs', heq, -, hbrackets⟩ := afterBlank_eq_some_iff.mp hnew
      obtain ⟨-, rfl⟩ := List.cons.inj heq
      obtain ⟨stretch, hdrop, hstretch, -⟩ := exists_stretch_of_morph? hbrackets
      have hitems : items spacedMorph? (dropItems spacedStrongs? cs) = items spacedMorph? r.2 := by
        rw [hdrop]
        exact (afterBlank_append readsBrackets_morph? hstretch r.2).2
      rw [hitems] at ih
      right
      rw [hmorph.items_item hnew, List.length_cons]
      omega

end Extract

end Concordance
