import Concordance.Proofs.Markup.Brackets

/-!
# Words and tags

The words of a text are read with its tags left out, and tags are spelled in two ways. A tag counts if
it stands after a blank, in any case; but where tags are to join the words that they split, they are
spelled in capitals, they may be empty, and blanks before them are optional. Where the two spellings
agree about the tags of a text, its words are those of the text without tags. A tag that counts and is
not in capitals leaves its own letters among the words.

## Main definitions

* `Extract.TagsAgree` — both spellings agree about the tags of a text

## Main results

* `Extract.mem_words_of_tags` — which tags are kept apart from the words, and which are not
-/

namespace Concordance

namespace Extract

open Markup Text

/-! ### Tags in capitals -/

/-- Reads a tag in capitals with the blanks before it, and gives where it stands: the text from the
blanks on, and the text after the tag. -/
def capitalPlace? : Recognizer (List Char × List Char) := fun _ cs =>
  (upperTag? cs).map fun r => ((cs, r.2), r.2)

/-- Where the tags in capitals of a text stand. -/
def capitalPlaces (cs : List Char) : List (List Char × List Char) := items capitalPlace? cs

theorem upperTag?_cons_of_blank {blank : Char} (hblank : isBlank blank = true) (cs : List Char) :
    upperTag? (blank :: cs) = upperTag? cs := by
  change capitalTag? (trimStart (blank :: cs)) = capitalTag? (trimStart cs)
  rw [trimStart, List.dropWhile_cons_of_pos hblank, trimStart]

theorem upperTag?_append_of_blank {blanks : List Char} (hblanks : ∀ c ∈ blanks, isBlank c = true)
    (cs : List Char) : upperTag? (blanks ++ cs) = upperTag? cs := by
  induction blanks with
  | nil => rfl
  | cons blank blanks ih =>
    obtain ⟨hblank, hblanks⟩ := List.forall_mem_cons.mp hblanks
    rw [List.cons_append, upperTag?_cons_of_blank hblank, ih hblanks]

/-- A tag in capitals stands in brackets, and its brackets tell its kind. -/
theorem exists_of_capitalTag? {cs rest : List Char} (h : capitalTag? cs = some ((), rest)) :
    ∃ body, OpensWith cs body rest ∧
      (cs.head? = some '<' ∧ (∃ c ds, body = c :: ds ∧ isLanguage c = true ∧
          ∀ d ∈ ds, isDigit d = true) ∨
        cs.head? = some '\x7b' ∧ ∀ c ∈ body, isUpperTagChar c = true) := by
  rcases capitalTag?_eq_some_iff.mp h with ⟨c, ds, hc, hds, rfl⟩ | ⟨body, hbody, rfl⟩
  · refine ⟨c :: ds, ⟨⟨('<', '>'), by decide, rfl⟩,
      within_of_forall (p := fun c => isLanguageAnyCase c || isDigit c) ?_
        (fun _ => isNumberChar_of_isBlank) (by decide)⟩, .inl ⟨rfl, c, ds, rfl, hc, hds⟩⟩
    intro d hd
    rcases List.mem_cons.mp hd with rfl | hd
    · simp [isLanguageAnyCase, hc]
    · simp [hds d hd]
  · exact ⟨body, ⟨⟨('\x7b', '\x7d'), by decide, rfl⟩,
      within_of_forall hbody (fun _ => isUpperTagChar_of_isBlank) (by decide)⟩, .inr ⟨rfl, hbody⟩⟩

/-- Blanks come before the brackets. -/
theorem exists_of_upperTag? {cs rest : List Char} (h : upperTag? cs = some ((), rest)) :
    ∃ blanks cs' body, cs = blanks ++ cs' ∧ (∀ c ∈ blanks, isBlank c = true) ∧
      OpensWith cs' body rest := by
  obtain ⟨body, hopens, -⟩ := exists_of_capitalTag? (h : capitalTag? (trimStart cs) = some ((), rest))
  exact ⟨cs.takeWhile isBlank, trimStart cs, body, (List.takeWhile_append_dropWhile).symm,
    List.all_eq_true.mp List.all_takeWhile, hopens⟩

/-- A number in its brackets is a tag in capitals if it is written in capitals. -/
theorem upperTag?_number {number : List Char} (h : IsNumber isLanguageAnyCase number)
    (rest : List Char) :
    upperTag? ('<' :: number ++ '>' :: rest)
      = if IsNumber isLanguage number then some ((), rest) else none := by
  have hopens : OpensWith ('<' :: number ++ '>' :: rest) number rest :=
    readsBrackets_strongs? _ _ _ (strongs?_eq_some_iff.mpr ⟨h, rfl⟩)
  change capitalTag? (trimStart ('<' :: (number ++ '>' :: rest))) = _
  rw [trimStart_of_not_blank (by decide)]
  split
  · rename_i hcapitals
    obtain ⟨c, ds, rfl, hc, -, hds⟩ := hcapitals
    exact capitalTag?_eq_some_iff.mpr (.inl ⟨c, ds, hc, hds, rfl⟩)
  · rename_i hcapitals
    rw [Option.eq_none_iff_forall_ne_some]
    rintro ⟨u, later⟩ hread
    obtain ⟨body, hopens', hkind⟩ := exists_of_capitalTag? hread
    obtain rfl := (hopens'.unique hopens).1
    rcases hkind with ⟨-, c, ds, rfl, hc, hds⟩ | ⟨hbrace, -⟩
    · obtain ⟨_, _, heq, -, hne, -⟩ := h
      obtain ⟨rfl, rfl⟩ := List.cons.inj heq
      exact hcapitals ⟨c, ds, rfl, hc, hne, hds⟩
    · cases hbrace

/-- A tag in its braces is a tag in capitals if it is written in capitals. -/
theorem upperTag?_morph {tag : List Char} (hne : tag ≠ []) (h : ∀ c ∈ tag, isTagChar c = true)
    (rest : List Char) :
    upperTag? ('\x7b' :: tag ++ '\x7d' :: rest)
      = if tag.all isUpperTagChar = true then some ((), rest) else none := by
  have hopens : OpensWith ('\x7b' :: tag ++ '\x7d' :: rest) tag rest :=
    readsBrackets_morph? _ _ _ (morph?_eq_some_iff.mpr ⟨hne, h, rfl⟩)
  change capitalTag? (trimStart ('\x7b' :: (tag ++ '\x7d' :: rest))) = _
  rw [trimStart_of_not_blank (by decide)]
  split
  · rename_i hcapitals
    exact capitalTag?_eq_some_iff.mpr (.inr ⟨tag, List.all_eq_true.mp hcapitals, rfl⟩)
  · rename_i hcapitals
    rw [Option.eq_none_iff_forall_ne_some]
    rintro ⟨u, later⟩ hread
    obtain ⟨body, hopens', hkind⟩ := exists_of_capitalTag? hread
    obtain rfl := (hopens'.unique hopens).1
    rcases hkind with ⟨hangle, -⟩ | ⟨-, hbody⟩
    · cases hangle
    · exact hcapitals (List.all_eq_true.mpr hbody)

theorem isSteady_upperTag? : IsSteady fun _ => upperTag? := by
  refine ⟨fun _ _ => rfl, fun {cs u rest} h => ?_⟩
  obtain ⟨blanks, cs', body, rfl, -, hopens⟩ := exists_of_upperTag? h
  have hlen := hopens.length_lt
  rw [List.length_append]
  omega

theorem isSteady_capitalPlace? : IsSteady capitalPlace? := by
  refine ⟨fun _ _ => rfl, fun {cs a rest} h => ?_⟩
  obtain ⟨r, hread, heq⟩ := Option.map_eq_some_iff.mp h
  obtain ⟨-, rfl⟩ := Prod.mk.inj heq
  exact isSteady_upperTag?.length_lt hread

/-- **Both spellings agree about the tags of a text.** -/
structure TagsAgree (cs : List Char) : Prop where
  /-- The numbers that count are written in capitals. -/
  strongs : ∀ number ∈ items spacedStrongs? cs, IsNumber isLanguage number
  /-- The tags that count are written in capitals, digits and hyphens. -/
  morph : ∀ tag ∈ items spacedMorph? cs, ∀ c ∈ tag, isUpperTagChar c = true
  /-- No tag comes to be when the numbers are dropped. -/
  apart : items spacedMorph? (dropItems spacedStrongs? cs) = items spacedMorph? cs
  /-- A tag in capitals counts, with one blank before it, or else no word goes on after it. -/
  within : ∀ p ∈ capitalPlaces cs, (spacedTag? false p.1).map Prod.snd = some p.2 ∨
    ∀ c ∈ (joined p.2).head?, isWordChar c = false

instance (cs : List Char) : Decidable (TagsAgree cs) :=
  decidable_of_iff
    ((∀ number ∈ items spacedStrongs? cs, IsNumber isLanguage number) ∧
      (∀ tag ∈ items spacedMorph? cs, tag.all isUpperTagChar = true) ∧
      items spacedMorph? (dropItems spacedStrongs? cs) = items spacedMorph? cs ∧
      ∀ p ∈ capitalPlaces cs, (spacedTag? false p.1).map Prod.snd = some p.2 ∨
        (joined p.2).head?.any isWordChar = false)
    (by
      simp only [List.all_eq_true, Option.any_eq_false, ← Option.mem_def]
      exact ⟨fun ⟨h₁, h₂, h₃, h₄⟩ => ⟨h₁, h₂, h₃, h₄⟩, fun ⟨h₁, h₂, h₃, h₄⟩ => ⟨h₁, h₂, h₃, h₄⟩⟩)

/-- A tag that counts is a tag in capitals. -/
theorem TagsAgree.upperTag?_eq {cs : List Char} (h : TagsAgree cs) {cs' tag rest : List Char}
    (hsuffix : cs' <:+ cs) (hread : spacedTag? false cs' = some (tag, rest)) :
    upperTag? cs' = some ((), rest) := by
  rw [spacedTag?_eq] at hread
  rcases Option.or_eq_some_iff.mp hread with hnumber | ⟨-, htag⟩
  · have hcapitals := h.strongs tag
      ((mem_items_afterBlank_iff readsBrackets_strongs?).mpr ⟨_, _, hsuffix, hnumber⟩)
    obtain ⟨blank, cs'', rfl, hblank, hbrackets⟩ := afterBlank_eq_some_iff.mp hnumber
    obtain ⟨hany, rfl⟩ := strongs?_eq_some_iff.mp hbrackets
    rw [upperTag?_cons_of_blank hblank, upperTag?_number hany, if_pos hcapitals]
  · have hcapitals := h.morph tag
      ((mem_items_afterBlank_iff readsBrackets_morph?).mpr ⟨_, _, hsuffix, htag⟩)
    obtain ⟨blank, cs'', rfl, hblank, hbrackets⟩ := afterBlank_eq_some_iff.mp htag
    obtain ⟨hne, hall, rfl⟩ := morph?_eq_some_iff.mp hbrackets
    rw [upperTag?_cons_of_blank hblank, upperTag?_morph hne hall,
      if_pos (List.all_eq_true.mpr hcapitals)]

/-- What stays of a tag in capitals among the tags that count are blanks, or all of it. -/
theorem exists_withoutTags {blanks cs body rest : List Char}
    (hblanks : ∀ c ∈ blanks, isBlank c = true)
    (h : OpensWith cs body rest) :
    ∃ stretch, withoutTags (blanks ++ cs) = stretch ++ withoutTags rest ∧
      (∀ c ∈ stretch.head?, isWordChar c = false) ∧
      ∀ c ∈ stretch.getLast?, isWordChar c = false := by
  induction blanks with
  | nil =>
    obtain ⟨stretch, rfl, hstretch, hhead, hlast⟩ := h.exists_stretch
    exact ⟨stretch, (afterBlank_append readsBrackets_tag? hstretch rest).1, hhead, hlast⟩
  | cons blank blanks ih =>
    obtain ⟨hblank, hblanks⟩ := List.forall_mem_cons.mp hblanks
    cases hread : spacedTag? false (blank :: (blanks ++ cs)) with
    | none =>
      obtain ⟨stretch, heq, -, hlast⟩ := ih hblanks
      refine ⟨blank :: stretch, ?_, ?_, ?_⟩
      · rw [List.cons_append, withoutTags, isSteady_spacedTag?.dropItems_other hread]
        exact congrArg (blank :: ·) heq
      · simpa using isWordChar_of_isBlank hblank
      · rw [List.getLast?_cons]
        rintro _ ⟨⟩
        cases hstretch : stretch.getLast? with
        | none => exact isWordChar_of_isBlank hblank
        | some d => exact hlast d hstretch
    | some r =>
      refine ⟨[], ?_, by simp, by simp⟩
      obtain ⟨_, _, heq, -, htag⟩ := afterBlank_eq_some_iff.mp hread
      obtain ⟨rfl, rfl⟩ := List.cons.inj heq
      have hopens := readsBrackets_tag? _ _ _ htag
      -- brackets do not begin with a blank, so that there is one blank only
      obtain rfl : blanks = [] := by
        cases blanks with
        | nil => rfl
        | cons c blanks =>
          have hc := hopens.head?_not_blank c (by simp)
          rw [hblanks c (by simp)] at hc
          cases hc
      rw [List.cons_append, withoutTags, isSteady_spacedTag?.dropItems_item hread,
        (hopens.unique h).2]
      rfl

/-- The words of a text without tags in capitals are among those of the text without the tags that
count, whatever stands before both. -/
theorem runs_joined_subset {cs : List Char} (h : TagsAgree cs) {cs' : List Char}
    (hsuffix : cs' <:+ cs)
    (hwithin : ∀ p ∈ capitalPlaces cs', (spacedTag? false p.1).map Prod.snd = some p.2 ∨
      ∀ c ∈ (joined p.2).head?, isWordChar c = false) (before : List Char) :
    ∀ w ∈ runs isWordChar (before ++ joined cs'),
      w ∈ runs isWordChar (before ++ withoutTags cs') := by
  induction cs' using isSteady_upperTag?.induction generalizing before with
  | nil => simp [joined, withoutTags, dropItems, replaceItems]
  | item cs' u rest hread ih =>
    have hjoined : joined cs' = joined rest := isSteady_upperTag?.dropItems_item hread
    have hplace : capitalPlace? false cs' = some ((cs', rest), rest) :=
      Option.map_eq_some_iff.mpr ⟨_, hread, rfl⟩
    rw [capitalPlaces, isSteady_capitalPlace?.items_item hplace, List.forall_mem_cons] at hwithin
    obtain ⟨hhere, hlater⟩ := hwithin
    obtain ⟨blanks, cs'', body, rfl, hblanks, hopens⟩ := exists_of_upperTag? hread
    have hrest : rest <:+ cs := by
      obtain ⟨stretch, rfl, -⟩ := hopens.exists_stretch
      exact ((List.suffix_append _ _).trans (List.suffix_append _ _)).trans hsuffix
    have ih := ih hrest hlater
    rw [hjoined]
    rcases hhere with hcounts | hends
    · obtain ⟨⟨tag, _⟩, htag, rfl⟩ := Option.map_eq_some_iff.mp hcounts
      rw [withoutTags, isSteady_spacedTag?.dropItems_item htag]
      exact ih before
    · obtain ⟨stretch, hstays, hhead, hlast⟩ := exists_withoutTags hblanks hopens
      rw [hstays]
      cases stretch with
      | nil => exact ih before
      | cons d stretch =>
        -- the words on either side of the tag are apart in both texts
        have hapart : ∀ c ∈ (d :: stretch ++ withoutTags rest).head?, isWordChar c = false := hhead
        rw [runs_append_of_after hends, runs_append_of_after hapart, runs_append_of_before hlast]
        intro w hw
        rcases List.mem_append.mp hw with hw | hw
        · exact List.mem_append_left _ hw
        · exact List.mem_append_right _ (List.mem_append_right _ (ih [] w hw))
  | other c cs' hnone ih =>
    have hjoined : joined (c :: cs') = c :: joined cs' := isSteady_upperTag?.dropItems_other hnone
    have hplace : capitalPlace? false (c :: cs') = none := Option.map_eq_none_iff.mpr hnone
    have hcounts : spacedTag? false (c :: cs') = none := by
      rw [Option.eq_none_iff_forall_ne_some]
      rintro ⟨tag, rest⟩ htag
      rw [h.upperTag?_eq hsuffix htag] at hnone
      cases hnone
    rw [capitalPlaces, isSteady_capitalPlace?.items_other hplace] at hwithin
    rw [hjoined, withoutTags, isSteady_spacedTag?.dropItems_other hcounts,
      List.append_cons before c (joined cs'), List.append_cons before c (dropItems _ _)]
    exact ih ((List.suffix_cons c cs').trans hsuffix) hwithin (before ++ [c])

/-! ### Tags that are not in capitals -/

theorem joined_append {xs : List Char} (hxs : ∀ c ∈ xs, IsDull c) (ys : List Char) :
    joined (xs ++ ys) = xs ++ joined ys := by
  induction xs with
  | nil => rfl
  | cons c xs ih =>
    obtain ⟨hc, hxs⟩ := List.forall_mem_cons.mp hxs
    have hnone : upperTag? (c :: (xs ++ ys)) = none := reads_upperTag?.dull (b := false) hc
    rw [List.cons_append, joined, isSteady_upperTag?.dropItems_other hnone]
    exact congrArg (c :: ·) (ih hxs)

/-- Brackets that are not read as a tag in capitals stay. -/
theorem exists_joined {p : Char × Char} (hp : p ∈ brackets) {body rest : List Char}
    (hbody : ∀ c ∈ body, IsDull c) (hnone : upperTag? (p.1 :: body ++ p.2 :: rest) = none)
    {t : List Char} (hsuffix : p.1 :: body ++ p.2 :: rest <:+ t) :
    ∃ x y, joined t = x ++ p.1 :: (body ++ p.2 :: y) := by
  have hopen : ∀ c, IsDull c ∨ isBlank c = true → c ≠ p.1 := by
    have hsigns : ∀ q ∈ brackets, ¬ IsDull q.1 ∧ isBlank q.1 = false := by decide
    rintro c (hc | hc) rfl
    · exact (hsigns p hp).1 hc
    · rw [(hsigns p hp).2] at hc
      cases hc
  have hclose : ∀ q ∈ brackets, IsDull q.2 := by decide
  induction t using isSteady_upperTag?.induction with
  | nil => cases List.suffix_nil.mp hsuffix
  | item t u later hread ih =>
    have hjoined : joined t = joined later := isSteady_upperTag?.dropItems_item hread
    obtain ⟨blanks, cs, body', rfl, hblanks, hopens⟩ := exists_of_upperTag? hread
    obtain ⟨q, hq, rfl⟩ := hopens.eq
    have hblank : ∀ c ∈ blanks, c ∉ (p.1 :: body ++ p.2 :: rest).head? := fun c hc hhead =>
      hopen c (.inr (hblanks c hc)) (Option.some.inj hhead).symm
    have hcs : p.1 :: body ++ p.2 :: rest <:+ q.1 :: (body' ++ q.2 :: later) :=
      suffix_of_suffix_append hblank hsuffix
    rcases List.suffix_cons_iff.mp hcs with heq | hcs
    · rw [upperTag?_append_of_blank hblanks, List.cons_append, ← heq, hnone] at hread
      cases hread
    · have hlater : p.1 :: body ++ p.2 :: rest <:+ (body' ++ [q.2]) ++ later := by
        rwa [List.append_assoc, List.singleton_append]
      rw [hjoined]
      refine ih (suffix_of_suffix_append (fun c hc hhead => ?_) hlater)
      rcases List.mem_append.mp hc with hc | hc
      · exact hopen c (.inl (hopens.within c hc).1) (Option.some.inj hhead).symm
      · obtain rfl := List.mem_singleton.mp hc
        exact hopen _ (.inl (hclose q hq)) (Option.some.inj hhead).symm
  | other c t hother ih =>
    have hjoined : joined (c :: t) = c :: joined t := isSteady_upperTag?.dropItems_other hother
    rw [hjoined]
    rcases List.suffix_cons_iff.mp hsuffix with heq | hsuffix
    · obtain ⟨rfl, rfl⟩ := List.cons.inj heq
      refine ⟨[], joined rest, ?_⟩
      have hdull : ∀ c ∈ body ++ [p.2], IsDull c := by
        intro c hc
        rcases List.mem_append.mp hc with hc | hc
        · exact hbody c hc
        · exact List.mem_singleton.mp hc ▸ hclose p hp
      have hstays : joined (body ++ p.2 :: rest) = body ++ p.2 :: joined rest := by
        simpa using joined_append hdull rest
      exact congrArg (p.1 :: ·) hstays
    · obtain ⟨x, y, heq⟩ := ih hsuffix
      exact ⟨c :: x, y, by rw [heq, List.cons_append]⟩

/-! ### What stays of a text -/

theorem span?_subset {k : SpanKind} {cs content rest : List Char}
    (h : span? k cs = some (content, rest)) : rest ⊆ cs := by
  simp only [span?, Option.bind_eq_bind, Option.bind_eq_some_iff, Option.pure_def,
    Option.some.injEq] at h
  obtain ⟨cs', hopen, ⟨inner, rest'⟩, hclose, heq⟩ := h
  obtain ⟨-, rfl⟩ := Prod.mk.inj heq
  have hcs : cs' ⊆ cs := by
    have hskip := skipBlank_subset cs
    rw [after?_eq_some_iff.mp hopen] at hskip
    exact fun c hc => hskip (List.mem_append_right _ hc)
  exact fun c hc => hcs (skipBlank_subset cs' (breakAt?_subset hclose hc))

theorem anyMark?_subset {cs rest : List Char} {u : Unit} (h : anyMark? cs = some (u, rest)) :
    rest ⊆ cs := by
  obtain ⟨rest', hfind, heq⟩ := Option.map_eq_some_iff.mp h
  obtain ⟨-, rfl⟩ := Prod.mk.inj heq
  obtain ⟨k, -, hmark⟩ := List.exists_of_findSome?_eq_some hfind
  rcases Option.or_eq_some_iff.mp hmark with hmark | ⟨-, hmark⟩
  · exact after?_eq_some_iff.mp hmark ▸ List.subset_append_right _ _
  · exact after?_eq_some_iff.mp hmark ▸ List.subset_append_right _ _

theorem withoutSpans_subset (raw : List Char) : withoutSpans raw ⊆ raw := by
  have hnotes : dropItems (fun _ => span? .note) raw ⊆ raw :=
    dropItems_subset (fun h => span?_subset h) raw
  have hmarks : withoutSpans raw ⊆ dropItems (fun _ => span? .note) raw :=
    dropItems_subset (fun h => anyMark?_subset h) _
  exact fun c hc => hnotes (hmarks hc)

theorem withoutTags_subset (cs : List Char) : withoutTags cs ⊆ cs :=
  dropItems_subset (fun h => (afterBlank_subset readsBrackets_tag? h).2) cs

theorem separated_subset (cs : List Char) : separated cs ⊆ cs := by
  have hstrongs : dropItems spacedStrongs? cs ⊆ cs :=
    dropItems_subset (fun h => (afterBlank_subset readsBrackets_strongs? h).2) cs
  have hmorph : dropItems spacedMorph? (dropItems spacedStrongs? cs) ⊆ dropItems spacedStrongs? cs :=
    dropItems_subset (fun h => (afterBlank_subset readsBrackets_morph? h).2) _
  exact fun c hc => hstrongs (hmorph (List.mem_filter.mp hc).1)

theorem joined_subset (cs : List Char) : joined cs ⊆ cs := by
  refine dropItems_subset (fun {_ cs u rest} h => ?_) cs
  obtain ⟨blanks, cs', body, rfl, -, hopens⟩ := exists_of_upperTag? h
  obtain ⟨stretch, rfl, -⟩ := hopens.exists_stretch
  exact fun c hc => List.mem_append_right _ (List.mem_append_right _ hc)

/-- **Everything that a text is found by is of the text.** -/
theorem subset_of_mem_keys {raw key : List Char} (h : key ∈ (ofText raw).keys) : key ⊆ raw := by
  have hraw := withoutSpans_subset raw
  simp only [keys, ofText, List.mem_append, List.mem_eraseDups] at h
  rcases h with (h | h) | (h | h)
  · exact List.Subset.trans (subset_of_mem_items readsBrackets_strongs? h) hraw
  · exact List.Subset.trans (subset_of_mem_items readsBrackets_morph? h) hraw
  · exact fun c hc => hraw (separated_subset _ (subset_of_mem_runs h c hc))
  · exact fun c hc => hraw (joined_subset _ (subset_of_mem_runs h c hc))

theorem separated_of_tagsAgree {raw : List Char} (hascii : IsAscii raw)
    (h : TagsAgree (withoutSpans raw)) :
    separated (withoutSpans raw) = withoutTags (withoutSpans raw) := by
  have hdrop : dropItems spacedMorph? (dropItems spacedStrongs? (withoutSpans raw))
      = withoutTags (withoutSpans raw) := by
    rcases dropItems_dropItems (withoutSpans raw) with ⟨-, heq⟩ | hlt
    · exact heq
    · rw [h.apart] at hlt
      omega
  rw [separated, hdrop, List.filter_eq_self]
  exact fun c hc => by simpa using hascii c (withoutSpans_subset raw (withoutTags_subset _ hc))

/-- The words of a text are those of the text without its tags, if both spellings agree about them. -/
theorem mem_words_iff_of_tagsAgree {raw : List Char} (hascii : IsAscii raw)
    (h : TagsAgree (withoutSpans raw)) {w : List Char} :
    w ∈ (ofText raw).words ↔ w ∈ runs isWordChar (withoutTags (withoutSpans raw)) := by
  have hjoined := runs_joined_subset h (List.suffix_refl _) h.within []
  simp only [ofText, List.mem_eraseDups, List.mem_append, separated_of_tagsAgree hascii h]
  constructor
  · rintro (hw | hw)
    · exact hw
    · exact hjoined w hw
  · exact .inl

/-- What stands in brackets that are not read as a tag in capitals is among the words. -/
theorem mem_words_of_brackets {raw : List Char} {p : Char × Char} (hp : p ∈ brackets)
    {body rest : List Char} (hbody : ∀ c ∈ body, IsDull c)
    (hnone : upperTag? (p.1 :: body ++ p.2 :: rest) = none)
    (hsuffix : p.1 :: body ++ p.2 :: rest <:+ withoutSpans raw) :
    ∀ w ∈ runs isWordChar body, w ∈ (ofText raw).words := by
  intro w hw
  obtain ⟨-, -, hopen, hclose⟩ := brackets_signs p hp
  obtain ⟨x, y, hjoined⟩ := exists_joined hp hbody hnone hsuffix
  have hruns : w ∈ runs isWordChar (joined (withoutSpans raw)) := by
    rw [hjoined, runs_append_cons hopen, runs_append_cons hclose]
    exact List.mem_append_right _ (List.mem_append_left _ hw)
  simp only [ofText, List.mem_eraseDups, List.mem_append]
  exact .inr hruns

/-- **Which tags are kept apart from the words, and which are not.** Notes and the marks of spans are
left out before. If both spellings agree about the tags, the words are those of the text without its
tags, and a word that is split by tags is one word. But what is in the brackets of a number or a tag
that counts without being written in capitals is among the words. -/
theorem mem_words_of_tags {raw : List Char} :
    (IsAscii raw → TagsAgree (withoutSpans raw) → ∀ w,
      (w ∈ (ofText raw).words ↔ w ∈ runs isWordChar (withoutTags (withoutSpans raw)))) ∧
    (∀ number ∈ (ofText raw).strongs, ¬ IsNumber isLanguage number →
      ∀ w ∈ runs isWordChar number, w ∈ (ofText raw).words) ∧
    (∀ tag ∈ (ofText raw).morph, ¬ (∀ c ∈ tag, isUpperTagChar c = true) →
      ∀ w ∈ runs isWordChar tag, w ∈ (ofText raw).words) := by
  refine ⟨fun hascii h w => mem_words_iff_of_tagsAgree hascii h, ?_, ?_⟩
  · intro number hnumber hcapitals
    obtain ⟨cs, rest, hsuffix, hread⟩ :=
      (mem_items_afterBlank_iff readsBrackets_strongs?).mp hnumber
    obtain ⟨blank, cs', rfl, -, hbrackets⟩ := afterBlank_eq_some_iff.mp hread
    have hopens := readsBrackets_strongs? _ _ _ hbrackets
    obtain ⟨hany, rfl⟩ := strongs?_eq_some_iff.mp hbrackets
    have hnone : upperTag? ('<' :: number ++ '>' :: rest) = none := by
      rw [upperTag?_number hany, if_neg hcapitals]
    exact mem_words_of_brackets (p := ('<', '>')) (by decide) (fun c hc => (hopens.within c hc).1)
      hnone ((List.suffix_cons _ _).trans hsuffix)
  · intro tag htag hcapitals
    obtain ⟨cs, rest, hsuffix, hread⟩ :=
      (mem_items_afterBlank_iff readsBrackets_morph?).mp htag
    obtain ⟨blank, cs', rfl, -, hbrackets⟩ := afterBlank_eq_some_iff.mp hread
    have hopens := readsBrackets_morph? _ _ _ hbrackets
    obtain ⟨hne, hall, rfl⟩ := morph?_eq_some_iff.mp hbrackets
    have hnone : upperTag? ('\x7b' :: tag ++ '\x7d' :: rest) = none := by
      rw [upperTag?_morph hne hall, if_neg fun h => hcapitals (List.all_eq_true.mp h)]
    exact mem_words_of_brackets (p := ('\x7b', '\x7d')) (by decide)
      (fun c hc => (hopens.within c hc).1) hnone ((List.suffix_cons _ _).trans hsuffix)

/-- A text with a note, with a tag that splits a word, and with a tag that does not count. -/
def beginnings : List Char := "In the beginning <H7225>s God{N-FS}, <n>see <h1></n>made.".toList

theorem mem_words_beginnings :
    IsAscii beginnings ∧ TagsAgree (withoutSpans beginnings) ∧
      "beginnings".toList ∈ (ofText beginnings).words ∧ "N".toList ∈ (ofText beginnings).words ∧
      "H7225".toList ∉ (ofText beginnings).words := by
  have hascii : IsAscii beginnings := by
    have hall : beginnings.all (fun c => c.toNat < 0x80) = true := by decide +kernel
    simpa [IsAscii] using hall
  have hagree : TagsAgree (withoutSpans beginnings) := by decide +kernel
  have hwords := mem_words_of_tags.1 hascii hagree
  refine ⟨hascii, hagree, ?_⟩
  simp only [hwords]
  decide +kernel

/-- A number that is not written in capitals is among the words. -/
theorem mem_words_lowerNumber :
    (ofText "God <h430>".toList).strongs = ["h430".toList] ∧
      withoutTags (withoutSpans "God <h430>".toList) = "God".toList ∧
      "h430".toList ∈ (ofText "God <h430>".toList).words ∧
      "h430".toList ∉ runs isWordChar (withoutTags (withoutSpans "God <h430>".toList)) := by
  decide +kernel

end Extract

end Concordance
