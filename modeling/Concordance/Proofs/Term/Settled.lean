import Concordance.Proofs.Term.Readers

/-!
# Tags in their one form

Putting the tags of a text into their one form is done in two passes, one for Strong's numbers and one for
morphology tags. What the first pass leaves is settled: each word that is a Strong's number stands in
its brackets, in upper case. The second pass changes what stands between signs that are no brackets of
numbers, and makes no new numbers of it; so the text stays settled. A settled text is left as it is by
the first pass, and what the second pass leaves by the second. So nothing is left to be done.

## Main definitions

* `Term.canonicalNumbers`, `Term.canonicalMorph` — the two passes
* `Term.IsSettled` — a text in which each Strong's number is in its one form

## Main results

* `Term.IsSettled.canonicalNumbers_eq` — a settled text is left as it is by the first pass
* `Term.isSettled_canonicalNumbers` — the first pass leaves a settled text
* `Term.IsSettled.canonicalMorph` — the second pass keeps texts settled
* `Term.canonicalTags_canonicalTags` — a text with its tags in their one form is left as it is
-/

namespace Concordance

namespace Term

open Markup Text

/-- A text with its Strong's numbers in their one form. -/
def canonicalNumbers (cs : List Char) : List Char :=
  replaceItems looseStrongs? (fun number => inAngles (upper number)) cs

/-- A text with its morphology tags in their one form. -/
def canonicalMorph (cs : List Char) : List Char :=
  replaceItems boundedMorph? (fun tag => inBraces (upper tag)) cs

theorem canonicalTags_eq (cs : List Char) : canonicalTags cs = canonicalMorph (canonicalNumbers cs) :=
  rfl

variable {c : Char} {cs w tag rest : List Char}

/-! ### The first pass -/

theorem canonicalNumbers_nil : canonicalNumbers [] = [] := by
  simp [canonicalNumbers, replaceItems]

/-- A word with the text after it is read in one way. -/
theorem eq_of_append_eq {w' rest' : List Char} (hw : ∀ c ∈ w, isWordChar c = true)
    (hrest : startsInWord rest = false) (hw' : ∀ c ∈ w', isWordChar c = true)
    (hrest' : startsInWord rest' = false) (h : w ++ rest = w' ++ rest') : w = w' ∧ rest = rest' :=
  run_append_inj hw (startsInWord_eq_false_iff.mp hrest) hw' (startsInWord_eq_false_iff.mp hrest') h

theorem looseNumber?_of_isNumber (hw : IsNumber isLanguageAnyCase w) (hrest : startsInWord rest = false) :
    looseNumber? (w ++ rest) = some (w, skipSign '>' rest) :=
  looseNumber?_eq_some_iff.mpr ⟨hw, rest, rfl, hrest, rfl⟩

theorem looseNumber?_eq_none_of_word (hw : ∀ c ∈ w, isWordChar c = true)
    (hnumber : ¬ IsNumber isLanguageAnyCase w) (hrest : startsInWord rest = false) :
    looseNumber? (w ++ rest) = none := by
  rw [Option.eq_none_iff_forall_ne_some]
  rintro ⟨number, after⟩ hread
  obtain ⟨hnumber', rest', heq, hrest', -⟩ := looseNumber?_eq_some_iff.mp hread
  obtain ⟨rfl, -⟩ := eq_of_append_eq hw hrest (isWordChar_of_isNumber hnumber') hrest' heq
  exact hnumber hnumber'

theorem length_skipSign_le (c : Char) (cs : List Char) : (skipSign c cs).length ≤ cs.length := by
  obtain ⟨sign, hcs, -⟩ := exists_skipSign c cs
  have hlen := congrArg List.length hcs
  rw [List.length_append] at hlen
  omega

/-- No Strong's number starts at a sign but in brackets. -/
theorem looseStrongs?_of_sign (hc : isWordChar c = false) (afterWord : Bool) :
    looseStrongs? afterWord (c :: cs) = (sign? '<' (c :: cs)).bind looseNumber? := by
  have hnone : looseNumber? (c :: cs) = none :=
    looseNumber?_eq_none_of_word (w := []) (fun _ h => nomatch h) (by rintro ⟨d, ds, h, -⟩; cases h) hc
  rw [looseStrongs?_eq, hnone]
  simp

theorem scanFrom_of_sign (h : startsInWord rest = false) (afterWord : Bool) :
    scanFrom looseStrongs? afterWord rest = scan looseStrongs? rest := by
  cases rest with
  | nil => simp
  | cons c cs => rw [scan, scanFrom, scanFrom, looseStrongs?_of_sign h, looseStrongs?_of_sign h]

/-- A word that is no number is passed over. -/
theorem canonicalNumbers_word (hw : ∀ c ∈ w, isWordChar c = true)
    (hnumber : ¬ IsNumber isLanguageAnyCase w) (hrest : startsInWord rest = false) :
    canonicalNumbers (w ++ rest) = w ++ canonicalNumbers rest := by
  have hscan : scan looseStrongs? (w ++ rest) = w.map .other ++ scan looseStrongs? rest := by
    rw [scan, scanFrom_append, scanFrom_of_sign hrest]
    intro before d after hsplit
    have hsign : sign? '<' (d :: (after ++ rest)) = none := by
      refine sign?_cons_of_ne ?_ _
      rintro rfl
      exact absurd (hw '<' (by simp [hsplit])) (by decide)
    rw [looseStrongs?_eq, hsign, Option.bind_none, Option.none_or]
    rcases before.eq_nil_or_concat with rfl | ⟨before, e, rfl⟩
    · have hnone := looseNumber?_eq_none_of_word hw hnumber hrest
      rw [hsplit] at hnone
      simpa [endsInWord] using hnone
    · have he : isWordChar e = true := hw e (by simp [hsplit])
      simp [endsInWord, he]
  simp [canonicalNumbers, replaceItems, hscan, List.flatMap_map]

/-- What is read at the start of a text is put into its one form. -/
theorem canonicalNumbers_read {number : List Char} (hread : looseStrongs? false cs = some (number, rest))
    (hlen : rest.length < cs.length) :
    canonicalNumbers cs = inAngles (upper number) ++ canonicalNumbers rest := by
  cases cs with
  | nil => simp at hlen
  | cons c cs =>
    rw [canonicalNumbers, replaceItems, scan, scanFrom_item hread (Nat.le_of_lt_succ hlen),
      List.flatMap_cons]
    rfl

/-- A number is put into its one form. -/
theorem canonicalNumbers_number (hw : IsNumber isLanguageAnyCase w) (hrest : startsInWord rest = false) :
    canonicalNumbers (w ++ rest) = inAngles (upper w) ++ canonicalNumbers (skipSign '>' rest) := by
  have hlen := length_skipSign_le '>' rest
  have hpos := List.length_pos_iff.mpr (ne_nil_of_isNumber hw)
  refine canonicalNumbers_read ?_ (by rw [List.length_append]; omega)
  have hsign : sign? '<' (w ++ rest) = none := by
    obtain ⟨c, ds, rfl, hc, -⟩ := hw
    refine sign?_cons_of_ne ?_ _
    rintro rfl
    exact absurd hc (by decide)
  rw [looseStrongs?_eq, hsign, looseNumber?_of_isNumber hw hrest]
  rfl

/-- A number after a bracket is put into its one form. -/
theorem canonicalNumbers_angle (hw : IsNumber isLanguageAnyCase w) (hrest : startsInWord rest = false) :
    canonicalNumbers ('<' :: (w ++ rest))
      = inAngles (upper w) ++ canonicalNumbers (skipSign '>' rest) := by
  have hlen := length_skipSign_le '>' rest
  refine canonicalNumbers_read ?_ (by rw [List.length_cons, List.length_append]; omega)
  rw [looseStrongs?_of_sign (by decide), sign?_cons_self]
  exact looseNumber?_of_isNumber hw hrest

/-- A sign is passed over, if it is no bracket of a number. -/
theorem canonicalNumbers_sign (hc : isWordChar c = false) (h : c = '<' → looseNumber? cs = none) :
    canonicalNumbers (c :: cs) = c :: canonicalNumbers cs := by
  have hread : looseStrongs? false (c :: cs) = none := by
    rw [looseStrongs?_of_sign hc, Option.bind_eq_none_iff]
    intro rest hrest
    obtain ⟨rfl, rfl⟩ := List.cons.inj (sign?_eq_some_iff.mp hrest)
    exact h rfl
  rw [canonicalNumbers, replaceItems, scan, scanFrom_other hread, hc, List.flatMap_cons]
  rfl

/-! ### Settled texts -/

/-- A text, after a sign or at the start, in which each Strong's number is in its one form: a word that is
a number is in upper case and stands in brackets. -/
inductive IsSettled : Option Char → List Char → Prop
  /-- A word at the end of a text is no number. -/
  | word {sign? : Option Char} {w : List Char} (hw : ∀ c ∈ w, isWordChar c = true)
      (hnumber : ¬ IsNumber isLanguageAnyCase w) : IsSettled sign? w
  /-- A word before another sign is no number, or else both signs are its brackets. -/
  | split {sign? : Option Char} {w : List Char} {c : Char} {cs : List Char}
      (hw : ∀ d ∈ w, isWordChar d = true) (hc : isWordChar c = false)
      (hnumber : IsNumber isLanguageAnyCase w → upper w = w ∧ sign? = some '<' ∧ c = '>')
      (hcs : IsSettled (some c) cs) : IsSettled sign? (w ++ c :: cs)

variable {sign? sign?' : Option Char} {xs : List Char}

theorem inAngles_append (number cs : List Char) :
    inAngles number ++ cs = '<' :: (number ++ '>' :: cs) := by
  simp [inAngles]

theorem inBraces_append (tag cs : List Char) :
    inBraces tag ++ cs = '\x7b' :: (tag ++ '\x7d' :: cs) := by
  simp [inBraces]

theorem not_isNumber_nil : ¬ IsNumber isLanguageAnyCase [] := by
  rintro ⟨c, ds, h, -⟩
  cases h

namespace IsSettled

/-- **A settled text is left as it is by the first pass**, with the sign before it. -/
theorem canonicalNumbers_append (h : IsSettled sign? cs) (hsign : ∀ c ∈ sign?, isWordChar c = false) :
    canonicalNumbers (sign?.toList ++ cs) = sign?.toList ++ cs := by
  -- a word that is no number may stand after any sign
  have hpass : ∀ {sign? : Option Char} {w rest : List Char}, (∀ c ∈ sign?, isWordChar c = false) →
      (∀ c ∈ w, isWordChar c = true) → ¬ IsNumber isLanguageAnyCase w → startsInWord rest = false →
      canonicalNumbers (sign?.toList ++ (w ++ rest))
        = sign?.toList ++ (w ++ canonicalNumbers rest) := by
    intro sign? w rest hsign hw hnumber hrest
    cases sign? with
    | none => exact canonicalNumbers_word hw hnumber hrest
    | some c =>
      rw [Option.toList_some, List.singleton_append, canonicalNumbers_sign (hsign c rfl) fun _ =>
        looseNumber?_eq_none_of_word hw hnumber hrest, canonicalNumbers_word hw hnumber hrest]
      rfl
  induction h with
  | word hw hnumber =>
    have hword := hpass hsign hw hnumber (show startsInWord [] = false from rfl)
    rwa [List.append_nil, canonicalNumbers_nil, List.append_nil] at hword
  | @split sign? w c cs hw hc hnumber hcs ih =>
    have hstarts : startsInWord (c :: cs) = false := hc
    have ih := ih fun d hd => Option.some.inj hd ▸ hc
    rw [Option.toList_some, List.singleton_append] at ih
    by_cases hw' : IsNumber isLanguageAnyCase w
    · obtain ⟨hupper, rfl, rfl⟩ := hnumber hw'
      rw [canonicalNumbers_sign hc fun h => absurd h (by decide)] at ih
      have hskip : skipSign '>' ('>' :: cs) = cs := by simp [skipSign]
      rw [Option.toList_some, List.singleton_append, canonicalNumbers_angle hw' hstarts, hskip, hupper,
        (List.cons.inj ih).2, inAngles, List.append_assoc, List.cons_append]
      rfl
    · rw [hpass hsign hw hw' hstarts, ih]

theorem canonicalNumbers_eq (h : IsSettled none cs) : canonicalNumbers cs = cs :=
  h.canonicalNumbers_append (fun _ h => nomatch h)

/-- After a sign that is no bracket of a number, no number is settled, and it may be any other sign. -/
theorem of_ne (h : IsSettled sign? cs) (hne : sign? ≠ some '<') : IsSettled sign?' cs := by
  cases h with
  | word hw hnumber => exact .word hw hnumber
  | split hw hc hnumber hcs => exact .split hw hc (fun hw' => absurd (hnumber hw').2.1 hne) hcs

/-- A text is settled in one way. -/
theorem split_inv (h : IsSettled sign? (w ++ c :: cs)) (hw : ∀ d ∈ w, isWordChar d = true)
    (hc : isWordChar c = false) :
    (IsNumber isLanguageAnyCase w → upper w = w ∧ sign? = some '<' ∧ c = '>') ∧
      IsSettled (some c) cs := by
  generalize hxs : w ++ c :: cs = xs at h
  cases h with
  | word hw' hnumber =>
    have hword : isWordChar c = true := hw' c (by simp [← hxs])
    rw [hc] at hword
    cases hword
  | split hw' hc' hnumber hcs =>
    have hstarts : ∀ {c : Char} {cs : List Char}, isWordChar c = false →
        startsInWord (c :: cs) = false := id
    obtain ⟨rfl, heq⟩ := eq_of_append_eq hw (hstarts hc) hw' (hstarts hc') hxs
    obtain ⟨rfl, rfl⟩ := List.cons.inj heq
    exact ⟨hnumber, hcs⟩

/-- Where no bracket stands, no word is a number. -/
theorem append_inv (h : IsSettled sign? (xs ++ c :: cs)) (hc : isWordChar c = false)
    (hne : sign? ≠ some '<') (hmem : '<' ∉ xs) :
    (∀ w ∈ runs isWordChar xs, ¬ IsNumber isLanguageAnyCase w) ∧ IsSettled (some c) cs := by
  induction xs using runs_induction (p := isWordChar) generalizing sign? with
  | run w hw =>
    obtain ⟨hnumber, hcs⟩ := h.split_inv hw hc
    refine ⟨fun r hr hr' => ?_, hcs⟩
    rw [runs_of_forall (fun hnil => by simp [hnil] at hr) hw, List.mem_singleton] at hr
    exact hne (hnumber (hr ▸ hr')).2.1
  | split w d ys hw hd ih =>
    rw [List.append_assoc, List.cons_append] at h
    obtain ⟨hnumber, hys⟩ := h.split_inv hw hd
    rw [List.mem_append, List.mem_cons, not_or, not_or] at hmem
    obtain ⟨hruns, hcs⟩ := ih hys (fun heq => hmem.2.1 (Option.some.inj heq).symm) hmem.2.2
    refine ⟨fun r hr hr' => ?_, hcs⟩
    rw [runs_append_cons hd, List.mem_append] at hr
    rcases hr with hr | hr
    · rw [runs_of_forall (fun hnil => by simp [hnil] at hr) hw, List.mem_singleton] at hr
      exact hne (hnumber (hr ▸ hr')).2.1
    · exact hruns r hr hr'

/-- A text without numbers may stand before a sign. -/
theorem append (hxs : ∀ w ∈ runs isWordChar xs, ¬ IsNumber isLanguageAnyCase w)
    (hc : isWordChar c = false) (hcs : IsSettled (some c) cs) : IsSettled sign? (xs ++ c :: cs) := by
  have hword : ∀ {w : List Char}, (∀ d ∈ w, isWordChar d = true) →
      (∀ r ∈ runs isWordChar w, ¬ IsNumber isLanguageAnyCase r) → ¬ IsNumber isLanguageAnyCase w := by
    intro w hw hruns hnumber
    exact hruns w (by rw [runs_of_forall (ne_nil_of_isNumber hnumber) hw]; simp) hnumber
  induction xs using runs_induction (p := isWordChar) generalizing sign? with
  | run w hw => exact .split hw hc (fun hnumber => absurd hnumber (hword hw hxs)) hcs
  | split w d ys hw hd ih =>
    rw [runs_append_cons hd, List.forall_mem_append] at hxs
    rw [List.append_assoc, List.cons_append]
    exact .split hw hd (fun hnumber => absurd hnumber (hword hw hxs.1)) (ih hxs.2)

/-- A number in its one form, after its bracket, may stand before a settled text. -/
theorem closed_append (hw : IsNumber isLanguageAnyCase w) (h : IsSettled (some '>') cs) :
    IsSettled (some '<') (upper w ++ '>' :: cs) :=
  .split (isWordChar_of_mem_upper (isWordChar_of_isNumber hw)) (by decide)
    (fun _ => ⟨upper_upper w, rfl, rfl⟩) h

end IsSettled

/-- **The first pass leaves a settled text.** -/
theorem isSettled_canonicalNumbers (sign? : Option Char) (cs : List Char) :
    IsSettled sign? (canonicalNumbers cs) := by
  induction hn : cs.length using Nat.strongRecOn generalizing cs sign? with
  | ind n ih =>
    subst hn
    -- the word at the start, and what follows it
    obtain ⟨w, rest, rfl, hw, hrest⟩ : ∃ w rest, cs = w ++ rest ∧ (∀ c ∈ w, isWordChar c = true) ∧
        startsInWord rest = false :=
      ⟨_, _, (List.takeWhile_append_dropWhile (p := isWordChar)).symm,
        List.all_eq_true.mp List.all_takeWhile, startsInWord_eq_false_iff.mpr head?_dropWhile⟩
    have hskip := length_skipSign_le '>' rest
    by_cases hnumber : IsNumber isLanguageAnyCase w
    · have hpos := List.length_pos_iff.mpr (ne_nil_of_isNumber hnumber)
      rw [canonicalNumbers_number hnumber hrest, inAngles_append]
      exact .split (w := []) (fun _ h => nomatch h) (by decide)
        (fun hnil => absurd hnil not_isNumber_nil)
        (.closed_append hnumber (ih _ (by rw [List.length_append]; omega) _ _ rfl))
    · rw [canonicalNumbers_word hw hnumber hrest]
      cases rest with
      | nil =>
        rw [canonicalNumbers_nil, List.append_nil]
        exact .word hw hnumber
      | cons c cs =>
        have hlen : cs.length < (w ++ c :: cs).length := by
          rw [List.length_append, List.length_cons]
          omega
        by_cases hangle : c = '<' ∧ looseNumber? cs ≠ none
        · obtain ⟨rfl, hread⟩ := hangle
          obtain ⟨⟨number, rest⟩, hread⟩ := Option.ne_none_iff_exists'.mp hread
          obtain ⟨hnumber', after, rfl, hafter, rfl⟩ := looseNumber?_eq_some_iff.mp hread
          have hskip' := length_skipSign_le '>' after
          rw [List.length_append] at hlen
          rw [canonicalNumbers_angle hnumber' hafter, inAngles_append]
          exact .split hw hrest (fun hw' => absurd hw' hnumber)
            (.closed_append hnumber' (ih _ (by omega) _ _ rfl))
        · rw [canonicalNumbers_sign hrest fun hc => by simpa [hc] using hangle]
          exact .split hw hrest (fun hw' => absurd hw' hnumber) (ih _ hlen _ _ rfl)

/-! ### The second pass -/

theorem boundedMorph?_eq_none_of_not_isOpening (h : ¬ IsOpening c) (cs : List Char) :
    boundedMorph? false (c :: cs) = none := by
  rw [Option.eq_none_iff_forall_ne_some]
  rintro ⟨tag, rest⟩ hread
  obtain ⟨opening, closing, heq, hopening, -⟩ := boundedMorph?_eq_some_iff.mp hread
  exact h ((List.cons.inj heq).1 ▸ hopening)

/-- A stretch in which no tag is opened is passed over. -/
theorem canonicalMorph_append (h : ∀ c ∈ xs, ¬ IsOpening c) (cs : List Char) :
    canonicalMorph (xs ++ cs) = xs ++ canonicalMorph cs :=
  isSteady_boundedMorph?.replaceItems_append
    (isSilent_of_forall h (fun _ cs hc => boundedMorph?_eq_none_of_not_isOpening hc cs) cs)

theorem not_isOpening_of_isTagChar (h : isTagChar c = true) : ¬ IsOpening c := by
  intro hopening
  rw [hopening.isTagChar] at h
  cases h

theorem isTagChar_of_isWordChar (h : isWordChar c = true) : isTagChar c = true := by
  simp [isTagChar, h]

theorem upper_ne_nil (h : cs ≠ []) : upper cs ≠ [] := by
  obtain ⟨c, cs, rfl⟩ := List.exists_cons_of_ne_nil h
  rw [upper_cons]
  exact List.append_ne_nil_of_left_ne_nil (upperChar_ne_nil c) _

/-- In upper case the words of a tag are put in upper case. -/
theorem runs_upper (h : ∀ c ∈ tag, isTagChar c = true) :
    runs isWordChar (upper tag) = (runs isWordChar tag).map upper := by
  have hword : ∀ {w : List Char}, (∀ c ∈ w, isWordChar c = true) →
      runs isWordChar (upper w) = (runs isWordChar w).map upper := by
    intro w hw
    by_cases hne : w = []
    · subst hne
      rfl
    · rw [runs_of_forall hne hw, runs_of_forall (upper_ne_nil hne) (isWordChar_of_mem_upper hw)]
      rfl
  induction tag using runs_induction (p := isWordChar) with
  | run w hw => exact hword hw
  | split w c cs hw hc ih =>
    obtain rfl : c = '-' := by
      have htag := h c (by simp)
      simpa [isTagChar, hc] using htag
    have hupper : upper ('-' :: cs) = '-' :: upper cs := rfl
    rw [upper_append, hupper, runs_append_cons hc, runs_append_cons hc, List.map_append, hword hw,
      ih fun d hd => h d (by simp [hd])]

/-- **The second pass keeps texts settled.** -/
theorem IsSettled.canonicalMorph (h : IsSettled sign? cs) : IsSettled sign? (canonicalMorph cs) := by
  induction hn : cs.length using Nat.strongRecOn generalizing cs sign? with
  | ind n ih =>
    subst hn
    have hpass : ∀ {w : List Char}, (∀ c ∈ w, isWordChar c = true) → ∀ c ∈ w, ¬ IsOpening c :=
      fun hw c hc => not_isOpening_of_isTagChar (isTagChar_of_isWordChar (hw c hc))
    cases h with
    | word hw hnumber =>
      have hword := canonicalMorph_append (hpass hw) []
      rw [List.append_nil] at hword
      rw [hword]
      simpa [Term.canonicalMorph, replaceItems] using IsSettled.word hw hnumber
    | @split _ w c cs hw hc hnumber hcs =>
      rw [canonicalMorph_append (hpass hw)]
      cases hread : boundedMorph? false (c :: cs) with
      | none =>
        have hsign : Term.canonicalMorph (c :: cs) = c :: Term.canonicalMorph cs :=
          isSteady_boundedMorph?.replaceItems_other hread
        rw [hsign]
        exact .split hw hc hnumber (ih _ (by simp; omega) hcs rfl)
      | some r =>
        obtain ⟨tag, rest⟩ := r
        have hitem : Term.canonicalMorph (c :: cs) = inBraces (upper tag) ++ Term.canonicalMorph rest :=
          isSteady_boundedMorph?.replaceItems_item hread
        obtain ⟨opening, closing, heq, hopening, hclosing, hbody⟩ := boundedMorph?_eq_some_iff.mp hread
        obtain ⟨rfl, rfl⟩ := List.cons.inj heq
        have hnot : ¬ IsNumber isLanguageAnyCase w := fun hw' => hopening.ne_angle.2 (hnumber hw').2.2
        obtain ⟨htag, hrest⟩ := hcs.append_inv (isWordChar_of_not_isTagChar hclosing.isTagChar)
          (fun h => hopening.ne_angle.1 (Option.some.inj h))
          fun hmem => (ne_angle_of_isTagChar (hbody.mem _ hmem)).1 rfl
        have hrest : IsSettled (some '\x7d') (Term.canonicalMorph rest) :=
          (ih _ (by simp; omega) hrest rfl).of_ne fun h => hclosing.ne_angle.1 (Option.some.inj h)
        have hupper : ∀ v ∈ runs isWordChar (upper tag), ¬ IsNumber isLanguageAnyCase v := by
          rw [runs_upper hbody.mem, List.forall_mem_map]
          exact fun v hv hv' => htag v hv (isNumber_of_upper hv')
        rw [hitem, inBraces_append]
        exact .split hw (by decide) (fun hw' => absurd hw' hnot) (.append hupper (by decide) hrest)

theorem startsInWord_append (hne : xs ≠ []) (h : ∀ c ∈ xs, isWordChar c = true) (cs : List Char) :
    startsInWord (xs ++ cs) = true := by
  obtain ⟨c, xs, rfl⟩ := List.exists_cons_of_ne_nil hne
  exact h c List.mem_cons_self

theorem isWordChar_of_mem_upperChar (hc : isWordChar c = true) : ∀ d ∈ upperChar c, isWordChar d = true :=
  fun d hd => isWordChar_of_mem_upper (List.forall_mem_singleton.mpr hc) d (by simpa using hd)

theorem isTagChar_of_mem_upper (h : ∀ c ∈ tag, isTagChar c = true) :
    ∀ c ∈ upper tag, isTagChar c = true := by
  intro d hd
  obtain ⟨c, hc, hd⟩ := List.mem_flatMap.mp hd
  by_cases hc' : isWordChar c = true
  · exact isTagChar_of_isWordChar (isWordChar_of_mem_upperChar hc' d hd)
  · obtain rfl : c = '-' := by
      have htag := h c hc
      simpa [isTagChar, hc'] using htag
    obtain rfl : d = '-' := List.mem_singleton.mp hd
    decide

/-- **A tag in upper case is a tag.** -/
theorem IsTagBody.upper (h : IsTagBody tag) : IsTagBody (upper tag) := by
  refine ⟨isTagChar_of_mem_upper h.mem, ?_, ?_⟩
  · obtain ⟨c, cs, rfl⟩ := List.exists_cons_of_ne_nil h.ne_nil
    exact startsInWord_append (upperChar_ne_nil c) (isWordChar_of_mem_upperChar h.first) (Text.upper cs)
  · obtain ⟨cs, c, rfl⟩ := tag.eq_nil_or_concat.resolve_left h.ne_nil
    have hlast : isWordChar c = true := by simpa [startsInWord] using h.last
    have hupper : (Text.upper (cs.concat c)).reverse
        = (upperChar c).reverse ++ (Text.upper cs).reverse := by
      rw [List.concat_eq_append, upper_append, upper_cons, upper_nil, List.append_nil,
        List.reverse_append]
    rw [hupper]
    exact startsInWord_append (by simpa using upperChar_ne_nil c)
      (fun d hd => isWordChar_of_mem_upperChar hlast d (List.mem_reverse.mp hd)) _

theorem canonicalMorph_nil : canonicalMorph [] = [] := by
  simp [canonicalMorph, replaceItems]

/-- The second pass keeps the character at the start, or puts one opening sign for another. -/
theorem exists_canonicalMorph_cons (c : Char) (cs : List Char) :
    ∃ d rest, canonicalMorph (c :: cs) = d :: rest ∧ (d = c ∨ IsOpening d ∧ IsOpening c) := by
  cases hread : boundedMorph? false (c :: cs) with
  | none => exact ⟨c, _, isSteady_boundedMorph?.replaceItems_other hread, .inl rfl⟩
  | some r =>
    obtain ⟨opening, closing, heq, hopening, -⟩ := boundedMorph?_eq_some_iff.mp hread
    obtain ⟨rfl, -⟩ := List.cons.inj heq
    have hitem : canonicalMorph (c :: cs) = inBraces (upper r.1) ++ canonicalMorph r.2 :=
      isSteady_boundedMorph?.replaceItems_item hread
    exact ⟨_, _, hitem.trans (inBraces_append _ _), .inr ⟨.inr rfl, hopening⟩⟩

/-- The second pass makes no tags of what was none. -/
theorem boundedMorph?_cons_canonicalMorph (h : boundedMorph? false (c :: cs) = none) :
    boundedMorph? false (c :: canonicalMorph cs) = none := by
  rw [Option.eq_none_iff_forall_ne_some] at h ⊢
  rintro ⟨tag, rest⟩ hread
  obtain ⟨opening, closing, hcs, hopening, hclosing, hbody⟩ := boundedMorph?_eq_some_iff.mp hread
  obtain ⟨rfl, heq⟩ := List.cons.inj hcs
  clear hcs hread
  -- the characters of tags at the start stay, and so does what kind of sign follows them
  obtain ⟨run, after, rfl, hrun, hafter⟩ : ∃ run after, cs = run ++ after ∧
      (∀ c ∈ run, isTagChar c = true) ∧ ∀ c ∈ after.head?, isTagChar c = false :=
    ⟨_, _, (List.takeWhile_append_dropWhile (p := isTagChar)).symm,
      List.all_eq_true.mp List.all_takeWhile, head?_dropWhile⟩
  rw [canonicalMorph_append fun d hd => not_isOpening_of_isTagChar (hrun d hd)] at heq
  have hclosing' := hclosing.isTagChar
  cases after with
  | nil =>
    rw [canonicalMorph_nil, List.append_nil] at heq
    have htag := hrun closing (by simp [heq])
    rw [hclosing'] at htag
    cases htag
  | cons d cs =>
    obtain ⟨e, rest', hstart, hsame⟩ := exists_canonicalMorph_cons d cs
    have hd : isTagChar d = false := hafter d rfl
    have he : isTagChar e = false := hsame.elim (fun h => h ▸ hd) fun h => h.1.isTagChar
    rw [hstart] at heq
    obtain ⟨rfl, hsplit⟩ := run_append_inj hrun (by simpa using he) hbody.mem
      (by simpa using hclosing') heq
    obtain ⟨rfl, -⟩ := List.cons.inj hsplit
    rcases hsame with rfl | ⟨hopening', -⟩
    · exact h (run, cs) (boundedMorph?_eq_some_iff.mpr ⟨c, e, rfl, hopening, hclosing, hbody⟩)
    · rcases hopening' with rfl | rfl <;> rcases hclosing with h | h <;> cases h

theorem canonicalMorph_canonicalMorph (cs : List Char) :
    canonicalMorph (canonicalMorph cs) = canonicalMorph cs := by
  induction cs using isSteady_boundedMorph?.induction with
  | nil => simp [canonicalMorph, replaceItems]
  | item cs tag rest hread ih =>
    have hitem : canonicalMorph cs = inBraces (upper tag) ++ canonicalMorph rest :=
      isSteady_boundedMorph?.replaceItems_item hread
    obtain ⟨-, -, -, -, -, hbody⟩ := boundedMorph?_eq_some_iff.mp hread
    have hread' : boundedMorph? false (inBraces (upper tag) ++ canonicalMorph rest)
        = some (upper tag, canonicalMorph rest) :=
      boundedMorph?_eq_some_iff.mpr
        ⟨'\x7b', '\x7d', inBraces_append _ _, .inr rfl, .inr rfl, hbody.upper⟩
    have hitem' : canonicalMorph (inBraces (upper tag) ++ canonicalMorph rest)
        = inBraces (upper (upper tag)) ++ canonicalMorph (canonicalMorph rest) :=
      isSteady_boundedMorph?.replaceItems_item hread'
    rw [hitem, hitem', upper_upper, ih]
  | other c cs hread ih =>
    have hsign : ∀ {cs}, boundedMorph? false (c :: cs) = none →
        canonicalMorph (c :: cs) = c :: canonicalMorph cs :=
      isSteady_boundedMorph?.replaceItems_other
    rw [hsign hread, hsign (boundedMorph?_cons_canonicalMorph hread), ih]

/-- **A text with its tags in their one form is left as it is.** -/
theorem canonicalTags_canonicalTags (cs : List Char) :
    canonicalTags (canonicalTags cs) = canonicalTags cs := by
  simp only [canonicalTags_eq]
  rw [(isSettled_canonicalNumbers none cs).canonicalMorph.canonicalNumbers_eq,
    canonicalMorph_canonicalMorph]

end Term

end Concordance
