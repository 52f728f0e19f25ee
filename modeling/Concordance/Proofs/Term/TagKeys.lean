import Concordance.Proofs.Term.Tokens

/-!
# Keys of tags

A part of a query is looked up in lower case if it is read as a word, and in upper case if it is read as a
tag, in a search in which case does not count. A Strong's number in its brackets is always read as a tag.
A morphology tag in its braces is read as a tag unless one of its words is spelled like a Strong's number:
that word is taken for a number and put into brackets of its own, and the part is read as a word.

## Main definitions

* `Term.HoldsNumber` — a word of a morphology tag is spelled like a Strong's number
* `Term.tagKey` — the key under which a morphology tag is looked up

## Main results

* `Term.normalizeKey_lookedUp` — the key of a part of a query
* `Term.isMorphToken_canonicalTags_inBraces_iff` — when a morphology tag is read as a tag
* `Term.normalizeKey_inAngles`, `Term.normalizeKey_inBraces` — the keys of tags
-/

namespace Concordance

namespace Term

open Markup Text

variable {cs part number tag : List Char}

/-! ### Words in lower case, tags in upper case -/

theorem toUpper_toLower {c : Char} (hc : c.toNat < 0x80) : c.toLower.toUpper = c.toUpper :=
  forall_ascii (P := fun c => c.toLower.toUpper = c.toUpper) (by decide) hc

/-- The written form of a tag is in upper case. -/
theorem toUpper_of_mem_text (h : IsSolid cs) (htag : (ofToken cs).isWord = false) :
    ∀ c ∈ (ofToken cs).text, c.toUpper = c := by
  have hkey : ∀ c ∈ upper (normalizeKey cs), c.toUpper = c := by
    have hascii := (isSolid_normalizeKey h).upper.isAscii
    have hself := upper_upper (normalizeKey cs)
    rw [upper_of_ascii hascii] at hself
    exact map_eq_self_iff.mp hself
  have henclosed : ∀ {opening closing : Char}, opening.toUpper = opening → closing.toUpper = closing →
      ∀ c ∈ opening :: upper (normalizeKey cs) ++ [closing], c.toUpper = c := by
    intro opening closing hopening hclosing c hc
    simp only [List.cons_append, List.mem_cons, List.mem_append, List.not_mem_nil, or_false] at hc
    rcases hc with rfl | hc | rfl
    · exact hopening
    · exact hkey c hc
    · exact hclosing
  rw [isWord_ofToken] at htag
  rw [ofToken]
  split
  · exact henclosed (by decide) (by decide)
  · split
    · exact henclosed (by decide) (by decide)
    · simp_all

/-- A key has the characters of its text. -/
theorem mem_of_mem_normalizeKey (h : IsSolid cs) {c : Char} (hc : c ∈ normalizeKey cs) : c ∈ cs := by
  rw [normalizeKey_of_isSolid h] at hc
  exact (List.mem_filter.mp hc).1

theorem map_toLower_bare (h : IsAscii cs) : (bare cs).map Char.toLower = bare cs := by
  refine map_eq_self_iff.mpr fun c hc => ?_
  obtain ⟨d, hd, rfl⟩ := List.mem_map.mp (List.mem_filter.mp hc).1
  exact toLower_toLower (h d hd)

/-- A text in lower case and without brackets is a key as it stands. -/
theorem normalizeKey_bare (h : IsSolid cs) : normalizeKey (bare cs) = bare cs := by
  have hlower := h.lower
  rw [lower_of_ascii h.isAscii] at hlower
  exact normalizeKey_eq_self (hlower.of_subset fun c hc => (List.mem_filter.mp hc).1)
    fun c hc => by simpa using (List.mem_filter.mp hc).2

theorem foldCase_of_isWord_eq_false {t : Term} (h : t.isWord = false) (caseSensitive : Bool) :
    foldCase caseSensitive t = t := by
  cases t with
  | word => cases h
  | strongs | morph => rfl

/-- A word is passed to an index in lower case. -/
theorem toLower_of_mem_text_foldCase {t : Term} (h : IsSolid t.text) (hword : t.isWord = true) :
    ∀ c ∈ (foldCase false t).text, c.toLower = c := by
  cases t with
  | word spelling =>
    have hascii : IsAscii spelling := h.isAscii
    have hself : ∀ c ∈ spelling.map Char.toLower, c.toLower = c :=
      List.forall_mem_map.mpr fun c hc => toLower_toLower (hascii c hc)
    rwa [← lower_of_ascii hascii] at hself
  | strongs | morph => cases hword

/-- **The key of a part of a query**, if case does not count: it is in lower case if the part is read as a
word, and else in upper case. -/
theorem normalizeKey_lookedUp (h : IsTermText part) : normalizeKey (lookedUp false part) =
    if (ofToken (canonicalTags part)).isWord then bare part else (bare part).map Char.toUpper := by
  have htoken := (writtenAnew_canonicalTags h).isTermText.isSolid
  have hsolid := isSolid_lookedUp h false
  have hbare : (normalizeKey (lookedUp false part)).map Char.toLower = bare part := by
    rw [map_toLower_normalizeKey hsolid, bare_lookedUp h]
  split
  · rename_i hword
    have hlower := toLower_of_mem_text_foldCase (text_ofToken htoken).1 hword
    rw [← hbare]
    exact (map_eq_self_iff.mpr fun c hc => hlower c (mem_of_mem_normalizeKey hsolid hc)).symm
  · rename_i hword
    have htag := Bool.eq_false_iff.mpr hword
    have hsame : lookedUp false part = (ofToken (canonicalTags part)).text := by
      rw [lookedUp, foldCase_of_isWord_eq_false htag]
    have hupper : ∀ c ∈ normalizeKey (lookedUp false part), c.toUpper = c := fun c hc =>
      toUpper_of_mem_text htoken htag c (hsame ▸ mem_of_mem_normalizeKey hsolid hc)
    rw [← hbare, List.map_map]
    refine (map_eq_self_iff.mpr fun c hc => ?_).symm
    exact (toUpper_toLower (hsolid.isAscii c (mem_of_mem_normalizeKey hsolid hc))).trans
      (hupper c hc)

/-! ### Numbers in morphology tags -/

/-- A word of a morphology tag is spelled like a Strong's number. -/
def HoldsNumber (tag : List Char) : Prop := ∃ w ∈ runs isWordChar tag, IsNumber isLanguageAnyCase w

instance (tag : List Char) : Decidable (HoldsNumber tag) :=
  inferInstanceAs (Decidable (∃ w ∈ runs isWordChar tag, _))

/-- Of a text without brackets, the first pass leaves something else only if it adds brackets. -/
theorem canonicalNumbers_eq_or (cs : List Char) :
    canonicalNumbers cs = cs ∨ '<' ∈ canonicalNumbers cs := by
  refine replaceItems_induction (motive := fun cs out => out = cs ∨ '<' ∈ out) (.inl rfl) ?_ ?_ cs
  · intro b cs number rest out hread ih
    exact .inr (List.mem_append_left _ (by simp [inAngles]))
  · rintro c cs out (rfl | hmem)
    · exact .inl rfl
    · exact .inr (List.mem_cons_of_mem c hmem)

/-- A tag in its braces is settled just if it holds no number. -/
theorem canonicalNumbers_inBraces_iff (h : ∀ c ∈ tag, isTagChar c = true) :
    canonicalNumbers (inBraces tag) = inBraces tag ↔ ¬ HoldsNumber tag := by
  have hsigns : isWordChar '\x7b' = false ∧ isWordChar '\x7d' = false := by decide
  have hangle : '<' ∉ tag := fun hmem => (ne_angle_of_isTagChar (h _ hmem)).1 rfl
  have hempty : ∀ c ∈ ([] : List Char), isWordChar c = true := fun _ h => nomatch h
  constructor
  · intro heq
    have hsettled := isSettled_canonicalNumbers none (inBraces tag)
    rw [heq] at hsettled
    obtain ⟨-, hsettled⟩ := hsettled.split_inv (w := []) hempty hsigns.1
    obtain ⟨hruns, -⟩ := hsettled.append_inv hsigns.2 (by decide) hangle
    rintro ⟨w, hw, hnumber⟩
    exact hruns w hw hnumber
  · intro hnone
    have hruns : ∀ w ∈ runs isWordChar tag, ¬ IsNumber isLanguageAnyCase w :=
      fun w hw hnumber => hnone ⟨w, hw, hnumber⟩
    have hend : IsSettled (some '\x7d') [] := .word hempty not_isNumber_nil
    have hsettled : IsSettled none ([] ++ inBraces tag) :=
      .split hempty hsigns.1 (fun hnumber => absurd hnumber not_isNumber_nil)
        (.append hruns hsigns.2 hend)
    exact hsettled.canonicalNumbers_eq

/-- The second pass keeps the brackets of numbers. -/
theorem mem_canonicalMorph (h : '<' ∈ cs) : '<' ∈ canonicalMorph cs := by
  induction cs using isSteady_boundedMorph?.induction with
  | nil => cases h
  | item cs tag rest hread ih =>
    have hitem : canonicalMorph cs = inBraces (upper tag) ++ canonicalMorph rest :=
      isSteady_boundedMorph?.replaceItems_item hread
    obtain ⟨opening, closing, rfl, hopening, hclosing, hbody⟩ := boundedMorph?_eq_some_iff.mp hread
    have htag : '<' ∉ tag := fun hmem => (ne_angle_of_isTagChar (hbody.mem _ hmem)).1 rfl
    simp only [List.mem_cons, List.mem_append, hopening.ne_angle.1.symm, hclosing.ne_angle.1.symm, htag,
      false_or] at h
    rw [hitem]
    exact List.mem_append_right _ (ih h)
  | other c cs hread ih =>
    have hsign : canonicalMorph (c :: cs) = c :: canonicalMorph cs :=
      isSteady_boundedMorph?.replaceItems_other hread
    rw [hsign, List.mem_cons]
    exact (List.mem_cons.mp h).imp_right ih

/-- The second pass leaves a tag in its braces as it is, or puts it in upper case. -/
theorem canonicalMorph_inBraces (h : ∀ c ∈ tag, isTagChar c = true) :
    canonicalMorph (inBraces tag) = inBraces tag ∨
      canonicalMorph (inBraces tag) = inBraces (upper tag) := by
  cases hread : boundedMorph? false (inBraces tag) with
  | none =>
    have hsign : canonicalMorph (inBraces tag) = '\x7b' :: canonicalMorph (tag ++ ['\x7d']) :=
      isSteady_boundedMorph?.replaceItems_other hread
    have hopening : ∀ c ∈ tag ++ ['\x7d'], ¬ IsOpening c := by
      rw [List.forall_mem_append, List.forall_mem_singleton]
      refine ⟨fun c hc => not_isOpening_of_isTagChar (h c hc), ?_⟩
      rintro (heq | heq) <;> cases heq
    have hpass := canonicalMorph_append hopening []
    rw [List.append_nil, canonicalMorph_nil, List.append_nil] at hpass
    exact .inl (hsign.trans (congrArg _ hpass))
  | some r =>
    obtain ⟨body, rest⟩ := r
    have hitem : canonicalMorph (inBraces tag) = inBraces (upper body) ++ canonicalMorph rest :=
      isSteady_boundedMorph?.replaceItems_item hread
    obtain ⟨opening, closing, heq, -, hclosing, hbody⟩ := boundedMorph?_eq_some_iff.mp hread
    have hsign : isTagChar '\x7d' = false := by decide
    obtain ⟨rfl, hrest⟩ := run_append_inj h (by simpa using hsign) hbody.mem
      (by simpa using hclosing.isTagChar) (List.cons.inj heq).2
    obtain ⟨-, rfl⟩ := List.cons.inj hrest
    rw [canonicalMorph_nil, List.append_nil] at hitem
    exact .inr hitem

/-- **A morphology tag in its braces is read as a tag** just if it holds no number. -/
theorem isMorphToken_canonicalTags_inBraces_iff (hne : tag ≠ []) (h : ∀ c ∈ tag, isTagChar c = true) :
    isMorphToken (canonicalTags (inBraces tag)) = true ↔ ¬ HoldsNumber tag := by
  rw [← canonicalNumbers_inBraces_iff h, canonicalTags_eq]
  constructor
  · intro hmorph
    obtain ⟨opening, body, closing, heq, hopening, hclosing, -, hbody⟩ := isMorphToken_iff.mp hmorph
    refine (canonicalNumbers_eq_or _).resolve_right fun hmem => ?_
    have hmem := mem_canonicalMorph hmem
    rw [heq] at hmem
    simp only [List.mem_cons, List.mem_append, List.not_mem_nil, or_false] at hmem
    rcases hmem with rfl | hmem | rfl
    · exact hopening.ne_angle.1 rfl
    · exact (ne_angle_of_isTagChar (hbody _ hmem)).1 rfl
    · exact hclosing.ne_angle.1 rfl
  · intro heq
    have hread : ∀ {body : List Char}, body ≠ [] → (∀ c ∈ body, isTagChar c = true) →
        isMorphToken (inBraces body) = true := fun hne hbody =>
      isMorphToken_iff.mpr ⟨'\x7b', _, '\x7d', rfl, .inr rfl, .inr rfl, hne, hbody⟩
    rw [heq]
    rcases canonicalMorph_inBraces h with heq | heq <;> rw [heq]
    · exact hread hne h
    · exact hread (upper_ne_nil hne) (isTagChar_of_mem_upper h)

/-! ### Keys of tags -/

/-- The key under which a morphology tag is looked up. -/
def tagKey (tag : List Char) : List Char := if HoldsNumber tag then lower tag else upper tag

theorem isTermText_of_isTagChar (hascii : IsAscii tag) (h : ∀ c ∈ tag, isTagChar c = true) :
    IsTermText tag :=
  fun c hc => ⟨hascii c hc, by simp [isTermChar, h c hc]⟩

/-- A tag is a key as it stands. -/
theorem normalizeKey_of_isTagChar (hascii : IsAscii tag) (h : ∀ c ∈ tag, isTagChar c = true) :
    normalizeKey tag = tag :=
  normalizeKey_eq_self (isTermText_of_isTagChar hascii h).isSolid
    fun c hc => isBracket_of_isTagChar (h c hc)

theorem bare_of_isTagChar (hascii : IsAscii tag) (h : ∀ c ∈ tag, isTagChar c = true) :
    bare tag = lower tag := by
  rw [← map_toLower_normalizeKey (isTermText_of_isTagChar hascii h).isSolid,
    normalizeKey_of_isTagChar hascii h, lower_of_ascii hascii]

theorem map_toUpper_lower (hascii : IsAscii cs) : (lower cs).map Char.toUpper = upper cs := by
  rw [lower_of_ascii hascii, upper_of_ascii hascii, List.map_map]
  exact List.map_congr_left fun c hc => toUpper_toLower (hascii c hc)

/-- A Strong's number in its brackets is put in upper case, and nothing else is done to it. -/
theorem canonicalTags_inAngles (h : IsNumber isLanguageAnyCase number) :
    canonicalTags (inAngles number) = inAngles (upper number) := by
  have hstarts : startsInWord ['>'] = false := by decide
  have hskip : skipSign '>' ['>'] = [] := by decide
  have hopening : ∀ c ∈ inAngles (upper number), ¬ IsOpening c := by
    intro c hc hopening
    have htag := isTagChar_of_isNumber (isNumber_upper h)
    simp only [inAngles, List.cons_append, List.mem_cons, List.mem_append, List.not_mem_nil,
      or_false] at hc
    rcases hc with rfl | hc | rfl
    · exact hopening.ne_angle.1 rfl
    · exact not_isOpening_of_isTagChar (htag c hc) hopening
    · exact hopening.ne_angle.2 rfl
  have hpass := canonicalMorph_append hopening []
  rw [canonicalMorph_nil, List.append_nil] at hpass
  rw [canonicalTags_eq, inAngles, List.cons_append, canonicalNumbers_angle h hstarts, hskip,
    canonicalNumbers_nil, List.append_nil, hpass]

/-- **A Strong's number is looked up in upper case.** -/
theorem normalizeKey_inAngles (hascii : IsAscii number) (h : IsNumber isLanguageAnyCase number) :
    normalizeKey (lookedUp false (inAngles number)) = upper number := by
  have htag := isTagChar_of_isNumber h
  have hterm := isTermText_of_isTagChar hascii htag
  rw [normalizeKey_lookedUp hterm.inAngles, canonicalTags_inAngles h,
    ofToken_inAngles hterm.isSolid.upper (isNumber_upper h), bare_inAngles, bare_of_isTagChar hascii htag]
  exact map_toUpper_lower hascii

/-- A Strong's number has one letter, so that it is spelled in one case. -/
theorem upper_eq_or_lower_eq (hascii : IsAscii number) (h : IsNumber isLanguageAnyCase number) :
    upper number = number ∨ lower number = number := by
  obtain ⟨c, ds, rfl, hc, -, hds⟩ := h
  have hcase : c.toUpper = c ∨ c.toLower = c :=
    forall_ascii (P := fun c => isLanguageAnyCase c = true → c.toUpper = c ∨ c.toLower = c) (by decide)
      (hascii c (by simp)) hc
  have hdigits : ∀ d ∈ ds, d.toUpper = d ∧ d.toLower = d := fun d hd =>
    forall_ascii (P := fun d => isDigit d = true → d.toUpper = d ∧ d.toLower = d) (by decide)
      (hascii d (by simp [hd])) (hds d hd)
  rw [upper_of_ascii hascii, lower_of_ascii hascii, map_eq_self_iff, map_eq_self_iff,
    List.forall_mem_cons, List.forall_mem_cons]
  rcases hcase with hc | hc
  · exact .inl ⟨hc, fun d hd => (hdigits d hd).1⟩
  · exact .inr ⟨hc, fun d hd => (hdigits d hd).2⟩

/-- **A morphology tag is looked up in upper case, unless it holds a number.** -/
theorem normalizeKey_inBraces (hascii : IsAscii tag) (hne : tag ≠ [])
    (h : ∀ c ∈ tag, isTagChar c = true) :
    normalizeKey (lookedUp false (inBraces tag)) = tagKey tag := by
  have hterm := isTermText_of_isTagChar hascii h
  have hstrongs : isStrongsToken (canonicalTags (inBraces tag)) = false := by
    have hstart : canonicalNumbers (inBraces tag) = '\x7b' :: canonicalNumbers (tag ++ ['\x7d']) :=
      canonicalNumbers_sign (by decide) fun heq => nomatch heq
    obtain ⟨c, rest, heq, hc⟩ := exists_canonicalMorph_cons '\x7b' (canonicalNumbers (tag ++ ['\x7d']))
    rw [canonicalTags_eq, hstart, heq]
    exact isStrongsToken_of_isOpening (hc.elim (fun hc => hc ▸ .inr rfl) And.left) rest
  have hmorph := isMorphToken_canonicalTags_inBraces_iff hne h
  rw [normalizeKey_lookedUp hterm.inBraces, isWord_ofToken, hstrongs, Bool.false_or, bare_inBraces,
    bare_of_isTagChar hascii h, map_toUpper_lower hascii, tagKey]
  by_cases hnumber : HoldsNumber tag <;> simp_all

end Term

end Concordance
