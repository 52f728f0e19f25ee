import Concordance.Proofs.Term.Canonical

/-!
# Words as parts of a query

A part of a query that has word characters only is its own key, since no tag is read in it. The one
exception is a Strong's number in lower case, which is taken for a tag and put into upper case.

## Main results

* `Term.canonicalTags_of_not_isNumber` — a word that is no number stays as it is
* `Term.keyOf_of_isWordChar` — a word is its own key, unless it is a number in lower case
-/

namespace Concordance

namespace Term

open Markup Text

/-! ### Words -/

section

variable {w : List Char} (hascii : IsAscii w) (hword : ∀ c ∈ w, isWordChar c = true)

include hascii hword

theorem isTermText_of_isWordChar : IsTermText w := by
  intro c hc
  refine ⟨hascii c hc, ?_⟩
  simp [isTermChar, isTagChar, hword c hc]

omit hascii in
/-- A number at the start of such a word goes on as a word. -/
theorem exists_of_number? (hnumber : ¬ IsNumber isLanguageAnyCase w) {number rest : List Char}
    (hread : Markup.number? isLanguageAnyCase w = some (number, rest)) :
    ∃ d rest', rest = d :: rest' ∧ isWordChar d = true := by
  obtain ⟨hnumber', -, hw⟩ := number?_eq_some_iff.mp hread
  cases rest with
  | nil =>
    rw [List.append_nil] at hw
    exact absurd (hw ▸ hnumber') hnumber
  | cons d rest => exact ⟨d, rest, rfl, hword d (by simp [hw])⟩

omit hascii in
theorem looseNumber?_of_not_isNumber (hnumber : ¬ IsNumber isLanguageAnyCase w) :
    looseNumber? w = none := by
  rw [looseNumber?, Option.bind_eq_none_iff]
  rintro ⟨number, rest⟩ hread
  obtain ⟨d, rest, rfl, hd⟩ := exists_of_number? hword hnumber hread
  have hstarts : startsInWord (d :: rest) = true := hd
  simp [hstarts]

/-- A word that is no number has no tag in it. -/
theorem canonicalTags_of_not_isNumber (hnumber : ¬ IsNumber isLanguageAnyCase w) :
    canonicalTags w = w := by
  have hscan : scan looseStrongs? w = w.map .other := by
    refine scan_eq_map fun before c after hw => ?_
    have hsign : sign? '<' (c :: after) = none :=
      sign?_cons_of_ne (by
        rintro rfl
        exact absurd (hword '<' (by simp [hw])) (by decide)) after
    rw [looseStrongs?_eq, hsign, Option.bind_none, Option.none_or]
    rcases before.eq_nil_or_concat with rfl | ⟨before, d, rfl⟩
    · -- at the start, only the whole word could be a number
      rw [List.nil_append] at hw
      subst hw
      simp [endsInWord, looseNumber?_of_not_isNumber hword hnumber]
    · have hd : isWordChar d = true := hword d (by simp [hw])
      simp [endsInWord, hd]
  rw [canonicalTags, replaceItems_of_scan hscan,
    replaceItems_of_scan (scan_boundedMorph? fun c hc =>
    opensNoTag_of_isBracket (isBracket_of_isWordChar hascii hword c hc))]

omit hascii in
theorem isStrongsToken_eq_false (hnumber : ¬ IsNumber isLanguageAnyCase w) :
    isStrongsToken w = false := by
  have hskip : ∀ sign d cs, isWordChar sign = false → isWordChar d = true →
      skipSign sign (d :: cs) = d :: cs := by
    intro sign d cs hsign hd
    have hne : d ≠ sign := by
      rintro rfl
      rw [hsign] at hd
      cases hd
    simp [skipSign, sign?_cons_of_ne hne]
  have hstart : skipSign '<' w = w := by
    cases w with
    | nil => rfl
    | cons c cs => exact hskip '<' c cs (by decide) (hword c (by simp))
  rw [isStrongsToken, hstart]
  cases hread : Markup.number? isLanguageAnyCase w with
  | none => rfl
  | some r =>
    obtain ⟨d, rest, hrest, hd⟩ := exists_of_number? hword hnumber hread
    simp [hrest, hskip '>' d rest (by decide) hd]

/-- A word that is no number is its own key. -/
theorem keyOf_of_not_isNumber (hnumber : ¬ IsNumber isLanguageAnyCase w) : keyOf w = w := by
  have hmorph : isMorphToken w = false := by
    rw [isMorphToken, looseMorph?_eq_none fun c hc =>
      opensNoTag_of_isBracket (isBracket_of_isWordChar hascii hword c hc)]
  rw [keyOf, canonicalTags_of_not_isNumber hascii hword hnumber, ofToken,
    isStrongsToken_eq_false hword hnumber, hmorph]
  exact normalizeKey_of_isWordChar hascii hword

end

/-! ### Numbers -/

section

variable {w : List Char} (h : IsNumber isLanguage w)

include h

theorem isNumber_isLanguageAnyCase : IsNumber isLanguageAnyCase w := by
  obtain ⟨c, ds, rfl, hc, hds⟩ := h
  exact ⟨c, ds, rfl, by simp [isLanguageAnyCase, hc], hds⟩

/-- A number with a capital is in upper case. -/
theorem upper_of_isNumber (hascii : IsAscii w) : upper w = w := by
  obtain ⟨c, ds, rfl, hc, -, hds⟩ := h
  have hc' : c.toUpper = c :=
    forall_ascii (P := fun c => isLanguage c = true → c.toUpper = c) (by decide)
      (hascii c (by simp)) hc
  have hds' : ∀ d ∈ ds, d.toUpper = d := fun d hd =>
    forall_ascii (P := fun d => isDigit d = true → d.toUpper = d) (by decide)
      (hascii d (by simp [hd])) (hds d hd)
  rw [upper_of_ascii hascii, List.map_cons, hc', List.map_congr_left hds', List.map_id']

/-- A number is put into brackets. -/
theorem canonicalTags_of_isNumber (hascii : IsAscii w) (hword : ∀ c ∈ w, isWordChar c = true) :
    canonicalTags w = inAngles w := by
  have hread : Markup.number? isLanguageAnyCase w = some (w, []) :=
    number?_eq_some_iff.mpr ⟨isNumber_isLanguageAnyCase h, by simp, by simp⟩
  have hloose : looseStrongs? false w = some (w, []) := by
    have hsign : sign? '<' w = none := by
      obtain ⟨c, ds, rfl, hc, -⟩ := h
      refine sign?_cons_of_ne ?_ ds
      rintro rfl
      exact absurd hc (by decide)
    rw [looseStrongs?_eq, hsign, Option.bind_none, Option.none_or, looseNumber?, hread]
    rfl
  have hreplace :
      replaceItems looseStrongs? (fun number => inAngles (upper number)) w = inAngles w := by
    have hupper := upper_of_isNumber h hascii
    obtain ⟨c, ds, rfl, -⟩ := h
    rw [replaceItems, scan, scanFrom_item hloose (by simp), scanFrom_nil, List.flatMap_singleton]
    exact congrArg inAngles hupper
  have hopens : ∀ c ∈ inAngles w, OpensNoTag c := by
    have hopening : OpensNoTag '<' := ⟨by decide, by decide⟩
    have hclosing : OpensNoTag '>' := ⟨by decide, by decide⟩
    intro c hc
    simp only [inAngles, List.cons_append, List.mem_cons, List.mem_append, List.not_mem_nil,
      or_false] at hc
    rcases hc with rfl | hc | rfl
    · exact hopening
    · exact opensNoTag_of_isBracket (isBracket_of_isWordChar hascii hword c hc)
    · exact hclosing
  rw [canonicalTags, hreplace, replaceItems_of_scan (scan_boundedMorph? hopens)]

/-- A number with a capital is its own key. -/
theorem keyOf_of_isNumber (hascii : IsAscii w) (hword : ∀ c ∈ w, isWordChar c = true) :
    keyOf w = w := by
  have hskip : skipSign '<' (inAngles w) = w ++ ['>'] := by simp [skipSign, inAngles]
  have hread : Markup.number? isLanguageAnyCase (w ++ ['>']) = some (w, ['>']) :=
    number?_eq_some_iff.mpr ⟨isNumber_isLanguageAnyCase h, by simp; decide, rfl⟩
  have hstrongs : isStrongsToken (inAngles w) = true := by
    rw [isStrongsToken, hskip, hread]
    rfl
  have hkey : normalizeKey (inAngles w) = w := by
    have hterm := isTermText_of_isWordChar hascii hword
    rw [normalizeKey_of_isSolid hterm.inAngles.isSolid, ← normalizeKey_of_isWordChar hascii hword,
      normalizeKey_of_isSolid hterm.isSolid]
    simp [inAngles, isBracket]
  rw [keyOf, canonicalTags_of_isNumber h hascii hword, ofToken, hstrongs, if_pos rfl, hkey,
    upper_of_isNumber h hascii]
  exact hkey

end

/-- **A word is its own key**, unless it is a number in lower case. -/
theorem keyOf_of_isWordChar {w : List Char} (hascii : IsAscii w)
    (hword : ∀ c ∈ w, isWordChar c = true)
    (hcapital : IsNumber isLanguageAnyCase w → IsNumber isLanguage w) : keyOf w = w := by
  by_cases hnumber : IsNumber isLanguageAnyCase w
  · exact keyOf_of_isNumber (hcapital hnumber) hascii hword
  · exact keyOf_of_not_isNumber hascii hword hnumber

end Term

end Concordance
