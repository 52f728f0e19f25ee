import Concordance.Proofs.Markup.Tag
import Concordance.Proofs.Text.Ascii
import Concordance.Proofs.Text.Scanning
import Concordance.Search.Plan

/-!
# Queries for words

A query of words of letters has no tags in it, since a Strong's number has digits and a morphology
tag has brackets. So it passes every step of its preparation as it is, and the terms of the plan are
its words, in lower case unless case counts.

## Main definitions

* `Term.spelled` — the spelling of a word that a search looks for

## Main results

* `Term.canonicalTags_eq_self` — a text without digits and brackets stays as it is
* `Term.mentionsStrongs_eq_false`, `Term.mentionsMorph_eq_false` — such a text mentions no tags
* `Plan.ofTerms_words` — the terms of a query of words are its words
-/

namespace Concordance

namespace Term

open Markup Text

/-! ### Texts without tags -/

theorem number?_eq_none {language : Char → Bool} {cs : List Char}
    (h : ∀ c ∈ cs, isDigit c = false) :
    number? language cs = none := by
  rw [Option.eq_none_iff_forall_ne_some]
  rintro ⟨number, rest⟩ hread
  obtain ⟨⟨c, ds, rfl, -, hne, hds⟩, -, rfl⟩ := number?_eq_some_iff.mp hread
  obtain ⟨d, ds, rfl⟩ := List.exists_cons_of_ne_nil hne
  have hd : isDigit d = true := hds d (by simp)
  rw [h d (by simp)] at hd
  cases hd

/-- Reads a Strong's number that does not go on as a word, and the bracket after it. -/
def looseNumber? (cs : List Char) : Option (List Char × List Char) :=
  (number? isLanguageAnyCase cs).bind fun (number, rest) =>
    if startsInWord rest then none else some (number, skipSign '>' rest)

/-- A Strong's number comes after its bracket, or else not within a word. -/
theorem looseStrongs?_eq (afterWord : Bool) (cs : List Char) :
    looseStrongs? afterWord cs = ((sign? '<' cs).bind looseNumber?).or
      (if afterWord then none else looseNumber? cs) := by
  rw [looseStrongs?]
  split
  · rename_i found hfound
    have hsign : (sign? '<' cs).bind looseNumber? = some found := hfound
    rw [hsign, Option.some_or]
  · rename_i hfound
    have hsign : (sign? '<' cs).bind looseNumber? = none := hfound
    rw [hsign, Option.none_or]
    rfl

theorem looseNumber?_eq_none {cs : List Char} (h : ∀ c ∈ cs, isDigit c = false) :
    looseNumber? cs = none := by
  rw [looseNumber?, number?_eq_none h, Option.bind_none]

/-- Without digits there is no Strong's number. -/
theorem looseStrongs?_eq_none {afterWord : Bool} {cs : List Char}
    (h : ∀ c ∈ cs, isDigit c = false) : looseStrongs? afterWord cs = none := by
  have hbind : (sign? '<' cs).bind looseNumber? = none := by
    rw [Option.bind_eq_none_iff]
    intro rest hrest
    rw [sign?_eq_some_iff] at hrest
    exact looseNumber?_eq_none fun c hc => h c (by simp [hrest, hc])
  rw [looseStrongs?_eq, hbind, looseNumber?_eq_none h]
  simp

/-- A sign that does not open a morphology tag. -/
def OpensNoTag (c : Char) : Prop := c ≠ '(' ∧ c ≠ '\x7b'

theorem opensNoTag_of_isBracket {c : Char} (h : isBracket c = false) : OpensNoTag c := by
  constructor <;> rintro rfl <;> exact absurd h (by decide)

theorem tagOpening?_eq_none {cs : List Char} (h : ∀ c ∈ cs, OpensNoTag c) :
    tagOpening? cs = none := by
  cases cs with
  | nil => rfl
  | cons c cs =>
    obtain ⟨hparen, hbrace⟩ := h c (by simp)
    simp [tagOpening?, sign?_cons_of_ne hparen, sign?_cons_of_ne hbrace]

/-- Without an opening sign there is no morphology tag. -/
theorem looseMorph?_eq_none {cs : List Char} (h : ∀ c ∈ cs, OpensNoTag c) :
    looseMorph? cs = none := by
  simp [looseMorph?, tagOpening?_eq_none h]

theorem boundedMorph?_eq_none {afterWord : Bool} {cs : List Char} (h : ∀ c ∈ cs, OpensNoTag c) :
    boundedMorph? afterWord cs = none := by
  simp [boundedMorph?, looseMorph?_eq_none h]

theorem scan_looseStrongs? {cs : List Char} (h : ∀ c ∈ cs, isDigit c = false) :
    scan looseStrongs? cs = cs.map .other :=
  scan_eq_map fun before c after hcs =>
    looseStrongs?_eq_none fun d hd => h d (by rw [hcs]; exact List.mem_append_right _ hd)

theorem scan_boundedMorph? {cs : List Char} (h : ∀ c ∈ cs, OpensNoTag c) :
    scan boundedMorph? cs = cs.map .other :=
  scan_eq_map fun before c after hcs =>
    boundedMorph?_eq_none fun d hd => h d (by rw [hcs]; exact List.mem_append_right _ hd)

/-- **A text without digits and brackets has no tags to be put into their one form.** -/
theorem canonicalTags_eq_self {cs : List Char} (hdigit : ∀ c ∈ cs, isDigit c = false)
    (hbracket : ∀ c ∈ cs, isBracket c = false) : canonicalTags cs = cs := by
  rw [canonicalTags, replaceItems_of_scan (scan_looseStrongs? hdigit),
    replaceItems_of_scan (scan_boundedMorph? fun c hc => opensNoTag_of_isBracket (hbracket c hc))]

theorem mentionsStrongs_eq_false {cs : List Char} (h : ∀ c ∈ cs, isDigit c = false) :
    mentionsStrongs cs = false := by
  simp [mentionsStrongs, hasItem, items_of_scan (scan_looseStrongs? h)]

theorem mentionsMorph_eq_false {cs : List Char} (h : ∀ c ∈ cs, isBracket c = false) :
    mentionsMorph cs = false := by
  simp [mentionsMorph, hasItem,
    items_of_scan (scan_boundedMorph? fun c hc => opensNoTag_of_isBracket (h c hc))]

/-! ### Words of letters -/

variable {w : List Char} {ws : List (List Char)}

/-- A word of letters is the term of a word. -/
theorem ofToken_eq_word (h : IsLetters w) : ofToken w = word w := by
  have hskip : skipSign '<' w = w := by
    obtain ⟨c, cs, rfl⟩ := List.exists_cons_of_ne_nil h.ne_nil
    have hc : c ≠ '<' := by
      rintro rfl
      exact absurd (h.isAlpha '<' (by simp)) (by decide)
    simp [skipSign, sign?_cons_of_ne hc]
  have hstrongs : isStrongsToken w = false := by
    rw [isStrongsToken, hskip, number?_eq_none fun c hc => isDigit_of_isAlpha (h.isAlpha c hc)]
  have hmorph : isMorphToken w = false := by
    rw [isMorphToken, looseMorph?_eq_none fun c hc =>
      opensNoTag_of_isBracket (isBracket_of_isAlpha (h.isAlpha c hc))]
  simp [ofToken, hstrongs, hmorph]

/-- What a character of words joined by spaces is. -/
theorem forall_mem_intercalate {P : Char → Prop} (h : ∀ w ∈ ws, ∀ c ∈ w, P c) :
    ∀ c ∈ [' '].intercalate ws, P c ∨ c = ' ' := by
  induction ws with
  | nil => simp [List.intercalate]
  | cons w ws ih =>
    have hw : ∀ c ∈ w, P c := h w (by simp)
    have hws := ih fun v hv => h v (by simp [hv])
    cases ws with
    | nil => simpa [List.intercalate] using fun c hc => Or.inl (hw c hc)
    | cons v ws =>
      rw [List.intercalate_cons_cons]
      intro c hc
      simp only [List.mem_append, List.mem_singleton] at hc
      rcases hc with (hc | rfl) | hc
      · exact .inl (hw c hc)
      · exact .inr rfl
      · exact hws c hc

/-- Words of term characters joined by spaces are made of terms already. -/
theorem blankOut_intercalate (h : ∀ w ∈ ws, ∀ c ∈ w, isTermChar c = true) :
    blankOut ([' '].intercalate ws) = [' '].intercalate ws := by
  refine (List.map_congr_left fun c hc => ?_).trans (List.map_id _)
  rcases forall_mem_intercalate h c hc with hc | rfl
  · simp [hc]
  · simp

/-- What a character of a query of words is. -/
theorem isAlpha_or_space (h : ∀ w ∈ ws, IsLetters w) :
    ∀ c ∈ [' '].intercalate ws, c.isAlpha = true ∨ c = ' ' :=
  forall_mem_intercalate fun w hw => (h w hw).isAlpha

section

variable (h : ∀ w ∈ ws, IsLetters w)

include h

theorem isDigit_intercalate : ∀ c ∈ [' '].intercalate ws, isDigit c = false := by
  intro c hc
  rcases isAlpha_or_space h c hc with hc | rfl
  · exact isDigit_of_isAlpha hc
  · decide

theorem isBracket_intercalate : ∀ c ∈ [' '].intercalate ws, isBracket c = false := by
  intro c hc
  rcases isAlpha_or_space h c hc with hc | rfl
  · exact isBracket_of_isAlpha hc
  · decide

theorem cleanText_intercalate : cleanText ([' '].intercalate ws) = [' '].intercalate ws := by
  rw [cleanText, blankOut_intercalate fun w hw c hc => isTermChar_of_isAlpha ((h w hw).isAlpha c hc),
    collapse, words_intercalate fun w hw => (h w hw).isPart]

theorem parseAll_intercalate : parseAll ([' '].intercalate ws) = ws.map word := by
  rw [parseAll, words_intercalate fun w hw => (h w hw).isPart]
  exact List.map_congr_left fun w hw => ofToken_eq_word (h w hw)

end

/-- The spelling of a word that a search looks for: in lower case unless case counts. -/
def spelled (caseSensitive : Bool) (w : List Char) : List Char :=
  if caseSensitive then w else Text.lower w

theorem isLetters_spelled (caseSensitive : Bool) (h : IsLetters w) :
    IsLetters (spelled caseSensitive w) := by
  cases caseSensitive
  · exact h.lower
  · exact h

end Term

/-! ### Plans -/

namespace Plan

open Text (IsLetters)

variable {strategy : Strategy} {flags : Flags} {ws : List (List Char)}

variable (h : ∀ w ∈ ws, IsLetters w)

include h

/-- Words of letters are terms as they were given. -/
theorem trimmed_eq : (ws.map Text.trim).filter (!·.isEmpty) = ws := by
  have htrim : ws.map Text.trim = ws :=
    (List.map_congr_left fun w hw => Text.trim_of_isPart (h w hw).isPart).trans (List.map_id _)
  rw [htrim, List.filter_eq_self]
  exact fun w hw => by simpa using (h w hw).ne_nil

/-- **The plan of a query of words.** -/
theorem ofTerms_words (hcleans : strategy.cleansWords = true)
    (hcanon : strategy.canonicalizesTags = true) :
    ofTerms strategy ws flags = ⟨strategy, ws, [' '].intercalate ws,
      ws.map fun w => .word (Term.spelled flags.caseSensitive w), flags, rangeOf? flags⟩ := by
  simp only [ofTerms, withRange, trimmed_eq h, hcleans, hcanon, if_true,
    Term.canonicalTags_eq_self (Term.isDigit_intercalate h) (Term.isBracket_intercalate h),
    Term.cleanText_intercalate h, Term.parseAll_intercalate h, List.map_map]
  rfl

end Plan

end Concordance
