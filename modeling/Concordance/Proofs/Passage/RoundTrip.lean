import Concordance.Proofs.Passage.Expressions

/-!
# Passages read back

The written form of a passage is a fragment that names the book, the chapter and the verse at both ends,
in full. So passages that are written one after another are read back in the same order, and none of them
depends on the one before it.

## Main results

* `Fragment.text_ofPassage`, `Fragment.item_ofPassage` — a passage as a fragment
* `PassageItem.parseAll_display` — passages are read back from their written forms
-/

namespace Concordance

namespace Fragment

/-- A passage as a fragment of an expression. -/
def ofPassage (p : Passage) : Fragment :=
  .named (.toVerse p.lower.bookName p.lower.chapterNumber p.lower.verseNumber
    p.upper.bookName p.upper.chapterNumber p.upper.verseNumber)

/-- **A passage is written as its fragment is.** -/
theorem text_ofPassage (p : Passage) : (ofPassage p).text .tight = p.display.toList := by
  simp [ofPassage, text, Named.text, Spacing.tight, Passage.display, String.toList_append,
    Verse.toList_reference]

/-- **A passage means its ends**, whatever stands before it. -/
theorem item_ofPassage (context : Verse) (p : Passage) :
    (ofPassage p).item context = .between p.lower p.upper := by
  rw [ofPassage, item, Named.item, Named.first, Named.last, Verse.ofParts_numbers,
    Verse.ofParts_numbers]

theorem items_ofPassage (context : Verse) (ps : List Passage) :
    items context (ps.map ofPassage) = ps.map fun p => .between p.lower p.upper := by
  induction ps generalizing context with
  | nil => rfl
  | cons p ps ih => rw [List.map_cons, items, item_ofPassage, ih, List.map_cons]

end Fragment

/-- Fragments with one separator between them, and the same blanks after each. -/
theorem joins_intercalate {separator : Char} (hseparator : separator = ',' ∨ separator = ';')
    (blanks : Blanks) (css : List (List Char)) :
    Joins css ((separator :: blanks.chars).intercalate css) := by
  induction css with
  | nil => exact .nil
  | cons cs css ih =>
    cases css with
    | nil => simpa using Joins.single cs
    | cons ds css =>
      rw [List.intercalate_cons_cons, List.append_assoc, List.cons_append]
      exact .cons cs hseparator blanks ih

namespace PassageItem

/-- What lies between the ends of a passage is the passage, unless that is a single verse. -/
theorem between_lower_upper (p : Passage) :
    between p.lower p.upper = if p.lower < p.upper then .passage p else .verse p.lower := by
  by_cases h : p.lower < p.upper <;> simp [between, h]

/-- A passage has the verses that lie between its ends. -/
theorem toSet_between (p : Passage) : (between p.lower p.upper).toSet = p.toSet := by
  rw [between_lower_upper]
  by_cases h : p.lower < p.upper
  · rw [if_pos h, toSet]
  · have hends : p.upper = p.lower := Verse.ext (Nat.le_antisymm (Nat.not_lt.mp h) p.lower_le_upper)
    ext v
    rw [if_neg h, toSet, VerseSet.mem_singleton, Passage.toSet, VerseSet.mem_between, hends]
    constructor
    · rintro rfl
      exact ⟨Nat.le_refl _, Nat.le_refl _⟩
    · exact fun hv => Verse.ext (Nat.le_antisymm hv.2 hv.1)

/-- **Passages are read back from their written forms**, with semicolons or commas between them: one item
for each, in the same order, and all their verses. So is every single verse. -/
theorem parseAll_display (ps : List Passage) (separator : String)
    (hseparator : separator = "; " ∨ separator = ", ") :
    parseAll (separator.intercalate (ps.map Passage.display))
        = (ps.map fun p => if p.lower < p.upper then .passage p else .verse p.lower) ∧
      VerseSet.parse (separator.intercalate (ps.map Passage.display)) = .unionOf Passage.toSet ps ∧
      ∀ v : Verse, Verse.parse v.reference = v := by
  have hchars : ∃ c, (c = ',' ∨ c = ';') ∧ separator.toList = c :: Blanks.space.chars := by
    obtain rfl | rfl := hseparator
    · exact ⟨';', .inr rfl, rfl⟩
    · exact ⟨',', .inl rfl, rfl⟩
  obtain ⟨c, hc, hseparator⟩ := hchars
  have hjoins : Joins ((ps.map Fragment.ofPassage).map (Fragment.text .tight))
      (separator.intercalate (ps.map Passage.display)).toList := by
    have hjoined := joins_intercalate hc .space (ps.map fun p => p.display.toList)
    rw [String.toList_intercalate, hseparator]
    simpa [Function.comp_def, Fragment.text_ofPassage] using hjoined
  have hitems : parseAll (separator.intercalate (ps.map Passage.display))
      = ps.map fun p => between p.lower p.upper := by
    rw [parseAll_of_tight hjoins, Fragment.items_ofPassage]
  refine ⟨?_, ?_, Verse.parse_reference⟩
  · rw [hitems]
    exact List.map_congr_left fun p _ => between_lower_upper p
  · ext v
    rw [VerseSet.parse, hitems, VerseSet.mem_unionOf, VerseSet.mem_unionOf]
    constructor
    · rintro ⟨item, hitem, hv⟩
      obtain ⟨p, hp, rfl⟩ := List.mem_map.mp hitem
      exact ⟨p, hp, toSet_between p ▸ hv⟩
    · rintro ⟨p, hp, hv⟩
      exact ⟨_, List.mem_map_of_mem hp, (toSet_between p).symm ▸ hv⟩

/-- A passage in a book with a numeral, and a single verse. -/
theorem parseAll_display_samuel :
    parseAll "I Samuel 31:13-II Samuel 1:2; Genesis 1:1-Genesis 1:1"
        = [.between (.ofParts 8 31 13) (.ofParts 9 1 2), .verse .first] ∧
      (VerseSet.parse "I Samuel 31:13-II Samuel 1:2; Genesis 1:1-Genesis 1:1")
        = .unionOf Passage.toSet [.ofEnds (.ofParts 8 31 13) (.ofParts 9 1 2), .ofEnds .first .first] := by
  have hdisplay : "; ".intercalate ([.ofEnds (.ofParts 8 31 13) (.ofParts 9 1 2),
      .ofEnds .first .first].map Passage.display)
      = "I Samuel 31:13-II Samuel 1:2; Genesis 1:1-Genesis 1:1" := by decide +kernel
  obtain ⟨hitems, hset, -⟩ := parseAll_display
    [.ofEnds (.ofParts 8 31 13) (.ofParts 9 1 2), .ofEnds .first .first] "; " (.inl rfl)
  rw [hdisplay] at hitems hset
  exact ⟨hitems.trans (by decide +kernel), hset⟩

end PassageItem

end Concordance
