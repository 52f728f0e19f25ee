import Concordance.Proofs.Index.Records

/-!
# The spellings that an index knows

Among the records of an index is a table that has, for every word in lower case, the words with
capitals that become it. It is written as an object of lists and read back as the same table.

## Main results

* `Index.mem_variants_iff` — the spellings of a word in lower case
-/

namespace Concordance

namespace Index

variable {b : Builder} {k : String}

namespace Builder

/-- One more word among the spellings. -/
def addSpelling (m : Std.TreeMap String (List String)) (w : List Char) :
    Std.TreeMap String (List String) :=
  if Text.lower w = w then m
  else
    let key := String.ofList (Text.lower w)
    let known := m[key]?.getD []
    m.insert key (if known.contains (String.ofList w) then known else known ++ [String.ofList w])

theorem spellings_eq (b : Builder) :
    b.spellings = (b.extracts.flatMap fun p => p.2.words).foldl addSpelling ∅ := rfl

theorem mem_addSpelling {m : Std.TreeMap String (List String)} {w : List Char} {s : String} :
    s ∈ (addSpelling m w)[k]?.getD [] ↔ s ∈ m[k]?.getD [] ∨
      s.toList = w ∧ Text.lower w ≠ w ∧ String.ofList (Text.lower w) = k := by
  rw [addSpelling]
  split
  · rename_i hlower
    simp [hlower]
  · rename_i hlower
    rw [Std.TreeMap.getElem?_insert]
    by_cases hk : String.ofList (Text.lower w) = k
    · have hs : s.toList = w ↔ s = String.ofList w := by
        rw [← String.toList_inj, String.toList_ofList]
      rw [if_pos (by simpa using hk), hk, hs]
      simp only [Option.getD_some, ne_eq, hlower, not_false_eq_true, and_true]
      split
      · rename_i hknown
        have hmem : String.ofList w ∈ m[k]?.getD [] := by simpa using hknown
        constructor
        · exact .inl
        · rintro (h | rfl)
          · exact h
          · exact hmem
      · simp
    · rw [if_neg (by simpa using hk)]
      simp [hk]

theorem mem_foldl_addSpelling {ws : List (List Char)} {m : Std.TreeMap String (List String)}
    {s : String} :
    s ∈ (ws.foldl addSpelling m)[k]?.getD [] ↔ s ∈ m[k]?.getD [] ∨
      s.toList ∈ ws ∧ Text.lower s.toList ≠ s.toList ∧ String.ofList (Text.lower s.toList) = k := by
  induction ws generalizing m with
  | nil => simp
  | cons w ws ih =>
    rw [List.foldl_cons, ih, mem_addSpelling, List.mem_cons]
    constructor
    · rintro ((h | ⟨rfl, h⟩) | ⟨hmem, h⟩)
      · exact .inl h
      · exact .inr ⟨.inl rfl, h⟩
      · exact .inr ⟨.inr hmem, h⟩
    · rintro (h | ⟨rfl | hmem, h⟩)
      · exact .inl (.inl h)
      · exact .inl (.inr ⟨rfl, h⟩)
      · exact .inr ⟨hmem, h⟩

/-- The spellings of a word in lower case. -/
theorem mem_spellings_iff {s : String} :
    s ∈ b.spellings[k]?.getD [] ↔
      ∃ p ∈ b.added, s.toList ∈ (Extract.ofText p.2).words ∧ Text.lower s.toList ≠ s.toList ∧
        String.ofList (Text.lower s.toList) = k := by
  have hempty : s ∉ (∅ : Std.TreeMap String (List String))[k]?.getD [] := by simp
  have hwords : s.toList ∈ (b.extracts.flatMap fun p => p.2.words) ↔
      ∃ p ∈ b.added, s.toList ∈ (Extract.ofText p.2).words := by
    simp [extracts]
  rw [spellings_eq, mem_foldl_addSpelling, hwords]
  constructor
  · rintro (h | ⟨⟨p, hp, hmem⟩, h⟩)
    · exact absurd h hempty
    · exact ⟨p, hp, hmem, h⟩
  · rintro ⟨p, hp, hmem, h⟩
    exact .inr ⟨⟨p, hp, hmem⟩, h⟩

/-- The JSON value of the table of spellings. -/
def spellingsJson (m : Std.TreeMap String (List String)) : Json :=
  .ofMembers (m.toList.map fun p => (p.1, .ofStrings p.2))

theorem isTextual_spellingsJson (m : Std.TreeMap String (List String)) :
    (spellingsJson m).IsTextual := by
  refine Json.isTextual_ofMembers fun p hp => ?_
  obtain ⟨q, -, rfl⟩ := List.mem_map.mp hp
  exact Json.isTextual_ofStrings _

theorem spellingsOf?_spellingsJson (m : Std.TreeMap String (List String)) :
    spellingsOf? (spellingsJson m) = some (m.toList.foldl (fun t p => t.insert p.1 p.2) ∅) := by
  have hfold : ∀ (step : Std.TreeMap String (List String) → Option String × Json →
        Option (Std.TreeMap String (List String))),
      (∀ t key ws, step t (some key, .ofStrings ws) = some (t.insert key ws)) →
      ∀ (l : List (String × List String)) (t : Std.TreeMap String (List String)),
        (l.map fun p => ((some p.1, .ofStrings p.2) : Option String × Json)).foldlM step t
          = some (l.foldl (fun t p => t.insert p.1 p.2) t) := by
    intro step hstep l
    induction l with
    | nil => exact fun t => rfl
    | cons p l ih =>
      intro t
      rw [List.map_cons, List.foldlM_cons, hstep]
      exact ih _
  rw [spellingsJson, Json.ofMembers, List.map_map, spellingsOf?]
  exact hfold _ (fun t key ws => by simp only [Json.texts?_ofStrings]) m.toList ∅

theorem getElem?_records_lowerCaseKey :
    b.records[lowerCaseKey]? = some (spellingsJson b.spellings).toBytes := by
  simp only [records, Records.put]
  rw [Std.TreeMap.getElem?_insert, if_neg (by decide), Std.TreeMap.getElem?_insert,
    if_neg (by decide), Std.TreeMap.getElem?_insert, if_neg (by decide),
    Std.TreeMap.getElem?_insert_self]
  rfl

end Builder

theorem getElem?_spellings_ofBuilder : (ofBuilder b).spellings[k]? = b.spellings[k]? := by
  have hcopy : (b.spellings.toList.foldl (fun t p => t.insert p.1 p.2)
      (∅ : Std.TreeMap String (List String)))[k]? = b.spellings[k]? := by
    rw [getElem?_foldl_toList (h := fun ws : List String => ws)]
    simp
  have hread : Json.ofBytes? (Builder.spellingsJson b.spellings).toBytes
      = some (Builder.spellingsJson b.spellings) :=
    Json.ofBytes?_toBytes (Builder.isTextual_spellingsJson _)
  rw [ofBuilder, ofStorage, value?_records, Builder.getElem?_records_lowerCaseKey, Option.bind_some,
    hread, Option.bind_some, Builder.spellingsOf?_spellingsJson, Option.getD_some]
  exact hcopy

/-- **The spellings of a word in lower case are the words with capitals that become the word.** -/
theorem mem_variants_iff {s : String} :
    s ∈ (ofBuilder b).variants k ↔
      ∃ p ∈ b.added, s.toList ∈ (Extract.ofText p.2).words ∧ Text.lower s.toList ≠ s.toList ∧
        String.ofList (Text.lower s.toList) = k := by
  rw [variants, getElem?_spellings_ofBuilder, Builder.mem_spellings_iff]

end Index

end Concordance
