import Std.Data.TreeSet.Lemmas
import Concordance.Proofs.Index.Spellings

/-!
# The lists among the records

Three records of an index list the words, the Strong's numbers and the morphology tags of all texts.
They are lists of strings like the records of verses, and what is looked up under their keys is read
as a list of verses too. The table of spellings is no list, and no verses are read from it.

## Main definitions

* `Index.wordLists` — the keys of the lists, and what they list

## Main results

* `Index.mem_listed_iff` — a list holds what its texts have, and nothing else
* `Index.mem_postings_list_iff` — the verses that are read from a list
* `Index.exists_of_mem_postings` — under any other key stand verses that were added
-/

namespace Concordance

namespace Index

variable {b : Builder} {v : Verse}

/-! ### Verses as strings -/

/-- The verses under a key are those that the strings under the key are read as. -/
theorem mem_postings_iff_listed {ix : Index} {key : String} :
    v ∈ ix.postings key ↔ ∃ word ∈ ix.listed key, Verse.parse word = v := by
  have hverses : ix.storage.value? versesOf? key
      = (ix.storage.value? Json.texts? key).map fun ts => ts.map Verse.parse := by
    rw [Storage.value?, Storage.value?]
    split
    · exact Option.map_bind.symm
    · rfl
  rw [postings, listed, hverses, VerseSet.mem_ofList]
  cases ix.storage.value? Json.texts? key <;> simp

/-! ### The lists -/

/-- The keys of the lists of words and tags, and what they list. -/
def wordLists : List (String × (Extract → List (List Char))) :=
  [(wordsKey, Extract.words), (strongsKey, Extract.strongs), (morphKey, Extract.morph)]

theorem Builder.mem_collected {f : Extract → List (List Char)} {w : String} :
    w ∈ b.collected f ↔ ∃ p ∈ b.added, w.toList ∈ f (Extract.ofText p.2) := by
  have hstring : ∀ cs : List Char, String.ofList cs = w ↔ cs = w.toList := fun cs => by
    rw [← String.toList_inj, String.toList_ofList]
  rw [collected, Std.TreeSet.mem_toList, Std.TreeSet.mem_ofList]
  simp [extracts, hstring]

/-- The record of a list of words or tags. -/
theorem Builder.getElem?_records_list {list : String × (Extract → List (List Char))}
    (hlist : list ∈ wordLists) :
    b.records[list.1]? = some (Json.ofStrings (b.collected list.2)).toBytes := by
  simp only [records, Records.put]
  simp only [wordLists, List.mem_cons, List.not_mem_nil, or_false] at hlist
  rcases hlist with rfl | rfl | rfl
  · rw [Std.TreeMap.getElem?_insert, if_neg (by decide), Std.TreeMap.getElem?_insert,
      if_neg (by decide), Std.TreeMap.getElem?_insert_self]
  · rw [Std.TreeMap.getElem?_insert, if_neg (by decide), Std.TreeMap.getElem?_insert_self]
  · rw [Std.TreeMap.getElem?_insert_self]

section

variable {list : String × (Extract → List (List Char))} (hlist : list ∈ wordLists)

include hlist

/-- **A list holds what the texts have.** -/
theorem mem_listed_iff {w : String} :
    w ∈ (ofBuilder b).listed list.1 ↔ ∃ p ∈ b.added, w.toList ∈ list.2 (Extract.ofText p.2) := by
  have hread : Json.ofBytes? (Json.ofStrings (b.collected list.2)).toBytes
      = some (Json.ofStrings (b.collected list.2)) :=
    Json.ofBytes?_toBytes (Json.isTextual_ofStrings _)
  rw [listed, ofBuilder, ofStorage, value?_records, Builder.getElem?_records_list hlist,
    Option.bind_some, hread, Option.bind_some, Json.texts?_ofStrings, Option.getD_some,
    Builder.mem_collected]

/-- **The verses that are read from a list.** -/
theorem mem_postings_list_iff :
    v ∈ (ofBuilder b).postings list.1 ↔
      ∃ p ∈ b.added, ∃ word ∈ list.2 (Extract.ofText p.2), Verse.parse (String.ofList word) = v := by
  rw [mem_postings_iff_listed]
  constructor
  · rintro ⟨word, hword, rfl⟩
    obtain ⟨p, hp, hmem⟩ := (mem_listed_iff hlist).mp hword
    exact ⟨p, hp, _, hmem, by rw [String.ofList_toList]⟩
  · rintro ⟨p, hp, word, hword, rfl⟩
    exact ⟨_, (mem_listed_iff hlist).mpr ⟨p, hp, by rwa [String.toList_ofList]⟩, rfl⟩

end

theorem mem_vocabulary_iff {w : String} :
    w ∈ (ofBuilder b).vocabulary ↔ ∃ p ∈ b.added, w.toList ∈ (Extract.ofText p.2).words :=
  mem_listed_iff (show (wordsKey, Extract.words) ∈ wordLists from List.mem_cons_self)

theorem mem_strongsVocabulary_iff {w : String} :
    w ∈ (ofBuilder b).strongsVocabulary ↔ ∃ p ∈ b.added, w.toList ∈ (Extract.ofText p.2).strongs :=
  mem_listed_iff (show (strongsKey, Extract.strongs) ∈ wordLists by simp [wordLists])

theorem mem_morphVocabulary_iff {w : String} :
    w ∈ (ofBuilder b).morphVocabulary ↔ ∃ p ∈ b.added, w.toList ∈ (Extract.ofText p.2).morph :=
  mem_listed_iff (show (morphKey, Extract.morph) ∈ wordLists by simp [wordLists])

/-! ### All other keys -/

/-- No verses are read from the table of spellings. -/
theorem postings_lowerCaseKey : v ∉ (ofBuilder b).postings lowerCaseKey := by
  have hread : Json.ofBytes? (Builder.spellingsJson b.spellings).toBytes
      = some (Builder.spellingsJson b.spellings) :=
    Json.ofBytes?_toBytes (Builder.isTextual_spellingsJson _)
  have hnone : (ofBuilder b).listed lowerCaseKey = [] := by
    rw [listed, ofBuilder, ofStorage, value?_records, Builder.getElem?_records_lowerCaseKey,
      Option.bind_some, hread]
    rfl
  rw [mem_postings_iff_listed, hnone]
  simp

/-- **Under a key that is not the key of a list stand verses that were added.** -/
theorem exists_of_mem_postings {key : String} (hkey : ∀ list ∈ wordLists, list.1 ≠ key)
    (hv : v ∈ (ofBuilder b).postings key) : ∃ raw, (v, raw) ∈ b.added := by
  by_cases hlower : key = lowerCaseKey
  · subst hlower
    exact absurd hv postings_lowerCaseKey
  · have hlist : key ∉ listKeys := by
      change key ∉ lowerCaseKey :: wordLists.map Prod.fst
      rw [List.mem_cons, List.mem_map]
      rintro (h | ⟨list, hmem, h⟩)
      · exact hlower h
      · exact hkey list hmem h
    obtain ⟨raw, hadded, -⟩ := (mem_postings_iff hlist).mp hv
    exact ⟨raw, hadded⟩

end Index

end Concordance
