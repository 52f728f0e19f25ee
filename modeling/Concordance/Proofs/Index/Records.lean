import Mathlib.Data.List.Nodup
import Mathlib.Tactic.Tauto
import Std.Data.TreeMap.Lemmas
import Concordance.Index
import Concordance.Proofs.Json.RoundTrip
import Concordance.Proofs.Markup.Tag
import Concordance.Proofs.Text.Scanning
import Concordance.Proofs.Text.Runs
import Concordance.Proofs.Text.Utf8RoundTrip
import Concordance.Proofs.Verse.Reference
import Concordance.Search.Source

/-!
# What the records of an index say

The records of an index are read back as what was put in: under the reference of a verse its last
text, and under a word or tag the verses whose texts have it. References have blanks, which no word
and no tag has, so that the two kinds of records do not touch. Only the keys of the four lists are
apart: a word spelled like one of them gives way to the list.

## Main definitions

* `Index.Builder.ofTexts` — a builder to which verses with texts were added in order
* `Index.listKeys` — the keys of the four lists
* `Index.Builder.source` — the texts of the verses of a builder

## Main results

* `Index.mem_postings_iff` — the verses under a key are those whose texts have it
* `Index.ofStorage_source` — the text of a verse is the last one that was added
-/

namespace Concordance

/-! ### Verses in order -/

instance : Std.TransOrd Verse where
  eq_swap {v w} := @Std.OrientedCmp.eq_swap Nat compare _ v.ordinal w.ordinal
  isLE_trans {u v w} := @Std.TransCmp.isLE_trans Nat compare _ u.ordinal v.ordinal w.ordinal

instance : Std.LawfulEqOrd Verse where
  compare_self {v} := @Std.ReflCmp.compare_self Nat compare _ v.ordinal
  eq_of_compare {v w} h :=
    Verse.ext (@Std.LawfulEqCmp.eq_of_compare Nat compare _ v.ordinal w.ordinal h)

/-- The value of a record is read back as the JSON value that it holds. -/
theorem Json.ofBytes?_toBytes {j : Json} (h : j.IsTextual) : ofBytes? j.toBytes = some j := by
  simp [ofBytes?, toBytes, read?_chars h]

/-! ### Folds of insertions -/

section

variable {ι κ β : Type} [Ord κ] [Std.TransOrd κ] [Std.LawfulEqOrd κ] {f : ι → κ} {g : ι → β}

theorem getElem?_foldl_insert_of_ne {l : List ι} {m : Std.TreeMap κ β} {k : κ}
    (h : ∀ p ∈ l, f p ≠ k) : (l.foldl (fun m p => m.insert (f p) (g p)) m)[k]? = m[k]? := by
  induction l generalizing m with
  | nil => rfl
  | cons p l ih =>
    have hp : f p ≠ k := h p (by simp)
    rw [List.foldl_cons, ih fun q hq => h q (by simp [hq]), Std.TreeMap.getElem?_insert,
      if_neg (by simpa using hp)]

/-- What is inserted last under a key is what all insertions under it agree on. -/
theorem getElem?_foldl_insert_of_mem {l : List ι} {m : Std.TreeMap κ β} {k : κ} {y : β}
    (hmem : ∃ p ∈ l, f p = k) (h : ∀ p ∈ l, f p = k → g p = y) :
    (l.foldl (fun m p => m.insert (f p) (g p)) m)[k]? = some y := by
  induction l generalizing m with
  | nil => simp at hmem
  | cons p l ih =>
    have htail : ∀ q ∈ l, f q = k → g q = y := fun q hq => h q (by simp [hq])
    rw [List.foldl_cons]
    by_cases hlater : ∃ q ∈ l, f q = k
    · exact ih hlater htail
    · have hne : ∀ q ∈ l, f q ≠ k := fun q hq heq => hlater ⟨q, hq, heq⟩
      have hp : f p = k := by
        obtain ⟨q, hq, heq⟩ := hmem
        rcases List.mem_cons.mp hq with rfl | hq
        · exact heq
        · exact absurd heq (hne q hq)
      rw [getElem?_foldl_insert_of_ne hne, Std.TreeMap.getElem?_insert, if_pos (by simp [hp]),
        h p (by simp) hp]

/-- What is found under a key after insertions was inserted there, or was there before. -/
theorem exists_of_getElem?_foldl_insert {l : List ι} {m : Std.TreeMap κ β} {k : κ} {y : β}
    (h : (l.foldl (fun m p => m.insert (f p) (g p)) m)[k]? = some y) :
    (∃ p ∈ l, f p = k ∧ g p = y) ∨ m[k]? = some y := by
  induction l generalizing m with
  | nil => exact .inr h
  | cons p l ih =>
    obtain ⟨q, hq, heq⟩ | hm := ih h
    · exact .inl ⟨q, List.mem_cons_of_mem p hq, heq⟩
    · rw [Std.TreeMap.getElem?_insert] at hm
      split at hm
      · rename_i hk
        exact .inl ⟨p, List.mem_cons_self, by simpa using hk, Option.some.inj hm⟩
      · exact .inr hm

/-- Writing out a map under its own keys, over what was there before. -/
theorem getElem?_foldl_toList {γ : Type} {h : γ → β} {t : Std.TreeMap κ γ} {m : Std.TreeMap κ β}
    {k : κ} :
    (t.toList.foldl (fun m p => m.insert p.1 (h p.2)) m)[k]?
      = (t[k]?.map h).or m[k]? := by
  cases hk : t[k]? with
  | none =>
    rw [getElem?_foldl_insert_of_ne]
    · simp
    · rintro ⟨k', x⟩ hp rfl
      rw [Std.TreeMap.mem_toList_iff_getElem?_eq_some.mp hp] at hk
      cases hk
  | some x =>
    rw [getElem?_foldl_insert_of_mem (y := h x)]
    · simp
    · exact ⟨(k, x), Std.TreeMap.mem_toList_iff_getElem?_eq_some.mpr hk, rfl⟩
    · rintro ⟨k', x'⟩ hp rfl
      rw [Std.TreeMap.mem_toList_iff_getElem?_eq_some.mp hp] at hk
      rw [Option.some.inj hk]

end

namespace Index

namespace Builder

variable {b : Builder} {v : Verse} {k : String}

/-! ### Texts -/

theorem texts_eq (b : Builder) : b.texts = b.added.foldl (fun m p => m.insert p.1 p.2) ∅ := rfl

/-- Of verses that are added once, the text is the one that was added. -/
theorem getElem?_texts_of_mem (hnodup : (b.added.map Prod.fst).Nodup) {raw : List Char}
    (h : (v, raw) ∈ b.added) : b.texts[v]? = some raw := by
  rw [texts_eq]
  refine getElem?_foldl_insert_of_mem (f := Prod.fst) (g := Prod.snd) ⟨_, h, rfl⟩ ?_
  intro p hp hpv
  exact congrArg Prod.snd (List.inj_on_of_nodup_map hnodup hp h hpv)

/-- The text of a verse is one that was added. -/
theorem mem_added_of_getElem?_texts {raw : List Char} (h : b.texts[v]? = some raw) :
    (v, raw) ∈ b.added := by
  obtain ⟨p, hp, rfl, rfl⟩ | hempty :=
    exists_of_getElem?_foldl_insert (f := Prod.fst) (g := Prod.snd) (texts_eq b ▸ h)
  · exact hp
  · simp at hempty

theorem getElem?_texts_iff (hnodup : (b.added.map Prod.fst).Nodup) {raw : List Char} :
    b.texts[v]? = some raw ↔ (v, raw) ∈ b.added :=
  ⟨mem_added_of_getElem?_texts, getElem?_texts_of_mem hnodup⟩

/-- A builder to which verses with texts were added, one after another. -/
def ofTexts (texts : List (Verse × List Char)) : Builder :=
  texts.foldl (fun b p => b.add p.1 p.2) {}

@[simp] theorem added_ofTexts (texts : List (Verse × List Char)) : (ofTexts texts).added = texts := by
  have hfold : ∀ (l : List (Verse × List Char)) (b : Builder),
      (l.foldl (fun b p => b.add p.1 p.2) b).added = b.added ++ l := by
    intro l
    induction l with
    | nil => simp
    | cons p l ih =>
      intro b
      rw [List.foldl_cons, ih]
      simp [add]
  simpa [ofTexts] using hfold texts {}

/-! ### Postings -/

/-- One more key of a verse. -/
def addKey (v : Verse) (m : Std.TreeMap String VerseSet) (key : List Char) :
    Std.TreeMap String VerseSet :=
  m.insert (String.ofList key) ((m[String.ofList key]?.getD ∅).insert v)

theorem postings_eq (b : Builder) :
    b.postings = b.extracts.foldl (fun m p => p.2.keys.foldl (addKey p.1) m) ∅ := rfl

theorem mem_addKey {m : Std.TreeMap String VerseSet} {w : Verse} {key : List Char} :
    w ∈ (addKey v m key)[k]?.getD ∅ ↔ w ∈ m[k]?.getD ∅ ∨ w = v ∧ key = k.toList := by
  rw [addKey, Std.TreeMap.getElem?_insert]
  by_cases hk : String.ofList key = k
  · subst hk
    simp
  · have hne : key ≠ k.toList := fun h => hk (by rw [h, String.ofList_toList])
    simp [hk, hne]

theorem isSome_addKey {m : Std.TreeMap String VerseSet} {key : List Char} :
    (addKey v m key)[k]?.isSome ↔ m[k]?.isSome ∨ key = k.toList := by
  rw [addKey, Std.TreeMap.getElem?_insert]
  by_cases hk : String.ofList key = k
  · subst hk
    simp
  · have hne : key ≠ k.toList := fun h => hk (by rw [h, String.ofList_toList])
    simp [hk, hne]

theorem mem_foldl_addKey {m : Std.TreeMap String VerseSet} {w : Verse} {keys : List (List Char)} :
    w ∈ (keys.foldl (addKey v) m)[k]?.getD ∅ ↔ w ∈ m[k]?.getD ∅ ∨ w = v ∧ k.toList ∈ keys := by
  induction keys generalizing m with
  | nil => simp
  | cons key keys ih =>
    rw [List.foldl_cons, ih, mem_addKey, List.mem_cons]
    tauto

theorem isSome_foldl_addKey {m : Std.TreeMap String VerseSet} {keys : List (List Char)} :
    (keys.foldl (addKey v) m)[k]?.isSome ↔ m[k]?.isSome ∨ k.toList ∈ keys := by
  induction keys generalizing m with
  | nil => simp
  | cons key keys ih =>
    rw [List.foldl_cons, ih, isSome_addKey, List.mem_cons]
    tauto

theorem mem_foldl_addKeys {m : Std.TreeMap String VerseSet} {l : List (Verse × Extract)} :
    v ∈ (l.foldl (fun m p => p.2.keys.foldl (addKey p.1) m) m)[k]?.getD ∅ ↔
      v ∈ m[k]?.getD ∅ ∨ ∃ e, (v, e) ∈ l ∧ k.toList ∈ e.keys := by
  induction l generalizing m with
  | nil => simp
  | cons p l ih =>
    obtain ⟨w, e⟩ := p
    rw [List.foldl_cons, ih, mem_foldl_addKey]
    simp only [List.mem_cons, Prod.mk.injEq]
    constructor
    · rintro ((h | ⟨rfl, h⟩) | ⟨e', hmem, h⟩)
      · exact .inl h
      · exact .inr ⟨e, .inl ⟨rfl, rfl⟩, h⟩
      · exact .inr ⟨e', .inr hmem, h⟩
    · rintro (h | ⟨e', ⟨rfl, rfl⟩ | hmem, h⟩)
      · exact .inl (.inl h)
      · exact .inl (.inr ⟨rfl, h⟩)
      · exact .inr ⟨e', hmem, h⟩

theorem isSome_foldl_addKeys {m : Std.TreeMap String VerseSet} {l : List (Verse × Extract)} :
    (l.foldl (fun m p => p.2.keys.foldl (addKey p.1) m) m)[k]?.isSome ↔
      m[k]?.isSome ∨ ∃ p ∈ l, k.toList ∈ p.2.keys := by
  induction l generalizing m with
  | nil => simp
  | cons p l ih =>
    rw [List.foldl_cons, ih, isSome_foldl_addKey]
    simp [or_assoc]

theorem mem_extracts {e : Extract} :
    (v, e) ∈ b.extracts ↔ ∃ raw, (v, raw) ∈ b.added ∧ Extract.ofText raw = e := by
  simp only [extracts, List.mem_map, Prod.mk.injEq]
  constructor
  · rintro ⟨⟨_, raw⟩, hmem, rfl, rfl⟩
    exact ⟨raw, hmem, rfl⟩
  · rintro ⟨raw, hmem, rfl⟩
    exact ⟨(v, raw), hmem, rfl, rfl⟩

/-- **A key stands for the verses whose texts have it.** -/
theorem mem_postings_iff :
    v ∈ b.postings[k]?.getD ∅ ↔
      ∃ raw, (v, raw) ∈ b.added ∧ k.toList ∈ (Extract.ofText raw).keys := by
  rw [postings_eq, mem_foldl_addKeys]
  simp only [mem_extracts]
  constructor
  · rintro (h | ⟨_, ⟨raw, hmem, rfl⟩, h⟩)
    · simp at h
    · exact ⟨raw, hmem, h⟩
  · rintro ⟨raw, hmem, h⟩
    exact .inr ⟨_, ⟨raw, hmem, rfl⟩, h⟩

theorem isSome_postings_iff :
    b.postings[k]?.isSome ↔ ∃ p ∈ b.extracts, k.toList ∈ p.2.keys := by
  rw [postings_eq, isSome_foldl_addKeys]
  simp

/-! ### Keys have no blanks -/

theorem ne_blank_of_isTagChar {c : Char} (h : Markup.isTagChar c = true) : c ≠ ' ' := by
  rintro rfl
  exact absurd h (by decide)

theorem ne_blank_of_isNumber {number : List Char}
    (h : Markup.IsNumber Markup.isLanguageAnyCase number) : ' ' ∉ number := by
  obtain ⟨c, ds, rfl, hc, -, hds⟩ := h
  rintro hmem
  rcases List.mem_cons.mp hmem with rfl | hmem
  · exact absurd hc (by decide)
  · exact absurd (hds _ hmem) (by decide)

/-- No key has a blank. -/
theorem blank_notMem_of_mem_keys {raw key : List Char} (h : key ∈ (Extract.ofText raw).keys) :
    ' ' ∉ key := by
  simp only [Extract.keys, Extract.ofText, List.mem_append, List.mem_eraseDups] at h
  rcases h with (h | h) | h | h
  · obtain ⟨b, cs, rest, hread⟩ := Text.exists_of_mem_items h
    cases cs with
    | nil => cases hread
    | cons c cs =>
      simp only [Extract.spacedStrongs?, Extract.afterBlank] at hread
      split at hread
      · exact ne_blank_of_isNumber (Markup.strongs?_eq_some_iff.mp hread).1
      · cases hread
  · obtain ⟨b, cs, rest, hread⟩ := Text.exists_of_mem_items h
    cases cs with
    | nil => cases hread
    | cons c cs =>
      simp only [Extract.spacedMorph?, Extract.afterBlank] at hread
      split at hread
      · exact fun hmem =>
          ne_blank_of_isTagChar ((Markup.morph?_eq_some_iff.mp hread).2.1 _ hmem) rfl
      · cases hread
  all_goals
    exact fun hmem => absurd (Text.forall_of_mem_runs h _ hmem) (by decide)

/-! ### Records -/

/-- The records of texts. -/
def textRecords (b : Builder) : Records :=
  b.texts.toList.foldl (fun r p =>
    r.insert p.1.reference (Json.ofString (String.ofList p.2)).toBytes) ∅

theorem getElem?_textRecords_reference :
    b.textRecords[v.reference]? = b.texts[v]?.map fun raw =>
      (Json.ofString (String.ofList raw)).toBytes := by
  cases hv : b.texts[v]? with
  | none =>
    rw [textRecords, getElem?_foldl_insert_of_ne (f := fun p : Verse × List Char => p.1.reference)]
    · simp
    · rintro ⟨w, raw⟩ hp heq
      rw [← Verse.reference_injective heq, Std.TreeMap.mem_toList_iff_getElem?_eq_some.mp hp] at hv
      cases hv
  | some raw =>
    rw [textRecords, getElem?_foldl_insert_of_mem (f := fun p : Verse × List Char => p.1.reference)
      (y := (Json.ofString (String.ofList raw)).toBytes)]
    · rfl
    · exact ⟨(v, raw), Std.TreeMap.mem_toList_iff_getElem?_eq_some.mpr hv, rfl⟩
    · rintro ⟨w, raw'⟩ hp heq
      rw [← Verse.reference_injective heq, Std.TreeMap.mem_toList_iff_getElem?_eq_some.mp hp] at hv
      rw [Option.some.inj hv]

theorem getElem?_textRecords_of_ne (h : ∀ v : Verse, v.reference ≠ k) :
    b.textRecords[k]? = none := by
  rw [textRecords, getElem?_foldl_insert_of_ne (f := fun p : Verse × List Char => p.1.reference)]
  · simp
  · exact fun p _ => h p.1

/-- The value of a record of verses. -/
def versesBytes (s : VerseSet) : Bytes := (Json.ofStrings (s.toList.map Verse.reference)).toBytes

end Builder

/-- The keys of the four lists. -/
def listKeys : List String := [lowerCaseKey, wordsKey, strongsKey, morphKey]

namespace Builder

variable {b : Builder} {v : Verse} {k : String}

/-- **A record belongs to a key of texts, or else to a verse.** -/
theorem getElem?_records (hk : k ∉ listKeys) :
    b.records[k]? = (b.postings[k]?.map versesBytes).or b.textRecords[k]? := by
  simp only [listKeys, List.mem_cons, List.not_mem_nil, or_false, not_or] at hk
  obtain ⟨hlower, hwords, hstrongs, hmorph⟩ := hk
  rw [← getElem?_foldl_toList (h := versesBytes)]
  simp only [records, Records.put]
  rw [Std.TreeMap.getElem?_insert, if_neg (by simpa using Ne.symm hmorph),
    Std.TreeMap.getElem?_insert, if_neg (by simpa using Ne.symm hstrongs),
    Std.TreeMap.getElem?_insert, if_neg (by simpa using Ne.symm hwords),
    Std.TreeMap.getElem?_insert, if_neg (by simpa using Ne.symm hlower)]
  rfl

theorem getElem?_postings_reference (v : Verse) : b.postings[v.reference]? = none := by
  rw [← Option.not_isSome_iff_eq_none, isSome_postings_iff]
  rintro ⟨p, hp, hkey⟩
  obtain ⟨⟨w, raw⟩, -, rfl⟩ := List.mem_map.mp hp
  exact blank_notMem_of_mem_keys hkey v.blank_mem_reference

theorem reference_notMem_listKeys (v : Verse) : v.reference ∉ listKeys := by
  intro h
  have hblank := v.blank_mem_reference
  simp only [listKeys, List.mem_cons, List.not_mem_nil, or_false] at h
  rcases h with h | h | h | h <;> rw [h] at hblank <;> exact absurd hblank (by decide)

end Builder

/-! ### The index over the records -/

variable {b : Builder} {v : Verse} {k : String}

/-- The index over the records of a builder. -/
def ofBuilder (b : Builder) : Index := ofStorage (.ofRecords b.records)

theorem value?_records {α : Type} (decode : Json → Option α) (r : Records) (k : String) :
    (Storage.ofRecords r).value? decode k = r[k]?.bind fun bs => (Json.ofBytes? bs).bind decode := by
  cases h : r[k]? <;> simp [Storage.value?, Storage.ofRecords, h]

/-- **The verses under a key are those whose texts have it.** -/
theorem mem_postings_iff (hk : k ∉ listKeys) :
    v ∈ (ofBuilder b).postings k ↔
      ∃ raw, (v, raw) ∈ b.added ∧ k.toList ∈ (Extract.ofText raw).keys := by
  rw [← Builder.mem_postings_iff, postings, ofBuilder, ofStorage, value?_records,
    Builder.getElem?_records hk]
  cases hs : b.postings[k]? with
  | some s =>
    have hread : Json.ofBytes? (Builder.versesBytes s)
        = some (Json.ofStrings (s.toList.map Verse.reference)) :=
      Json.ofBytes?_toBytes (Json.isTextual_ofStrings _)
    simp [hread, versesOf?, Function.comp_def]
  | none =>
    by_cases hv : ∃ w : Verse, w.reference = k
    · obtain ⟨w, rfl⟩ := hv
      rw [Option.map_none, Option.none_or, Builder.getElem?_textRecords_reference]
      cases hw : b.texts[w]? with
      | none => simp
      | some raw =>
        have hread : Json.ofBytes? (Json.ofString (String.ofList raw)).toBytes
            = some (Json.ofString (String.ofList raw)) :=
          Json.ofBytes?_toBytes (Json.isTextual_ofString _)
        have hnone : versesOf? (Json.ofString (String.ofList raw)) = none := rfl
        simp [hread, hnone]
    · rw [Builder.getElem?_textRecords_of_ne fun w hw => hv ⟨w, hw⟩]
      simp

/-- **The text of a verse is the last one that was added.** -/
theorem ofStorage_source (b : Builder) (v : Verse) :
    Source.ofStorage (.ofRecords b.records) v = b.texts[v]? := by
  rw [Source.ofStorage, value?_records,
    Builder.getElem?_records (Builder.reference_notMem_listKeys v),
    Builder.getElem?_postings_reference, Builder.getElem?_textRecords_reference]
  cases hv : b.texts[v]? with
  | none => simp
  | some raw =>
    have hread : Json.ofBytes? (Json.ofString (String.ofList raw)).toBytes
        = some (Json.ofString (String.ofList raw)) :=
      Json.ofBytes?_toBytes (Json.isTextual_ofString _)
    simp [hread]

namespace Builder

/-- The texts of the verses of a builder. -/
def source (b : Builder) : Source := .ofStorage (.ofRecords b.records)

theorem source_eq (b : Builder) (v : Verse) : b.source v = b.texts[v]? := ofStorage_source b v

end Builder

end Index

end Concordance
