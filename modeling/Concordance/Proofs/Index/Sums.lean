import Mathlib.Data.List.Sort
import Concordance.Proofs.Index.Vocabulary

/-!
# Records as the sum of texts

The records of an index are put together from six collections that grow with every verse that is
added. What they come to does not depend on how they grew: a set of records is the sum of texts if it
holds every text under its verse, under every key of the texts the verses that have it, and in its four
lists what the texts have between them. This leaves nothing open but the order in which the spellings
of a word are listed.

## Main definitions

* `Records.Holds` — a record holds a JSON value
* `Records.IsSumOf` — records are the sum of texts
* `Records.Alike` — records differ at most in the order of the spellings of a word
* `Index.lastTexts` — the last text of every verse

## Main results

* `Index.Builder.isSumOf_records` — what is built is the sum of what was added
* `Index.Builder.isSumOf_records_ofTexts` — the records of distinct verses
* `Records.IsSumOf.alike_iff` — sums are alike if and only if their texts say the same
-/

namespace Concordance

/-! ### Verses in order -/

instance : Std.Asymm (fun v w : Verse => v < w) := ⟨fun _ _ => Nat.lt_asymm⟩

namespace VerseSet

theorem pairwise_bitPositions (depth base bits : Nat) :
    (bitPositions depth base bits).Pairwise (· < ·) := by
  induction depth generalizing base bits with
  | zero =>
    rw [bitPositions]
    split <;> simp
  | succ depth ih =>
    by_cases hbits : bits = 0
    · simp [bitPositions, hbits]
    · simp only [bitPositions, hbits, if_false]
      refine List.pairwise_append.mpr ⟨ih _ _, ih _ _, fun m hm n hn => ?_⟩
      obtain ⟨i, hi, -, rfl⟩ := mem_bitPositions.mp hm
      obtain ⟨j, -, -, rfl⟩ := mem_bitPositions.mp hn
      omega

theorem lt_corpusSize_of_mem_bitPositions {s : VerseSet} {depth n : Nat}
    (h : n ∈ bitPositions depth 0 s.bits.toNat) : n < corpusSize := by
  obtain ⟨i, -, hbit, rfl⟩ := mem_bitPositions.mp h
  by_contra hge
  have hsmall : s.bits.toNat < 2 ^ i :=
    lt_of_lt_of_le s.bits.isLt (Nat.pow_le_pow_right (by decide) (by omega))
  rw [Nat.testBit_lt_two_pow hsmall] at hbit
  cases hbit

/-- The list of members is in the order of the canon, and has each of them once. -/
theorem pairwise_toList (s : VerseSet) : s.toList.Pairwise (· < ·) := by
  rw [toList, List.pairwise_map]
  refine (pairwise_bitPositions 15 0 s.bits.toNat).imp_of_mem fun {m n} _ hn hlt => ?_
  have hn := lt_corpusSize_of_mem_bitPositions hn
  change min m (corpusSize - 1) < min n (corpusSize - 1)
  omega

end VerseSet

/-! ### What records hold -/

/-- A table of lists of strings under keys. -/
def Json.ofTable (table : List (String × List String)) : Json :=
  .ofMembers (table.map fun p => (p.1, .ofStrings p.2))

namespace Records

variable {r r' : Records} {key : String} {j j' : Json}

/-- A record holds a JSON value: its bytes are the compact text of the value, and they are read back
as the value. -/
def Holds (r : Records) (key : String) (j : Json) : Prop :=
  r[key]? = some j.toBytes ∧ Json.ofBytes? j.toBytes = some j

theorem Holds.of_isTextual (h : r[key]? = some j.toBytes) (hj : j.IsTextual) : r.Holds key j :=
  ⟨h, Json.ofBytes?_toBytes hj⟩

/-- A record holds one value. -/
theorem Holds.unique (h : r.Holds key j) (h' : r'.Holds key j') (heq : r[key]? = r'[key]?) :
    j = j' := by
  have hbytes : j.toBytes = j'.toBytes := Option.some.inj (h.1.symm.trans (heq.trans h'.1))
  exact Option.some.inj (h.2.symm.trans (hbytes ▸ h'.2))

theorem Holds.getElem?_eq (h : r.Holds key j) (h' : r'.Holds key j) : r[key]? = r'[key]? :=
  h.1.trans h'.1.symm

end Records

namespace Index

/-- A list of references is read as the verses. -/
theorem versesOf?_references (vs : List Verse) :
    versesOf? (.ofStrings (vs.map Verse.reference)) = some vs := by
  simp [versesOf?, Function.comp_def]

/-! ### What texts have -/

/-- A verse is found by a key: a text of the verse has it. -/
def FoundBy (texts : List (Verse × List Char)) (key : String) (v : Verse) : Prop :=
  ∃ raw, (v, raw) ∈ texts ∧ key.toList ∈ (Extract.ofText raw).keys

/-- Texts have a word, a number or a tag, whichever `f` gives. -/
def HaveAmong (texts : List (Verse × List Char)) (f : Extract → List (List Char)) (w : String) :
    Prop :=
  ∃ p ∈ texts, w.toList ∈ f (Extract.ofText p.2)

/-- A word with capitals that texts have, and its form in lower case. -/
def IsSpelling (texts : List (Verse × List Char)) (lower w : String) : Prop :=
  HaveAmong texts Extract.words w ∧ Text.lower w.toList ≠ w.toList ∧
    String.ofList (Text.lower w.toList) = lower

/-- Texts say the same: the same verses are found by the same keys, and the texts have the same words,
numbers and tags. The keys of the lists are left out, since no verses are kept under them. -/
structure SaySame (texts texts' : List (Verse × List Char)) : Prop where
  /-- The same verses are found. -/
  foundBy : ∀ k ∉ listKeys, ∀ v, FoundBy texts k v ↔ FoundBy texts' k v
  /-- The same things are listed. -/
  haveAmong : ∀ l ∈ wordLists, ∀ w, HaveAmong texts l.2 w ↔ HaveAmong texts' l.2 w

theorem SaySame.of_mem_iff {texts texts' : List (Verse × List Char)}
    (h : ∀ p, p ∈ texts ↔ p ∈ texts') : SaySame texts texts' :=
  ⟨fun _ _ _ => by simp only [FoundBy, h], fun _ _ _ => by simp only [HaveAmong, h]⟩

end Index

open Index

namespace Records

/-! ### Sums -/

/-- Records are the sum of texts: `kept` are the texts that can be read, and `found` are those that
verses are found by. -/
structure IsSumOf (r : Records) (kept found : List (Verse × List Char)) : Prop where
  /-- Under a verse stands its text. -/
  text : ∀ p ∈ kept, r.Holds p.1.reference (.ofString (String.ofList p.2))
  /-- Under a key stand the verses that are found by it, in the order of the canon and each once. -/
  verses : ∀ k ∉ listKeys, (∃ v, FoundBy found k v) →
    ∃ vs : List Verse, r.Holds k (.ofStrings (vs.map Verse.reference)) ∧ vs.Pairwise (· < ·) ∧
      ∀ v, v ∈ vs ↔ FoundBy found k v
  /-- The words, the numbers and the tags are listed in order and each once. -/
  list : ∀ l ∈ wordLists, ∃ ws : List String, r.Holds l.1 (.ofStrings ws) ∧ ws.Pairwise (· < ·) ∧
    ∀ w, w ∈ ws ↔ HaveAmong found l.2 w
  /-- The table of spellings has every word with capitals once, under its form in lower case. -/
  spellings : ∃ table : List (String × List String), r.Holds lowerCaseKey (.ofTable table) ∧
    (table.map Prod.fst).Pairwise (· < ·) ∧
    (∀ k, k ∈ table.map Prod.fst ↔ ∃ w, IsSpelling found k w) ∧
    ∀ p ∈ table, p.2.Nodup ∧ ∀ w, w ∈ p.2 ↔ IsSpelling found p.1 w
  /-- There is nothing else. -/
  nothing : ∀ k ∉ listKeys, (∀ p ∈ kept, p.1.reference ≠ k) → (∀ v, ¬ FoundBy found k v) →
    r[k]? = none

/-- Records are alike: they differ at most in the order of the spellings of a word. -/
structure Alike (r r' : Records) : Prop where
  /-- All other records are the same. -/
  eq : ∀ k ≠ lowerCaseKey, r[k]? = r'[k]?
  /-- The tables have the same words under the same keys. -/
  spellings : ∃ table table' : List (String × List String),
    r.Holds lowerCaseKey (.ofTable table) ∧ r'.Holds lowerCaseKey (.ofTable table') ∧
    List.Forall₂ (fun p p' => p.1 = p'.1 ∧ p.2.Perm p'.2) table table'

namespace IsSumOf

variable {r r' : Records} {kept found found' : List (Verse × List Char)}

/-- Only which texts there are counts, and not their order. -/
theorem of_mem_iff {kept' : List (Verse × List Char)} (h : r.IsSumOf kept found)
    (hkept : ∀ p, p ∈ kept ↔ p ∈ kept') : r.IsSumOf kept' found where
  text p hp := h.text p ((hkept p).mpr hp)
  verses := h.verses
  list := h.list
  spellings := h.spellings
  nothing k hk hkept' := h.nothing k hk fun p hp => hkept' p ((hkept p).mp hp)

/-! ### What leaves records alike -/

/-- Tables with the same keys in order are compared key by key. -/
theorem forall₂_of_map_eq {table table' : List (String × List String)}
    (hkeys : table.map Prod.fst = table'.map Prod.fst)
    (h : ∀ p ∈ table, ∀ p' ∈ table', p.1 = p'.1 → p.2.Perm p'.2) :
    List.Forall₂ (fun p p' => p.1 = p'.1 ∧ p.2.Perm p'.2) table table' := by
  induction table generalizing table' with
  | nil =>
    obtain rfl := List.map_eq_nil_iff.mp hkeys.symm
    exact .nil
  | cons p table ih =>
    obtain ⟨p', table', rfl, hp, htable⟩ := List.map_eq_cons_iff.mp hkeys.symm
    refine .cons ⟨hp.symm, h p (by simp) p' (by simp) hp.symm⟩ (ih htable.symm ?_)
    exact fun q hq q' hq' => h q (List.mem_cons_of_mem p hq) q' (List.mem_cons_of_mem p' hq')

variable (h : r.IsSumOf kept found) (h' : r'.IsSumOf kept found')

include h h'

theorem getElem?_eq (hsame : SaySame found found') {k : String} (hk : k ≠ lowerCaseKey) :
    r[k]? = r'[k]? := by
  by_cases hlist : k ∈ listKeys
  · obtain ⟨l, hl, rfl⟩ : ∃ l ∈ wordLists, l.1 = k :=
      List.mem_map.mp ((List.mem_cons.mp hlist).resolve_left hk)
    obtain ⟨ws, hholds, hsorted, hmem⟩ := h.list l hl
    obtain ⟨ws', hholds', hsorted', hmem'⟩ := h'.list l hl
    obtain rfl : ws = ws' := hsorted.eq_of_mem_iff hsorted' fun w => by
      rw [hmem, hmem', hsame.haveAmong l hl]
    exact hholds.getElem?_eq hholds'
  · by_cases htext : ∃ p ∈ kept, p.1.reference = k
    · obtain ⟨p, hp, rfl⟩ := htext
      exact (h.text p hp).getElem?_eq (h'.text p hp)
    · have htext : ∀ p ∈ kept, p.1.reference ≠ k := fun p hp heq => htext ⟨p, hp, heq⟩
      by_cases hfound : ∃ v, FoundBy found k v
      · obtain ⟨vs, hholds, hsorted, hmem⟩ := h.verses k hlist hfound
        obtain ⟨vs', hholds', hsorted', hmem'⟩ := h'.verses k hlist
          (hfound.imp fun v => (hsame.foundBy k hlist v).mp)
        obtain rfl : vs = vs' := hsorted.eq_of_mem_iff hsorted' fun v => by
          rw [hmem, hmem', hsame.foundBy k hlist]
        exact hholds.getElem?_eq hholds'
      · have hfound : ∀ v, ¬ FoundBy found k v := fun v hv => hfound ⟨v, hv⟩
        have hfound' : ∀ v, ¬ FoundBy found' k v := fun v hv =>
          hfound v ((hsame.foundBy k hlist v).mpr hv)
        rw [h.nothing k hlist htext hfound, h'.nothing k hlist htext hfound']

/-- **Sums of texts that say the same are alike.** -/
theorem alike (hsame : SaySame found found') : Alike r r' := by
  refine ⟨fun k hk => h.getElem?_eq h' hsame hk, ?_⟩
  have hspelling : ∀ k w, IsSpelling found k w ↔ IsSpelling found' k w := fun k w =>
    and_congr_left fun _ => hsame.haveAmong _ (by simp [wordLists] : (wordsKey, Extract.words) ∈ _) w
  obtain ⟨table, hholds, hsorted, hkeys, hmem⟩ := h.spellings
  obtain ⟨table', hholds', hsorted', hkeys', hmem'⟩ := h'.spellings
  refine ⟨table, table', hholds, hholds', forall₂_of_map_eq ?_ fun p hp p' hp' heq => ?_⟩
  · exact hsorted.eq_of_mem_iff hsorted' fun k => by simp only [hkeys, hkeys', hspelling]
  · obtain ⟨hnodup, hwords⟩ := hmem p hp
    obtain ⟨hnodup', hwords'⟩ := hmem' p' hp'
    refine (List.perm_ext_iff_of_nodup hnodup hnodup').mpr fun w => ?_
    rw [hwords, hwords', heq, hspelling]

theorem foundBy_of_getElem?_eq {k : String} (hk : k ∉ listKeys) (heq : r[k]? = r'[k]?) {v : Verse}
    (hv : FoundBy found k v) : FoundBy found' k v := by
  obtain ⟨vs, hholds, -, hmem⟩ := h.verses k hk ⟨v, hv⟩
  by_cases hfound : ∃ w, FoundBy found' k w
  · obtain ⟨vs', hholds', -, hmem'⟩ := h'.verses k hk hfound
    have hvs := congrArg versesOf? (hholds.unique hholds' heq)
    rw [versesOf?_references, versesOf?_references, Option.some_inj] at hvs
    rw [← hmem', ← hvs, hmem]
    exact hv
  · -- the key of a text is no reference, and nothing stands under any other key
    have htext : ∀ p ∈ kept, p.1.reference ≠ k := by
      rintro p - rfl
      obtain ⟨raw, -, hkey⟩ := hv
      exact Builder.blank_notMem_of_mem_keys hkey p.1.blank_mem_reference
    have hnone := h'.nothing k hk htext fun w hw => hfound ⟨w, hw⟩
    rw [← heq, hholds.1] at hnone
    cases hnone

theorem haveAmong_of_getElem?_eq {l : String × (Extract → List (List Char))} (hl : l ∈ wordLists)
    (heq : r[l.1]? = r'[l.1]?) {w : String} : HaveAmong found l.2 w ↔ HaveAmong found' l.2 w := by
  obtain ⟨ws, hholds, -, hmem⟩ := h.list l hl
  obtain ⟨ws', hholds', -, hmem'⟩ := h'.list l hl
  have hws := congrArg Json.texts? (hholds.unique hholds' heq)
  rw [Json.texts?_ofStrings, Json.texts?_ofStrings, Option.some_inj] at hws
  rw [← hmem, ← hmem', hws]

/-- **Sums are alike if and only if their texts say the same.** -/
theorem alike_iff : Alike r r' ↔ SaySame found found' := by
  refine ⟨fun halike => ⟨fun k hk v => ?_, fun l hl w => ?_⟩, h.alike h'⟩
  · have heq : r[k]? = r'[k]? := halike.eq k fun hlower => hk (by simp [listKeys, hlower])
    exact ⟨h.foundBy_of_getElem?_eq h' hk heq, h'.foundBy_of_getElem?_eq h hk heq.symm⟩
  · have hne : ∀ l ∈ wordLists, l.1 ≠ lowerCaseKey := by decide
    exact h.haveAmong_of_getElem?_eq h' hl (halike.eq l.1 (hne l hl))

end IsSumOf

end Records

namespace Index

/-! ### The last text of every verse -/

/-- The last text of every verse, in the order in which they were added. -/
def lastTexts : List (Verse × List Char) → List (Verse × List Char)
  | [] => []
  | p :: later => if p.1 ∈ later.map Prod.fst then lastTexts later else p :: lastTexts later

/-- Of verses that are added once, the last texts are all of them. -/
theorem lastTexts_eq_self {texts : List (Verse × List Char)} (h : (texts.map Prod.fst).Nodup) :
    lastTexts texts = texts := by
  induction texts with
  | nil => rfl
  | cons p texts ih =>
    obtain ⟨hp, htexts⟩ := List.nodup_cons.mp (List.map_cons ▸ h)
    rw [lastTexts, if_neg hp, ih htexts]

theorem mem_of_mem_lastTexts {texts : List (Verse × List Char)} {p : Verse × List Char}
    (h : p ∈ lastTexts texts) : p ∈ texts := by
  induction texts with
  | nil => exact h
  | cons q texts ih =>
    rw [lastTexts] at h
    split at h
    · exact List.mem_cons_of_mem q (ih h)
    · rcases List.mem_cons.mp h with rfl | h
      · exact List.mem_cons_self
      · exact List.mem_cons_of_mem q (ih h)

/-- Every verse has one last text. -/
theorem nodup_lastTexts (texts : List (Verse × List Char)) :
    ((lastTexts texts).map Prod.fst).Nodup := by
  induction texts with
  | nil => exact List.nodup_nil
  | cons p texts ih =>
    rw [lastTexts]
    split
    · exact ih
    · rename_i hp
      refine List.nodup_cons.mpr ⟨fun hmem => hp ?_, ih⟩
      obtain ⟨q, hq, heq⟩ := List.mem_map.mp hmem
      exact List.mem_map.mpr ⟨q, mem_of_mem_lastTexts hq, heq⟩

/-- What is inserted last under a verse is its last text. -/
theorem getElem?_foldl_insert_iff {texts : List (Verse × List Char)}
    {m : Std.TreeMap Verse (List Char)} {v : Verse} {raw : List Char} :
    (texts.foldl (fun m p => m.insert p.1 p.2) m)[v]? = some raw ↔
      (v, raw) ∈ lastTexts texts ∨ v ∉ texts.map Prod.fst ∧ m[v]? = some raw := by
  induction texts generalizing m with
  | nil => simp [lastTexts]
  | cons p texts ih =>
    obtain ⟨w, last⟩ := p
    have hinsert : (m.insert w last)[v]? = if w = v then some last else m[v]? := by
      simp [Std.TreeMap.getElem?_insert]
    rw [List.foldl_cons, ih, hinsert]
    by_cases hw : w ∈ texts.map Prod.fst
    · -- the text gives way to a later one
      rw [lastTexts, if_pos hw, List.map_cons, List.mem_cons]
      by_cases hv : w = v
      · subst hv
        simp only [hw, not_true_eq_false, or_true, false_and, or_false]
      · simp only [hv, Ne.symm hv, if_false, false_or]
    · rw [lastTexts, if_neg hw, List.map_cons, List.mem_cons, List.mem_cons, Prod.mk.injEq]
      by_cases hv : w = v
      · subst hv
        have hnone : (w, raw) ∉ lastTexts texts := fun h =>
          hw (List.mem_map.mpr ⟨_, mem_of_mem_lastTexts h, rfl⟩)
        simp only [hnone, hw, if_true, Option.some_inj, not_false_eq_true, true_and, false_or,
          not_true_eq_false, false_and, or_false, eq_comm]
      · simp only [hv, Ne.symm hv, if_false, false_and, false_or]

namespace Builder

variable {b : Builder} {v : Verse} {k : String}

theorem getElem?_texts_iff_mem_lastTexts {raw : List Char} :
    b.texts[v]? = some raw ↔ (v, raw) ∈ lastTexts b.added := by
  rw [texts_eq, getElem?_foldl_insert_iff]
  simp

/-! ### Spellings -/

/-- Under every key of a table stand spellings, and each of them once. -/
def IsNeat (m : Std.TreeMap String (List String)) : Prop :=
  ∀ (k : String) (ws : List String), m[k]? = some ws → ws ≠ [] ∧ ws.Nodup

theorem IsNeat.addSpelling {m : Std.TreeMap String (List String)} (hm : IsNeat m) (w : List Char) :
    IsNeat (addSpelling m w) := by
  intro k ws hws
  rw [Builder.addSpelling] at hws
  split at hws
  · exact hm k ws hws
  · rw [Std.TreeMap.getElem?_insert] at hws
    split at hws
    · have hknown : (m[String.ofList (Text.lower w)]?.getD []).Nodup := by
        cases h : m[String.ofList (Text.lower w)]? with
        | none => exact List.nodup_nil
        | some known => exact (hm _ known h).2
      split at hws
      · rename_i hmem
        obtain rfl := Option.some.inj hws
        exact ⟨List.ne_nil_of_mem (List.contains_iff_mem.mp hmem), hknown⟩
      · rename_i hmem
        obtain rfl := Option.some.inj hws
        refine ⟨by simp, List.nodup_append.mpr ⟨hknown, List.nodup_singleton _, ?_⟩⟩
        rintro s hs t ht rfl
        obtain rfl := List.mem_singleton.mp ht
        exact hmem (List.contains_iff_mem.mpr hs)
    · exact hm k ws hws

theorem isNeat_spellings (b : Builder) : IsNeat b.spellings := by
  have hfold : ∀ (l : List (List Char)) (m : Std.TreeMap String (List String)), IsNeat m →
      IsNeat (l.foldl Builder.addSpelling m) := by
    intro l
    induction l with
    | nil => exact fun m hm => hm
    | cons w l ih => exact fun m hm => ih _ (hm.addSpelling w)
  rw [spellings_eq]
  exact hfold _ ∅ fun k ws h => by simp at h

theorem mem_spellings_iff_isSpelling {w : String} :
    w ∈ b.spellings[k]?.getD [] ↔ IsSpelling b.added k w := by
  rw [mem_spellings_iff]
  constructor
  · rintro ⟨p, hp, hword, hlower⟩
    exact ⟨⟨p, hp, hword⟩, hlower⟩
  · rintro ⟨⟨p, hp, hword⟩, hlower⟩
    exact ⟨p, hp, hword, hlower⟩

/-- The table has a key if a word is spelled that way in lower case. -/
theorem mem_keys_spellings_iff :
    k ∈ b.spellings.toList.map Prod.fst ↔ ∃ w, IsSpelling b.added k w := by
  constructor
  · intro hk
    obtain ⟨p, hp, rfl⟩ := List.mem_map.mp hk
    have hp := Std.TreeMap.mem_toList_iff_getElem?_eq_some.mp hp
    obtain ⟨w, hw⟩ := List.exists_mem_of_ne_nil _ (b.isNeat_spellings _ _ hp).1
    exact ⟨w, mem_spellings_iff_isSpelling.mp (by rwa [hp])⟩
  · rintro ⟨w, hw⟩
    rw [← mem_spellings_iff_isSpelling] at hw
    cases hws : b.spellings[k]? with
    | none => simp [hws] at hw
    | some ws =>
      exact List.mem_map.mpr ⟨(k, ws), Std.TreeMap.mem_toList_iff_getElem?_eq_some.mpr hws, rfl⟩

/-! ### What is built -/

theorem foundBy_iff_mem_postings : FoundBy b.added k v ↔ v ∈ b.postings[k]?.getD ∅ :=
  Builder.mem_postings_iff.symm

/-- **What is built is the sum of what was added**: the last texts can be read, and verses are found
by all of them. -/
theorem isSumOf_records (b : Builder) : b.records.IsSumOf (lastTexts b.added) b.added where
  text p hp := by
    refine .of_isTextual ?_ (Json.isTextual_ofString _)
    rw [getElem?_records (reference_notMem_listKeys p.1), getElem?_postings_reference,
      getElem?_textRecords_reference, getElem?_texts_iff_mem_lastTexts.mpr hp]
    rfl
  verses k hk := by
    rintro ⟨v, hv⟩
    cases hs : b.postings[k]? with
    | none =>
      rw [foundBy_iff_mem_postings, hs] at hv
      exact absurd hv (VerseSet.notMem_empty v)
    | some s =>
      refine ⟨s.toList, .of_isTextual ?_ (Json.isTextual_ofStrings _), s.pairwise_toList, fun w => ?_⟩
      · rw [getElem?_records hk, hs]
        rfl
      · rw [foundBy_iff_mem_postings, hs, VerseSet.mem_toList, Option.getD_some]
  list l hl := by
    refine ⟨b.collected l.2, .of_isTextual (getElem?_records_list hl) (Json.isTextual_ofStrings _),
      ?_, fun w => mem_collected⟩
    have hsorted : (b.collected l.2).Pairwise fun w w' => compare w w' = .lt :=
      Std.TreeSet.ordered_toList
    exact hsorted.imp compareOfLessAndEq_eq_lt.mp
  spellings := by
    refine ⟨b.spellings.toList,
      .of_isTextual getElem?_records_lowerCaseKey (isTextual_spellingsJson _), ?_,
      fun k => mem_keys_spellings_iff, fun p hp => ?_⟩
    · have hsorted : b.spellings.toList.Pairwise fun p q => compare p.1 q.1 = .lt :=
        Std.TreeMap.ordered_keys_toList
      exact List.pairwise_map.mpr (hsorted.imp compareOfLessAndEq_eq_lt.mp)
    · have hp := Std.TreeMap.mem_toList_iff_getElem?_eq_some.mp hp
      refine ⟨(b.isNeat_spellings _ _ hp).2, fun w => ?_⟩
      rw [← mem_spellings_iff_isSpelling, hp, Option.getD_some]
  nothing k hk htext hfound := by
    have hpostings : b.postings[k]? = none := by
      rw [← Option.not_isSome_iff_eq_none, isSome_postings_iff]
      rintro ⟨q, hq, hkey⟩
      obtain ⟨p, hp, rfl⟩ := List.mem_map.mp hq
      exact hfound p.1 ⟨p.2, hp, hkey⟩
    rw [getElem?_records hk, hpostings, Option.map_none, Option.none_or]
    by_cases hv : ∃ w : Verse, w.reference = k
    · obtain ⟨w, rfl⟩ := hv
      rw [getElem?_textRecords_reference, Option.map_eq_none_iff, Option.eq_none_iff_forall_ne_some]
      exact fun raw hraw => htext _ (getElem?_texts_iff_mem_lastTexts.mp hraw) rfl
    · exact getElem?_textRecords_of_ne fun w hw => hv ⟨w, hw⟩

/-- **The records of distinct verses are the sum of the verses.** Under every verse stands its text,
under every word, number and tag of the texts the verses that have it, and in the lists what the texts
have between them; there is nothing else. In whatever order the verses are added, the records differ
at most in the order of the spellings of a word. -/
theorem isSumOf_records_ofTexts {texts : List (Verse × List Char)}
    (h : (texts.map Prod.fst).Nodup) :
    (ofTexts texts).records.IsSumOf texts texts ∧
      ∀ texts' : List (Verse × List Char), texts'.Perm texts →
        (ofTexts texts').records.Alike (ofTexts texts).records := by
  constructor
  · have hsum := (ofTexts texts).isSumOf_records
    rwa [added_ofTexts, lastTexts_eq_self h] at hsum
  · intro texts' hperm
    have hnodup : (texts'.map Prod.fst).Nodup := (hperm.map Prod.fst).nodup_iff.mpr h
    have hsum := (ofTexts texts).isSumOf_records
    have hsum' := (ofTexts texts').isSumOf_records
    rw [added_ofTexts, lastTexts_eq_self h] at hsum
    rw [added_ofTexts, lastTexts_eq_self hnodup] at hsum'
    have hmem : ∀ p, p ∈ texts' ↔ p ∈ texts := fun p => hperm.mem_iff
    exact (hsum'.of_mem_iff hmem).alike hsum (.of_mem_iff hmem)

/-- Two verses, the later one first, with a tag and a word in two spellings. -/
def days : List (Verse × List Char) :=
  [(.ofOrdinal 1, "the earth {N-FS}".toList), (.first, "The heavens".toList)]

theorem isSumOf_records_ofTexts_days :
    (days.map Prod.fst).Nodup ∧ (ofTexts days).records.IsSumOf days days ∧
      (ofTexts days.reverse).records.Alike (ofTexts days).records := by
  have hnodup : (days.map Prod.fst).Nodup := by decide
  obtain ⟨hsum, halike⟩ := isSumOf_records_ofTexts hnodup
  exact ⟨hnodup, hsum, halike _ days.reverse_perm⟩

end Builder

end Index

end Concordance
