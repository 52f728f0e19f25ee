import Concordance.Proofs.Index.Vocabulary
import Concordance.Proofs.Markup.TagWords
import Concordance.Proofs.Search.OwnText
import Concordance.Proofs.Term.TagKeys

/-!
# Searches for tags

The tags of texts are keys of an index in the spelling that they have there, in any case. A search in
which case does not count looks up a part of a query under its key, in lower case, and in the spellings
that the index knows of words. So a Strong's number is always found. A morphology tag is found if it is
spelled in one case and holds no number, or in lower case. But a tag with a hyphen that is spelled in
both cases, or one in capitals that holds a number, is under none of these keys.

## Main definitions

* `Index.partKeys` — the keys under which a part of a query is looked up
* `Index.IsOwnKey` — a morphology tag is looked up in its own spelling

## Main results

* `Index.Builder.mem_search_part_iff` — the verses that a search for one part finds
* `Index.Builder.mem_partKeys_iff` — the tags that are looked up in their own spelling
* `Index.Builder.mem_search_tag` — which tags are found by searches for them
-/

namespace Concordance

open Markup Term Text

/-! ### Tags of texts -/

namespace Extract

variable {raw number tag : List Char}

theorem isNumber_of_mem_strongs (h : number ∈ (ofText raw).strongs) :
    IsNumber isLanguageAnyCase number := by
  obtain ⟨_, _, rest, hread⟩ := exists_of_mem_items h
  obtain ⟨_, cs, rfl, -, hread⟩ := afterBlank_eq_some_iff.mp hread
  exact (strongs?_eq_some_iff.mp hread).1

theorem isTagChar_of_mem_morph (h : tag ∈ (ofText raw).morph) :
    tag ≠ [] ∧ ∀ c ∈ tag, isTagChar c = true := by
  obtain ⟨_, _, rest, hread⟩ := exists_of_mem_items h
  obtain ⟨_, cs, rfl, -, hread⟩ := afterBlank_eq_some_iff.mp hread
  obtain ⟨hne, htag, -⟩ := morph?_eq_some_iff.mp hread
  exact ⟨hne, htag⟩

/-- A tag that is one word is among the words, unless it is spelled in capitals. -/
theorem mem_words_of_mem_morph (h : tag ∈ (ofText raw).morph) (hhyphen : '-' ∉ tag)
    (hcapitals : ¬ ∀ c ∈ tag, isUpperTagChar c = true) : tag ∈ (ofText raw).words := by
  obtain ⟨_, rest, hsuffix, hread⟩ := (mem_items_afterBlank_iff readsBrackets_morph?).mp h
  obtain ⟨blank, _, rfl, -, hread⟩ := afterBlank_eq_some_iff.mp hread
  have hopens := readsBrackets_morph? _ _ _ hread
  obtain ⟨hne, htag, rfl⟩ := morph?_eq_some_iff.mp hread
  have hword : ∀ c ∈ tag, isWordChar c = true := by
    intro c hc
    have hsign : c ≠ '-' := fun heq => hhyphen (heq ▸ hc)
    simpa [isTagChar, hsign] using htag c hc
  have hnone : upperTag? ('\x7b' :: tag ++ '\x7d' :: rest) = none := by
    rw [upperTag?_morph hne htag, if_neg fun hall => hcapitals (List.all_eq_true.mp hall)]
  refine mem_words_of_brackets (p := ('\x7b', '\x7d')) (by decide) (fun c hc => (hopens.within c hc).1)
    hnone ((List.suffix_cons blank _).trans hsuffix) tag ?_
  rw [runs_of_forall hne hword, List.mem_singleton]

theorem upper_of_isUpperTagChar (hascii : IsAscii tag) (h : ∀ c ∈ tag, isUpperTagChar c = true) :
    upper tag = tag := by
  rw [upper_of_ascii hascii, map_eq_self_iff]
  exact fun c hc => forall_ascii (P := fun c => isUpperTagChar c = true → c.toUpper = c) (by decide)
    (hascii c hc) (h c hc)

end Extract

namespace Index

/-- The verses of a term that is spelled like a key are those under the key. -/
theorem mem_answer_get_iff {ix : Index} {v : Verse} {key : String}
    (hkey : normalizeKey key.toList = key.toList) :
    v ∈ answer (ix.get key.toList) ↔ v ∈ ix.postings key := by
  refine ((finds_get key.toList).mem_run soundCache_empty v).trans ?_
  rw [HasForm, hkey, String.ofList_toList]

/-! ### The keys of a part -/

/-- The keys under which a part of a query is looked up, if case does not count. -/
def partKeys (ix : Index) (part : List Char) : List String :=
  String.ofList (normalizeKey (lookedUp false part)) :: String.ofList (bare part) ::
    ix.variants (String.ofList (bare part))

/-- A morphology tag is looked up in its own spelling. -/
inductive IsOwnKey (ix : Index) (tag : String) : Prop where
  /-- It is in lower case. -/
  | small (h : lower tag.toList = tag.toList)
  /-- It holds no number, and is in upper case or has no hyphen. -/
  | capital (hnumber : ¬ HoldsNumber tag.toList)
      (h : upper tag.toList = tag.toList ∨ '-' ∉ tag.toList)
  /-- It is one of the words. -/
  | word (h : tag ∈ ix.vocabulary)

namespace Builder

variable {b : Builder} {v : Verse} {part : List Char} {flags : Flags} {source : Source}
  {engine : Engine} {settings : Settings} {earlier : List Request}

section

variable (hascii : ∀ p ∈ b.added, IsAscii p.2) (hpart : IsTermText part)

include hascii hpart

/-- A part leads to the verses under its keys. -/
theorem has_lookedUp_iff : (ofBuilder b).Has false (lookedUp false part) v ↔
    ∃ k ∈ (ofBuilder b).partKeys part, v ∈ (ofBuilder b).postings k := by
  have hsolid := isSolid_lookedUp hpart false
  have hlower : lower (normalizeKey (lookedUp false part)) = bare part := by
    rw [lower_of_ascii (isSolid_normalizeKey hsolid).isAscii, map_toLower_normalizeKey hsolid,
      bare_lookedUp hpart]
  have hbare := normalizeKey_bare hpart.isSolid
  have hvariant : ∀ w ∈ (ofBuilder b).variants (String.ofList (bare part)),
      String.ofList (normalizeKey w.toList) = w := by
    intro w hw
    obtain ⟨p, hp, hmem, -⟩ := mem_variants_iff.mp hw
    have hascii : IsAscii w.toList := fun c hc =>
      hascii p hp c (Extract.subset_of_mem_keys (List.mem_append_right _ hmem) hc)
    rw [normalizeKey_of_isWordChar hascii (Extract.isWordChar_of_mem_words hmem), String.ofList_toList]
  simp only [Has, forms, Bool.false_eq_true, if_false, hlower, partKeys, List.exists_mem_cons_iff,
    List.mem_map, HasForm, hbare]
  refine or_congr_right (or_congr_right ?_)
  constructor
  · rintro ⟨-, ⟨w, hw, rfl⟩, hv⟩
    exact ⟨w, hw, hvariant w hw ▸ hv⟩
  · rintro ⟨w, hw, hv⟩
    exact ⟨_, ⟨w, hw, rfl⟩, (hvariant w hw).symm ▸ hv⟩

/-- The keys under which a part is looked up are spellings of it. -/
theorem sameWord_of_mem_partKeys {key : String} (h : key ∈ (ofBuilder b).partKeys part) :
    SameWord false key.toList (bare part) := by
  have hsolid := isSolid_lookedUp hpart false
  have hbare := map_toLower_bare hpart.isSolid.isAscii
  change key.toList.map Char.toLower = (bare part).map Char.toLower
  rw [partKeys, List.mem_cons, List.mem_cons] at h
  rcases h with rfl | rfl | hvariant
  · rw [String.toList_ofList, map_toLower_normalizeKey hsolid, bare_lookedUp hpart, hbare]
  · rw [String.toList_ofList]
  · obtain ⟨p, hp, hmem, -, hlower⟩ := mem_variants_iff.mp hvariant
    have hkey : IsAscii key.toList := fun c hc =>
      hascii p hp c (Extract.subset_of_mem_keys (List.mem_append_right _ hmem) hc)
    rw [← lower_of_ascii hkey, String.ofList_inj.mp hlower, hbare]

/-- **The verses that a search for one part of a query finds.** -/
theorem mem_search_part_iff (hne : part ≠ []) (hcase : flags.caseSensitive = false) :
    v ∈ (b.searcher engine source settings).resultAfter earlier
        ⟨.multiword, [String.ofList part], flags⟩ ↔
      flags.InRange v ∧ ∃ k ∈ (ofBuilder b).partKeys part, v ∈ (ofBuilder b).postings k := by
  obtain ⟨c, rest, rfl⟩ := List.exists_cons_of_ne_nil hne
  have hsearch := @mem_search_text_iff b v (String.ofList (c :: rest)) flags source engine settings earlier
  rw [String.toList_ofList, runs_of_forall hne fun d hd => (hpart d hd).2, List.forall_mem_singleton,
    hcase, has_lookedUp_iff hascii hpart] at hsearch
  exact hsearch hpart.isSolid.isAscii ⟨c, List.mem_cons_self, (hpart c List.mem_cons_self).2⟩

end

/-! ### The keys of tags -/

section

variable {tag number : String} (hascii : ∀ p ∈ b.added, IsAscii p.2)

include hascii

/-- What is known of a number of the texts. -/
theorem of_mem_strongsVocabulary (h : number ∈ (ofBuilder b).strongsVocabulary) :
    IsAscii number.toList ∧ IsNumber isLanguageAnyCase number.toList := by
  obtain ⟨p, hp, hmem⟩ := mem_strongsVocabulary_iff.mp h
  refine ⟨fun c hc => ?_, Extract.isNumber_of_mem_strongs hmem⟩
  exact hascii p hp c
    (Extract.subset_of_mem_keys (List.mem_append_left _ (List.mem_append_left _ hmem)) hc)

/-- **A number of the texts is looked up in its own spelling.** -/
theorem mem_partKeys_inAngles (h : number ∈ (ofBuilder b).strongsVocabulary) :
    number ∈ (ofBuilder b).partKeys (inAngles number.toList) := by
  obtain ⟨hkey, hnumber⟩ := of_mem_strongsVocabulary hascii h
  rw [partKeys, normalizeKey_inAngles hkey hnumber, bare_inAngles,
    bare_of_isTagChar hkey (isTagChar_of_isNumber hnumber)]
  rcases upper_eq_or_lower_eq hkey hnumber with heq | heq <;> simp [heq]

variable (htag : tag ∈ (ofBuilder b).morphVocabulary)

include htag

/-- What is known of a tag of the texts. -/
theorem of_mem_morphVocabulary : IsAscii tag.toList ∧ tag.toList ≠ [] ∧
    ∀ c ∈ tag.toList, isTagChar c = true := by
  obtain ⟨p, hp, hmem⟩ := mem_morphVocabulary_iff.mp htag
  refine ⟨fun c hc => ?_, Extract.isTagChar_of_mem_morph hmem⟩
  exact hascii p hp c
    (Extract.subset_of_mem_keys (List.mem_append_left _ (List.mem_append_right _ hmem)) hc)

/-- The keys under which a tag of the texts is looked up. -/
theorem partKeys_inBraces : (ofBuilder b).partKeys (inBraces tag.toList)
    = String.ofList (tagKey tag.toList) :: String.ofList (lower tag.toList) ::
      (ofBuilder b).variants (String.ofList (lower tag.toList)) := by
  obtain ⟨hkey, hne, hchars⟩ := of_mem_morphVocabulary hascii htag
  rw [partKeys, normalizeKey_inBraces hkey hne hchars, bare_inBraces, bare_of_isTagChar hkey hchars]

/-- A tag that is among the words is looked up in its own spelling. -/
theorem mem_partKeys_of_mem_vocabulary (h : tag ∈ (ofBuilder b).vocabulary) :
    tag ∈ (ofBuilder b).partKeys (inBraces tag.toList) := by
  obtain ⟨p, hp, hmem⟩ := mem_vocabulary_iff.mp h
  rw [partKeys_inBraces hascii htag]
  by_cases hlower : lower tag.toList = tag.toList
  · simp [hlower]
  · have hvariant := mem_variants_iff.mpr ⟨p, hp, hmem, hlower, rfl⟩
    simp [hvariant]

/-- **The tags that are looked up in their own spelling.** -/
theorem mem_partKeys_iff :
    tag ∈ (ofBuilder b).partKeys (inBraces tag.toList) ↔ (ofBuilder b).IsOwnKey tag := by
  obtain ⟨hkey, -⟩ := of_mem_morphVocabulary hascii htag
  have hkeys := partKeys_inBraces hascii htag
  have hself : ∀ cs : List Char, tag = String.ofList cs ↔ cs = tag.toList := fun cs => by
    rw [← String.toList_inj, String.toList_ofList, eq_comm]
  constructor
  · intro hmem
    rw [hkeys, List.mem_cons, List.mem_cons, hself, hself] at hmem
    rcases hmem with hmem | hmem | hmem
    · rw [tagKey] at hmem
      split at hmem
      · exact .small hmem
      · exact .capital ‹_› (.inl hmem)
    · exact .small hmem
    · obtain ⟨p, hp, hmem, -⟩ := mem_variants_iff.mp hmem
      exact .word (mem_vocabulary_iff.mpr ⟨p, hp, hmem⟩)
  · rintro (hlower | ⟨hnumber, hcapitals⟩ | hmem)
    · simp [hkeys, hlower]
    · by_cases hupper : upper tag.toList = tag.toList
      · simp [hkeys, tagKey, hnumber, hupper]
      · obtain ⟨p, hp, hmorph⟩ := mem_morphVocabulary_iff.mp htag
        have hword := Extract.mem_words_of_mem_morph hmorph (hcapitals.resolve_left hupper)
          (mt (Extract.upper_of_isUpperTagChar hkey) hupper)
        exact mem_partKeys_of_mem_vocabulary hascii htag (mem_vocabulary_iff.mpr ⟨p, hp, hword⟩)
    · exact mem_partKeys_of_mem_vocabulary hascii htag hmem

/-- **A tag that is not looked up in its own spelling is missed** where no other spelling of it is. -/
theorem notMem_search_tag (hcase : flags.caseSensitive = false) (hown : ¬ (ofBuilder b).IsOwnKey tag)
    (hlist : ∀ k ∈ listKeys, ¬ SameWord false tag.toList k.toList)
    (honly : ∀ raw, (v, raw) ∈ b.added → ∀ key ∈ (Extract.ofText raw).keys,
      SameWord false key tag.toList → key = tag.toList) :
    v ∉ (b.searcher engine source settings).resultAfter earlier
      ⟨.multiword, [String.ofList (inBraces tag.toList)], flags⟩ := by
  obtain ⟨hkey, -, hchars⟩ := of_mem_morphVocabulary hascii htag
  have hpart := (isTermText_of_isTagChar hkey hchars).inBraces
  rw [mem_search_part_iff hascii hpart (List.cons_ne_nil _ _) hcase]
  rintro ⟨-, key, hmem, hv⟩
  have hsame : SameWord false key.toList tag.toList := by
    have hsame := sameWord_of_mem_partKeys hascii hpart hmem
    rw [bare_inBraces, bare_of_isTagChar hkey hchars, lower_of_ascii hkey] at hsame
    exact hsame.trans (List.map_map.trans (List.map_congr_left fun c hc => toLower_toLower (hkey c hc)))
  obtain ⟨raw, hadded, hfound⟩ := (Index.mem_postings_iff fun hmem => hlist key hmem hsame.symm).mp hv
  obtain rfl : key = tag := String.toList_inj.mp (honly raw hadded _ hfound hsame)
  exact hown ((mem_partKeys_iff hascii htag).mp hmem)

end

/-- **Which tags are found by searches for them**, in any case, after any searches, in any range that
has the verse. A Strong's number of the texts is found in every verse that has it. A search for a
morphology tag of the texts looks it up in upper case, or in lower case if it holds a number, and then
in lower case and like the words of the index. So it finds every verse of a tag that is spelled in one
of these ways, and misses one that is not, unless the verse has another spelling of it. -/
theorem mem_search_tag (hascii : ∀ p ∈ b.added, IsAscii p.2) (hcase : flags.caseSensitive = false)
    (hrange : flags.InRange v) :
    (∀ number ∈ (ofBuilder b).strongsVocabulary, v ∈ answer ((ofBuilder b).get number.toList) →
      v ∈ (b.searcher engine source settings).resultAfter earlier
        ⟨.multiword, [String.ofList (inAngles number.toList)], flags⟩) ∧
    ∀ tag ∈ (ofBuilder b).morphVocabulary,
      (v ∈ (b.searcher engine source settings).resultAfter earlier
          ⟨.multiword, [String.ofList (inBraces tag.toList)], flags⟩ ↔
        ∃ key, (key = String.ofList (tagKey tag.toList) ∨ key = String.ofList (lower tag.toList) ∨
          key ∈ (ofBuilder b).variants (String.ofList (lower tag.toList))) ∧
          v ∈ (ofBuilder b).postings key) ∧
      ((ofBuilder b).IsOwnKey tag → v ∈ answer ((ofBuilder b).get tag.toList) →
        v ∈ (b.searcher engine source settings).resultAfter earlier
          ⟨.multiword, [String.ofList (inBraces tag.toList)], flags⟩) ∧
      (¬ (ofBuilder b).IsOwnKey tag → (∀ k ∈ listKeys, ¬ SameWord false tag.toList k.toList) →
        (∀ raw, (v, raw) ∈ b.added → ∀ key ∈ (Extract.ofText raw).keys,
          SameWord false key tag.toList → key = tag.toList) →
        v ∉ (b.searcher engine source settings).resultAfter earlier
          ⟨.multiword, [String.ofList (inBraces tag.toList)], flags⟩) := by
  constructor
  · intro number hnumber hv
    obtain ⟨hkey, hread⟩ := of_mem_strongsVocabulary hascii hnumber
    have hchars := isTagChar_of_isNumber hread
    have hget := (mem_answer_get_iff (normalizeKey_of_isTagChar hkey hchars)).mp hv
    exact (mem_search_part_iff hascii (isTermText_of_isTagChar hkey hchars).inAngles
      (List.cons_ne_nil _ _) hcase).mpr ⟨hrange, number, mem_partKeys_inAngles hascii hnumber, hget⟩
  · intro tag htag
    obtain ⟨hkey, -, hchars⟩ := of_mem_morphVocabulary hascii htag
    have hfound := @mem_search_part_iff b v _ flags source engine settings earlier hascii
      (isTermText_of_isTagChar hkey hchars).inBraces (List.cons_ne_nil _ _) hcase
    refine ⟨?_, fun hown hv => ?_, fun hown => notMem_search_tag hascii htag hcase hown⟩
    · rw [hfound, partKeys_inBraces hascii htag]
      simp only [hrange, true_and, List.mem_cons]
    · exact hfound.mpr ⟨hrange, tag, (mem_partKeys_iff hascii htag).mpr hown,
        (mem_answer_get_iff (normalizeKey_of_isTagChar hkey hchars)).mp hv⟩

/-- A key of the one text of an index leads to its verse. -/
theorem mem_get_single {text key : String} (hlist : key ∉ listKeys)
    (hmem : key.toList ∈ (Extract.ofText text.toList).keys)
    (hkey : normalizeKey key.toList = key.toList) :
    .first ∈ answer ((ofBuilder (single text)).get key.toList) :=
  (mem_answer_get_iff hkey).mpr
    ((Index.mem_postings_iff hlist).mpr ⟨_, List.mem_singleton_self _, hmem⟩)

/-- A number in lower case, a tag in capitals, one in small letters, and one of a single word. -/
def spoke : String := "God <h430> spoke {V-QAL} light {n-nsf} now {Adv}"

theorem mem_search_tag_spoke :
    (∀ p ∈ (single spoke).added, IsAscii p.2) ∧ ({} : Flags).caseSensitive = false ∧
      ({} : Flags).InRange .first ∧
      .first ∈ ((single spoke).searcher .unlimited (fun _ => none) {}).resultAfter []
        ⟨.multiword, [String.ofList (inAngles "h430".toList)], {}⟩ ∧
      ∀ tag ∈ ["V-QAL", "n-nsf", "Adv"],
        .first ∈ ((single spoke).searcher .unlimited (fun _ => none) {}).resultAfter []
          ⟨.multiword, [String.ofList (inBraces tag.toList)], {}⟩ := by
  have hascii : ∀ p ∈ (single spoke).added, IsAscii p.2 := by
    have hall : spoke.toList.all (fun c => c.toNat < 0x80) = true := by decide +kernel
    exact List.forall_mem_singleton.mpr (by simpa [IsAscii] using hall)
  have hrange : ({} : Flags).InRange .first := fun range h => by cases h
  have hadded : (Verse.first, spoke.toList) ∈ (single spoke).added := List.mem_singleton_self _
  obtain ⟨hnumbers, htags⟩ := @mem_search_tag (single spoke) .first {} (fun _ => none) .unlimited {} []
    hascii rfl
    hrange
  refine ⟨hascii, rfl, hrange, ?_, fun tag htag => ?_⟩
  · exact hnumbers "h430" (mem_strongsVocabulary_iff.mpr ⟨_, hadded, by decide +kernel⟩)
      (mem_get_single (by decide) (by decide +kernel) (by decide +kernel))
  · have hmorph : ∀ tag ∈ ["V-QAL", "n-nsf", "Adv"],
        tag.toList ∈ (Extract.ofText spoke.toList).morph ∧ tag ∉ listKeys ∧
          normalizeKey tag.toList = tag.toList ∧ (lower tag.toList = tag.toList ∨
            ¬ HoldsNumber tag.toList ∧ (upper tag.toList = tag.toList ∨ '-' ∉ tag.toList)) := by
      decide +kernel
    obtain ⟨hmem, hlist, hkey, hown⟩ := hmorph tag htag
    exact (htags tag (mem_morphVocabulary_iff.mpr ⟨_, hadded, hmem⟩)).2.1
      (hown.elim .small fun h => .capital h.1 h.2)
      (mem_get_single hlist (List.mem_append_left _ (List.mem_append_right _ hmem)) hkey)

/-- A tag of the text of an index leads to its verse, but a search for the tag misses the verse. -/
def Misses (text tag : String) : Prop :=
  (∀ p ∈ (single text).added, IsAscii p.2) ∧
    tag ∈ (ofBuilder (single text)).morphVocabulary ∧
    .first ∈ answer ((ofBuilder (single text)).get tag.toList) ∧
    .first ∉ ((single text).searcher .unlimited (fun _ => none) {}).resultAfter []
      ⟨.multiword, [String.ofList (inBraces tag.toList)], {}⟩

/-- What of the keys of a text, and of the spelling of a tag, tells that the tag is missed. -/
def IsLost (text tag : String) : Prop :=
  text.toList.all (fun c => c.toNat < 0x80) = true ∧
    (tag.toList ∈ (Extract.ofText text.toList).morph ∧
      tag.toList ∉ (Extract.ofText text.toList).words ∧
      ∀ key ∈ (Extract.ofText text.toList).keys, SameWord false key tag.toList → key = tag.toList) ∧
    (normalizeKey tag.toList = tag.toList ∧ ∀ k ∈ listKeys, ¬ SameWord false tag.toList k.toList) ∧
    lower tag.toList ≠ tag.toList ∧
    ¬ (¬ HoldsNumber tag.toList ∧ (upper tag.toList = tag.toList ∨ '-' ∉ tag.toList))

instance (text tag : String) : Decidable (IsLost text tag) :=
  inferInstanceAs (Decidable (_ ∧ (_ ∧ _ ∧ _) ∧ (_ ∧ _) ∧ _ ∧ _))

theorem IsLost.misses {text tag : String} (h : IsLost text tag) : Misses text tag := by
  obtain ⟨hall, ⟨hmem, hword, honly⟩, ⟨hkey, hlist⟩, hlower, hcapital⟩ := h
  have hascii : ∀ p ∈ (single text).added, IsAscii p.2 :=
    List.forall_mem_singleton.mpr (by simpa [IsAscii] using hall)
  have hmorph : tag ∈ (ofBuilder (single text)).morphVocabulary :=
    mem_morphVocabulary_iff.mpr ⟨_, List.mem_singleton_self _, hmem⟩
  have hown : ¬ (ofBuilder (single text)).IsOwnKey tag := by
    rintro (h | ⟨hnumber, h⟩ | h)
    · exact hlower h
    · exact hcapital ⟨hnumber, h⟩
    · obtain ⟨p, hp, hmem⟩ := mem_vocabulary_iff.mp h
      obtain rfl := List.mem_singleton.mp hp
      exact hword hmem
  refine ⟨hascii, hmorph, mem_get_single (fun h => hlist tag h rfl)
    (List.mem_append_left _ (List.mem_append_right _ hmem)) hkey,
    notMem_search_tag hascii hmorph rfl hown hlist fun raw hraw => ?_⟩
  obtain ⟨-, rfl⟩ := Prod.mk.inj (List.mem_singleton.mp hraw)
  exact honly

/-- A tag with a hyphen that is spelled in capitals and small letters. -/
def qal : String := "God spoke {V-Qal}"

/-- A tag in capitals, one of whose words is spelled like a Strong's number. -/
def numbered : String := "God spoke {N-H1}"

/-- Tags that searches for them miss: one is looked up as `V-QAL` and `v-qal`; the other is read as a
word with a number in it, and looked up as `n-h1`. -/
theorem notMem_search_qal : Misses qal "V-Qal" ∧ Misses numbered "N-H1" :=
  ⟨IsLost.misses (by decide +kernel), IsLost.misses (by decide +kernel)⟩

end Builder

end Index

end Concordance
