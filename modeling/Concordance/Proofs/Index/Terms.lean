import Concordance.Proofs.Index.Lookup
import Concordance.Proofs.Index.Spellings
import Concordance.Proofs.Term.Keys

/-!
# Terms and the words of texts

A term is looked up in several spellings unless case counts: as it is given, in lower case, and with
the capitals that the texts know. These spellings lead to every verse that has the term as a word in
any spelling, and to no verse that does not have it as a key.

## Main results

* `Index.has_of_mem_words` — a word leads to the verse of its text
* `Index.exists_key_of_has` — a term leads to verses that have it as a key
-/

namespace Concordance

open Term Text

/-- The words of a text consist of word characters. -/
theorem Extract.isWordChar_of_mem_words {raw w : List Char} (h : w ∈ (ofText raw).words) :
    ∀ c ∈ w, isWordChar c = true := by
  simp only [ofText, List.mem_eraseDups, List.mem_append] at h
  rcases h with h | h <;> exact forall_of_mem_runs h

namespace Index

/-! ### The keys of the lists -/

theorem isAscii_of_mem_listKeys : ∀ k ∈ listKeys, IsAscii k.toList := by
  have hall : listKeys.all (fun k => k.toList.all fun c => c.toNat < 0x80) = true := by decide
  intro k hk c hc
  simpa using List.all_eq_true.mp (List.all_eq_true.mp hall k hk) c hc

theorem isWordChar_of_mem_listKeys : ∀ k ∈ listKeys, ∀ c ∈ k.toList, isWordChar c = true := by
  have hall : listKeys.all (fun k => k.toList.all isWordChar) = true := by decide
  intro k hk c hc
  exact List.all_eq_true.mp (List.all_eq_true.mp hall k hk) c hc

/-! ### Spellings -/

variable {b : Builder} {v : Verse} {caseSensitive : Bool} {t : List Char}

/-- **A word leads to the verse of its text**, unless it gives way to a list. -/
theorem has_of_mem_words (ht : IsSolid t) {raw w : List Char} (hadded : (v, raw) ∈ b.added)
    (hw : w ∈ (Extract.ofText raw).words) (hascii : IsAscii w) (hlist : String.ofList w ∉ listKeys)
    (hsame : SameWord caseSensitive w (normalizeKey t)) : (ofBuilder b).Has caseSensitive t v := by
  have hpostings : v ∈ (ofBuilder b).postings (String.ofList w) := by
    refine (mem_postings_iff hlist).mpr ⟨raw, hadded, ?_⟩
    rw [String.toList_ofList]
    exact List.mem_append_right _ hw
  cases caseSensitive with
  | true =>
    obtain rfl : w = normalizeKey t := hsame
    exact ⟨t, List.mem_singleton_self t, hpostings⟩
  | false =>
    have hlower : lower w = lower (normalizeKey t) := by
      rw [lower_of_ascii hascii, lower_of_ascii (isSolid_normalizeKey ht).isAscii]
      exact hsame
    have hform : (ofBuilder b).HasForm w v := by
      rwa [HasForm, normalizeKey_of_isWordChar hascii (Extract.isWordChar_of_mem_words hw)]
    refine ⟨w, ?_, hform⟩
    simp only [forms, Bool.false_eq_true, if_false, List.mem_cons, List.mem_map]
    by_cases hcapital : lower w = w
    · exact .inr (.inl (hcapital.symm.trans hlower))
    · have hvariant : String.ofList w
          ∈ (ofBuilder b).variants (String.ofList (lower (normalizeKey t))) := by
        refine mem_variants_iff.mpr ⟨_, hadded, ?_⟩
        rw [String.toList_ofList]
        exact ⟨hw, hcapital, congrArg String.ofList hlower⟩
      exact .inr (.inr ⟨_, hvariant, String.toList_ofList⟩)

section

variable (ht : IsSolid t)
  (hwords : ∀ p ∈ b.added, ∀ w ∈ (Extract.ofText p.2).words, IsAscii w)

include ht hwords

/-- The spellings that are looked up are spellings of the term. -/
theorem sameWord_of_mem_forms {form : List Char} (h : form ∈ (ofBuilder b).forms caseSensitive t) :
    SameWord caseSensitive (normalizeKey form) (normalizeKey t) := by
  cases caseSensitive with
  | true =>
    obtain rfl : form = t := List.mem_singleton.mp h
    exact rfl
  | false =>
    have hkey := isSolid_normalizeKey ht
    simp only [forms, Bool.false_eq_true, if_false, List.mem_cons, List.mem_map] at h
    rcases h with rfl | rfl | ⟨s, hs, rfl⟩
    · exact rfl
    · have hbracket : ∀ c ∈ lower (normalizeKey t), isBracket c = false := by
        rw [lower_of_ascii hkey.isAscii]
        intro c hc
        obtain ⟨d, hd, rfl⟩ := List.mem_map.mp hc
        exact (isBracket_toLower (hkey d hd).1).trans (isBracket_of_mem_normalizeKey ht d hd)
      rw [normalizeKey_eq_self hkey.lower hbracket, lower_of_ascii hkey.isAscii]
      change ((normalizeKey t).map Char.toLower).map Char.toLower = _
      rw [List.map_map]
      exact List.map_congr_left fun c hc => toLower_toLower (hkey c hc).1
    · obtain ⟨p, hp, hw, -, hlower⟩ := mem_variants_iff.mp hs
      have hascii := hwords p hp _ hw
      rw [normalizeKey_of_isWordChar hascii (Extract.isWordChar_of_mem_words hw)]
      change s.toList.map Char.toLower = _
      rw [← lower_of_ascii hascii, String.ofList_inj.mp hlower, lower_of_ascii hkey.isAscii]

/-- **A term leads to verses that have it as a key**, unless it is spelled like the key of a
list. -/
theorem exists_key_of_has (hlist : ∀ k ∈ listKeys, ¬ SameWord false (normalizeKey t) k.toList)
    (h : (ofBuilder b).Has caseSensitive t v) :
    ∃ raw, (v, raw) ∈ b.added ∧
      ∃ k ∈ (Extract.ofText raw).keys, SameWord caseSensitive k (normalizeKey t) := by
  obtain ⟨form, hform, hpostings⟩ := h
  have hsame := sameWord_of_mem_forms ht hwords hform
  have hnotMem : String.ofList (normalizeKey form) ∉ listKeys := by
    intro hmem
    refine hlist _ hmem ?_
    rw [String.toList_ofList]
    exact hsame.ignoreCase.symm
  obtain ⟨raw, hadded, hkey⟩ := (mem_postings_iff hnotMem).mp hpostings
  rw [String.toList_ofList] at hkey
  exact ⟨raw, hadded, _, hkey, hsame⟩

end

end Index

end Concordance
