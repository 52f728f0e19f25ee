import Concordance.Proofs.Index.Sums

/-!
# Verses that are added again

When a verse is added again, its text is replaced, and what the earlier text was found by stays. So the
records are not those of the last texts alone, unless the last texts say all that the texts before them
said.

## Main definitions

* `Index.NothingLost` — the last texts say what all texts say

## Main results

* `Index.Builder.alike_lastTexts_iff` — when the earlier texts of verses leave no trace
-/

namespace Concordance

namespace Index

variable {texts : List (Verse × List Char)}

/-- Nothing that a text says is lost when the text is replaced: the last text of the verse has its
keys, and its words, numbers and tags are among those of the last texts. -/
structure NothingLost (texts : List (Verse × List Char)) : Prop where
  /-- The verse is still found. -/
  foundBy : ∀ p ∈ texts, ∀ k ∈ (Extract.ofText p.2).keys, String.ofList k ∉ listKeys →
    FoundBy (lastTexts texts) (String.ofList k) p.1
  /-- All is still listed. -/
  haveAmong : ∀ l ∈ wordLists, ∀ p ∈ texts, ∀ w ∈ l.2 (Extract.ofText p.2),
    HaveAmong (lastTexts texts) l.2 (String.ofList w)

/-- The last texts say nothing of their own. -/
theorem saySame_lastTexts_iff : SaySame texts (lastTexts texts) ↔ NothingLost texts := by
  constructor
  · intro hsame
    refine ⟨fun p hp k hk hlist => ?_, fun l hl p hp w hw => ?_⟩
    · exact (hsame.foundBy _ hlist _).mp ⟨p.2, hp, by rwa [String.toList_ofList]⟩
    · exact (hsame.haveAmong l hl _).mp ⟨p, hp, by rwa [String.toList_ofList]⟩
  · intro hkept
    refine ⟨fun k hlist v => ⟨?_, ?_⟩, fun l hl w => ⟨?_, ?_⟩⟩
    · rintro ⟨raw, hadded, hk⟩
      have hfound := hkept.foundBy (v, raw) hadded k.toList hk
      rw [String.ofList_toList] at hfound
      exact hfound hlist
    · rintro ⟨raw, hlast, hk⟩
      exact ⟨raw, mem_of_mem_lastTexts hlast, hk⟩
    · rintro ⟨p, hp, hw⟩
      have hhave := hkept.haveAmong l hl p hp w.toList hw
      rwa [String.ofList_toList] at hhave
    · rintro ⟨p, hp, hw⟩
      exact ⟨p, mem_of_mem_lastTexts hp, hw⟩

namespace Builder

/-- **What adding verses again comes to.** The text that stands under a verse is the last one, while
the verse goes on being found by all of its texts, and the words, numbers and tags of all texts go on
being listed. So the records are like those of the last texts alone if and only if nothing is lost with
the texts that were replaced. -/
theorem alike_lastTexts_iff (texts : List (Verse × List Char)) :
    (ofTexts texts).records.IsSumOf (lastTexts texts) texts ∧
      ((ofTexts texts).records.Alike (ofTexts (lastTexts texts)).records ↔ NothingLost texts) := by
  have hsum := (ofTexts texts).isSumOf_records
  have hlast := (ofTexts (lastTexts texts)).isSumOf_records
  rw [added_ofTexts] at hsum
  rw [added_ofTexts, lastTexts_eq_self (nodup_lastTexts texts)] at hlast
  exact ⟨hsum, (hsum.alike_iff hlast).trans saySame_lastTexts_iff⟩

/-- A verse that is added again with another text. -/
def changed : List (Verse × List Char) := [(.first, "alpha".toList), (.first, "beta".toList)]

/-- A verse stays under the word of a text that was replaced: the text is `beta`, and `alpha` leads to
the verse, as it does not when the last text alone is added. -/
theorem not_alike_changed :
    lastTexts changed = [(.first, "beta".toList)] ∧
      (ofTexts changed).records.Holds Verse.first.reference (.ofString "beta") ∧
      (ofTexts changed).records.Holds "alpha" (.ofStrings [Verse.first.reference]) ∧
      (ofTexts (lastTexts changed)).records["alpha"]? = none ∧
      ¬ (ofTexts changed).records.Alike (ofTexts (lastTexts changed)).records := by
  have hlast : lastTexts changed = [(.first, "beta".toList)] := by decide
  have hkey : "alpha".toList ∈ (Extract.ofText "alpha".toList).keys := by decide +kernel
  have hlost : "alpha".toList ∉ (Extract.ofText "beta".toList).keys := by decide +kernel
  have hlist : "alpha" ∉ listKeys := by decide
  have hfound : ∀ v, FoundBy changed "alpha" v ↔ v = .first := by
    intro v
    constructor
    · rintro ⟨raw, hadded, -⟩
      have hverse : ∀ p ∈ changed, p.1 = .first := by decide
      exact hverse _ hadded
    · rintro rfl
      exact ⟨_, List.mem_cons_self, hkey⟩
  have hsum := (ofTexts changed).isSumOf_records
  have hsumLast := (ofTexts (lastTexts changed)).isSumOf_records
  rw [added_ofTexts, hlast] at hsum hsumLast
  have hholds : (ofTexts changed).records.Holds "alpha" (.ofStrings [Verse.first.reference]) := by
    obtain ⟨vs, hholds, hsorted, hmem⟩ := hsum.verses "alpha" hlist ⟨.first, (hfound _).mpr rfl⟩
    obtain rfl : vs = [.first] := hsorted.eq_of_mem_iff (List.pairwise_singleton _ _) fun v => by
      rw [hmem, hfound, List.mem_singleton]
    exact hholds
  have hnone : (ofTexts (lastTexts changed)).records["alpha"]? = none := by
    refine hsumLast.nothing "alpha" hlist ?_ ?_
    · decide +kernel
    · rintro v ⟨raw, hadded, hk⟩
      obtain ⟨-, rfl⟩ := Prod.mk.inj (List.mem_singleton.mp hadded)
      exact hlost hk
  refine ⟨hlast, hsum.text (.first, "beta".toList) (List.mem_singleton_self _), hholds, hnone, ?_⟩
  intro halike
  have heq := halike.eq "alpha" (by decide)
  rw [hholds.1, hnone] at heq
  cases heq

end Builder

end Index

end Concordance
