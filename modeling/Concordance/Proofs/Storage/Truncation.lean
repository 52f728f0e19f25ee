import Concordance.Proofs.Storage.Backends

/-!
# Archives that were cut off

An archive says neither how many records it has nor where it ends, and that is how an index without
records is an empty file. So an archive that was cut off between two records is an archive itself, of the
records before the cut, and nothing shows that there were more. Cut off anywhere else it has a part that
is not whole, and is not opened.

## Main results

* `Archive.Holds.cut` — what the beginning of an archive is
* `StorageConfig.create_cut` — what comes of opening it
-/

namespace Concordance

namespace Archive

variable {bs pre : Bytes} {entries : List (String × Bytes)} {fault : ArchiveFault}

/-- Bytes with a part at fault are no archive. -/
theorem FirstFault.not_holds (h : FirstFault 0 bs fault) : ¬ Holds bs entries := fun hholds => by
  obtain ⟨spans, hspans, -⟩ := hholds.index
  rw [index_of_firstFault h] at hspans
  cases hspans

/-- **The beginning of an archive** is the archive of the first records, or has a part at fault. -/
theorem Holds.cut (h : Holds bs entries) (hpre : pre <+: bs) (hne : pre ≠ bs) :
    (∃ k < entries.length, Holds pre (entries.take k)) ∨
      (∀ k, ¬ Holds pre (entries.take k)) ∧ ∃ fault, FirstFault 0 pre fault := by
  obtain ⟨rest, rfl⟩ := hpre
  obtain ⟨first, hfirst⟩ | ⟨fault, hfault⟩ := holds_or_firstFault 0 pre
  · obtain ⟨more, rfl, hmore⟩ := hfirst.of_append h
    refine .inl ⟨first.length, ?_, by rwa [List.take_left]⟩
    cases hmore with
    | nil => exact absurd (List.append_nil pre).symm hne
    | cons => simp
  · exact .inr ⟨fun k => hfault.not_holds, fault, hfault⟩

end Archive

namespace StorageConfig

open Archive

/-- **Cutting off is detected but between records.** The file that records were written to holds them
one after another. Its beginning, as far as it is not the whole, is what would have been written for the
first of them, and is opened as these; or it ends elsewhere, and the first part at fault is told. -/
theorem create_cut {obstacle? : Nat → Option Error} {s s' : Slot} {r : Records} {bs pre : Bytes}
    (hwrite : s.write obstacle? r = (s', .ok ())) (hfile : s'.file? = some bs) (hpre : pre <+: bs)
    (hne : pre ≠ bs) (f : FileConfig) (draft? : Option Bytes) :
    (∃ k < r.size, Holds pre (r.toList.take k) ∧
        Opens ((file f).create ⟨some pre, draft?⟩) (Records.ofList (r.toList.take k))) ∨
      (∀ k, ¬ Holds pre (r.toList.take k)) ∧
        ∃ fault, FirstFault 0 pre fault ∧
          (file f).create ⟨some pre, draft?⟩ = .error (.archive fault) := by
  obtain ⟨-, _, hholds, rfl⟩ := Slot.write_eq_ok_iff.mp hwrite
  cases hfile
  obtain ⟨k, hk, hcut⟩ | ⟨hno, fault, hfault⟩ := hholds.cut hpre hne
  · exact .inl ⟨k, by rwa [← Std.TreeMap.length_toList], hcut, hcut.opens f draft?⟩
  · refine .inr ⟨hno, fault, hfault, ?_⟩
    rw [create, read_of_firstFault hfault]
    rfl

/-- The records of two words, neither of which is in any verse. -/
def twoWords : Records := Records.ofList [("God", [91, 93]), ("light", [91, 93])]

/-- The file with the records of the two words: the first takes up 13 bytes. -/
def twoWordsFile : Bytes :=
  [3, 0, 0, 0, 71, 111, 100, 2, 0, 0, 0, 91, 93] ++
    [5, 0, 0, 0, 108, 105, 103, 104, 116, 2, 0, 0, 0, 91, 93]

theorem create_cut_twoWords :
    (∃ k < twoWords.size, Holds (twoWordsFile.take 5) (twoWords.toList.take k) ∧
        Opens ((file { dir := "index" }).create ⟨some (twoWordsFile.take 5), none⟩)
          (Records.ofList (twoWords.toList.take k))) ∨
      (∀ k, ¬ Holds (twoWordsFile.take 5) (twoWords.toList.take k)) ∧
        ∃ fault, FirstFault 0 (twoWordsFile.take 5) fault ∧
          (file { dir := "index" }).create ⟨some (twoWordsFile.take 5), none⟩ =
            .error (.archive fault) :=
  @create_cut (fun _ => none) {} ⟨some twoWordsFile, none⟩ twoWords twoWordsFile _
    rfl rfl (by decide) (by decide) { dir := "index" } none

/-- Cut off between the two records, the file is opened. -/
theorem not_forall_create_cut_error : ¬ ∀ (obstacle? : Nat → Option Error) (s s' : Slot)
    (r : Records) (bs pre : Bytes) (f : FileConfig), 0 < r.size →
      s.write obstacle? r = (s', .ok ()) → s'.file? = some bs → pre <+: bs → pre ≠ bs →
      ∃ e, (file f).create ⟨some pre, none⟩ = .error e := by
  intro hall
  obtain ⟨e, he⟩ := hall (fun _ => none) {} ⟨some twoWordsFile, none⟩ twoWords twoWordsFile
    (twoWordsFile.take 13) { dir := "index" } (by decide) rfl rfl (by decide) (by decide)
  have hfirst : Holds (twoWordsFile.take 13) [("God", [91, 93])] :=
    .cons (k := [3, 0, 0, 0, 71, 111, 100]) (v := [2, 0, 0, 0, 91, 93])
      ⟨3, 0, 0, 0, rfl, rfl⟩ ⟨2, 0, 0, 0, rfl, rfl⟩ .nil
  obtain ⟨st, hst, -⟩ := hfirst.opens { dir := "index" } none
  cases he.symm.trans hst

end StorageConfig

end Concordance
