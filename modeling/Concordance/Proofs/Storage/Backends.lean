import Mathlib
import Concordance.Proofs.Archive.Reading
import Concordance.Proofs.Archive.Writing
import Concordance.Storage.Config

/-!
# Places for records are interchangeable

Records are kept in memory or in a file. Whichever it is, what is opened afterwards answers like the
records themselves: the file is an archive of them, and the archive holds just them.

## Main definitions

* `Records.Fits` — records that an archive has room for
* `Storage.AnswersFrom` — a storage that answers like records
* `Opens` — a storage is opened, and answers like records

## Main results

* `Records.exists_holds_iff_fits` — there is an archive of the records that fit
* `Archive.Holds.opens` — an archive is opened, and answers like its records
* `StorageConfig.build_opens` — memory and files answer alike
-/

namespace Concordance

/-! ### Records that fit -/

namespace Records

variable {r : Records}

/-- Records whose keys and values have lengths that take four bytes at most. -/
def Fits (r : Records) : Prop :=
  ∀ (key : String) (value : Bytes), r[key]? = some value →
    (Text.encode key.toList).length < 2 ^ 32 ∧ value.length < 2 ^ 32

/-- There is an archive of records if they fit. -/
theorem exists_holds_iff_fits : (∃ bs, Archive.Holds bs r.toList) ↔ r.Fits := by
  rw [Archive.exists_holds_iff]
  simp only [Fits, Std.TreeMap.mem_toList_iff_getElem?_eq_some]

/-- In a list with every key once, the last value under a key is the only one. -/
theorem lookup_reverse_eq_some_iff {β : Type} {l : List (String × β)} {key : String} {y : β}
    (hdistinct : l.Pairwise fun p q => p.1 ≠ q.1) : l.reverse.lookup key = some y ↔ (key, y) ∈ l := by
  induction l generalizing y with
  | nil => simp
  | cons p l ih =>
    obtain ⟨first, x⟩ := p
    obtain ⟨hne, hrest⟩ := List.pairwise_cons.mp hdistinct
    rw [List.reverse_cons, List.lookup_append, Option.or_eq_some_iff, ih hrest, List.mem_cons,
      List.lookup_cons]
    constructor
    · rintro (hmem | ⟨-, hlookup⟩)
      · exact .inr hmem
      · split at hlookup
        · rename_i hkey
          exact .inl (Prod.ext (eq_of_beq hkey) (Option.some.inj hlookup).symm)
        · cases hlookup
    · rintro (heq | hmem)
      · cases heq
        refine .inr ⟨Option.eq_none_iff_forall_ne_some.mpr fun z hz => ?_, by simp⟩
        exact hne _ ((ih hrest).mp hz) rfl
      · exact .inl hmem

/-- Records are those of the list of their keys and values. -/
theorem equiv_ofList_toList (r : Records) : (Records.ofList r.toList).Equiv r := by
  have hdistinct : r.toList.Pairwise fun p q => p.1 ≠ q.1 :=
    Std.TreeMap.distinct_keys_toList.imp fun h heq => h (Std.LawfulEqCmp.compare_eq_iff_eq.mpr heq)
  refine .of_forall_constGet?_eq fun key => Option.ext fun value => ?_
  rw [Archive.getElem?_ofList, lookup_reverse_eq_some_iff hdistinct,
    Std.TreeMap.mem_toList_iff_getElem?_eq_some]

end Records

/-! ### Answers -/

/-- A storage answers like records. -/
structure Storage.AnswersFrom (st : Storage) (r : Records) : Prop where
  /-- It has as many. -/
  size : st.size = r.size
  /-- It has the same keys. -/
  keys : st.keys = r.keys
  /-- It has a value under a key when they have one. -/
  contains (key : String) : st.contains key = r.contains key
  /-- The value under a key is theirs, and can be read. -/
  get (key : String) : st.get key = .ok r[key]?

/-- A storage is opened, and answers like records. -/
def Opens (opened : Except Error Storage) (r : Records) : Prop :=
  ∃ st, opened = .ok st ∧ st.AnswersFrom r

/-- A storage that answers from records answers like them. -/
theorem Storage.answersFrom_ofRecords (r : Records) : (Storage.ofRecords r).AnswersFrom r :=
  ⟨rfl, rfl, fun _ => rfl, fun _ => rfl⟩

/-- Records that have the same values have the same answers. -/
theorem Storage.AnswersFrom.trans {st : Storage} {r r' : Records} (h : st.AnswersFrom r)
    (hequiv : r.Equiv r') : st.AnswersFrom r' where
  size := h.size.trans hequiv.size_eq
  keys := h.keys.trans hequiv.keys_eq
  contains key := (h.contains key).trans hequiv.contains_eq
  get key := (h.get key).trans (congrArg Except.ok hequiv.getElem?_eq)

/-- **An archive is opened**, and answers like the records that it holds. -/
theorem Archive.Holds.opens {bs : Bytes} {entries : List (String × Bytes)} (h : Holds bs entries)
    (f : FileConfig) (draft? : Option Bytes) :
    Opens ((StorageConfig.file f).create ⟨some bs, draft?⟩) (Records.ofList entries) := by
  obtain ⟨records, hread, hequiv⟩ := h.read draft? f.useMmap
  refine ⟨.ofRecords records, ?_, (Storage.answersFrom_ofRecords records).trans hequiv⟩
  rw [StorageConfig.create, hread]
  rfl

/-! ### Memory and files -/

namespace FileConfig

/-- Nothing stands in the way of writing a file that is reachable. -/
theorem obstacle?_eq_none {f : FileConfig} (h : f.isReachable = true) (done : Nat) :
    f.obstacle? done = none := by
  simp [obstacle?, h]

end FileConfig

namespace StorageConfig

variable {r : Records} {f : FileConfig}

/-- Records that fit are written to a file, and the file is an archive of them. -/
theorem exists_write_eq (hfits : r.Fits) (hf : f.isReachable = true) (s : Archive.Slot) :
    ∃ bs, Archive.Holds bs r.toList ∧ s.write f.obstacle? r = (⟨some bs, none⟩, .ok ()) := by
  obtain ⟨bs, hholds⟩ := Records.exists_holds_iff_fits.mpr hfits
  exact ⟨bs, hholds,
    Archive.Slot.write_eq_ok_iff.mpr ⟨fun i _ => f.obstacle?_eq_none hf i, bs, hholds, rfl⟩⟩

/-- **Opening undoes writing.** -/
theorem opens_of_holds {bs : Bytes} (h : Archive.Holds bs r.toList) (f : FileConfig) :
    Opens ((file f).create ⟨some bs, none⟩) r := by
  obtain ⟨st, hst, hanswers⟩ := h.opens f none
  exact ⟨st, hst, hanswers.trans (Records.equiv_ofList_toList r)⟩

/-- **Memory and files are interchangeable.** Records that fit are kept in memory or in a file that can
be reached, whatever stood there before, and either storage answers like the records themselves. So does
the file that was written when it is opened again, mapped into memory or not. -/
theorem build_opens (hfits : r.Fits) (hf : f.isReachable = true) (s : Archive.Slot)
    (initialCapacity : Nat) :
    Opens ((memory initialCapacity).build s r).2 r ∧ Opens ((file f).build s r).2 r ∧
      s.write f.obstacle? r = (((file f).build s r).1, .ok ()) ∧
      ∀ useMmap, Opens ((file { f with useMmap }).create ((file f).build s r).1) r := by
  obtain ⟨bs, hholds, hwrite⟩ := exists_write_eq hfits hf s
  have hbuild : (file f).build s r = (⟨some bs, none⟩, (file f).create ⟨some bs, none⟩) := by
    simp only [build, hwrite]
  rw [hbuild]
  exact ⟨⟨.ofRecords r, rfl, Storage.answersFrom_ofRecords r⟩, opens_of_holds hholds f, hwrite,
    fun useMmap => opens_of_holds hholds _⟩

/-- Three records, one of them without a value and one with bytes that are no text. -/
def light : Records := Records.ofList [("light", [91, 93]), ("void", []), ("deep", [0, 255])]

/-- Kept in memory, written to a file and opened again from it, they are the same records. -/
theorem build_opens_light :
    light.Fits ∧ Opens ((memory 16).build {} light).2 light ∧
      Opens ((file { dir := "index" }).build {} light).2 light ∧
      ∀ useMmap, Opens ((file { dir := "index", useMmap }).create
        ((file { dir := "index" }).build {} light).1) light := by
  have hfits : light.Fits := by
    intro key value h
    rw [light, Archive.getElem?_ofList, Records.lookup_reverse_eq_some_iff (by decide)] at h
    simp only [List.mem_cons, Prod.mk.injEq, List.not_mem_nil, or_false] at h
    obtain ⟨rfl, rfl⟩ | ⟨rfl, rfl⟩ | ⟨rfl, rfl⟩ := h <;> exact ⟨by decide, by decide⟩
  obtain ⟨hmemory, hfile, -, hagain⟩ := build_opens hfits (f := { dir := "index" }) (by cbv) {} 16
  exact ⟨hfits, hmemory, hfile, hagain⟩

end StorageConfig

end Concordance
