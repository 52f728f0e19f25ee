import Concordance.Storage.Disk

/-!
# Files keep apart

What is done to one file leaves all other files as they are, and what is done at one place leaves the other
places alone. No index stands where another one is drafted, so the file of an open index is never written to.

## Main definitions

* `Disk.OnlyIn` — nothing has happened but to the content of one file
* `Disk.IsSettled` — a file that is not being drafted
* `Disk.slot` — the archive at a place, with its draft

## Main results

* `FileConfig.not_isDraft_place` — an index does not stand where another one is drafted
* `Disk.create_spec`, `Disk.exists_moveDraft_eq` — making files, and moving drafts
* `Disk.holding_of_openFile` — what an open archive answers from
-/

namespace Concordance

/-! ### Places -/

theorem Place.isDraft_draft (p : Place) : p.draft.IsDraft := ⟨p, rfl⟩

theorem Place.draft_ne (p : Place) : p.draft ≠ p := by
  intro h
  have hlength := congrArg (fun q : Place => q.name.toList.length) h
  simp [draft] at hlength

namespace FileConfig

/-- The path of an index ends in the same characters, whatever it is. -/
theorem exists_path_eq (c : FileConfig) : ∃ pre, c.path.toList = pre ++ suffix.toList := by
  rw [path, join]
  split
  · exact ⟨_, String.toList_append⟩
  · split
    · exact ⟨c.dir.toList ++ c.name.toList, by simp only [String.toList_append, List.append_assoc]⟩
    · exact ⟨c.dir.toList ++ "/".toList ++ c.name.toList, by
        simp only [String.toList_append, List.append_assoc]⟩

/-- **No index stands at the place of a draft.** -/
theorem not_isDraft_place (directory : String → Nat) (c : FileConfig) : ¬ (c.place directory).IsDraft := by
  rintro ⟨q, hq⟩
  obtain ⟨pre, hpath⟩ := c.exists_path_eq
  have hname : (c.place directory).name.toList.getLast? = some 'b' := by
    simp only [place, String.toList_ofList, List.getLast?_reverse, hpath, List.reverse_append]
    rfl
  have hdraft : q.draft.name.toList.getLast? = some 'p' := by
    simp only [Place.draft, String.toList_append, List.getLast?_append]
    rfl
  rw [hq, hdraft] at hname
  cases hname

end FileConfig

namespace Disk

variable {d d' d'' : Disk} {p q : Place} {file other : Nat} {bs : Bytes}

/-! ### Changing one file -/

/-- Nothing has happened but to the content of one file. -/
structure OnlyIn (file : Nat) (d d' : Disk) : Prop where
  file?_eq : d'.file? = d.file?
  fresh_eq : d'.fresh = d.fresh
  content_eq : ∀ other, other ≠ file → d'.content other = d.content other

theorem OnlyIn.refl (file : Nat) (d : Disk) : OnlyIn file d d := ⟨rfl, rfl, fun _ _ => rfl⟩

theorem OnlyIn.trans (h : OnlyIn file d d') (h' : OnlyIn file d' d'') : OnlyIn file d d'' :=
  ⟨h'.file?_eq.trans h.file?_eq, h'.fresh_eq.trans h.fresh_eq,
    fun other hne => (h'.content_eq other hne).trans (h.content_eq other hne)⟩

theorem onlyIn_put (d : Disk) (file : Nat) (bs : Bytes) : OnlyIn file d (d.put file bs) :=
  ⟨rfl, rfl, fun _ hne => Function.update_of_ne hne _ _⟩

theorem onlyIn_append (d : Disk) (file : Nat) (bs : Bytes) : OnlyIn file d (d.append file bs) :=
  d.onlyIn_put file _

@[simp] theorem content_put (d : Disk) (file : Nat) (bs : Bytes) : (d.put file bs).content file = bs :=
  Function.update_self _ _ _

@[simp] theorem content_append (d : Disk) (file : Nat) (bs : Bytes) :
    (d.append file bs).content file = d.content file ++ bs := d.content_put file _

/-! ### Making files and moving them -/

/-- A file that exists, and does not stand at the place of a draft. -/
structure IsSettled (d : Disk) (file : Nat) : Prop where
  lt_fresh : file < d.fresh
  not_isDraft : ∀ p, d.file? p = some file → ¬ p.IsDraft

/-- **Making a file**: it is empty, and it is none of the files that stand elsewhere. -/
theorem create_spec (d : Disk) (p : Place) :
    (d.create p).1.file? p = some (d.create p).2 ∧ (d.create p).1.content (d.create p).2 = [] ∧
    (∀ q, q ≠ p → (d.create p).1.file? q = d.file? q) ∧ d.fresh ≤ (d.create p).1.fresh ∧
    ∀ file, file < d.fresh → d.file? p ≠ some file →
      file ≠ (d.create p).2 ∧ (d.create p).1.content file = d.content file := by
  rw [create]
  split
  · rename_i file hfile
    refine ⟨hfile, d.content_put file [], fun _ _ => rfl, Nat.le_refl _, fun other _ hne => ?_⟩
    have hother : other ≠ file := fun h => hne (h ▸ hfile)
    exact ⟨hother, Function.update_of_ne hother _ _⟩
  · refine ⟨Function.update_self _ _ _, Function.update_self _ _ _,
      fun q hne => Function.update_of_ne hne _ _, Nat.le_succ _, fun other hlt _ => ?_⟩
    have hother : other ≠ d.fresh := Nat.ne_of_lt hlt
    exact ⟨hother, Function.update_of_ne hother _ _⟩

/-- **Moving a draft.** -/
theorem exists_moveDraft_eq (h : d.file? p.draft = some file) :
    ∃ d', d.moveDraft p = .ok d' ∧ d'.file? p = some file ∧ d'.file? p.draft = none ∧
      (∀ q, q ≠ p → q ≠ p.draft → d'.file? q = d.file? q) ∧ d'.fresh = d.fresh ∧ d'.content = d.content := by
  have hsome : ¬ (d.file? p.draft).isNone = true := by simp [h]
  exact ⟨_, if_neg hsome, (if_pos rfl).trans h, (if_neg p.draft_ne).trans (if_pos rfl),
    fun q hq hq' => (if_neg hq).trans (if_neg hq'), rfl, rfl⟩

/-! ### Archives at places -/

/-- The archive at a place, with its draft. -/
def slot (d : Disk) (p : Place) : Archive.Slot := ⟨d.read? p, d.read? p.draft⟩

/-- An archive is opened from a disk as from its place alone. -/
theorem map_records_openFile (d : Disk) (p : Place) (useMmap : Bool) :
    (d.openFile p useMmap).map (·.records d) = (d.slot p).read useMmap := by
  simp only [openFile, Archive.Slot.read, slot, read?]
  cases d.file? p with
  | none => rfl
  | some file =>
    simp only [Option.map_some, Archive.Opened.ofFile, Archive.Backing.bytes_ofFile]
    cases Archive.index (d.content file) with
    | error fault => rfl
    | ok spans =>
      refine congrArg Except.ok ?_
      simp only [OpenFile.records, Archive.Opened.records, Archive.Backing.bytes_ofFile]
      split <;> rfl

/-- **What an open archive answers from**: bytes that it owns, or a file that is not being drafted. -/
theorem holding_of_openFile {o : OpenFile} {useMmap : Bool} (h : d.openFile p useMmap = .ok o)
    (hp : ¬ p.IsDraft) :
    (∃ bs, o.holding = .owned bs) ∨ ∃ file, o.holding = .mapped file ∧ d.IsSettled file := by
  rw [openFile] at h
  split at h
  · cases h
  · rename_i file hfile
    obtain ⟨spans, -, rfl⟩ := map_eq_ok_iff.mp h
    dsimp only
    split
    · refine .inr ⟨file, rfl, d.lt_fresh hfile, fun q hq hdraft => hp ?_⟩
      rwa [← d.place_eq hdraft hq hfile]
    · exact .inl ⟨_, rfl⟩

end Disk

end Concordance
