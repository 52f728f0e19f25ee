import Concordance.Proofs.Storage.Backends
import Concordance.Proofs.Storage.Writer

/-!
# Indexes are replaced as a whole

Whatever the system refuses, and however it cuts up what it is given, an index is written as a whole or not
at all. Until the last call only the draft is touched, and the last call puts it in the place of the index.

That the system may refuse every call from some point on also says what is there when writing breaks off at
that point.

## Main definitions

* `System.IsWilling` — the system does what it is asked for
* `Disk.Wrote` — how writing an index may end

## Main results

* `Disk.write_wrote` — writing an index ends in one of these ways
* `Disk.Wrote.read?_eq_of_error`, `Disk.Wrote.exists_encode_eq` — what is at the place of the index then
* `Disk.Wrote.isSettled` — one attempt leaves the files of open indexes alone
* `OpenFile.records_runAll` — open indexes go on answering as they did, after any number of attempts
* `Disk.write_allOrNothing` — an index is written as a whole or not at all
-/

namespace Concordance

/-! ### The system -/

namespace System

variable {sys : System} {calls : Nat} {e : Error}

/-- The system does what it is asked for, though it may take few bytes at a time. -/
def IsWilling (sys : System) : Prop := ∀ calls, ∃ count, sys calls = .takes (count + 1)

theorem IsWilling.not_obstructs (h : sys.IsWilling) : ¬ sys.Obstructs e := by
  intro hobstructs
  cases hobstructs with
  | @refuses calls _ hcall | @stuck calls _ hcall =>
    obtain ⟨count, hcount⟩ := h calls
    rw [hcount] at hcall
    cases hcall

theorem obstructs_of_answer (h : sys.answer calls = .error e) : sys.Obstructs e := by
  rw [answer] at h
  split at h
  · cases h
    exact .refuses (by assumption)
  · cases h

/-- Of two calls, too, the system obstructs the one that fails. -/
theorem obstructs_of_answer_answer {calls' : Nat}
    (h : (do sys.answer calls; sys.answer calls') = .error e) : sys.Obstructs e := by
  cases hfirst : sys.answer calls with
  | error e' =>
    rw [hfirst] at h
    cases h
    exact obstructs_of_answer hfirst
  | ok =>
    rw [hfirst] at h
    exact obstructs_of_answer h

end System

namespace Disk

variable {sys : System} {capacity : Nat} {d d' : Disk} {p q : Place} {r : Records} {file : Nat}
  {result : Except Error Unit} {e : Error}

/-! ### How writing ends -/

/-- How writing records to a place may end. -/
inductive Wrote (sys : System) (d : Disk) (p : Place) (r : Records) : Disk → Except Error Unit → Prop
  /-- Nothing has been done. -/
  | refused {e : Error} : sys.Obstructs e → Wrote sys d p r d (.error e)
  /-- Only the draft has been written. -/
  | drafted {d' : Disk} {e : Error} : (d.create p.draft).1.OnlyIn (d.create p.draft).2 d' →
      (sys.Obstructs e ∨ e = .tooLong ∧ ¬ r.Fits) → Wrote sys d p r d' (.error e)
  /-- The draft has been written, and moved to the place. -/
  | replaced {d₁ d' : Disk} {bs : Bytes} : (d.create p.draft).1.OnlyIn (d.create p.draft).2 d₁ →
      Archive.Holds bs r.toList → d₁.content (d.create p.draft).2 = bs →
      d₁.moveDraft p = .ok d' → Wrote sys d p r d' (.ok ())

/-- **Writing an index** ends in one of three ways. -/
theorem write_wrote (sys : System) (capacity : Nat) (d : Disk) (p : Place) (r : Records) :
    Wrote sys d p r (d.write sys capacity p r).1 (d.write sys capacity p r).2 := by
  obtain ⟨hplace, hmade, -⟩ := d.create_spec p.draft
  obtain ⟨hcontinues, -, hfaults⟩ := Writer.writes_putRecords sys capacity
    ⟨(d.create p.draft).1, 2, (d.create p.draft).2, []⟩ r.toList
  have hcontent := Writer.exists_content_close sys capacity r.toList
    (w := ⟨(d.create p.draft).1, 2, (d.create p.draft).2, []⟩) rfl
  rw [write]
  split
  · exact .refused (System.obstructs_of_answer_answer (by assumption))
  · dsimp only at hcontent ⊢
    generalize Writer.putRecords sys capacity r.toList
      ⟨(d.create p.draft).1, 2, (d.create p.draft).2, []⟩ = written at *
    obtain ⟨w, written⟩ := written
    have hclose := (hcontinues.trans (w.continues_close sys)).onlyIn
    obtain ⟨d', hmove, -⟩ := exists_moveDraft_eq (d := (w.close sys).disk) (p := p)
      ((congrFun hclose.file?_eq p.draft).trans hplace)
    split
    · rename_i e hstop
      refine .drafted hclose ?_
      cases written with
      | error e' =>
        cases hstop
        simpa only [Records.exists_holds_iff_fits] using hfaults rfl
      | ok =>
        cases hanswer : sys.answer (w.close sys).calls with
        | error e' =>
          rw [hanswer] at hstop
          cases hstop
          exact .inl (System.obstructs_of_answer hanswer)
        | ok =>
          -- The draft is there, so it can be moved.
          rw [hanswer, hmove] at hstop
          cases hstop
    · rename_i d'' hdone
      simp only [bind_eq_ok_iff] at hdone
      obtain ⟨_, rfl, _, -, hmoved⟩ := hdone
      obtain ⟨bs, hbs, heq⟩ := hcontent rfl
      rw [hmade, List.nil_append] at heq
      exact .replaced hclose hbs heq hmoved

namespace Wrote

/-! ### What is there afterwards -/

/-- Making and writing a draft changes nothing at other places. -/
theorem file?_eq_of_onlyIn (h : (d.create p.draft).1.OnlyIn (d.create p.draft).2 d') (hq : q ≠ p.draft) :
    d'.file? q = d.file? q := by
  rw [h.file?_eq, (d.create_spec p.draft).2.2.1 q hq]

/-- Making and writing a draft changes no file but that of the draft. -/
theorem content_eq_of_onlyIn (h : (d.create p.draft).1.OnlyIn (d.create p.draft).2 d')
    (hlt : file < d.fresh) (hfile : d.file? p.draft ≠ some file) :
    file ≠ (d.create p.draft).2 ∧ d'.content file = d.content file := by
  obtain ⟨-, -, -, -, hother⟩ := d.create_spec p.draft
  obtain ⟨hne, hcontent⟩ := hother file hlt hfile
  exact ⟨hne, by rw [h.content_eq file hne, hcontent]⟩

/-- Making and writing a draft leaves other places as they were. -/
theorem read?_eq_of_onlyIn (h : (d.create p.draft).1.OnlyIn (d.create p.draft).2 d') (hq : q ≠ p.draft) :
    d'.read? q = d.read? q := by
  rw [read?, read?, file?_eq_of_onlyIn h hq]
  cases hfile : d.file? q with
  | none => rfl
  | some file =>
    have hdraft : d.file? p.draft ≠ some file := fun h => hq (d.place_eq p.isDraft_draft h hfile).symm
    rw [Option.map_some, Option.map_some, (content_eq_of_onlyIn h (d.lt_fresh hfile) hdraft).2]

/-- When the draft has been moved, its file is at the place of the index. -/
theorem moveDraft_of_onlyIn {d₁ : Disk} (h : (d.create p.draft).1.OnlyIn (d.create p.draft).2 d₁)
    (hmove : d₁.moveDraft p = .ok d') :
    d'.file? p = some (d.create p.draft).2 ∧ d'.file? p.draft = none ∧
      (∀ q, q ≠ p → q ≠ p.draft → d'.file? q = d₁.file? q) ∧ d'.fresh = d₁.fresh ∧
      d'.content = d₁.content := by
  have hdraft := (congrFun h.file?_eq p.draft).trans (d.create_spec p.draft).1
  obtain ⟨d'', hmove', hspec⟩ := exists_moveDraft_eq hdraft
  cases hmove.symm.trans hmove'
  exact hspec

/-- **After a failure** the index is as it was. -/
theorem read?_eq_of_error (h : Wrote sys d p r d' (.error e)) : d'.read? p = d.read? p := by
  cases h with
  | refused => rfl
  | drafted honly => exact read?_eq_of_onlyIn honly p.draft_ne.symm

/-- A failure comes from the system, or from a record that is too long. -/
theorem cause_of_error (h : Wrote sys d p r d' (.error e)) :
    sys.Obstructs e ∨ e = .tooLong ∧ ¬ r.Fits := by
  cases h with
  | refused hobstructs => exact .inl hobstructs
  | drafted _ hcause => exact hcause

/-- **After success** the index is the archive of the records. -/
theorem exists_encode_eq (h : Wrote sys d p r d' (.ok ())) :
    ∃ bs, Archive.encode r = .ok bs ∧ d'.read? p = some bs := by
  cases h with
  | @replaced d₁ _ bs honly hbs hcontent hmove =>
    obtain ⟨hfile, -, -, -, hcontents⟩ := moveDraft_of_onlyIn honly hmove
    exact ⟨bs, Archive.encode_eq_ok_iff.mpr hbs, by rw [read?, hfile, Option.map_some, hcontents, hcontent]⟩

/-- **Other places** are left alone. -/
theorem read?_eq (h : Wrote sys d p r d' result) (hq : q ≠ p) (hq' : q ≠ p.draft) :
    d'.read? q = d.read? q := by
  cases h with
  | refused => rfl
  | drafted honly => exact read?_eq_of_onlyIn honly hq'
  | @replaced d₁ _ bs honly _ _ hmove =>
    obtain ⟨-, -, hothers, -, hcontents⟩ := moveDraft_of_onlyIn honly hmove
    rw [← read?_eq_of_onlyIn honly hq', read?, read?, hothers q hq hq', hcontents]

/-- Making and writing a draft leaves settled files alone. -/
theorem isSettled_of_onlyIn (h : (d.create p.draft).1.OnlyIn (d.create p.draft).2 d')
    (hfile : d.IsSettled file) : d'.IsSettled file ∧ file ≠ (d.create p.draft).2 ∧
      d'.content file = d.content file := by
  obtain ⟨hmade, -, -, hfresh, -⟩ := d.create_spec p.draft
  obtain ⟨hne, hcontent⟩ := content_eq_of_onlyIn h hfile.lt_fresh
    fun hdraft => hfile.not_isDraft _ hdraft p.isDraft_draft
  refine ⟨⟨?_, fun q hq => ?_⟩, hne, hcontent⟩
  · rw [h.fresh_eq]
    exact Nat.lt_of_lt_of_le hfile.lt_fresh hfresh
  · have hq' : q ≠ p.draft := by
      rintro rfl
      rw [h.file?_eq, hmade] at hq
      exact hne (Option.some.inj hq).symm
    exact hfile.not_isDraft q (file?_eq_of_onlyIn h hq' ▸ hq)

/-- **A settled file** keeps its content and stays settled. -/
theorem isSettled (h : Wrote sys d p r d' result) (hp : ¬ p.IsDraft) (hfile : d.IsSettled file) :
    d'.IsSettled file ∧ d'.content file = d.content file := by
  cases h with
  | refused => exact ⟨hfile, rfl⟩
  | drafted honly =>
    obtain ⟨hsettled, -, hcontent⟩ := isSettled_of_onlyIn honly hfile
    exact ⟨hsettled, hcontent⟩
  | @replaced d₁ _ bs honly _ _ hmove =>
    obtain ⟨hsettled, hne, hcontent⟩ := isSettled_of_onlyIn honly hfile
    obtain ⟨-, hgone, hothers, hfresh, hcontents⟩ := moveDraft_of_onlyIn honly hmove
    refine ⟨⟨hfresh ▸ hsettled.lt_fresh, fun q hq => ?_⟩, hcontents ▸ hcontent⟩
    by_cases hqp : q = p
    · exact hqp ▸ hp
    · by_cases hqd : q = p.draft
      · rw [hqd, hgone] at hq
        cases hq
      · exact hsettled.not_isDraft q (hothers q hqp hqd ▸ hq)

end Wrote

end Disk

/-! ### Open indexes -/

namespace OpenFile

variable {directory : String → Nat} {d : Disk} {o : OpenFile} {c : FileConfig}

/-- **One attempt** leaves the files of open indexes alone. -/
theorem isSettled_run {file : Nat} (directory : String → Nat) (h : d.IsSettled file) (a : Attempt) :
    (a.run directory d).IsSettled file ∧ (a.run directory d).content file = d.content file :=
  (d.write_wrote a.system a.capacity _ a.records).isSettled (a.config.not_isDraft_place directory) h

/-- **Any number of attempts** leaves the files of open indexes alone. -/
theorem content_runAll {file : Nat} (h : d.IsSettled file) (attempts : List Attempt) :
    (Attempt.runAll directory d attempts).content file = d.content file := by
  induction attempts generalizing d with
  | nil => rfl
  | cons a attempts ih =>
    obtain ⟨hsettled, hcontent⟩ := isSettled_run directory h a
    exact (ih hsettled).trans hcontent

/-- **An open index** goes on answering as it did. -/
theorem records_runAll (h : d.openFile (c.place directory) c.useMmap = .ok o)
    (attempts : List Attempt) : o.records (Attempt.runAll directory d attempts) = o.records d := by
  have hbytes : o.holding.bytes (Attempt.runAll directory d attempts) = o.holding.bytes d := by
    obtain ⟨bs, hheld⟩ | ⟨file, hheld, hsettled⟩ :=
      d.holding_of_openFile h (c.not_isDraft_place directory) <;> rw [hheld]
    · rfl
    · exact content_runAll hsettled attempts
  rw [records, records, hbytes]

end OpenFile

namespace Disk

/-! ### All or nothing -/

/-- **An index is written as on a place of its own**, where what the system refuses stands in the way. -/
theorem exists_slot_write_eq {sys : System} {d d' : Disk} {p : Place} {r : Records}
    {result : Except Error Unit} (h : Wrote sys d p r d' result) :
    ∃ obstacle? draft?, (d.slot p).write obstacle? r = (⟨d'.read? p, draft?⟩, result) := by
  cases result with
  | ok =>
    obtain ⟨bs, hbs, hread⟩ := h.exists_encode_eq
    refine ⟨fun _ => none, none, ?_⟩
    exact Archive.Slot.write_eq_ok_iff.mpr
      ⟨fun _ _ => rfl, bs, Archive.encode_eq_ok_iff.mp hbs, by rw [hread]⟩
  | error e =>
    rw [h.read?_eq_of_error]
    rcases h.cause_of_error with - | ⟨rfl, hfits⟩
    · exact ⟨fun _ => some e, (d.slot p).draft?, rfl⟩
    · rw [← Records.exists_holds_iff_fits] at hfits
      exact ⟨_, Archive.Slot.exists_write_eq_tooLong hfits⟩

/-- **An index is written as a whole or not at all.** If writing succeeds, what is at the place of the index
is the archive of the records; if it fails, what was there before, and the cause is the system or a record
that is too long. A willing system leaves only the latter. All other places are left alone, and indexes that
were opened before go on answering as they did, after any number of attempts.

This is about disks on which no draft is linked to a second place (`Disk.place_eq`): what is written to such
a draft would stand at the other place, too. -/
theorem write_allOrNothing (directory : String → Nat) (d : Disk) (a : Attempt) :
    let p := a.config.place directory
    let (d', result) := d.write a.system a.capacity p a.records
    (match result with
      | .ok () => ∃ bs, Archive.encode a.records = .ok bs ∧ d'.read? p = some bs
      | .error e => d'.read? p = d.read? p ∧ (a.system.Obstructs e ∨ e = .tooLong ∧ ¬ a.records.Fits)) ∧
    (a.system.IsWilling → (result = .ok () ↔ a.records.Fits) ∧
      (result = .error .tooLong ↔ ¬ a.records.Fits)) ∧
    (∀ q, q ≠ p → q ≠ p.draft → d'.read? q = d.read? q) ∧
    (∃ obstacle? draft?, (d.slot p).write obstacle? a.records = (⟨d'.read? p, draft?⟩, result)) ∧
    ∀ (c : FileConfig) (o : OpenFile), d.openFile (c.place directory) c.useMmap = .ok o →
      (d.slot (c.place directory)).read c.useMmap = .ok (o.records d) ∧
      ∀ attempts, o.records (Attempt.runAll directory d attempts) = o.records d := by
  have h := d.write_wrote a.system a.capacity (a.config.place directory) a.records
  dsimp only
  generalize d.write a.system a.capacity (a.config.place directory) a.records = written at h ⊢
  obtain ⟨d', result⟩ := written
  refine ⟨?_, fun hwilling => ?_, fun q => h.read?_eq, exists_slot_write_eq h, fun c o hopen =>
    ⟨?_, OpenFile.records_runAll hopen⟩⟩
  · cases result with
    | ok => exact h.exists_encode_eq
    | error e => exact ⟨h.read?_eq_of_error, h.cause_of_error⟩
  · cases result with
    | ok =>
      obtain ⟨bs, hbs, -⟩ := h.exists_encode_eq
      have hfits := Records.exists_holds_iff_fits.mp ⟨bs, Archive.encode_eq_ok_iff.mp hbs⟩
      simp [hfits]
    | error e =>
      obtain hobstructs | ⟨rfl, hfits⟩ := h.cause_of_error
      · exact absurd hobstructs hwilling.not_obstructs
      · simp [hfits]
  · rw [← map_records_openFile, hopen]
    rfl

end Disk

end Concordance
