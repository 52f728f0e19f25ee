import Concordance.Proofs.Archive.Writing
import Concordance.Proofs.Storage.Disk
import Concordance.Storage.Writer

/-!
# Writing through a buffer

What has been accepted is what is in the file and, after it, what is in the buffer. A part of writing that
succeeds adds its bytes to this, however the system cuts them up; and no part touches another file.

## Main definitions

* `System.Obstructs` — an error that comes from the system
* `Writer.accepted` — the bytes that have been accepted
* `Writing.Writes` — what a part of writing adds, and how it may fail

## Main results

* `Writing.Writes.andThen` — one part after another
* `Writer.writes_put`, `Writer.writes_putChunk` — bytes, and bytes after their length
* `Writer.writes_putRecords`, `Writer.exists_content_close` — records, and the file that they are in then
-/

namespace Concordance

/-- An error that comes from the system: it refuses a call, or takes none of the bytes it is given. -/
inductive System.Obstructs (sys : System) : Error → Prop
  | refuses {calls : Nat} {cause : String} : sys calls = .refuses cause → Obstructs sys (.file cause)
  | stuck {calls : Nat} {cause : String} : sys calls = .takes 0 → Obstructs sys (.file cause)

namespace Writer

/-- The bytes that have been accepted. -/
def accepted (w : Writer) : Bytes := w.disk.content w.file ++ w.buffer

/-- Nothing has happened but to the content of the file that is written. -/
structure Continues (w w' : Writer) : Prop where
  file_eq : w'.file = w.file
  onlyIn : w.disk.OnlyIn w.file w'.disk

theorem Continues.refl (w : Writer) : w.Continues w := ⟨rfl, .refl _ _⟩

theorem Continues.trans {w w' w'' : Writer} (h : w.Continues w') (h' : w'.Continues w'') :
    w.Continues w'' := ⟨h'.file_eq.trans h.file_eq, h.onlyIn.trans (h.file_eq ▸ h'.onlyIn)⟩

end Writer

/-! ### Parts of writing -/

/-- What a part of writing does from where `w` is: if it succeeds, it adds bytes that are `written`, and
else there is one of the `faults`. -/
structure Writing.Writes (part : Writing) (w : Writer) (written : Bytes → Prop) (faults : Error → Prop) :
    Prop where
  continues : w.Continues (part w).1
  accepted : (part w).2 = .ok () → ∃ bs, written bs ∧ (part w).1.accepted = w.accepted ++ bs
  faults {e : Error} : (part w).2 = .error e → faults e

namespace Writing

variable {first second part : Writing} {w : Writer} {written written' : Bytes → Prop}
  {faults faults' : Error → Prop} {e : Error}

theorem andThen_of_ok (h : (first w).2 = .ok ()) : first.andThen second w = second (first w).1 := by
  rw [andThen]
  split <;> simp_all

theorem andThen_of_error (h : (first w).2 = .error e) :
    first.andThen second w = ((first w).1, .error e) := by
  rw [andThen, ← h]
  split <;> simp_all

/-- If one part after another succeeds, then so does the first. -/
theorem eq_of_andThen_eq_ok (h : (first.andThen second w).2 = .ok ()) :
    first.andThen second w = second (first w).1 := by
  cases hresult : (first w).2 with
  | error e =>
    rw [andThen_of_error hresult] at h
    cases h
  | ok => exact andThen_of_ok hresult

namespace Writes

/-- What a part of writing does from where `w` is does not depend on what it does elsewhere. -/
theorem congr (h : first.Writes w written faults) (heq : part w = first w) :
    part.Writes w written faults := by
  obtain ⟨hcontinues, haccepted, hfaults⟩ := h
  constructor <;> rwa [heq]

/-- **One part after another.** -/
theorem andThen (h : first.Writes w written faults)
    (h' : (first w).2 = .ok () → second.Writes (first w).1 written' faults') :
    (first.andThen second).Writes w (fun bs => ∃ bs₁ bs₂, written bs₁ ∧ written' bs₂ ∧ bs = bs₁ ++ bs₂)
      (fun e => faults e ∨ faults' e) := by
  cases hresult : (first w).2 with
  | error e =>
    constructor <;> rw [andThen_of_error hresult]
    · exact h.continues
    · exact nofun
    · exact fun herror => .inl (h.faults (hresult.trans herror))
  | ok =>
    obtain ⟨bs₁, hbs₁, heq₁⟩ := h.accepted hresult
    obtain ⟨hcontinues, haccepted, hfaults⟩ := h' hresult
    constructor <;> rw [andThen_of_ok hresult]
    · exact h.continues.trans hcontinues
    · intro hok
      obtain ⟨bs₂, hbs₂, heq₂⟩ := haccepted hok
      exact ⟨bs₁ ++ bs₂, ⟨bs₁, bs₂, hbs₁, hbs₂, rfl⟩, by rw [heq₂, heq₁, List.append_assoc]⟩
    · exact fun herror => .inr (hfaults herror)

theorem imp (h : first.Writes w written faults) (hwritten : ∀ bs, written bs → written' bs)
    (hfaults : ∀ e, faults e → faults' e) : first.Writes w written' faults' where
  continues := h.continues
  accepted hok :=
    let ⟨bs, hbs, heq⟩ := h.accepted hok
    ⟨bs, hwritten bs hbs, heq⟩
  faults herror := hfaults _ (h.faults herror)

end Writes

end Writing

namespace Writer

variable {sys : System} {capacity : Nat} {bs : Bytes} {w : Writer}

/-! ### Bytes given to the system -/

/-- **Pouring out bytes**: those that are taken come first, and stand at the end of the file. -/
theorem pour_spec (sys : System) (stuck : String) (w : Writer) (bs : Bytes) :
    w.Continues (w.pour sys stuck bs).1 ∧ (w.pour sys stuck bs).1.buffer = w.buffer ∧
    (∃ taken, taken ++ (w.pour sys stuck bs).2.1 = bs ∧
      (w.pour sys stuck bs).1.disk.content w.file = w.disk.content w.file ++ taken) ∧
    ((w.pour sys stuck bs).2.2 = .ok () → (w.pour sys stuck bs).2.1 = []) ∧
    ∀ e, (w.pour sys stuck bs).2.2 = .error e → sys.Obstructs e := by
  fun_induction pour sys stuck w bs with
  | case1 w => exact ⟨.refl w, rfl, ⟨[], rfl, by simp⟩, fun _ => rfl, nofun⟩
  | case2 w b bs cause hcall =>
    refine ⟨⟨rfl, .refl _ _⟩, rfl, ⟨[], rfl, by simp⟩, nofun, fun e he => ?_⟩
    cases he
    exact .refuses hcall
  | case3 w b bs hcall =>
    refine ⟨⟨rfl, .refl _ _⟩, rfl, ⟨[], rfl, by simp⟩, nofun, fun e he => ?_⟩
    cases he
    exact .stuck hcall
  | case4 w b bs n hcall taken ih =>
    obtain ⟨hcontinues, hbuffer, ⟨more, hmore, hcontent⟩, hok, herror⟩ := ih
    have hstep : w.Continues { w with calls := w.calls + 1, disk := w.disk.append w.file taken } :=
      ⟨rfl, w.disk.onlyIn_append _ _⟩
    refine ⟨hstep.trans hcontinues, hbuffer, ⟨taken ++ more, ?_, ?_⟩, hok, herror⟩
    · rw [List.append_assoc, hmore, List.cons_append, List.take_append_drop]
    · simpa [List.append_assoc] using hcontent

/-- **Flushing the buffer** adds nothing to what has been accepted. -/
theorem writes_flush (sys : System) (w : Writer) : (flush sys).Writes w (· = []) sys.Obstructs := by
  obtain ⟨hcontinues, -, ⟨taken, htaken, hcontent⟩, hleft, hobstructs⟩ :=
    w.pour_spec sys "failed to write the buffered data" w.buffer
  refine ⟨⟨hcontinues.file_eq, hcontinues.onlyIn⟩, fun hok => ⟨[], rfl, ?_⟩, hobstructs _⟩
  have hnil := hleft hok
  rw [hnil, List.append_nil] at htaken
  simp only [accepted, flush, hcontinues.file_eq, hcontent, hnil, htaken]

/-- After it has been flushed, the buffer is empty. -/
theorem buffer_flush (h : (flush sys w).2 = .ok ()) : (flush sys w).1.buffer = [] := by
  obtain ⟨-, -, -, hleft, -⟩ := w.pour_spec sys "failed to write the buffered data" w.buffer
  exact hleft h

theorem continues_close (sys : System) (w : Writer) : w.Continues (w.close sys) :=
  (writes_flush sys w).continues

/-- When the buffer is empty, nothing is done to close the file. -/
theorem close_eq (sys : System) (h : w.buffer = []) : w.close sys = w := by
  simp only [close, flush, h, pour]
  rw [← h]

/-- Holding back bytes adds them to what has been accepted. -/
theorem writes_hold (sys : System) (w : Writer) (bs : Bytes) :
    (hold bs).Writes w (· = bs) sys.Obstructs where
  continues := ⟨rfl, .refl _ _⟩
  accepted _ := ⟨bs, rfl, by simp only [accepted, hold, List.append_assoc]⟩
  faults := nofun

/-- Bytes may be given to the system past an empty buffer. -/
theorem writes_give (sys : System) (h : w.buffer = [] ∨ bs = []) :
    (give sys bs).Writes w (· = bs) sys.Obstructs := by
  obtain ⟨hcontinues, hbuffer, ⟨taken, htaken, hcontent⟩, hleft, hobstructs⟩ :=
    w.pour_spec sys "failed to write whole buffer" bs
  refine ⟨hcontinues, fun hok => ⟨bs, rfl, ?_⟩, hobstructs _⟩
  rw [hleft hok, List.append_nil] at htaken
  simp only [accepted, give, hcontinues.file_eq, hcontent, hbuffer, htaken]
  rcases h with h | h <;> simp [h]

/-! ### Accepting bytes -/

/-- **Accepting bytes**, be they held back or given to the system. -/
theorem writes_put (sys : System) (capacity : Nat) (w : Writer) (bs : Bytes) :
    (put sys capacity bs).Writes w (· = bs) sys.Obstructs := by
  have hlast : ∀ w : Writer, (capacity ≤ bs.length → w.buffer = [] ∨ bs = []) →
      (if capacity ≤ bs.length then give sys bs else hold bs).Writes w (· = bs) sys.Obstructs := by
    intro w hempty
    split
    · exact writes_give sys (hempty (by assumption))
    · exact writes_hold sys w bs
  rcases Nat.lt_trichotomy bs.length (capacity - w.buffer.length) with hlt | heq | hgt
  · exact (writes_hold sys w bs).congr (if_pos hlt)
  · -- The bytes fill the buffer, so they are only left out where they fill an empty one.
    have hempty : capacity ≤ bs.length → w.buffer = [] ∨ bs = [] := by
      intro hcapacity
      simp only [← List.length_eq_zero_iff]
      omega
    exact (hlast w hempty).congr ((if_neg (by omega)).trans (if_pos heq))
  · have hflush := (writes_flush sys w).andThen fun hok => hlast _ fun _ => .inl (buffer_flush hok)
    refine (hflush.imp ?_ ?_).congr ((if_neg (by omega)).trans (if_neg (by omega)))
    · rintro _ ⟨_, _, rfl, rfl, rfl⟩
      rfl
    · exact fun e => or_self_iff.mp

/-- **Accepting bytes after their length.** -/
theorem writes_putChunk (sys : System) (capacity : Nat) (w : Writer) (chunk : Bytes) :
    (putChunk sys capacity chunk).Writes w (Archive.IsChunk chunk)
      (fun e => sys.Obstructs e ∨ e = .tooLong ∧ ¬ chunk.length < 2 ^ 32) := by
  have hfits : chunk.length ≤ Archive.maxChunk ↔ chunk.length < 2 ^ 32 := by
    rw [Archive.maxChunk]
    omega
  rw [putChunk]
  split
  · rename_i h
    refine ((writes_put sys capacity w _).andThen fun _ => writes_put sys capacity _ chunk).imp ?_ ?_
    · rintro _ ⟨_, _, rfl, rfl, rfl⟩
      exact Archive.isChunk_littleEndian (hfits.mp h)
    · rintro e (h | h) <;> exact .inl h
  · rename_i h
    refine ⟨.refl w, fun hok => ?_, fun herror => ?_⟩
    · cases hok
    · cases herror
      exact .inr ⟨rfl, fun hlt => h (hfits.mpr hlt)⟩

/-- **Accepting records**: what is added is the archive that holds them. -/
theorem writes_putRecords (sys : System) (capacity : Nat) (w : Writer) (entries : List (String × Bytes)) :
    (putRecords sys capacity entries).Writes w (Archive.Holds · entries)
      (fun e => sys.Obstructs e ∨ e = .tooLong ∧ ¬ ∃ bs, Archive.Holds bs entries) := by
  induction entries generalizing w with
  | nil =>
    refine (writes_flush sys w).imp ?_ fun e => .inl
    rintro _ rfl
    exact .nil
  | cons entry entries ih =>
    obtain ⟨key, value⟩ := entry
    refine ((writes_putChunk sys capacity w _).andThen fun _ =>
      (writes_putChunk sys capacity _ value).andThen fun _ => ih _).imp ?_ ?_
    · rintro _ ⟨k, _, hk, ⟨v, rest, hv, hrest, rfl⟩, rfl⟩
      exact .cons hk hv hrest
    · rintro e ((h | ⟨rfl, h⟩) | (h | ⟨rfl, h⟩) | (h | ⟨rfl, h⟩))
      · exact .inl h
      · refine .inr ⟨rfl, fun ⟨_, hbs⟩ => ?_⟩
        cases hbs with
        | cons hk => exact h hk.length_lt
      · exact .inl h
      · refine .inr ⟨rfl, fun ⟨_, hbs⟩ => ?_⟩
        cases hbs with
        | cons _ hv => exact h hv.length_lt
      · exact .inl h
      · refine .inr ⟨rfl, fun ⟨_, hbs⟩ => ?_⟩
        cases hbs with
        | cons _ _ hrest => exact h ⟨_, hrest⟩

/-- Once records have been accepted, the buffer is empty. -/
theorem buffer_putRecords {entries : List (String × Bytes)}
    (h : (putRecords sys capacity entries w).2 = .ok ()) :
    (putRecords sys capacity entries w).1.buffer = [] := by
  induction entries generalizing w with
  | nil => exact buffer_flush h
  | cons entry entries ih =>
    rw [putRecords] at h ⊢
    have hkey := Writing.eq_of_andThen_eq_ok h
    rw [hkey] at h ⊢
    have hvalue := Writing.eq_of_andThen_eq_ok h
    rw [hvalue] at h ⊢
    exact ih h

/-- **Records that have been accepted** are in the file when it is closed. -/
theorem exists_content_close (sys : System) (capacity : Nat) (entries : List (String × Bytes))
    (hw : w.buffer = []) (h : (putRecords sys capacity entries w).2 = .ok ()) : ∃ bs, Archive.Holds bs entries ∧
      ((putRecords sys capacity entries w).1.close sys).disk.content w.file
        = w.disk.content w.file ++ bs := by
  obtain ⟨hcontinues, haccepted, -⟩ := writes_putRecords sys capacity w entries
  obtain ⟨bs, hbs, heq⟩ := haccepted h
  have hempty := buffer_putRecords h
  refine ⟨bs, hbs, ?_⟩
  rw [close_eq sys hempty, ← hcontinues.file_eq]
  simpa only [accepted, hempty, hw, List.append_nil, hcontinues.file_eq] using heq

end Writer

end Concordance
