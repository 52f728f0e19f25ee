import Concordance.Archive.Slot
import Concordance.Proofs.Archive.Format

/-!
# Writing archives

An archive is written step by step into a draft, which takes the place of the old archive in the last
step. When every step succeeds, what stands there is the archive of the records, and nothing else is
left. Steps fail where the file system puts something in the way, or at a part that is too long.

## Main results

* `Archive.Slot.run_eq_ok_iff` — when all steps succeed
* `Archive.exists_holds_iff` — which records there is an archive for
* `Archive.Slot.write_eq_ok_iff` — when records are written, and what is there then
* `Archive.Slot.exists_write_eq_tooLong` — records that are too long leave the old archive as it is
-/

namespace Concordance

namespace Archive

variable {bs draft : Bytes} {parts : List Bytes} {file? : Option Bytes}
  {obstacle? : Nat → Option Error} {s s' : Slot} {r : Records}

/-! ### Steps -/

namespace Slot

/-- Steps succeed when none meets an obstacle and none fails on its own. -/
theorem run_eq_ok_iff {steps : List Step} {done : Nat} :
    s.run obstacle? done steps = (s', .ok ()) ↔
      (∀ i < steps.length, obstacle? (done + i) = none) ∧ steps.foldlM step s = .ok s' := by
  induction steps generalizing s done with
  | nil => simp [run, pure, Except.pure]
  | cons t ts ih =>
    rw [run, List.foldlM_cons, bind_eq_ok_iff, List.length_cons, Nat.forall_lt_succ_left]
    cases obstacle? done with
    | some e => simp
    | none =>
      cases hstep : s.step t with
      | error e => simp
      | ok s₁ => simp [ih, Nat.add_assoc, Nat.add_comm 1]

/-- Parts are added to the draft, each after its length. -/
theorem foldlM_append_eq_ok_iff :
    (parts.map Step.append).foldlM step ⟨file?, some draft⟩ = .ok s' ↔
      ∃ ws, List.Forall₂ IsChunk parts ws ∧ s' = ⟨file?, some (draft ++ ws.flatten)⟩ := by
  induction parts generalizing draft with
  | nil => simp [pure, Except.pure, eq_comm]
  | cons part parts ih =>
    rw [List.map_cons, List.foldlM_cons, bind_eq_ok_iff]
    simp only [step, map_eq_ok_iff, encodeChunk_eq_ok_iff, List.forall₂_cons_left_iff]
    constructor
    · rintro ⟨_, ⟨w, hw, rfl⟩, hrest⟩
      obtain ⟨ws, hws, rfl⟩ := ih.mp hrest
      exact ⟨w :: ws, ⟨w, ws, hw, hws, rfl⟩, by simp⟩
    · rintro ⟨_, ⟨w, ws, hw, hws, rfl⟩, rfl⟩
      exact ⟨_, ⟨w, hw, rfl⟩, ih.mpr ⟨ws, hws, by simp⟩⟩

/-- **Records are written** if nothing stands in the way and there is an archive of them, and then that
archive is what is there. -/
theorem write_eq_ok_iff : s.write obstacle? r = (s', .ok ()) ↔
    (∀ i < (writeSteps r).length, obstacle? i = none) ∧
      ∃ bs, Holds bs r.toList ∧ s' = ⟨some bs, none⟩ := by
  rw [write, run_eq_ok_iff]
  simp only [Nat.zero_add]
  refine and_congr_right fun _ => ?_
  have hdraft : (Step.begin :: (chunks r).map .append).foldlM step s
      = ((chunks r).map Step.append).foldlM step ⟨s.file?, some []⟩ := rfl
  have hreplace : ∀ s₁ : Slot, [Step.replace].foldlM step s₁ = .ok ⟨s₁.draft?.or s₁.file?, none⟩ :=
    fun _ => rfl
  rw [writeSteps, List.foldlM_append, hdraft, bind_eq_ok_iff]
  simp only [foldlM_append_eq_ok_iff, hreplace, holds_iff]
  constructor
  · rintro ⟨_, ⟨ws, hws, rfl⟩, h⟩
    cases h
    exact ⟨ws.flatten, ⟨ws, hws, rfl⟩, rfl⟩
  · rintro ⟨_, ⟨ws, hws, rfl⟩, rfl⟩
    exact ⟨_, ⟨ws, hws, rfl⟩, rfl⟩

/-- Where nothing stands in the way, adding parts fails at one that is too long. -/
theorem exists_run_append_eq (file? : Option Bytes) (draft : Bytes) (done : Nat)
    (h : ¬ ∃ ws, List.Forall₂ IsChunk parts ws) :
    ∃ draft', run (fun _ => none) done ⟨file?, some draft⟩ (parts.map .append ++ [.replace]) =
      (⟨file?, some draft'⟩, .error .tooLong) := by
  induction parts generalizing draft done with
  | nil => exact absurd ⟨[], .nil⟩ h
  | cons part parts ih =>
    by_cases hpart : ∃ w, IsChunk part w
    · obtain ⟨w, hw⟩ := hpart
      have hrest : ¬ ∃ ws, List.Forall₂ IsChunk parts ws := fun ⟨ws, hws⟩ => h ⟨w :: ws, .cons hw hws⟩
      obtain ⟨draft', hdraft'⟩ := ih (draft ++ w) (done + 1) hrest
      refine ⟨draft', ?_⟩
      simpa only [List.map_cons, List.cons_append, run, step, encodeChunk_eq_ok_iff.mpr hw, Except.map,
        Option.map_some] using hdraft'
    · have herror : encodeChunk part = .error .tooLong := by
        cases hresult : encodeChunk part with
        | ok w => exact absurd ⟨w, encodeChunk_eq_ok_iff.mp hresult⟩ hpart
        | error e =>
          rw [encodeChunk] at hresult
          split at hresult <;> cases hresult
          rfl
      exact ⟨draft, by simp only [List.map_cons, List.cons_append, run, step, herror, Except.map]⟩

/-- **Records that are too long for an archive** leave the old one as it is. -/
theorem exists_write_eq_tooLong (h : ¬ ∃ bs, Holds bs r.toList) :
    ∃ draft?, s.write (fun _ => none) r = (⟨s.file?, draft?⟩, .error .tooLong) := by
  have hparts : ¬ ∃ ws, List.Forall₂ IsChunk (chunks r) ws := fun ⟨ws, hws⟩ =>
    h ⟨ws.flatten, holds_iff.mpr ⟨ws, hws, rfl⟩⟩
  obtain ⟨draft', hdraft'⟩ := exists_run_append_eq s.file? [] 1 hparts
  exact ⟨some draft', hdraft'⟩

end Slot

/-! ### Which records can be written -/

/-- There is an archive of records whose keys and values are short enough for their lengths to take four
bytes. -/
theorem exists_holds_iff {entries : List (String × Bytes)} :
    (∃ bs, Holds bs entries) ↔ ∀ key value, (key, value) ∈ entries →
      (Text.encode key.toList).length < 2 ^ 32 ∧ value.length < 2 ^ 32 := by
  constructor
  · rintro ⟨bs, h⟩
    induction h with
    | nil => simp
    | cons hk hv _ ih =>
      intro key value hmem
      obtain heq | hmem := List.mem_cons.mp hmem
      · cases heq
        exact ⟨hk.length_lt, hv.length_lt⟩
      · exact ih key value hmem
  · intro h
    induction entries with
    | nil => exact ⟨[], .nil⟩
    | cons entry entries ih =>
      obtain ⟨hkey, hvalue⟩ := h entry.1 entry.2 List.mem_cons_self
      obtain ⟨rest, hrest⟩ := ih fun key value hmem => h key value (List.mem_cons_of_mem _ hmem)
      exact ⟨_, .cons (isChunk_littleEndian hkey) (isChunk_littleEndian hvalue) hrest⟩

end Archive

end Concordance
