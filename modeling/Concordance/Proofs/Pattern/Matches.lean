import Concordance.Proofs.Pattern.Preferred

/-!
# All matches of a text

The matches of a text follow each other: between two of them, and before the first and after the last,
there is a stretch of the text that belongs to none. So replacing the matches leaves these stretches as
they are, and what holds of a text with its matches replaced is seen match by match.

Where a pattern takes something, and where it does not match, says which matches there are.

## Main definitions

* `Pattern.Rewrites` — the rest of a text with what a pattern takes replaced

## Main results

* `Pattern.IsFound.exists_covers_of_group?` — what a group of a match holds
* `Pattern.replaceAll_induction` — what holds of a text with its matches replaced
* `Pattern.Rewrites.replaceAll_eq` — replacing the matches replaces what the pattern takes
-/

namespace Concordance

namespace Pattern

variable {p : Pattern} {t : Array Char} {m : Match} {xs r s cs : List Char}

/-! ### Matches -/

theorem isFound_of_findFrom? {i : Nat} (h : p.findFrom? t i = some m) :
    p.IsFound t m ∧ i ≤ m.start ∧ m.start ≤ t.size := by
  obtain ⟨hfound, hle, hlt⟩ := isFound_of_findAmong h
  exact ⟨hfound, hle, by omega⟩

theorem isFound_of_findNext? {i : Nat} {last? : Option Nat} (h : p.findNext? t i last? = some m) :
    p.IsFound t m ∧ i ≤ m.start ∧ m.start ≤ t.size := by
  rw [findNext?] at h
  split at h
  · rename_i m' hfirst
    split at h
    · obtain ⟨hfound, hle, hsize⟩ := isFound_of_findFrom? h
      exact ⟨hfound, by omega, hsize⟩
    · obtain rfl := Option.some.inj h
      exact isFound_of_findFrom? hfirst
  · cases h

/-- What matches nowhere is not found. -/
theorem not_isFound_never (t : Array Char) (m : Match) : ¬ never.IsFound t m := by
  intro h
  obtain ⟨o₁, ho₁, o₂, ho₂, -⟩ := exists_of_mem_chain h
  rw [outcomes] at ho₁ ho₂
  split at ho₁
  · rename_i hedge
    obtain rfl := List.mem_singleton.mp ho₁
    split at ho₂
    · rename_i hnone
      simp [Anchor.holds, WordEdge.holds, Outcome.here] at hedge hnone
      exact hedge hnone
    · cases ho₂
  · cases ho₁

/-- A match ends after it starts, within the text. -/
theorem IsFound.forward (h : p.IsFound t m) (hsize : m.start ≤ t.size) :
    m.start ≤ m.stop ∧ m.stop ≤ t.size := by
  obtain ⟨hle, hstop⟩ := forward_of_mem_outcomes p h
  exact ⟨hle, hstop hsize⟩

/-- A match matches a piece of the text. -/
theorem IsFound.covers (h : p.IsFound (xs ++ (r ++ s)).toArray m) (hp : p.InOrder)
    (hstart : m.start = xs.length) (hstop : m.stop = xs.length + r.length) : p.Covers xs r s := by
  have hspans := spans_of_mem_outcomes hp h
  rw [hstart, hstop] at hspans
  rwa [Covers, List.append_assoc]

theorem Match.text_eq (hstart : m.start = xs.length) (hstop : m.stop = xs.length + r.length) :
    m.text (xs ++ (r ++ s)).toArray = r := by
  rw [Match.text, hstart, hstop, slice_append]

theorem slice_rest (xs s : List Char) :
    Match.slice (xs ++ s).toArray xs.length (xs ++ s).toArray.size = s := by
  simpa using slice_append xs s []

/-! ### Groups of matches -/

/-- **What a group of a match holds** is a piece of the text that the group matches. -/
theorem IsFound.exists_covers_of_group? {index : Nat} {v : List Char} (h : p.IsFound cs.toArray m)
    (hp : p.InOrder) (hsize : m.start ≤ cs.length) (hindex : index ≠ 0)
    (hv : m.group? cs.toArray index = some v) :
    ∃ q xs ys, (index, q) ∈ p.groups ∧ cs = xs ++ (v ++ ys) ∧ q.Covers xs v ys := by
  rw [Match.group?, if_neg hindex, Option.map_eq_some_iff] at hv
  obtain ⟨c, hfind, rfl⟩ := hv
  obtain rfl : c.index = index := by simpa using List.find?_some hfind
  obtain ⟨hstart, q, hq, hspans⟩ := keepsOf_of_mem_outcomes hp h c (List.mem_of_find?_eq_some hfind)
  obtain ⟨hle, hstop⟩ := forward_spans _ q _ _ hspans
  have hsize' : c.stop ≤ cs.length := by simpa using hstop (hstart (by simpa using hsize))
  obtain ⟨xs, r, ys, rfl, hxs, hr⟩ := exists_pieces hle hsize'
  rw [hxs, hr] at hspans
  rw [hxs, hr, List.append_assoc, slice_append]
  exact ⟨q, xs, ys, hq, rfl, hspans⟩

/-- A group that takes part in every match holds something. -/
theorem IsFound.exists_group? {index : Nat} (h : p.IsFound t m) (hindex : index ≠ 0)
    (halways : p.Always index) : ∃ v, m.group? t index = some v := by
  obtain ⟨c, hc, hfound⟩ := exists_capture_of_always halways h
  have hsome : (m.captures.find? (·.index == index)).isSome = true :=
    List.find?_isSome.mpr ⟨c, hc, by simpa using hfound⟩
  obtain ⟨c', hc'⟩ := Option.isSome_iff_exists.mp hsome
  exact ⟨_, by rw [Match.group?, if_neg hindex, hc', Option.map_some]⟩

/-! ### Replacing matches -/

/-- What holds of the rest of a text with its matches replaced. -/
theorem spliceFrom_induction {f : Match → List Char} {motive : (before rest out : List Char) → Prop}
    (stop : ∀ xs s, cs = xs ++ s → motive xs s s)
    (next : ∀ xs u r s out m, cs = xs ++ u ++ (r ++ s) → p.IsFound cs.toArray m →
      m.start = (xs ++ u).length → m.stop = (xs ++ u).length + r.length →
      motive (xs ++ u ++ r) s out → motive xs (u ++ (r ++ s)) (u ++ (f m ++ out)))
    (fuel : Nat) (xs s : List Char) (last? : Option Nat) (hcs : cs = xs ++ s) :
    motive xs s (spliceFrom cs.toArray f xs.length (p.findAllFrom cs.toArray fuel xs.length last?)) := by
  induction fuel generalizing xs s last? with
  | zero =>
    rw [findAllFrom, spliceFrom, hcs, slice_rest]
    exact stop xs s hcs
  | succ fuel ih =>
    rw [findAllFrom]
    split
    · rename_i m hnext
      obtain ⟨hfound, hle, hsize⟩ := isFound_of_findNext? hnext
      obtain ⟨hle', hsize'⟩ := hfound.forward hsize
      have hlength : cs.toArray.size = xs.length + s.length := by simp [hcs]
      obtain ⟨u, s', rfl, hu⟩ := @exists_split xs s m.start hle (hlength ▸ hsize)
      rw [List.length_append] at hlength
      obtain ⟨r, s, rfl, hr⟩ := @exists_split (xs ++ u) s' m.stop
        (by rw [List.length_append]; omega) (by rw [List.length_append]; omega)
      have hstart : m.start = (xs ++ u).length := by rw [List.length_append, hu]
      have htext : cs = xs ++ u ++ (r ++ s) := by rw [hcs, List.append_assoc]
      have hslice : Match.slice cs.toArray xs.length m.start = u := by
        rw [hcs, hu, slice_append]
      have hafter := ih (xs ++ u ++ r) s (some m.stop) (by rw [htext, List.append_assoc _ r])
      rw [@List.length_append _ (xs ++ u), ← hr] at hafter
      rw [spliceFrom, hslice, List.append_assoc]
      exact next xs u r s _ m htext hfound hstart hr hafter
    · rw [spliceFrom, hcs, slice_rest]
      exact stop xs s hcs

/-- **What holds of a text with its matches replaced**: it holds of the text after the last match, and
with each match it holds of more of the text. -/
theorem replaceAll_induction {f : Match → List Char} {motive : (before rest out : List Char) → Prop}
    (stop : ∀ xs s, cs = xs ++ s → motive xs s s)
    (next : ∀ xs u r s out m, cs = xs ++ u ++ (r ++ s) → p.IsFound cs.toArray m →
      m.start = (xs ++ u).length → m.stop = (xs ++ u).length + r.length →
      motive (xs ++ u ++ r) s out → motive xs (u ++ (r ++ s)) (u ++ (f m ++ out))) :
    motive [] cs (p.replaceAll cs.toArray f) :=
  spliceFrom_induction stop next _ [] cs none rfl

/-! ### Taking pieces -/

/-- The rest of a text, after what stands before it, with the pieces that a pattern takes replaced. What
a piece is replaced by depends on what the groups of the pattern have matched. -/
inductive Rewrites (p : Pattern)
    (replaced : (piece : List Char) → (groups : List (Nat × List Char)) → List Char → Prop) :
    (before rest out : List Char) → Prop
  /-- Nothing is left. -/
  | nil {xs : List Char} (none : ¬ p.Opens xs []) : Rewrites p replaced xs [] []
  /-- A character where the pattern does not match stays. -/
  | other {xs s out : List Char} {c : Char} (none : ¬ p.Opens xs (c :: s))
      (rest : Rewrites p replaced (xs ++ [c]) s out) : Rewrites p replaced xs (c :: s) (c :: out)
  /-- A piece that the pattern takes is replaced. -/
  | piece {xs r s v out : List Char} {gs : List (Nat × List Char)} (ne_nil : r ≠ [])
      (takes : p.Takes xs r s gs) (replacement : replaced r gs v)
      (rest : Rewrites p replaced (xs ++ r) s out) :
      Rewrites p replaced xs (r ++ s) (v ++ out)

namespace Rewrites

variable {replaced : List Char → List (Nat × List Char) → List Char → Prop} {out : List Char}

/-- A stretch where the pattern does not match stays. -/
theorem others {us : List Char}
    (hnone : ∀ us₁ us₂, us = us₁ ++ us₂ → us₂ ≠ [] → ¬ p.Opens (xs ++ us₁) (us₂ ++ s))
    (h : p.Rewrites replaced (xs ++ us) s out) : p.Rewrites replaced xs (us ++ s) (us ++ out) := by
  induction us generalizing xs with
  | nil => simpa using h
  | cons c us ih =>
    have hfirst : ¬ p.Opens xs (c :: (us ++ s)) := by
      simpa using hnone [] (c :: us) rfl (List.cons_ne_nil _ _)
    refine .other hfirst (ih (fun us₁ us₂ hus hne => ?_) (by simpa using h))
    rw [List.append_assoc]
    exact hnone (c :: us₁) us₂ (by rw [hus]; rfl) hne

/-- The pattern matches nowhere, or there is a first piece that it takes. -/
theorem first (h : p.Rewrites replaced xs s out) :
    (out = s ∧ ∀ s₁ s₂, s = s₁ ++ s₂ → ¬ p.Opens (xs ++ s₁) s₂) ∨
      ∃ us r ys gs v out', s = us ++ (r ++ ys) ∧ out = us ++ (v ++ out') ∧ r ≠ [] ∧ replaced r gs v ∧
        (∀ us₁ us₂, us = us₁ ++ us₂ → us₂ ≠ [] → ¬ p.Opens (xs ++ us₁) (us₂ ++ (r ++ ys))) ∧
        p.Takes (xs ++ us) r ys gs ∧ p.Rewrites replaced (xs ++ us ++ r) ys out' := by
  induction h with
  | nil hnone =>
    refine .inl ⟨rfl, fun s₁ s₂ hs => ?_⟩
    obtain ⟨rfl, rfl⟩ := List.append_eq_nil_iff.mp hs.symm
    simpa using hnone
  | @other xs s out c hnone _ ih =>
    obtain ⟨rfl, hrest⟩ | ⟨us, r, ys, gs, v, out', rfl, rfl, hne, hv, hbefore, htakes, hrest⟩ := ih
    · refine .inl ⟨rfl, fun s₁ s₂ hs => ?_⟩
      cases s₁ with
      | nil =>
        obtain rfl : c :: out = s₂ := hs
        simpa using hnone
      | cons d s₁ =>
        obtain ⟨rfl, rfl⟩ := List.cons.inj hs
        simpa using hrest s₁ s₂ rfl
    · refine .inr ⟨c :: us, r, ys, gs, v, out', rfl, rfl, hne, hv, fun us₁ us₂ hus hne' => ?_,
        by simpa using htakes, by simpa using hrest⟩
      cases us₁ with
      | nil =>
        obtain rfl : c :: us = us₂ := hus
        simpa using hnone
      | cons d us₁ =>
        obtain ⟨rfl, rfl⟩ := List.cons.inj hus
        simpa using hbefore us₁ us₂ rfl hne'
  | @piece xs r s v out gs hne htakes hv hrest _ =>
    refine .inr ⟨[], r, s, gs, v, out, rfl, rfl, hne, hv, fun us₁ us₂ hus hne' => ?_,
      by simpa using htakes, by simpa using hrest⟩
    exact absurd (List.append_eq_nil_iff.mp hus.symm).2 hne'

/-- The matches from some place on are the pieces that the pattern takes. -/
theorem spliceFrom_eq (hp : p.InOrder) {f : Match → List Char}
    (hf : ∀ m v, replaced (m.text cs.toArray) (m.captures.map (said cs.toArray)) v → f m = v)
    (fuel : Nat) (hcs : cs = xs ++ s) (h : p.Rewrites replaced xs s out) (hfuel : s.length < fuel)
    (last? : Option Nat) :
    spliceFrom cs.toArray f xs.length (p.findAllFrom cs.toArray fuel xs.length last?) = out := by
  induction fuel generalizing xs s out last? with
  | zero => exact absurd hfuel (Nat.not_lt_zero _)
  | succ fuel ih =>
    obtain ⟨rfl, hnone⟩ | ⟨us, r, ys, gs, v, out', rfl, rfl, hne, hv, hbefore, htakes, hrest⟩ := h.first
    · have hfind := findFrom?_eq_none hp hnone
      rw [← hcs] at hfind
      rw [findAllFrom, findNext?, hfind, spliceFrom, hcs, slice_rest]
    · obtain ⟨m, hfind, hstart, hstop, hgroups⟩ := exists_findFrom?_of_takes hp hbefore htakes
      have htext : cs = xs ++ us ++ (r ++ ys) := by rw [hcs, List.append_assoc]
      rw [← htext] at hfind hgroups
      have hstop' : m.stop = (xs ++ us).length + r.length := by rw [hstop, List.length_append]
      have hsome : m.isEmpty = false := by
        rw [Match.isEmpty, hstart, hstop', beq_eq_false_iff_ne]
        have := List.length_pos_iff.mpr hne
        omega
      have hnext : p.findNext? cs.toArray xs.length last? = some m := by
        rw [findNext?, hfind]
        simp [hsome]
      have hbetween : Match.slice cs.toArray xs.length m.start = us := by
        rw [hcs, hstart, List.length_append, slice_append]
      have hmatch : f m = v := by
        refine hf m v ?_
        rwa [hgroups, htext, Match.text_eq hstart hstop']
      rw [findAllFrom, hnext, spliceFrom, hbetween, hmatch, hstop, List.append_assoc,
        ih (by rw [htext, List.append_assoc _ r]) hrest ?_ (some _)]
      simp only [List.length_append] at hfuel
      have := List.length_pos_iff.mpr hne
      omega

/-- **Replacing the matches replaces what the pattern takes.** -/
theorem replaceAll_eq (hp : p.InOrder) {f : Match → List Char}
    (hf : ∀ m v, replaced (m.text cs.toArray) (m.captures.map (said cs.toArray)) v → f m = v)
    (h : p.Rewrites replaced [] cs out) : p.replaceAll cs.toArray f = out :=
  spliceFrom_eq hp hf (cs.toArray.size + 2) rfl h (by simp) none

end Rewrites

end Pattern

end Concordance
