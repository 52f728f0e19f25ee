import Concordance.Proofs.Text.Ascii

/-!
# Words next to each other

Words stand next to each other in a text if there is nothing but separators between them, and if the
first of them does not go on before it, nor the last one after it. Which characters count as separators
is left open. If all characters do that words are not made of, words next to each other are consecutive
runs of the text, and conversely.

## Main definitions

* `Text.Joined` — a text is made of words with separators between them
* `Text.Adjacent` — words stand next to each other in a text

## Main results

* `Text.Adjacent.infix_runs` — words next to each other are consecutive runs
* `Text.adjacent_iff` — and conversely, if every other character is a separator
* `Text.Adjacent.trim` — the blanks at the ends of a text do not matter
-/

namespace Concordance

namespace Text

/-- A text is made of words, with separators between any two of them. -/
inductive Joined (sep : Char → Bool) : (ws : List (List Char)) → (cs : List Char) → Prop
  /-- A single word. -/
  | word (w : List Char) : Joined sep [w] w
  /-- A word, separators, and further words. -/
  | cons {w gap : List Char} {ws : List (List Char)} {cs : List Char} (ne_nil : gap ≠ [])
      (mem : ∀ c ∈ gap, sep c = true) (rest : Joined sep ws cs) :
      Joined sep (w :: ws) (w ++ gap ++ cs)

/-- Words stand next to each other in a text: there are only separators between them, and the characters
before and after them are not of the class that words are made of. -/
def Adjacent (p sep : Char → Bool) (ws : List (List Char)) (cs : List Char) : Prop :=
  ∃ before block after, cs = before ++ block ++ after ∧ Joined sep ws block ∧
    (∀ c ∈ before.getLast?, p c = false) ∧ ∀ c ∈ after.head?, p c = false

/-- A word of a class of characters. -/
def IsWordOf (p : Char → Bool) (w : List Char) : Prop := w ≠ [] ∧ ∀ c ∈ w, p c = true

variable {p sep : Char → Bool} {ws : List (List Char)} {cs : List Char}

theorem isWordOf_of_mem_runs {run : List Char} (h : run ∈ runs p cs) : IsWordOf p run :=
  ⟨ne_nil_of_mem_runs h, forall_of_mem_runs h⟩

theorem IsLetters.isWordOf {w : List Char} (h : IsLetters w) : IsWordOf isWordChar w :=
  ⟨h.ne_nil, fun c hc => isWordChar_of_isAlpha (h.isAlpha c hc)⟩

/-! ### Ends -/

section

variable {P : Char → Prop} {xs ys : List Char}

theorem forall_head?_append (hne : xs ≠ []) (h : ∀ c ∈ xs, P c) : ∀ c ∈ (xs ++ ys).head?, P c := by
  rw [List.head?_append, List.head?_eq_some_head hne]
  rintro _ ⟨⟩
  exact h _ (List.head_mem hne)

theorem forall_getLast?_append (hne : ys ≠ []) (h : ∀ c ∈ ys, P c) :
    ∀ c ∈ (xs ++ ys).getLast?, P c := by
  rw [List.getLast?_append, List.getLast?_eq_some_getLast hne]
  rintro _ ⟨⟩
  exact h _ (List.getLast_mem hne)

end

section

variable (hws : ∀ w ∈ ws, IsWordOf p w) (h : Joined sep ws cs)

include hws h

/-- The first character is one of the first word. -/
theorem Joined.head? : ∃ c ∈ cs.head?, p c = true := by
  cases h with
  | word w =>
    obtain ⟨hne, hw⟩ := hws cs (by simp)
    exact ⟨cs.head hne, List.head?_eq_some_head hne, hw _ (List.head_mem hne)⟩
  | @cons w gap ws cs _ _ _ =>
    obtain ⟨hne, hw⟩ := hws w (by simp)
    refine ⟨w.head hne, ?_, hw _ (List.head_mem hne)⟩
    rw [List.append_assoc, List.head?_append, List.head?_eq_some_head hne]
    rfl

/-- The last character is one of the last word. -/
theorem Joined.getLast? : ∃ c ∈ cs.getLast?, p c = true := by
  induction h with
  | word w =>
    obtain ⟨hne, hw⟩ := hws w (by simp)
    exact ⟨w.getLast hne, List.getLast?_eq_some_getLast hne, hw _ (List.getLast_mem hne)⟩
  | cons _ _ _ ih =>
    obtain ⟨c, hc, hp⟩ := ih (List.forall_mem_cons.mp hws).2
    refine ⟨c, ?_, hp⟩
    rw [List.getLast?_append, Option.mem_def.mp hc]
    rfl

end

/-! ### Runs -/

section

variable (hws : ∀ w ∈ ws, IsWordOf p w) (hsep : ∀ c, sep c = true → p c = false)

include hws hsep

/-- The words that a text is made of are its runs. -/
theorem Joined.runs_eq (h : Joined sep ws cs) : runs p cs = ws := by
  induction h with
  | word w =>
    obtain ⟨hne, hw⟩ := hws w (by simp)
    exact runs_of_forall hne hw
  | @cons w gap ws cs hgap hmem _ ih =>
    obtain ⟨hw, hws⟩ := List.forall_mem_cons.mp hws
    have hother : ∀ c ∈ gap, p c = false := fun c hc => hsep c (hmem c hc)
    rw [List.append_assoc, runs_append_of_after (forall_head?_append hgap hother),
      runs_append_of_before fun c hc => hother c (List.mem_of_mem_getLast? hc),
      runs_of_forall hw.1 hw.2, runs_eq_nil hother, ih hws]
    rfl

/-- **Words next to each other are consecutive runs.** -/
theorem Adjacent.infix_runs (h : Adjacent p sep ws cs) : ws <:+: runs p cs := by
  obtain ⟨before, block, after, rfl, hblock, hbefore, hafter⟩ := h
  rw [runs_append_of_after hafter, runs_append_of_before hbefore, hblock.runs_eq hws hsep]
  exact ⟨runs p before, runs p after, rfl⟩

end

/-- Where there are no runs there are other characters only. -/
theorem forall_of_runs_eq_nil (h : runs p cs = []) : ∀ c ∈ cs, p c = false := by
  intro c hc
  rw [Bool.eq_false_iff]
  intro hp
  obtain ⟨run, hrun, -⟩ := exists_mem_runs hc hp
  rw [h] at hrun
  cases hrun

/-- Runs that follow a run are joined to it by what is between them. -/
theorem IsRun.exists_joined {before run rest : List Char} {later : List (List Char)}
    (hrun : IsRun p before run rest) (hruns : runs p rest = ws ++ later) :
    ∃ block after, run ++ rest = block ++ after ∧ Joined (fun c => !p c) (run :: ws) block ∧
      ∀ c ∈ after.head?, p c = false := by
  induction ws generalizing before run rest with
  | nil => exact ⟨run, rest, rfl, .word run, hrun.after⟩
  | cons w ws ih =>
    obtain ⟨gap, rest', rfl, hnext, hnil, hlater⟩ :=
      runs_eq_append_cons_iff.mp (List.nil_append _ ▸ hruns : runs p rest = [] ++ w :: (ws ++ later))
    obtain ⟨block, after, hrest, hblock, hafter⟩ := ih hnext hlater
    -- two runs do not touch
    have hgap : gap ≠ [] := by
      rintro rfl
      obtain ⟨c, w, rfl⟩ := List.exists_cons_of_ne_nil hnext.ne_nil
      have hfirst := hrun.after c rfl
      rw [hnext.mem c (by simp)] at hfirst
      cases hfirst
    refine ⟨run ++ gap ++ block, after, ?_, .cons hgap ?_ hblock, hafter⟩
    · simp [hrest]
    · simpa using forall_of_runs_eq_nil hnil

/-- **Words next to each other, with any other characters between them, are consecutive runs**, and
conversely. -/
theorem adjacent_iff (hne : ws ≠ []) (hws : ∀ w ∈ ws, IsWordOf p w) :
    Adjacent p (fun c => !p c) ws cs ↔ ws <:+: runs p cs := by
  constructor
  · exact Adjacent.infix_runs hws (by simp)
  · rintro ⟨earlier, later, hruns⟩
    obtain ⟨w, ws, rfl⟩ := List.exists_cons_of_ne_nil hne
    rw [List.append_assoc, List.cons_append, eq_comm] at hruns
    obtain ⟨before, rest, rfl, hrun, -, hlater⟩ := runs_eq_append_cons_iff.mp hruns
    obtain ⟨block, after, hrest, hblock, hafter⟩ := hrun.exists_joined hlater
    refine ⟨before, block, after, ?_, hblock, hrun.before, hafter⟩
    rw [List.append_assoc, hrest, List.append_assoc]

/-! ### Trimming -/

/-- Blanks at the start are all that is taken from before a text that starts with no blank. -/
theorem trimStart_append {xs ys : List Char} (h : ∀ c ∈ ys.head?, isBlank c = false) :
    trimStart (xs ++ ys) = trimStart xs ++ ys := by
  rw [trimStart, List.dropWhile_append, trimStart]
  split
  · rename_i hnil
    rw [List.isEmpty_iff.mp hnil, List.nil_append]
    cases ys with
    | nil => rfl
    | cons y ys => rw [List.dropWhile_cons_of_neg (by simp [h y rfl])]
  · rfl

/-- Blanks at the end are all that is taken from after a text that ends in no blank. -/
theorem trimEnd_append {xs ys : List Char} (h : ∀ c ∈ xs.getLast?, isBlank c = false) :
    trimEnd (xs ++ ys) = xs ++ trimEnd ys := by
  have hstart : trimStart (ys.reverse ++ xs.reverse) = trimStart ys.reverse ++ xs.reverse :=
    trimStart_append (by simpa using h)
  rw [trimStart, trimStart] at hstart
  rw [trimEnd, List.reverse_append, hstart, List.reverse_append, List.reverse_reverse, trimEnd]

theorem trimStart_suffix (cs : List Char) : trimStart cs <:+ cs := List.dropWhile_suffix isBlank

theorem trimEnd_prefix (cs : List Char) : trimEnd cs <+: cs := by
  rw [← List.reverse_suffix, trimEnd, List.reverse_reverse]
  exact List.dropWhile_suffix isBlank

/-- **The blanks at the ends of a text do not matter** for its words. -/
theorem Adjacent.trim (hws : ∀ w ∈ ws, IsWordOf p w) (hblank : ∀ c, isBlank c = true → p c = false)
    (h : Adjacent p sep ws cs) : Adjacent p sep ws (trim cs) := by
  have hother : ∀ c, p c = true → isBlank c = false := fun c hc => by
    rw [Bool.eq_false_iff]
    intro hb
    rw [hblank c hb] at hc
    cases hc
  obtain ⟨before, block, after, rfl, hblock, hbefore, hafter⟩ := h
  obtain ⟨first, hfirst, hp⟩ := hblock.head? hws
  obtain ⟨last, hlast, hq⟩ := hblock.getLast? hws
  have htrim : Text.trim (before ++ block ++ after) = trimStart before ++ block ++ trimEnd after := by
    rw [Text.trim, List.append_assoc, trimStart_append, ← List.append_assoc, trimEnd_append]
    · rw [List.getLast?_append, Option.mem_def.mp hlast]
      rintro _ ⟨⟩
      exact hother last hq
    · rw [List.head?_append, Option.mem_def.mp hfirst]
      rintro _ ⟨⟩
      exact hother first hp
  refine ⟨trimStart before, block, trimEnd after, htrim, hblock, fun c hc => hbefore c ?_,
    fun c hc => hafter c ?_⟩
  · obtain ⟨dropped, hdropped⟩ := trimStart_suffix before
    rw [← hdropped, List.getLast?_append, Option.mem_def.mp hc]
    rfl
  · obtain ⟨dropped, hdropped⟩ := trimEnd_prefix after
    rw [← hdropped, List.head?_append, Option.mem_def.mp hc]
    rfl

end Text

end Concordance
