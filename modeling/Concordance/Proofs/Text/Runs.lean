import Concordance.Text.Blank

/-!
# Maximal runs

The words of a text are maximal runs of a class of characters, and so are its blank-separated parts.
Everything about runs follows from one equation: a character outside of the class splits them.

## Main results

* `Text.runs_append_cons` — a character outside of the class splits the runs
* `Text.runs_induction` — a text is taken apart run by run
* `Text.mem_runs_iff` — a run, by what surrounds it in the text
* `Text.runs_eq_append_cons_iff` — each of the runs takes the text apart
* `Text.words_intercalate` — parts joined by spaces are found again
-/

namespace Concordance

namespace Text

variable {p : Char → Bool}

/-! ### Splitting -/

theorem headRun_append_cons {c : Char} (hc : p c = false) (xs ys : List Char) :
    headRun p (xs ++ c :: ys) = ((headRun p xs).1, (headRun p xs).2 ++ runs p ys) := by
  induction xs with
  | nil => simp [headRun, hc, runs]
  | cons x xs ih =>
    by_cases hx : p x = true
    · simp [headRun, ih, hx]
    · by_cases hr : (headRun p xs).1 = [] <;> simp [headRun, ih, hx, hr]

/-- **A character outside of the class splits the runs.** -/
theorem runs_append_cons {c : Char} (hc : p c = false) (xs ys : List Char) :
    runs p (xs ++ c :: ys) = runs p xs ++ runs p ys := by
  rw [runs, headRun_append_cons hc]
  by_cases hr : (headRun p xs).1 = [] <;> simp [runs, hr]

theorem runs_cons {c : Char} (hc : p c = false) (cs : List Char) :
    runs p (c :: cs) = runs p cs := by
  simpa using runs_append_cons hc [] cs

theorem runs_append_singleton {c : Char} (hc : p c = false) (cs : List Char) :
    runs p (cs ++ [c]) = runs p cs := by
  simpa using runs_append_cons hc cs []

theorem headRun_of_forall {w : List Char} (h : ∀ c ∈ w, p c = true) : headRun p w = (w, []) := by
  induction w with
  | nil => rfl
  | cons c w ih =>
    have hc : p c = true := h c (by simp)
    simp [headRun, hc, ih fun d hd => h d (by simp [hd])]

/-- A text of the class is one run. -/
theorem runs_of_forall {w : List Char} (hne : w ≠ []) (h : ∀ c ∈ w, p c = true) :
    runs p w = [w] := by
  simp [runs, headRun_of_forall h, hne]

/-- Texts that are joined by spaces have the runs of each of them. -/
theorem runs_intercalate (hspace : p ' ' = false) (ws : List (List Char)) :
    runs p ([' '].intercalate ws) = ws.flatMap (runs p) := by
  induction ws with
  | nil => rfl
  | cons w ws ih =>
    cases ws with
    | nil => simp
    | cons w' ws =>
      rw [List.intercalate_cons_cons, List.append_assoc, List.singleton_append,
        runs_append_cons hspace, ih]
      exact (List.flatMap_cons ..).symm

/-- A text without characters of the class has no runs. -/
theorem runs_eq_nil {w : List Char} (h : ∀ c ∈ w, p c = false) : runs p w = [] := by
  induction w with
  | nil => rfl
  | cons c w ih =>
    rw [runs_cons (h c (by simp))]
    exact ih fun d hd => h d (by simp [hd])

/-- A text is of the class, or else a character outside of the class splits it. -/
theorem runs_induction {motive : List Char → Prop} (run : ∀ w, (∀ c ∈ w, p c = true) → motive w)
    (split : ∀ w c cs, (∀ d ∈ w, p d = true) → p c = false → motive cs → motive (w ++ c :: cs))
    (cs : List Char) : motive cs := by
  -- what has been seen of the run at hand is generalized
  have hafter : ∀ w, (∀ d ∈ w, p d = true) → motive (w ++ cs) := by
    induction cs with
    | nil =>
      intro w hw
      rw [List.append_nil]
      exact run w hw
    | cons c cs ih =>
      intro w hw
      by_cases hc : p c = true
      · rw [List.append_cons]
        refine ih (w ++ [c]) fun d hd => ?_
        rcases List.mem_append.mp hd with hd | hd
        · exact hw d hd
        · rwa [List.mem_singleton.mp hd]
      · exact split w c cs hw (by simpa using hc) (ih [] (by simp))
  exact hafter [] (by simp)

/-! ### Members -/

/-- A run with what surrounds it: on neither side does another character of the class follow. -/
structure IsRun (p : Char → Bool) (before run after : List Char) : Prop where
  /-- The run is not empty. -/
  ne_nil : run ≠ []
  /-- The run consists of characters of the class. -/
  mem : ∀ c ∈ run, p c = true
  /-- The character before it is of another kind. -/
  before : ∀ c ∈ before.getLast?, p c = false
  /-- The character after it is of another kind. -/
  after : ∀ c ∈ after.head?, p c = false

theorem runs_append_of_before {xs ys : List Char} (h : ∀ c ∈ xs.getLast?, p c = false) :
    runs p (xs ++ ys) = runs p xs ++ runs p ys := by
  rcases xs.eq_nil_or_concat with rfl | ⟨xs, c, rfl⟩
  · simp
  · have hc : p c = false := h c (by simp)
    rw [List.concat_eq_append, List.append_assoc, List.singleton_append, runs_append_cons hc,
      runs_append_singleton hc]

theorem runs_append_of_after {xs ys : List Char} (h : ∀ c ∈ ys.head?, p c = false) :
    runs p (xs ++ ys) = runs p xs ++ runs p ys := by
  cases ys with
  | nil => simp
  | cons c ys =>
    have hc : p c = false := h c (by simp)
    rw [runs_append_cons hc, runs_cons hc]

theorem IsRun.runs_eq {before run after : List Char} (h : IsRun p before run after) :
    runs p (before ++ run ++ after) = runs p before ++ run :: runs p after := by
  rw [runs_append_of_after h.after, runs_append_of_before h.before, runs_of_forall h.ne_nil h.mem,
    List.append_assoc, List.singleton_append]

theorem IsRun.mem_runs {before run after : List Char} (h : IsRun p before run after) :
    run ∈ runs p (before ++ run ++ after) := by
  rw [h.runs_eq]
  simp

theorem exists_headRun (cs : List Char) :
    ∃ rest, cs = (headRun p cs).1 ++ rest ∧ (∀ c ∈ (headRun p cs).1, p c = true) ∧
      ∀ c ∈ rest.head?, p c = false := by
  induction cs with
  | nil => exact ⟨[], by simp [headRun]⟩
  | cons c cs ih =>
    obtain ⟨rest, hcs, hrun, hrest⟩ := ih
    by_cases hc : p c = true
    · refine ⟨rest, ?_, ?_, hrest⟩
      · simpa [headRun, hc] using hcs
      · simpa [headRun, hc] using hrun
    · exact ⟨c :: cs, by simp [headRun, hc], by simp [headRun, hc], by simpa using hc⟩

/-- The runs after the first one do not stand at the start of the text. -/
theorem exists_isRun_of_mem_later {cs run : List Char} (h : run ∈ (headRun p cs).2) :
    ∃ before after, cs = before ++ run ++ after ∧ before ≠ [] ∧ IsRun p before run after := by
  induction cs with
  | nil => simp [headRun] at h
  | cons c cs ih =>
    have later : run ∈ (headRun p cs).2 →
        ∃ before after, c :: cs = before ++ run ++ after ∧ before ≠ [] ∧
          IsRun p before run after := by
      intro hrun
      obtain ⟨before, after, hcs, hne, hr⟩ := ih hrun
      refine ⟨c :: before, after, by simp [hcs], by simp, hr.ne_nil, hr.mem, ?_, hr.after⟩
      rw [List.getLast?_cons_of_ne_nil hne]
      exact hr.before
    by_cases hc : p c = true
    · exact later (by simpa [headRun, hc] using h)
    · by_cases hr : (headRun p cs).1 = []
      · exact later (by simpa [headRun, hc, hr] using h)
      · have hcases : run = (headRun p cs).1 ∨ run ∈ (headRun p cs).2 := by
          simpa [headRun, hc, hr] using h
        rcases hcases with rfl | hrun
        · obtain ⟨rest, hcs, hrun, hrest⟩ := exists_headRun (p := p) cs
          exact ⟨[c], rest, by simpa using hcs, by simp, hr, hrun, by simpa using hc, hrest⟩
        · exact later hrun

/-- **A run is a stretch of the class that cannot be made longer on either side.** -/
theorem mem_runs_iff {cs run : List Char} :
    run ∈ runs p cs ↔ ∃ before after, cs = before ++ run ++ after ∧ IsRun p before run after := by
  constructor
  · intro h
    have hcases : run = (headRun p cs).1 ∧ run ≠ [] ∨ run ∈ (headRun p cs).2 := by
      by_cases hr : (headRun p cs).1 = []
      · exact .inr (by simpa [runs, hr] using h)
      · rcases (by simpa [runs, hr] using h : run = (headRun p cs).1 ∨ run ∈ _) with rfl | hlater
        · exact .inl ⟨rfl, hr⟩
        · exact .inr hlater
    rcases hcases with ⟨rfl, hne⟩ | hlater
    · obtain ⟨rest, hcs, hrun, hrest⟩ := exists_headRun (p := p) cs
      exact ⟨[], rest, by simpa using hcs, hne, hrun, by simp, hrest⟩
    · obtain ⟨before, after, hcs, -, hr⟩ := exists_isRun_of_mem_later hlater
      exact ⟨before, after, hcs, hr⟩
  · rintro ⟨before, after, rfl, h⟩
    exact h.mem_runs

/-- **Each of the runs takes the text apart**, with the runs before and after it on its two sides. -/
theorem runs_eq_append_cons_iff {cs run : List Char} {earlier later : List (List Char)} :
    runs p cs = earlier ++ run :: later ↔ ∃ before after, cs = before ++ run ++ after ∧
      IsRun p before run after ∧ runs p before = earlier ∧ runs p after = later := by
  constructor
  · intro h
    induction cs using runs_induction (p := p) generalizing earlier with
    | run w hw =>
      have hne : w ≠ [] := by
        rintro rfl
        simp at h
      rw [runs_of_forall hne hw] at h
      obtain ⟨rfl, h⟩ : earlier = [] ∧ [w] = run :: later := by
        cases earlier with
        | nil => exact ⟨rfl, h⟩
        | cons _ _ => simp at h
      obtain ⟨rfl, rfl⟩ := List.cons.inj h
      exact ⟨[], [], by simp, ⟨hne, hw, by simp, by simp⟩, rfl, rfl⟩
    | split w c cs hw hc ih =>
      rw [runs_append_cons hc] at h
      have hlater : ∀ earlier', runs p cs = earlier' ++ run :: later →
          earlier = runs p w ++ earlier' → ∃ before after, w ++ c :: cs = before ++ run ++ after ∧
            IsRun p before run after ∧ runs p before = earlier ∧ runs p after = later := by
        rintro earlier' hlast rfl
        obtain ⟨before, after, rfl, hrun, rfl, rfl⟩ := ih hlast
        refine ⟨w ++ c :: before, after, by simp, ⟨hrun.ne_nil, hrun.mem, ?_, hrun.after⟩,
          runs_append_cons hc w before, rfl⟩
        rw [List.getLast?_append, List.getLast?_cons]
        cases hend : before.getLast? with
        | none => simpa using hc
        | some d => simpa using hrun.before d (by simp [hend])
      by_cases hne : w = []
      · subst hne
        exact hlater earlier (by simpa using h) rfl
      · rw [runs_of_forall hne hw, List.singleton_append] at h
        cases earlier with
        | nil =>
          obtain ⟨rfl, rfl⟩ := List.cons.inj h
          exact ⟨[], c :: cs, by simp, ⟨hne, hw, by simp, by simpa using hc⟩, rfl, runs_cons hc cs⟩
        | cons _ earlier =>
          obtain ⟨rfl, hlast⟩ := List.cons.inj h
          exact hlater earlier hlast (by rw [runs_of_forall hne hw]; rfl)
  · rintro ⟨before, after, rfl, h, rfl, rfl⟩
    exact h.runs_eq

/-- Only the last character before a run bears on it. -/
theorem isRun_append_iff {earlier before run after : List Char} (hne : before ≠ []) :
    IsRun p (earlier ++ before) run after ↔ IsRun p before run after := by
  have hlast : (earlier ++ before).getLast? = before.getLast? := by
    rw [List.getLast?_append, List.getLast?_eq_some_getLast hne]
    rfl
  constructor
  · intro h
    exact ⟨h.ne_nil, h.mem, hlast ▸ h.before, h.after⟩
  · intro h
    exact ⟨h.ne_nil, h.mem, hlast ▸ h.before, h.after⟩

theorem ne_nil_of_mem_runs {cs run : List Char} (h : run ∈ runs p cs) : run ≠ [] := by
  obtain ⟨before, after, -, hr⟩ := mem_runs_iff.mp h
  exact hr.ne_nil

theorem forall_of_mem_runs {cs run : List Char} (h : run ∈ runs p cs) : ∀ c ∈ run, p c = true := by
  obtain ⟨before, after, -, hr⟩ := mem_runs_iff.mp h
  exact hr.mem

theorem subset_of_mem_runs {cs run : List Char} (h : run ∈ runs p cs) : ∀ c ∈ run, c ∈ cs := by
  obtain ⟨before, after, rfl, -⟩ := mem_runs_iff.mp h
  intro c hc
  simp [hc]

/-- A character of the class is in a run. -/
theorem exists_mem_runs {cs : List Char} {c : Char} (hc : c ∈ cs) (hp : p c = true) :
    ∃ run ∈ runs p cs, c ∈ run := by
  induction cs using runs_induction (p := p) with
  | run w hw =>
    rw [runs_of_forall (List.ne_nil_of_mem hc) hw]
    exact ⟨w, by simp, hc⟩
  | split w d cs hw hd ih =>
    rw [runs_append_cons hd]
    rcases List.mem_append.mp hc with hc | hc
    · refine ⟨w, List.mem_append_left _ ?_, hc⟩
      rw [runs_of_forall (List.ne_nil_of_mem hc) hw]
      exact List.mem_singleton_self w
    · rcases List.mem_cons.mp hc with rfl | hc
      · rw [hd] at hp
        cases hp
      · obtain ⟨run, hrun, hmem⟩ := ih hc
        exact ⟨run, List.mem_append_right _ hrun, hmem⟩

/-! ### Other characters in the place of those outside of the class -/

theorem headRun_map {q : Char → Bool} {g : Char → Char} {cs : List Char}
    (hsame : ∀ c ∈ cs, p c = true → g c = c ∧ q c = true)
    (hother : ∀ c ∈ cs, p c = false → q (g c) = false) : headRun q (cs.map g) = headRun p cs := by
  induction cs with
  | nil => rfl
  | cons c cs ih =>
    have htail := ih (fun d hd => hsame d (by simp [hd])) fun d hd => hother d (by simp [hd])
    by_cases hc : p c = true
    · obtain ⟨hg, hq⟩ := hsame c (by simp) hc
      simp [headRun, htail, hg, hq, hc]
    · have hq : q (g c) = false := hother c (by simp) (by simpa using hc)
      simp [headRun, htail, hq, hc]

/-- The runs stay when the characters outside of the class give way to others. -/
theorem runs_map {q : Char → Bool} {g : Char → Char} {cs : List Char}
    (hsame : ∀ c ∈ cs, p c = true → g c = c ∧ q c = true)
    (hother : ∀ c ∈ cs, p c = false → q (g c) = false) : runs q (cs.map g) = runs p cs := by
  simp only [runs, headRun_map hsame hother]

theorem runs_congr {q : Char → Bool} {cs : List Char} (h : ∀ c ∈ cs, q c = p c) :
    runs q cs = runs p cs := by
  have hmap : runs q (cs.map id) = runs p cs :=
    runs_map (fun c hc hp => ⟨rfl, (h c hc).trans hp⟩) fun c hc hp => (h c hc).trans hp
  rwa [List.map_id] at hmap

/-! ### Parts between blanks -/

/-- A part of a text between blanks. -/
def IsPart (w : List Char) : Prop := w ≠ [] ∧ ∀ c ∈ w, isBlank c = false

instance (w : List Char) : Decidable (IsPart w) :=
  decidable_of_iff (w ≠ [] ∧ w.all (!isBlank ·) = true) (by simp [IsPart])

theorem words_of_isPart {w : List Char} (h : IsPart w) : words w = [w] :=
  runs_of_forall h.1 fun c hc => by simp [h.2 c hc]

theorem isPart_of_mem_words {cs w : List Char} (h : w ∈ words cs) : IsPart w :=
  ⟨ne_nil_of_mem_runs h, fun c hc => by simpa using forall_of_mem_runs h c hc⟩

/-- **Parts joined by spaces are found again.** -/
theorem words_intercalate {ws : List (List Char)} (h : ∀ w ∈ ws, IsPart w) :
    words ([' '].intercalate ws) = ws := by
  induction ws with
  | nil => rfl
  | cons w ws ih =>
    have hw : words w = [w] := words_of_isPart (h w (by simp))
    have hws := ih fun v hv => h v (by simp [hv])
    cases ws with
    | nil => simpa using hw
    | cons v ws =>
      rw [List.intercalate_cons_cons, List.append_assoc, List.singleton_append, words,
        runs_append_cons (by decide)]
      change words w ++ words _ = _
      rw [hw, hws, List.singleton_append]

section

variable {blanks : List Char} (h : ∀ c ∈ blanks, isBlank c = true) (cs : List Char)

include h

theorem trimStart_append_left : trimStart (blanks ++ cs) = trimStart cs :=
  List.dropWhile_append_of_pos h

theorem trim_append_left : trim (blanks ++ cs) = trim cs := by
  rw [trim, trimStart_append_left h, trim]

theorem trim_append_right : trim (cs ++ blanks) = trim cs := by
  have hnil : trimStart blanks = [] := by simpa [trimStart] using trimStart_append_left h []
  have hstart : trimStart (cs ++ blanks) = trimStart cs ++ blanks ∨
      trimStart (cs ++ blanks) = [] ∧ trimStart cs = [] := by
    simp only [trimStart, List.dropWhile_append] at hnil ⊢
    split
    · rename_i hempty
      exact .inr ⟨hnil, List.isEmpty_iff.mp hempty⟩
    · exact .inl rfl
  rcases hstart with hstart | ⟨hstart, hnil⟩
  · have hreverse : ∀ c ∈ blanks.reverse, isBlank c = true := fun c hc => h c (List.mem_reverse.mp hc)
    rw [trim, trim, hstart, trimEnd, List.reverse_append, List.dropWhile_append_of_pos hreverse,
      trimEnd]
  · rw [trim, trim, hstart, hnil]

end

/-- A text without blanks at its ends is trimmed already. -/
theorem trim_eq_self {cs : List Char} (hhead : ∀ c ∈ cs.head?, isBlank c = false)
    (hlast : ∀ c ∈ cs.getLast?, isBlank c = false) : trim cs = cs := by
  have hstart : trimStart cs = cs := by
    cases cs with
    | nil => rfl
    | cons c cs => simp [trimStart, hhead c rfl]
  have hend : cs.reverse.dropWhile isBlank = cs.reverse := by
    cases hcs : cs.reverse with
    | nil => rfl
    | cons c rest =>
      have hc : isBlank c = false := hlast c (by rw [← List.head?_reverse, hcs]; rfl)
      simp [hc]
  rw [trim, hstart, trimEnd, hend, List.reverse_reverse]

/-- What is trimmed are blanks. -/
theorem exists_trim (cs : List Char) : ∃ before after, cs = before ++ trim cs ++ after ∧
    (∀ c ∈ before, isBlank c = true) ∧ ∀ c ∈ after, isBlank c = true := by
  refine ⟨cs.takeWhile isBlank, ((trimStart cs).reverse.takeWhile isBlank).reverse, ?_,
    List.all_eq_true.mp List.all_takeWhile, ?_⟩
  · have hend : trim cs ++ ((trimStart cs).reverse.takeWhile isBlank).reverse = trimStart cs := by
      rw [trim, trimEnd, ← List.reverse_append, List.takeWhile_append_dropWhile,
        List.reverse_reverse]
    rw [List.append_assoc, hend, trimStart, List.takeWhile_append_dropWhile]
  · intro c hc
    exact List.all_eq_true.mp List.all_takeWhile c (List.mem_reverse.mp hc)

@[simp] theorem trim_trim (cs : List Char) : trim (trim cs) = trim cs := by
  obtain ⟨before, after, htext, hbefore, hafter⟩ := exists_trim cs
  have htrim : trim (before ++ trim cs ++ after) = trim (trim cs) := by
    rw [trim_append_right hafter, trim_append_left hbefore]
  rw [← htrim, ← htext]

/-- Blanks at the ends of a text belong to no run of other characters. -/
theorem runs_trim {cs : List Char} (h : ∀ c ∈ cs, isBlank c = true → p c = false) :
    runs p (trim cs) = runs p cs := by
  obtain ⟨before, after, hcs, hbefore, hafter⟩ := exists_trim cs
  have hb : ∀ c ∈ before, p c = false := fun c hc =>
    h c (by rw [hcs]; simp [hc]) (hbefore c hc)
  have ha : ∀ c ∈ after, p c = false := fun c hc =>
    h c (by rw [hcs]; simp [hc]) (hafter c hc)
  have hruns : runs p (before ++ trim cs ++ after) = runs p (trim cs) := by
    rw [runs_append_of_after fun c hc => ha c (List.mem_of_mem_head? hc),
      runs_append_of_before fun c hc => hb c (List.mem_of_mem_getLast? hc), runs_eq_nil hb,
      runs_eq_nil ha, List.nil_append, List.append_nil]
  rw [← hruns, ← hcs]

theorem trim_of_isPart {w : List Char} (h : IsPart w) : trim w = w :=
  trim_eq_self (fun c hc => h.2 c (List.mem_of_mem_head? hc))
    fun c hc => h.2 c (List.mem_of_mem_getLast? hc)

/-- Parts joined by spaces have no blanks at their ends. -/
theorem trim_intercalate {ws : List (List Char)} (h : ∀ w ∈ ws, IsPart w) :
    trim ([' '].intercalate ws) = [' '].intercalate ws := by
  refine trim_eq_self ?_ ?_
  · cases ws with
    | nil => simp
    | cons w ws =>
      obtain ⟨c, w, rfl⟩ := List.exists_cons_of_ne_nil (h w (by simp)).1
      have hc : isBlank c = false := (h (c :: w) (by simp)).2 c (by simp)
      cases ws <;> simpa [List.intercalate_cons_cons] using hc
  · induction ws with
    | nil => simp
    | cons w ws ih =>
      obtain ⟨hw, hws⟩ := List.forall_mem_cons.mp h
      cases ws with
      | nil => simpa using fun c hc => hw.2 c (List.mem_of_mem_getLast? hc)
      | cons v ws =>
        -- the last character is the last one of the parts after the first
        have hne : [' '].intercalate (v :: ws) ≠ [] := by
          obtain ⟨c, v, rfl⟩ := List.exists_cons_of_ne_nil (hws v (by simp)).1
          cases ws <;> simp [List.intercalate_cons_cons]
        rw [List.intercalate_cons_cons, List.getLast?_append, List.getLast?_eq_some_getLast hne,
          Option.some_or, ← List.getLast?_eq_some_getLast hne]
        exact ih hws

end Text

end Concordance
