import Concordance.Proofs.Pattern.ColorEdges
import Concordance.Proofs.Pattern.Matches

/-!
# Marking words

Where the terms of a search are words of letters, the texts that are marked for them are known: they are
the maximal runs of word characters that are one of the words. Each word is looked for in a text in which
those before it have been marked. As the marks have no word characters, the runs are still the same ones,
and as the words are distinct, what has been marked for one of them is not marked again for another.

An engine may refuse the pattern of a long word, and nothing is marked for that word. To mark a run, a
pattern is made of the run once more; if the engine refuses this one, the run is left as it is.

## Main definitions

* `Text.replaceRuns` — a text with its maximal runs of word characters replaced
* `Highlight.markRuns` — a text with some of its runs marked
* `Highlight.IsOrdinary` — a text without escape sequences and without letters of other scripts

## Main results

* `Highlight.markAll_word` — one word
* `Highlight.mark_words` — distinct words, one after another
-/

namespace Concordance

/-! ### Runs -/

namespace Text

/-- Reads a run of word characters. -/
def wordRun : Recognizer (List Char) := fun _ => takeSome? isWordChar

/-- A text with its maximal runs of word characters replaced. -/
def replaceRuns (g : List Char → List Char) (cs : List Char) : List Char := replaceItems wordRun g cs

variable {g : List Char → List Char} {c : Char} {r s u cs : List Char}

theorem isSteady_wordRun : IsSteady wordRun where
  eq _ _ := rfl
  length_lt h := by
    obtain ⟨hne, -, -, rfl⟩ := takeSome?_eq_some_iff.mp h
    have := List.length_pos_iff.mpr hne
    rw [List.length_append]
    omega

@[simp] theorem replaceRuns_nil : replaceRuns g [] = [] := by simp [replaceRuns, replaceItems]

theorem replaceRuns_cons (hc : isWordChar c = false) :
    replaceRuns g (c :: cs) = c :: replaceRuns g cs := by
  refine isSteady_wordRun.replaceItems_other (Option.eq_none_iff_forall_ne_some.mpr ?_)
  rintro ⟨run, rest⟩ h
  obtain ⟨hne, hrun, -, htext⟩ := takeSome?_eq_some_iff.mp h
  obtain ⟨d, run, rfl⟩ := List.exists_cons_of_ne_nil hne
  obtain ⟨rfl, -⟩ := List.cons.inj htext
  rw [hrun c List.mem_cons_self] at hc
  cases hc

theorem replaceRuns_append (hu : ∀ c ∈ u, isWordChar c = false) :
    replaceRuns g (u ++ s) = u ++ replaceRuns g s := by
  induction u with
  | nil => rfl
  | cons c u ih =>
    obtain ⟨hc, hu⟩ := List.forall_mem_cons.mp hu
    rw [List.cons_append, replaceRuns_cons hc, ih hu, List.cons_append]

theorem replaceRuns_run (hne : r ≠ []) (hr : ∀ c ∈ r, isWordChar c = true)
    (hs : ∀ c ∈ s.head?, isWordChar c = false) : replaceRuns g (r ++ s) = g r ++ replaceRuns g s :=
  isSteady_wordRun.replaceItems_item (takeSome?_eq_some_iff.mpr ⟨hne, hr, hs, rfl⟩)

/-- A text with its runs replaced, run by run. -/
theorem replaceRuns_induction {motive : (rest out : List Char) → Prop} (nil : motive [] [])
    (run : ∀ r s, r ≠ [] → (∀ c ∈ r, isWordChar c = true) → (∀ c ∈ s.head?, isWordChar c = false) →
      motive s (replaceRuns g s) → motive (r ++ s) (g r ++ replaceRuns g s))
    (other : ∀ c s, isWordChar c = false → motive s (replaceRuns g s) →
      motive (c :: s) (c :: replaceRuns g s)) (cs : List Char) : motive cs (replaceRuns g cs) := by
  have hrun : ∀ r s, (∀ c ∈ r, isWordChar c = true) → (∀ c ∈ s.head?, isWordChar c = false) →
      motive s (replaceRuns g s) → motive (r ++ s) (replaceRuns g (r ++ s)) := by
    intro r s hr hs hrest
    by_cases hne : r = []
    · rwa [hne]
    · rw [replaceRuns_run hne hr hs]
      exact run r s hne hr hs hrest
  induction cs using runs_induction (p := isWordChar) with
  | run w hw => simpa using hrun w [] hw (by simp) (by simpa using nil)
  | split w c cs hw hc ih =>
    refine hrun w (c :: cs) hw (by simpa using hc) ?_
    rw [replaceRuns_cons hc]
    exact other c cs hc ih

/-- Runs between characters of other kinds are replaced again. -/
theorem replaceRuns_replaceRuns {before after : List Char → List Char}
    (hbefore : ∀ r, ∀ c ∈ before r, isWordChar c = false)
    (hafter : ∀ r, ∀ c ∈ after r, isWordChar c = false) (cs : List Char) :
    replaceRuns g (replaceRuns (fun r => before r ++ r ++ after r) cs)
      = replaceRuns (fun r => before r ++ g r ++ after r) cs := by
  have hhead : ∀ {g' : List Char → List Char} {s : List Char}, (∀ c ∈ s.head?, isWordChar c = false) →
      ∀ c ∈ (replaceRuns g' s).head?, isWordChar c = false := by
    intro g' s hs
    cases s with
    | nil => simp
    | cons d s =>
      rw [replaceRuns_cons (hs d rfl)]
      exact hs
  refine replaceRuns_induction
    (motive := fun s out => replaceRuns g out = replaceRuns (fun r => before r ++ g r ++ after r) s)
    (by simp) ?_ ?_ cs
  · intro r s hne hr hs ih
    have hend : ∀ c ∈ (after r ++ replaceRuns (fun r => before r ++ r ++ after r) s).head?,
        isWordChar c = false := by
      intro c hc
      rw [List.head?_append, Option.mem_def, Option.or_eq_some_iff] at hc
      rcases hc with hc | ⟨-, hc⟩
      · exact hafter r c (List.mem_of_head? hc)
      · exact hhead hs c hc
    rw [replaceRuns_run hne hr hs, List.append_assoc, List.append_assoc,
      replaceRuns_append (hbefore r), replaceRuns_run hne hr hend, replaceRuns_append (hafter r), ih]
    simp only [List.append_assoc]
  · intro c s hc ih
    rw [replaceRuns_cons hc, replaceRuns_cons hc, ih]

/-- What is in a text with its runs replaced stood there before, or it replaces a run. -/
theorem mem_replaceRuns (h : c ∈ replaceRuns g cs) : c ∈ cs ∨ ∃ r, r ⊆ cs ∧ c ∈ g r := by
  revert h
  refine replaceRuns_induction (motive := fun s out => c ∈ out → c ∈ s ∨ ∃ r, r ⊆ s ∧ c ∈ g r)
    (fun h => .inl h) ?_ ?_ cs
  · intro r s _ _ _ ih h
    rcases List.mem_append.mp h with h | h
    · exact .inr ⟨r, List.subset_append_left r s, h⟩
    · refine (ih h).imp (List.mem_append_right r) ?_
      exact fun ⟨r', hr', h⟩ => ⟨r', List.Subset.trans hr' (List.subset_append_right r s), h⟩
  · intro d s _ ih h
    rcases List.mem_cons.mp h with rfl | h
    · exact .inl List.mem_cons_self
    · refine (ih h).imp (List.mem_cons_of_mem d) ?_
      exact fun ⟨r', hr', h⟩ => ⟨r', List.Subset.trans hr' (List.subset_cons_self d s), h⟩

end Text

/-! ### The pattern of a word -/

namespace Pattern

open Text (isWordChar takeSome?_eq_some_iff IsRun IsLetters SameWord)

variable {ignoreCase : Bool} {p : Pattern} {xs r ys w cs : List Char}

/-- There is one run where a run starts. -/
theorem run_unique {r' ys' : List Char} (h : IsRun isWordChar xs r ys) (h' : IsRun isWordChar xs r' ys')
    (htext : r ++ ys = r' ++ ys') : r = r' := by
  have htake := takeSome?_eq_some_iff.mpr ⟨h.ne_nil, h.mem, h.after, rfl⟩
  have htake' := takeSome?_eq_some_iff.mpr ⟨h'.ne_nil, h'.mem, h'.after, htext⟩
  exact (Prod.mk.inj (Option.some.inj (htake.symm.trans htake'))).1

/-- **A pattern that matches some of the runs** replaces these, and all else stays. -/
theorem rewrites_runs {replaced : List Char → List (Nat × List Char) → List Char → Prop}
    {wanted : List Char → Prop} [DecidablePred wanted] {g : List Char → List Char}
    (hopens : ∀ xs s, cs = xs ++ s → p.Opens xs s →
      ∃ r ys, s = r ++ ys ∧ IsRun isWordChar xs r ys ∧ wanted r)
    (htakes : ∀ xs r ys, cs = xs ++ (r ++ ys) → IsRun isWordChar xs r ys → wanted r →
      ∃ gs, p.Takes xs r ys gs ∧ replaced r gs (g r)) :
    p.Rewrites replaced [] cs (Text.replaceRuns (fun r => if wanted r then g r else r) cs) := by
  refine Text.replaceRuns_induction (motive := fun s out => ∀ xs, cs = xs ++ s →
    (∀ c ∈ xs.getLast?, isWordChar c = false) ∨ (∀ c ∈ s.head?, isWordChar c = false) →
    p.Rewrites replaced xs s out) ?nil ?run ?other cs [] rfl (.inl (by simp))
  case nil =>
    intro xs hcs _
    refine .nil fun h => ?_
    obtain ⟨r, ys, htext, hrun, -⟩ := hopens xs [] hcs h
    exact hrun.ne_nil (List.append_eq_nil_iff.mp htext.symm).1
  case run =>
    intro r s hne hr hs ih xs hcs hedge
    have hbefore : ∀ c ∈ xs.getLast?, isWordChar c = false := by
      refine hedge.resolve_right fun hhead => ?_
      obtain ⟨c, r, rfl⟩ := List.exists_cons_of_ne_nil hne
      have hc := hhead c rfl
      rw [hr c List.mem_cons_self] at hc
      cases hc
    have hrun : IsRun isWordChar xs r s := ⟨hne, hr, hbefore, hs⟩
    have hrest := ih (xs ++ r) (by rw [hcs, List.append_assoc]) (.inr hs)
    split
    · rename_i hwanted
      obtain ⟨gs, htakes, hreplaced⟩ := htakes xs r s hcs hrun hwanted
      exact .piece hne htakes hreplaced hrest
    · rename_i hwanted
      refine Rewrites.others (fun us₁ us₂ hus hne' h => ?_) hrest
      obtain ⟨r', ys, htext, hrun', hwanted'⟩ :=
        hopens (xs ++ us₁) (us₂ ++ s) (by rw [hcs, hus, List.append_assoc, List.append_assoc]) h
      obtain rfl | ⟨us₁, c, rfl⟩ := List.eq_nil_or_concat us₁
      · rw [List.nil_append] at hus
        rw [List.append_nil] at hrun'
        exact hwanted (run_unique hrun hrun' (hus ▸ htext) ▸ hwanted')
      · have hc := hrun'.before c (by simp)
        rw [hr c (by simp [hus])] at hc
        cases hc
  case other =>
    intro c s hc ih xs hcs _
    refine .other (fun h => ?_) (ih (xs ++ [c]) (by simp [hcs]) (.inl (by simpa using hc)))
    obtain ⟨r, ys, htext, hrun, -⟩ := hopens xs (c :: s) hcs h
    obtain ⟨d, r, rfl⟩ := List.exists_cons_of_ne_nil hrun.ne_nil
    obtain ⟨rfl, -⟩ := List.cons.inj htext
    rw [hrun.mem c List.mem_cons_self] at hc
    cases hc

/-- A word between two edges, which may be colours, in two groups. -/
def ofColoredWord (ignoreCase : Bool) (w : List Char) : Pattern :=
  ofBody (colorEdge ignoreCase) 0 (w.map (ofChar ignoreCase))

/-- Letters match what is the same word, in texts without letters of other scripts. -/
theorem covers_letters (hw : IsLetters w) (hr : ∀ c ∈ r, isWordChar c = true → c.toNat < 0x80) :
    (ofSeq (w.map (ofChar ignoreCase))).Covers xs r ys ↔ SameWord (!ignoreCase) r w := by
  have hfold : ∀ c ∈ w, Text.fold c = c.toLower := fun c hc =>
    Text.fold_of_ascii (Text.toNat_of_isAlpha (hw.isAlpha c hc))
  constructor
  · intro h
    have hchars : ∀ d ∈ r, isWordChar d = true := by
      intro d hd
      rcases isWordChar_or_mem_of_covers h d hd with hword | ⟨c, hc, hmem⟩
      · exact hword
      · rw [← Text.isWordChar_eq_of_alike (alike_of_mem_setOf hmem)]
        exact Text.isWordChar_of_isAlpha (hw.isAlpha c hc)
    have hfold' : ∀ d ∈ r, Text.fold d = d.toLower := fun d hd =>
      Text.fold_of_ascii (hr d hd (hchars d hd))
    exact ((covers_chars hfold hfold').mp h).sameWord hw.isAlpha
  · intro h
    have hletters := h.isLetters hw
    refine (covers_chars hfold fun d hd => Text.fold_of_ascii
      (Text.toNat_of_isAlpha (hletters.isAlpha d hd))).mpr (globMatches_of_sameWord hw.isAlpha h)

/-- **The pattern of a word matches the runs that are the word**, where there are no colours. -/
theorem covers_ofColoredWord (hw : IsLetters w) (hesc : '\x1b' ∉ r)
    (hr : ∀ c ∈ r, isWordChar c = true → c.toNat < 0x80) :
    (ofColoredWord ignoreCase w).Covers xs r ys ↔
      SameWord (!ignoreCase) r w ∧ IsRun isWordChar xs r ys := by
  have hbody : (ofColoredWord ignoreCase w).Covers xs r ys ↔ (ofSeq [colorEdge ignoreCase,
      .group 2 (.ofSeq (w.map (ofChar ignoreCase))), colorEdge ignoreCase]).Covers xs r ys := Iff.rfl
  have hletters : (group 2 (ofSeq (w.map (ofChar ignoreCase)))).Covers xs r ys ↔
      SameWord (!ignoreCase) r w := covers_letters hw hr
  rw [hbody, covers_between_colorEdges hesc, covers_between_edges fun h => ?_, hletters]
  have hsame := (hletters.mp h).isLetters hw
  exact ⟨hsame.ne_nil, fun c hc => Text.isWordChar_of_isAlpha (hsame.isAlpha c hc)⟩

/-- What the pattern of a word takes is what both of its groups match. -/
theorem takes_ofColoredWord (hw : IsLetters w) (hesc : '\x1b' ∉ r ++ ys)
    (hsame : SameWord (!ignoreCase) r w) (hrun : IsRun isWordChar xs r ys) :
    (ofColoredWord ignoreCase w).Takes xs r ys [(1, r), (2, r)] := by
  have hletters := hsame.isLetters hw
  have hcovers : (ofSeq (w.map (ofChar ignoreCase))).Covers xs r ys :=
    (covers_letters hw fun c hc _ => Text.toNat_of_isAlpha (hletters.isAlpha c hc)).mpr hsame
  rw [map_ofChar hw.isAlpha] at hcovers
  have hend : (ofSeq []).Takes (xs ++ r) [] ys [] := takes_empty
  have hletters : (ofSeq (w.map (ofChar ignoreCase))).Takes xs r ys [] := by
    rw [map_ofChar hw.isAlpha]
    simpa using takes_sets_append (by simpa using hcovers) hend
  have hall : (ofSeq (colorEdge ignoreCase :: ([group 2 (ofSeq (w.map (ofChar ignoreCase)))] ++
      [colorEdge ignoreCase]))).Takes xs r ys [(2, r)] :=
    takes_between_colorEdges hrun hesc fun hlast => by
      simpa using takes_ofSeq_cons (takes_group hletters 2) hlast rfl
  exact takes_group hall 1

theorem inOrder_ofColoredWord (w : List Char) : (ofColoredWord ignoreCase w).InOrder :=
  ⟨inOrder_colorEdge, inOrder_ofChars w, inOrder_colorEdge⟩

theorem groupCount_ofColoredWord (hw : IsLetters w) : (ofColoredWord ignoreCase w).groupCount = 3 := by
  have hletters : ∀ cs : List Char,
      (ofSeq (cs.map fun c => set (setOf ignoreCase c))).groupCount = 1 := by
    intro cs
    induction cs with
    | nil => rfl
    | cons c cs ih =>
      cases cs with
      | nil => rfl
      | cons d cs => exact congrArg (max 1) ih
  have hbody : (ofColoredWord ignoreCase w).groupCount
      = max 2 (max 1 (max (max 3 (ofSeq (w.map (ofChar ignoreCase))).groupCount) 1)) := rfl
  rw [hbody, map_ofChar hw.isAlpha, hletters]
  rfl

/-- A run of word characters is taken as it is written. -/
theorem takes_ofMarkedWord (hrun : IsRun isWordChar xs r ys) (hesc : '\x1b' ∉ r ++ ys) :
    (ofMarkedWord r).Takes xs r ys [(1, r)] := by
  have hall : (ofSeq (markedWordItems r)).Takes xs r ys [] :=
    takes_between_colorEdges hrun hesc fun hlast => by
      simpa [ofLiteral] using takes_sets_append (covers_ofLiteral.mpr rfl) hlast
  exact takes_group hall 1

end Pattern

/-! ### Runs that are marked -/

namespace Highlight

open Pattern PhraseStyle
open Text (isWordChar IsRun IsAscii IsLetters SameWord)

variable (h : Highlight) {engine : Engine} {cs w r : List Char} {caseSensitive sloppy : Bool}

/-- A text with some of its maximal runs of word characters marked. -/
def markRuns (wanted : List Char → Prop) [DecidablePred wanted] (cs : List Char) : List Char :=
  Text.replaceRuns (fun r => if wanted r then h.wrap r else r) cs

/-- Marks that words do not run into, and that set no colours. -/
def HasPlainMarks : Prop := ∀ c ∈ h.before ++ h.after, isWordChar c = false ∧ c ≠ '\x1b'

instance : Decidable h.HasPlainMarks :=
  decidable_of_iff ((h.before ++ h.after).all (fun c => !isWordChar c && c != '\x1b') = true)
    (by simp only [List.all_eq_true, Bool.and_eq_true, Bool.not_eq_true', bne_iff_ne, HasPlainMarks])

/-- A text without escape sequences and without letters of other scripts. -/
structure IsOrdinary (cs : List Char) : Prop where
  /-- No escape sequence starts. -/
  esc : '\x1b' ∉ cs
  /-- The characters of words are of ASCII. -/
  ascii : ∀ c ∈ cs, isWordChar c = true → c.toNat < 0x80

theorem markRuns_congr {wanted wanted' : List Char → Prop} [DecidablePred wanted]
    [DecidablePred wanted'] (hsame : ∀ r, wanted r ↔ wanted' r) (cs : List Char) :
    h.markRuns wanted cs = h.markRuns wanted' cs := by
  have hif : (fun r => if wanted r then h.wrap r else r)
      = fun r => if wanted' r then h.wrap r else r := funext fun r => by simp only [hsame]
  rw [markRuns, markRuns, hif]

/-- Where no run is to be marked, nothing is. -/
theorem markRuns_of_not {wanted : List Char → Prop} [DecidablePred wanted]
    (hnone : ∀ r, ¬ wanted r) (cs : List Char) : h.markRuns wanted cs = cs := by
  refine Text.replaceRuns_induction (motive := fun s out => out = s) rfl ?_ ?_ cs
  · intro r s _ _ _ ih
    rw [ih, if_neg (hnone r)]
  · intro c s _ ih
    rw [ih]

variable {h}

/-- **Marks leave the runs as they are**: other runs can be marked before or after. -/
theorem markRuns_markRuns (hmarks : h.HasPlainMarks) {wanted wanted' : List Char → Prop}
    [DecidablePred wanted] [DecidablePred wanted'] (hdisjoint : ∀ r, wanted r → ¬ wanted' r)
    (cs : List Char) :
    h.markRuns wanted' (h.markRuns wanted cs) = h.markRuns (fun r => wanted r ∨ wanted' r) cs := by
  have hwrap : (fun r => if wanted r then h.wrap r else r)
      = fun r => (if wanted r then h.before else []) ++ r ++ if wanted r then h.after else [] := by
    funext r
    split <;> simp [wrap]
  have hplain : ∀ mark, mark = h.before ∨ mark = h.after → ∀ r, ∀ c ∈ if wanted r then mark else [],
      isWordChar c = false := by
    intro mark hmark r c hc
    split at hc
    · refine (hmarks c (List.mem_append.mpr ?_)).1
      rcases hmark with rfl | rfl
      · exact .inl hc
      · exact .inr hc
    · cases hc
  rw [markRuns, markRuns, hwrap, Text.replaceRuns_replaceRuns (hplain _ (.inl rfl))
    (hplain _ (.inr rfl)), markRuns]
  congr 1
  funext r
  by_cases hwanted : wanted r
  · simp [hwanted, hdisjoint r hwanted, wrap]
  · simp [hwanted]

/-- A text with runs marked is as ordinary as it was. -/
theorem IsOrdinary.markRuns (hcs : IsOrdinary cs) (hmarks : h.HasPlainMarks)
    (wanted : List Char → Prop) [DecidablePred wanted] : IsOrdinary (h.markRuns wanted cs) := by
  have hmem : ∀ c ∈ h.markRuns wanted cs, c ∈ cs ∨ c ∈ h.before ++ h.after := by
    intro c hc
    rcases Text.mem_replaceRuns hc with hc | ⟨r, hr, hc⟩
    · exact .inl hc
    · split at hc
      · simp only [wrap, List.mem_append] at hc ⊢
        tauto
      · exact .inl (hr hc)
  refine ⟨fun hesc => ?_, fun c hc hword => ?_⟩
  · exact (hmem _ hesc).elim hcs.esc fun hmark => (hmarks _ hmark).2 rfl
  · refine (hmem c hc).elim (fun hc => hcs.ascii c hc hword) fun hmark => ?_
    rw [(hmarks c hmark).1] at hword
    cases hword

/-! ### One word -/

theorem replaceAll_never (g : Match → List Char) : never.replaceAll cs.toArray g = cs :=
  replaceAll_induction (motive := fun _ s out => out = s) (fun _ _ _ => rfl)
    fun _ _ _ _ _ m _ hfound => (not_isFound_never _ m hfound).elim

/-- A run that stands alone is marked as a whole, if the engine takes its pattern. -/
theorem markWord_self (hne : r ≠ []) (hr : ∀ c ∈ r, isWordChar c = true) (hesc : '\x1b' ∉ r) :
    h.markWord engine r r = if engine.fits false (wordSource r) then h.wrap r else r := by
  rw [markWord, pattern_wordMatcher]
  split
  case isFalse => exact replaceAll_never _
  have hp : (ofMarkedWord r).InOrder := inOrder_of_read? (read?_markedWord r)
  have hrun : IsRun isWordChar [] r [] := ⟨hne, hr, by simp, by simp⟩
  have hend : ¬ (ofMarkedWord r).Opens ([] ++ r) [] := by
    rintro ⟨s, ys, htext, hcovers⟩
    obtain ⟨a, b, rfl, -, -⟩ := covers_ofMarkedWord.mp hcovers
    simp [hne] at htext
  have hrewrites : (ofMarkedWord r).Rewrites (fun s gs v => gs = [(1, s)] ∧ v = h.wrap s) [] (r ++ [])
      (h.wrap r ++ []) :=
    .piece hne (takes_ofMarkedWord hrun (by simpa using hesc)) ⟨rfl, rfl⟩ (.nil hend)
  rw [List.append_nil, List.append_nil] at hrewrites
  refine hrewrites.replaceAll_eq hp fun m v hv => ?_
  obtain ⟨hgroups, rfl⟩ := hv
  rw [group?_eq _ _ Nat.one_ne_zero, hgroups]
  rfl

/-- Of a match whose two groups hold the same run, this run is marked. -/
theorem targets_of_groups {p : Pattern} {t : Array Char} {m : Match} (hcount : p.groupCount = 3)
    (hne : r ≠ []) (hgroups : m.captures.map (said t) = [(1, r), (2, r)]) : targets p t m = [r] := by
  have hheld : (List.range' 1 (p.groupCount - 1)).filterMap (m.group? t) = [r, r] := by
    have hrange : List.range' 1 (p.groupCount - 1) = [1, 2] := by rw [hcount]; rfl
    have hfirst : m.group? t 1 = some r := by rw [group?_eq _ _ Nat.one_ne_zero, hgroups]; rfl
    have hsecond : m.group? t 2 = some r := by rw [group?_eq _ _ (by decide), hgroups]; rfl
    rw [hrange, List.filterMap_cons_some hfirst, List.filterMap_cons_some hsecond, List.filterMap_nil]
  have hsome : r.isEmpty = false := by simpa using hne
  simp [targets, hheld, hsome, List.eraseDups_cons]

theorem elements_word (hw : IsLetters w) : elements w = [[.word w]] := by
  have hone : ∀ v ∈ [w], IsGlob v := List.forall_mem_singleton.mpr (isGlob_of_isLetters hw)
  simpa using elements_intercalate hone

/-- The pattern of a word, if the engine takes it. -/
theorem pattern_matcherOf_word (hw : IsLetters w) : (matcherOf engine caseSensitive sloppy w).pattern =
    if (style caseSensitive sloppy w).Fits engine w then ofColoredWord (!caseSensitive) w
    else never := by
  have hnot : ∀ c, c.isAlpha = false → c ∉ w := fun c hc hmem =>
    Bool.false_ne_true (hc.symm.trans (hw.isAlpha c hmem))
  have hraw : w.head? ≠ some '&' := fun hhead => hnot '&' (by decide) (List.mem_of_head? hhead)
  have hphrase : (w.contains '*' && !w.contains ' ') = false := by
    simp [hnot '*' (by decide)]
  have hne : elements w ≠ [] := by
    rw [elements_word hw]
    exact List.cons_ne_nil _ _
  rw [pattern_matcherOf_phrase hraw hphrase hne, elements_word hw]
  rfl

/-- **One word**: the runs that are the word are marked, if the engine takes the pattern of the word and
those of the runs. -/
theorem markAll_word (hw : IsLetters w) (hcs : IsOrdinary cs) :
    h.markAll engine cs (matcherOf engine caseSensitive sloppy w).pattern = h.markRuns
      (fun r => ((style caseSensitive sloppy w).Fits engine w ∧ SameWord caseSensitive r w) ∧
        engine.fits false (wordSource r) = true) cs := by
  rw [pattern_matcherOf_word hw]
  split
  · rename_i hfits
    let marked (r : List Char) : List Char := if engine.fits false (wordSource r) then h.wrap r else r
    have hwanted : h.markRuns (fun r => ((style caseSensitive sloppy w).Fits engine w ∧
          SameWord caseSensitive r w) ∧ engine.fits false (wordSource r) = true) cs
        = Text.replaceRuns (fun r => if SameWord caseSensitive r w then marked r else r) cs := by
      rw [markRuns]
      congr 1
      funext r
      by_cases hsame : SameWord caseSensitive r w <;> simp [marked, hfits, hsame]
    have hrewrites : (ofColoredWord (!caseSensitive) w).Rewrites
        (fun s gs v => gs = [(1, s), (2, s)] ∧ SameWord caseSensitive s w ∧ v = marked s) [] cs
        (Text.replaceRuns (fun r => if SameWord caseSensitive r w then marked r else r) cs) := by
      refine rewrites_runs (fun xs s htext => ?_) fun xs r ys htext hrun hsame => ?_
      · rintro ⟨r, ys, rfl, hcovers⟩
        have hesc : '\x1b' ∉ r := fun hmem => hcs.esc (by simp [htext, hmem])
        have hascii : ∀ c ∈ r, isWordChar c = true → c.toNat < 0x80 := fun c hc =>
          hcs.ascii c (by simp [htext, hc])
        obtain ⟨hsame, hrun⟩ := (covers_ofColoredWord hw hesc hascii).mp hcovers
        exact ⟨r, ys, rfl, hrun, by simpa using hsame⟩
      · have hesc : '\x1b' ∉ r ++ ys := fun hmem =>
          hcs.esc (htext ▸ List.mem_append_right xs hmem)
        exact ⟨_, takes_ofColoredWord hw hesc (by simpa using hsame) hrun, rfl, hsame, rfl⟩
    rw [hwanted]
    refine hrewrites.replaceAll_eq (inOrder_ofColoredWord w) fun m v hv => ?_
    obtain ⟨hgroups, hsame, rfl⟩ := hv
    have hletters := hsame.isLetters hw
    have hesc : '\x1b' ∉ m.text cs.toArray := fun hmem =>
      absurd (hletters.isAlpha _ hmem) (by decide)
    rw [markMatch, targets_of_groups (groupCount_ofColoredWord hw) hletters.ne_nil hgroups]
    exact markWord_self hletters.ne_nil
      (fun c hc => Text.isWordChar_of_isAlpha (hletters.isAlpha c hc)) hesc
  · rename_i hrefused
    rw [markAll, replaceAll_never, markRuns_of_not]
    exact fun r hr => hrefused hr.1.1

/-! ### Distinct words -/

/-- The terms are the words as they are. -/
theorem matchers_words {words : List (List Char)} (hwords : ∀ w ∈ words, IsLetters w) :
    matchers engine words caseSensitive sloppy = words.map (matcherOf engine caseSensitive sloppy) := by
  have htrim : ∀ w ∈ words, Text.trim w = w := fun w hw => Text.trim_of_isPart (hwords w hw).isPart
  have hterms : (words.map Text.trim).filter (!·.isEmpty) = words := by
    rw [List.map_congr_left htrim, List.map_id', List.filter_eq_self]
    exact fun w hw => by simpa using (hwords w hw).ne_nil
  rw [matchers, hterms]

/-- Distinct words, one after another. -/
theorem foldl_markAll_words (hmarks : h.HasPlainMarks) {words : List (List Char)}
    (hwords : ∀ w ∈ words, IsLetters w)
    (hdistinct : words.Pairwise fun v w => ¬ SameWord false v w) (hcs : IsOrdinary cs) :
    (words.map fun w => (matcherOf engine caseSensitive sloppy w).pattern).foldl (h.markAll engine) cs
      = h.markRuns (fun r => (∃ w ∈ words, (style caseSensitive sloppy w).Fits engine w ∧
          SameWord caseSensitive r w) ∧ engine.fits false (wordSource r) = true) cs := by
  induction words generalizing cs with
  | nil => exact (h.markRuns_of_not (by simp) cs).symm
  | cons w words ih =>
    obtain ⟨hw, hwords⟩ := List.forall_mem_cons.mp hwords
    obtain ⟨hnew, hdistinct⟩ := List.pairwise_cons.mp hdistinct
    have hother : ∀ r, ((style caseSensitive sloppy w).Fits engine w ∧ SameWord caseSensitive r w) ∧
          engine.fits false (wordSource r) = true →
        ¬ ((∃ v ∈ words, (style caseSensitive sloppy v).Fits engine v ∧ SameWord caseSensitive r v) ∧
          engine.fits false (wordSource r) = true) := by
      rintro r ⟨⟨-, hr⟩, -⟩ ⟨⟨v, hv, -, hr'⟩, -⟩
      exact hnew v hv (hr.symm.ignoreCase.trans hr'.ignoreCase)
    rw [List.map_cons, List.foldl_cons, markAll_word hw hcs,
      ih hwords hdistinct (hcs.markRuns hmarks _), markRuns_markRuns hmarks hother]
    refine h.markRuns_congr (fun r => ?_) cs
    rw [← or_and_right]
    simp only [List.mem_cons, exists_eq_or_imp]

theorem isOrdinary_trim {text : List Char} (hascii : IsAscii text) (hesc : '\x1b' ∉ text) :
    IsOrdinary (Text.trim text) :=
  ⟨fun h => hesc (Text.trim_subset text h), fun c hc _ => hascii c (Text.trim_subset text hc)⟩

/-- **Words are marked exactly.** Let the terms be words of letters, no two of which are the same up to
case, and let the marks have neither word characters nor escape signs. In a text within ASCII and without
escape signs, the maximal runs of word characters are marked, once each, that are one of the words, up to
case unless case counts. Only a word whose pattern the engine refuses is not looked for, and a run whose
own pattern it refuses is not marked. Blanks at the ends of the text are dropped, and all else stays as it
is. -/
theorem mark_words (hmarks : h.HasPlainMarks) (engine : Engine) (caseSensitive sloppy : Bool)
    {words : List (List Char)} (hwords : ∀ w ∈ words, IsLetters w)
    (hdistinct : words.Pairwise fun v w => ¬ SameWord false v w) {text : List Char}
    (hascii : IsAscii text) (hesc : '\x1b' ∉ text) :
    h.mark engine (matchers engine words caseSensitive sloppy) text
      = h.markRuns (fun r => (∃ w ∈ words, (style caseSensitive sloppy w).Fits engine w ∧
          SameWord caseSensitive r w) ∧ engine.fits false (wordSource r) = true) (Text.trim text) := by
  rw [mark, matchers_words hwords, List.map_map]
  exact foldl_markAll_words hmarks hwords hdistinct (isOrdinary_trim hascii hesc)

/-- In ` Light, and God saw the light: gods ` two words are looked for, and three are marked. -/
theorem mark_words_light :
    (⟨['*'], ['-', '*']⟩ : Highlight).HasPlainMarks ∧
      (∀ w ∈ ["god".toList, "light".toList], IsLetters w) ∧
      ["god".toList, "light".toList].Pairwise (fun v w => ¬ SameWord false v w) ∧
      IsAscii " Light, and God saw the light: gods ".toList ∧
      '\x1b' ∉ " Light, and God saw the light: gods ".toList ∧
      (⟨['*'], ['-', '*']⟩ : Highlight).mark .unlimited
        (matchers .unlimited ["god".toList, "light".toList] false true)
        " Light, and God saw the light: gods ".toList
          = "*Light-*, and *God-* saw the *light-*: gods".toList := by
  have hmarks : (⟨['*'], ['-', '*']⟩ : Highlight).HasPlainMarks := by decide
  have hwords : ∀ w ∈ ["god".toList, "light".toList], IsLetters w := by decide
  have hdistinct : ["god".toList, "light".toList].Pairwise fun v w => ¬ SameWord false v w := by
    decide
  have hascii : IsAscii " Light, and God saw the light: gods ".toList := by simp [IsAscii]
  have hesc : '\x1b' ∉ " Light, and God saw the light: gods ".toList := by decide
  have hmark := mark_words hmarks .unlimited false true hwords hdistinct hascii hesc
  exact ⟨hmarks, hwords, hdistinct, hascii, hesc, hmark.trans (by decide +kernel)⟩

/-! ### Words that are too long -/

/-- A text of one word that is to be marked. -/
theorem markRuns_self (hw : IsLetters w) :
    h.markRuns (fun r => ∃ v ∈ [w], SameWord caseSensitive r v) w = h.wrap w := by
  have hself : ∃ v ∈ [w], SameWord caseSensitive w v :=
    ⟨w, List.mem_singleton_self w, by cases caseSensitive <;> rfl⟩
  have hend : ∀ c ∈ ([] : List Char).head?, isWordChar c = false := by simp
  have hrun := Text.replaceRuns_run
    (g := fun r => if ∃ v ∈ [w], SameWord caseSensitive r v then h.wrap r else r) hw.ne_nil
    (fun c hc => Text.isWordChar_of_isAlpha (hw.isAlpha c hc)) hend
  rw [List.append_nil, Text.replaceRuns_nil, List.append_nil, if_pos hself] at hrun
  exact hrun

/-- Nothing is marked for a word that the engine refuses. -/
theorem mark_of_not_fits (hw : IsLetters w) (hrefused : ¬ (style caseSensitive sloppy w).Fits engine w)
    (cs : List Char) : h.mark engine (matchers engine [w] caseSensitive sloppy) cs = Text.trim cs := by
  rw [mark, matchers_words (List.forall_mem_singleton.mpr hw), List.map_map, List.map_singleton,
    List.foldl_cons, List.foldl_nil, Function.comp_apply, pattern_matcherOf_word hw, if_neg hrefused,
    markAll, replaceAll_never]

/-- The text of the pattern of a word has the word in it. -/
theorem length_le_length_source (hw : IsLetters w) :
    w.length ≤ ((style caseSensitive sloppy w).source w).length := by
  have hexpand : expandWildcards w = w := by
    have hself : ∀ c ∈ w, (if c = '*' then anyRun else [c]) = [c] := by
      intro c hc
      refine if_neg ?_
      rintro rfl
      exact absurd (hw.isAlpha _ hc) (by decide)
    rw [expandWildcards, List.flatMap_congr hself, List.flatMap_singleton']
  simp [source, style, elements_word hw, termSource, bounded, hexpand, List.intercalate]
  omega

/-- A text of one word that is too long is not marked for that word. -/
theorem mark_replicate_ne {n : Nat} (hn : 20000 < n) :
    (⟨['['], [']']⟩ : Highlight).HasPlainMarks ∧ IsLetters (List.replicate n 'a') ∧
      IsAscii (List.replicate n 'a') ∧ '\x1b' ∉ List.replicate n 'a' ∧
      (⟨['['], [']']⟩ : Highlight).mark (.upTo 20000)
        (matchers (.upTo 20000) [List.replicate n 'a'] false false) (List.replicate n 'a')
        ≠ (⟨['['], [']']⟩ : Highlight).markRuns
          (fun r => ∃ w ∈ [List.replicate n 'a'], SameWord false r w)
          (Text.trim (List.replicate n 'a')) := by
  have hletter : ∀ c ∈ List.replicate n 'a', c = 'a' := fun c hc => (List.mem_replicate.mp hc).2
  have hletters : IsLetters (List.replicate n 'a') := by
    refine ⟨fun h => ?_, fun c hc => ?_⟩
    · rw [List.replicate_eq_nil_iff] at h
      omega
    · rw [hletter c hc]
      decide
  have hrefused : ¬ (style false false (List.replicate n 'a')).Fits (.upTo 20000)
      (List.replicate n 'a') := by
    have hlong := @length_le_length_source _ false false hletters
    rw [List.length_replicate] at hlong
    rw [Fits, Engine.upTo, decide_eq_true_eq]
    omega
  refine ⟨by decide, hletters, hletters.isAscii, fun h => absurd (hletter _ h) (by decide), ?_⟩
  have hunmarked : (⟨['['], [']']⟩ : Highlight).mark (.upTo 20000)
      (matchers (.upTo 20000) [List.replicate n 'a'] false false) (List.replicate n 'a')
        = Text.trim (List.replicate n 'a') :=
    mark_of_not_fits hletters hrefused _
  rw [hunmarked, Text.trim_of_isPart hletters.isPart, markRuns_self hletters]
  intro heq
  have hlength := congrArg List.length heq
  simp only [wrap, List.length_append, List.length_singleton] at hlength
  omega

/-- Not all words are marked: one of 150000 letters is not, by an engine that takes texts of up to 20000
characters. -/
theorem mark_words_long :
    (⟨['['], [']']⟩ : Highlight).HasPlainMarks ∧ IsLetters (List.replicate 150000 'a') ∧
      IsAscii (List.replicate 150000 'a') ∧ '\x1b' ∉ List.replicate 150000 'a' ∧
      (⟨['['], [']']⟩ : Highlight).mark (.upTo 20000)
        (matchers (.upTo 20000) [List.replicate 150000 'a'] false false) (List.replicate 150000 'a')
        ≠ (⟨['['], [']']⟩ : Highlight).markRuns
          (fun r => ∃ w ∈ [List.replicate 150000 'a'], SameWord false r w)
          (Text.trim (List.replicate 150000 'a')) :=
  mark_replicate_ne (by decide)

end Highlight

end Concordance
