import Concordance.Proofs.Highlight.Seams

/-!
# Words that are not taken for marks

Whether what is looked for may be found within a mark depends on how its words start and end. A word is
clear if it does not start with a wildcard, nor as the digit and the letter of a mark, or with the letter
and no word character after it; and if it ends with a word character, wildcards aside. What a clear word
matches is a clear text. Numbers are clear, whatever they are.

## Main definitions

* `Highlight.IsClear` — a word that is not taken for what a mark ends with

## Main results

* `Highlight.isClearText_of_covers` — what a clear word matches is a clear text
* `Highlight.isClear_of_isLetters` — words of letters are clear, unless they are the letter of the marks
* `Highlight.isClear_upper` — numbers are clear
-/

namespace Concordance

namespace Highlight

open Pattern
open Markup (IsNumber isLanguageAnyCase)
open Text (isWordChar upper)

/-- A word, in which `*` stands for any run of word characters, is not taken for what a mark ends with. -/
structure IsClear (ignoreCase : Bool) (w : List Char) : Prop where
  /-- The sign that marks start with is not in it. -/
  sign : '\x1b' ∉ w
  /-- It does not start with a wildcard. -/
  head : w.head? ≠ some '*'
  /-- It does not go on with a wildcard, or with the letter of a mark, after the digit. -/
  digit : w.head? = some '7' →
    w.tail.head?.all (fun c => c != '*' && !(Pattern.setOf ignoreCase c).mem 'm') = true
  /-- After the letter of a mark it goes on with a word character. -/
  letter : w.head?.any (fun c => (Pattern.setOf ignoreCase c).mem 'm') = true →
    w.tail.head?.any (fun c => c != '*' && isWordChar c) = true
  /-- It ends with a word character, but for wildcards. -/
  last : (w.filter (· != '*')).getLast?.any isWordChar = true

instance (ignoreCase : Bool) (w : List Char) : Decidable (IsClear ignoreCase w) :=
  decidable_of_iff ('\x1b' ∉ w ∧ w.head? ≠ some '*' ∧ (w.head? = some '7' →
      w.tail.head?.all (fun c => c != '*' && !(Pattern.setOf ignoreCase c).mem 'm') = true) ∧
      (w.head?.any (fun c => (Pattern.setOf ignoreCase c).mem 'm') = true →
        w.tail.head?.any (fun c => c != '*' && isWordChar c) = true) ∧
      (w.filter (· != '*')).getLast?.any isWordChar = true)
    ⟨fun ⟨h₁, h₂, h₃, h₄, h₅⟩ => ⟨h₁, h₂, h₃, h₄, h₅⟩,
      fun h => ⟨h.sign, h.head, h.digit, h.letter, h.last⟩⟩

variable {ignoreCase : Bool} {c d : Char} {w xs r ys cs : List Char}

/-! ### Characters -/

theorem mem_setOf_comm : (Pattern.setOf ignoreCase c).mem d = (Pattern.setOf ignoreCase d).mem c := by
  cases ignoreCase with
  | false => simp [Pattern.setOf, Bool.beq_comm]
  | true => exact Bool.beq_comm ..

/-- A sign without case is alike no other sign. -/
theorem eq_of_mem_setOf_sign (hd : d.toNat < 0x80) (hcase : d.isAlpha = false) (hzero : d ≠ '\x00')
    (h : (Pattern.setOf ignoreCase c).mem d = true) : c = d :=
  eq_of_mem_setOf hd hcase hzero (mem_setOf_comm ▸ h)

/-- But for wildcards, the first character of a word matches one character. -/
theorem covers_cons_of_ne (hc : c ≠ '*') :
    (Pattern.ofSeq ((c :: w).map (ofChar ignoreCase))).Covers xs r ys ↔
      ∃ d r', r = d :: r' ∧ (Pattern.setOf ignoreCase c).mem d = true ∧
        (Pattern.ofSeq (w.map (ofChar ignoreCase))).Covers (xs ++ [d]) r' ys := by
  rw [List.map_cons, covers_ofSeq_cons, ofChar, if_neg hc]
  simp only [covers_set]
  constructor
  · rintro ⟨_, r', rfl, ⟨d, rfl, hd⟩, hrest⟩
    exact ⟨d, r', rfl, hd, hrest⟩
  · rintro ⟨d, r', rfl, hd, hrest⟩
    exact ⟨[d], r', rfl, ⟨d, rfl, hd⟩, hrest⟩

/-! ### Words -/

/-- Nothing but wildcards matches nothing. -/
theorem eq_star_of_covers_nil (h : (Pattern.ofSeq (w.map (ofChar ignoreCase))).Covers xs [] ys) :
    ∀ c ∈ w, c = '*' := by
  induction w generalizing xs with
  | nil => exact List.forall_mem_nil _
  | cons c w ih =>
    have hc : c = '*' := by
      by_contra hc
      obtain ⟨d, r', hr, -⟩ := (covers_cons_of_ne hc).mp h
      cases hr
    obtain ⟨r₁, r₂, hr, -, hrest⟩ := covers_ofSeq_cons.mp h
    obtain ⟨rfl, rfl⟩ := List.append_eq_nil_iff.mp hr.symm
    exact List.forall_mem_cons.mpr ⟨hc, ih hrest⟩

/-- What a word matches ends with a word character if the word does, but for wildcards. -/
theorem isWordChar_last_of_covers (hw : ∀ c ∈ (w.filter (· != '*')).getLast?, isWordChar c = true)
    (h : (Pattern.ofSeq (w.map (ofChar ignoreCase))).Covers xs r ys) :
    ∀ d ∈ r.getLast?, isWordChar d = true := by
  induction w generalizing xs r with
  | nil =>
    obtain rfl := covers_ofSeq_nil.mp h
    simp
  | cons c w ih =>
    have hw' : ∀ e ∈ (w.filter (· != '*')).getLast?, isWordChar e = true := by
      intro e he
      refine hw e ?_
      rw [List.filter_cons]
      split
      · rw [List.getLast?_cons, Option.mem_def.mp he]
        rfl
      · exact he
    obtain ⟨r₁, r₂, rfl, hfirst, hrest⟩ := covers_ofSeq_cons.mp h
    by_cases hr₂ : r₂ = []
    · subst hr₂
      intro d hd
      rw [List.append_nil] at hd
      rw [ofChar] at hfirst
      split at hfirst
      · exact coversAll_set.mp (covers_repeated.mp hfirst) d (List.mem_of_getLast? hd)
      · rename_i hc
        obtain ⟨e, rfl, he⟩ := covers_set.mp hfirst
        obtain rfl : e = d := by simpa using hd
        have hrest' := eq_star_of_covers_nil hrest
        rw [← Text.isWordChar_eq_of_alike (alike_of_mem_setOf he)]
        refine hw c ?_
        rw [List.filter_cons_of_pos (by simpa using hc),
          List.filter_eq_nil_iff.mpr fun e he => by simp [hrest' e he]]
        rfl
    · intro d hd
      rw [List.getLast?_append_of_ne_nil _ hr₂] at hd
      exact ih hw' hrest d hd

/-- **What a clear word matches is a clear text.** -/
theorem isClearText_of_covers (hw : IsClear ignoreCase w)
    (h : (Pattern.ofSeq (w.map (ofChar ignoreCase))).Covers xs r ys) : IsClearText r := by
  have hlast : ∀ c ∈ (w.filter (· != '*')).getLast?, isWordChar c = true := by
    intro c hc
    have hw' := hw.last
    rwa [Option.mem_def.mp hc] at hw'
  obtain ⟨c, w, rfl⟩ : ∃ c w', w = c :: w' := by
    refine List.exists_cons_of_ne_nil ?_
    rintro rfl
    cases hw.last
  have hc : c ≠ '*' := fun hc => hw.head (congrArg some hc)
  obtain ⟨d, r', rfl, hd, hrest⟩ := (covers_cons_of_ne hc).mp h
  refine ⟨fun hmem => ?_, fun g' hg => ?_, fun g' hg => ?_, ?_⟩
  · rcases isWordChar_or_mem_of_covers h _ hmem with hword | ⟨e, he, hsign⟩
    · exact absurd hword (by decide)
    · exact hw.sign (eq_of_mem_setOf_sign (by decide) (by decide) (by decide) hsign ▸ he)
  · obtain ⟨rfl, rfl⟩ := List.cons.inj hg
    obtain rfl := eq_of_mem_setOf_sign (by decide) (by decide) (by decide) hd
    have hnext := hw.digit rfl
    cases w with
    | nil => cases covers_ofSeq_nil.mp hrest
    | cons e w =>
      obtain ⟨he, hletter⟩ : e ≠ '*' ∧ (Pattern.setOf ignoreCase e).mem 'm' = false := by
        simpa using hnext
      obtain ⟨_, _, heq, hmem, -⟩ := (covers_cons_of_ne he).mp hrest
      obtain ⟨rfl, -⟩ := List.cons.inj heq
      rw [hletter] at hmem
      cases hmem
  · obtain ⟨rfl, rfl⟩ := List.cons.inj hg
    have hnext := hw.letter hd
    cases w with
    | nil => cases hnext
    | cons e w =>
      obtain ⟨he, hword⟩ : e ≠ '*' ∧ isWordChar e = true := by simpa using hnext
      obtain ⟨f, _, rfl, hmem, -⟩ := (covers_cons_of_ne he).mp hrest
      rw [Text.isWordChar_eq_of_alike (alike_of_mem_setOf hmem)] at hword
      exact hword
  · have hall := isWordChar_last_of_covers hlast h
    cases hr : (d :: r').getLast? with
    | none => simp at hr
    | some e => exact hall e hr

/-- **A word of letters is clear**, unless it is the letter of the marks alone. -/
theorem isClear_of_isLetters (hw : Text.IsLetters w) (hletter : w.map Char.toLower ≠ ['m']) :
    IsClear ignoreCase w := by
  have hother : ∀ {c}, c.isAlpha = false → c ∉ w := fun hc hmem =>
    Bool.false_ne_true (hc.symm.trans (hw.isAlpha _ hmem))
  have hfilter : w.filter (· != '*') = w := by
    refine List.filter_eq_self.mpr fun c hc => bne_iff_ne.mpr ?_
    rintro rfl
    exact hother (by decide) hc
  refine ⟨hother (by decide), fun hhead => ?_, fun hhead => ?_, fun hmem => ?_, ?_⟩
  · exact absurd (List.mem_of_head? hhead) (hother (by decide))
  · exact absurd (List.mem_of_head? hhead) (hother (by decide))
  · obtain ⟨c, w, rfl⟩ := List.exists_cons_of_ne_nil hw.ne_nil
    obtain ⟨hc, hrest⟩ := List.forall_mem_cons.mp hw.isAlpha
    cases w with
    | nil =>
      refine absurd ?_ hletter
      have hfold : Text.fold c = Text.fold 'm' := eq_of_beq (alike_of_mem_setOf hmem)
      rw [Text.fold_of_ascii (Text.toNat_of_isAlpha hc), Text.fold_of_ascii (by decide)] at hfold
      exact congrArg (fun c => [c]) hfold
    | cons d w =>
      have hd := hrest d List.mem_cons_self
      have hstar : d ≠ '*' := by
        rintro rfl
        exact absurd hd (by decide)
      simp [hstar, Text.isWordChar_of_isAlpha hd]
  · rw [hfilter, List.getLast?_eq_some_getLast hw.ne_nil]
    exact Text.isWordChar_of_isAlpha (hw.isAlpha _ (List.getLast_mem hw.ne_nil))

/-! ### Numbers and tags -/

/-- Without wildcards, all characters of a word stand for themselves. -/
theorem map_ofChar_eq_ofLiteral (hw : '*' ∉ w) : w.map (ofChar ignoreCase) = ofLiteral ignoreCase w :=
  List.map_congr_left fun c hc => if_neg fun (heq : c = '*') => hw (heq ▸ hc)

/-- Putting a text in upper case brings in no sign. -/
theorem notMem_upper (hc : c.toNat < 0x80) (hcase : c.isUpper = false) (hzero : c ≠ '\x00')
    (h : c ∉ cs) : c ∉ upper cs :=
  fun hmem => h (Text.mem_of_mem_upper hmem hc hcase hzero)

/-- **Numbers are clear.** -/
theorem isClear_upper (h : IsNumber isLanguageAnyCase cs) : IsClear ignoreCase (upper cs) := by
  obtain ⟨l, ds, rfl, hl, -, hds⟩ := h
  have hletter : l = 'G' ∨ l = 'H' ∨ l = 'g' ∨ l = 'h' := by
    simpa [isLanguageAnyCase, Markup.isLanguage, or_assoc] using hl
  have hword : ∀ c ∈ upper (l :: ds), isWordChar c = true := by
    refine Text.isWordChar_of_mem_upper (List.forall_mem_cons.mpr ⟨?_, fun d hd =>
      Text.isWordChar_of_isDigit (hds d hd)⟩)
    rcases hletter with rfl | rfl | rfl | rfl <;> decide
  obtain ⟨c, hc, hupper⟩ : ∃ c, (c = 'G' ∨ c = 'H') ∧ upper (l :: ds) = c :: upper ds := by
    rcases hletter with rfl | rfl | rfl | rfl
    · exact ⟨'G', .inl rfl, rfl⟩
    · exact ⟨'H', .inr rfl, rfl⟩
    · exact ⟨'G', .inl rfl, rfl⟩
    · exact ⟨'H', .inr rfl, rfl⟩
  have hmark : ∀ b, (Pattern.setOf b 'G').mem 'm' = false ∧ (Pattern.setOf b 'H').mem 'm' = false := by
    decide
  rw [hupper] at hword ⊢
  have hother : ∀ {d : Char}, isWordChar d = false → d ∉ c :: upper ds := by
    intro d hd hmem
    rw [hword d hmem] at hd
    cases hd
  have hfilter : (c :: upper ds).filter (· != '*') = c :: upper ds := by
    refine List.filter_eq_self.mpr fun d hd => bne_iff_ne.mpr ?_
    rintro rfl
    exact hother (by decide) hd
  refine ⟨hother (by decide), ?_, ?_, ?_, ?_⟩
  · rcases hc with rfl | rfl <;> simp
  · rcases hc with rfl | rfl <;> simp
  · rcases hc with rfl | rfl <;> simp [hmark]
  · rw [hfilter, List.getLast?_eq_some_getLast (List.cons_ne_nil _ _)]
    exact hword _ (List.getLast_mem _)

end Highlight

end Concordance
