import Mathlib.Data.List.Forall2
import Concordance.Proofs.Pattern.Order
import Concordance.Proofs.Pattern.Pieces

/-!
# Where the words of a phrase match

The pattern of a word has an edge of a word on either side, and so it matches nothing but a maximal
run of word characters. Which runs it matches goes by characters, where these fold to their lower case.
Hence wherever a phrase matches, each of its words is such a run: this is what makes it safe to look
for a phrase only in texts that have all of its words.

## Main definitions

* `Pattern.GlobMatches` — a word with wildcards matches a word

## Main results

* `Pattern.covers_ofWord` — the pattern of a word matches the runs that the word matches
* `Pattern.exists_run_of_isMatch` — a text in which a phrase matches has all of its words
* `Pattern.sameOutcomes_ofWords_lower` — the spelling of words does not matter where case is ignored
-/

namespace Concordance

namespace Pattern

open Text (IsAscii IsLetters IsRun SameWord isWordChar runs)

variable {ignoreCase sloppy : Bool} {xs r ys w : List Char}

/-! ### Characters -/

/-- The set of a character has what agrees with it, up to case unless case counts. -/
theorem mem_setOf_iff {c d : Char} (hc : Text.fold c = c.toLower) (hd : Text.fold d = d.toLower) :
    (setOf ignoreCase c).mem d = true ↔ SameWord (!ignoreCase) [d] [c] := by
  cases ignoreCase with
  | false => simp [setOf, SameWord]
  | true =>
    change (Text.fold c == Text.fold d) = true ↔ [d.toLower] = [c.toLower]
    rw [hc, hd, beq_iff_eq, List.singleton_inj, eq_comm]

/-- What agrees with a letter is a word character. -/
theorem isWordChar_of_sameWord {caseSensitive : Bool} {c d : Char} (hc : c.isAlpha = true)
    (h : SameWord caseSensitive [d] [c]) : isWordChar d = true := by
  have hlower : d.toLower = c.toLower := List.singleton_inj.mp h.ignoreCase
  exact Text.isWordChar_of_isAlpha
    (Text.isAlpha_of_toLower (hlower ▸ Text.isAlpha_toLower hc))

/-! ### Words -/

theorem sameWord_cons {caseSensitive : Bool} {c d : Char} {r w : List Char}
    (h : SameWord caseSensitive [d] [c]) (h' : SameWord caseSensitive r w) :
    SameWord caseSensitive (d :: r) (c :: w) := by
  cases caseSensitive with
  | true =>
    obtain rfl : r = w := h'
    obtain rfl : d = c := List.singleton_inj.mp h
    rfl
  | false =>
    have hhead : d.toLower = c.toLower := List.singleton_inj.mp h
    have htail : r.map Char.toLower = w.map Char.toLower := h'
    change d.toLower :: r.map Char.toLower = c.toLower :: w.map Char.toLower
    rw [hhead, htail]

/-- A word with wildcards matches a word: a `*` stands for any run of word characters, and every other
character for itself, up to case unless case counts. -/
inductive GlobMatches (caseSensitive : Bool) : (glob word : List Char) → Prop
  /-- Nothing is left. -/
  | nil : GlobMatches caseSensitive [] []
  /-- A character stands for itself. -/
  | char {c d : Char} {glob word : List Char} (other : c ≠ '*')
      (same : SameWord caseSensitive [d] [c]) (rest : GlobMatches caseSensitive glob word) :
      GlobMatches caseSensitive (c :: glob) (d :: word)
  /-- A wildcard stands for a run of word characters. -/
  | star {run glob word : List Char} (isWord : ∀ c ∈ run, isWordChar c = true)
      (rest : GlobMatches caseSensitive glob word) :
      GlobMatches caseSensitive ('*' :: glob) (run ++ word)

/-- Where there is a letter to be matched, there is something that matches. -/
theorem GlobMatches.ne_nil {caseSensitive : Bool} (h : GlobMatches caseSensitive w r)
    (hw : ∃ c ∈ w, c.isAlpha = true) : r ≠ [] := by
  obtain ⟨c, hc, halpha⟩ := hw
  induction h with
  | nil => cases hc
  | char _ _ _ _ => exact List.cons_ne_nil _ _
  | star _ _ ih =>
    rcases List.mem_cons.mp hc with rfl | hc
    · exact absurd halpha (by decide)
    · exact List.append_ne_nil_of_right_ne_nil _ (ih hc)

/-- Word characters are all that matches. -/
theorem GlobMatches.isWordChar {caseSensitive : Bool} (h : GlobMatches caseSensitive w r)
    (hw : ∀ c ∈ w, c.isAlpha = true ∨ c = '*') : ∀ c ∈ r, isWordChar c = true := by
  induction h with
  | nil => simp
  | char other same _ ih =>
    obtain ⟨hc, hw⟩ := List.forall_mem_cons.mp hw
    exact List.forall_mem_cons.mpr ⟨isWordChar_of_sameWord (hc.resolve_right other) same, ih hw⟩
  | star isWord _ ih =>
    obtain ⟨-, hw⟩ := List.forall_mem_cons.mp hw
    exact List.forall_mem_append.mpr ⟨isWord, ih hw⟩

/-- Without wildcards, what matches is the same word. -/
theorem GlobMatches.sameWord {caseSensitive : Bool} (h : GlobMatches caseSensitive w r)
    (hw : ∀ c ∈ w, c.isAlpha = true) : SameWord caseSensitive r w := by
  induction h with
  | nil => cases caseSensitive <;> rfl
  | char _ same _ ih => exact sameWord_cons same (ih (List.forall_mem_cons.mp hw).2)
  | star _ _ _ => exact absurd (hw '*' List.mem_cons_self) (by decide)

/-- The same word is matched. -/
theorem globMatches_of_sameWord {caseSensitive : Bool} (hw : ∀ c ∈ w, c.isAlpha = true)
    (h : SameWord caseSensitive r w) : GlobMatches caseSensitive w r := by
  induction w generalizing r with
  | nil =>
    obtain rfl : r = [] := List.map_eq_nil_iff.mp h.ignoreCase
    exact .nil
  | cons c w ih =>
    obtain ⟨hc, hw⟩ := List.forall_mem_cons.mp hw
    have hstar : c ≠ '*' := by
      rintro rfl
      exact absurd hc (by decide)
    cases caseSensitive with
    | true =>
      obtain rfl : r = c :: w := h
      exact .char hstar rfl (ih hw rfl)
    | false =>
      obtain ⟨d, r, rfl, hd, hr⟩ := List.map_eq_cons_iff.mp h
      exact .char hstar (List.singleton_inj.mpr hd) (ih hw hr)

/-- The characters of a word fold to their lower case. -/
theorem IsGlob.fold_eq (hw : IsGlob w) : ∀ c ∈ w, Text.fold c = c.toLower := fun c hc =>
  Text.fold_of_ascii (hw.isAscii c hc)

/-- The characters of a word are matched one after another. -/
theorem covers_chars (hw : ∀ c ∈ w, Text.fold c = c.toLower)
    (hr : ∀ c ∈ r, Text.fold c = c.toLower) :
    (ofSeq (w.map (ofChar ignoreCase))).Covers xs r ys ↔ GlobMatches (!ignoreCase) w r := by
  induction w generalizing xs r with
  | nil =>
    rw [List.map_nil, covers_ofSeq_nil]
    constructor
    · rintro rfl
      exact .nil
    · rintro (_ | _ | _)
      rfl
  | cons c w ih =>
    obtain ⟨hc, hrest⟩ := List.forall_mem_cons.mp hw
    rw [List.map_cons, covers_ofSeq_cons]
    by_cases hstar : c = '*'
    · subst hstar
      simp only [ofChar, if_true, covers_repeated, coversAll_set]
      constructor
      · rintro ⟨v, r, rfl, hv, h⟩
        exact .star hv ((ih hrest (List.forall_mem_append.mp hr).2).mp h)
      · intro h
        cases h with
        | char other _ _ => exact absurd rfl other
        | @star v _ r isWord rest =>
          exact ⟨v, r, rfl, isWord, (ih hrest (List.forall_mem_append.mp hr).2).mpr rest⟩
    · simp only [ofChar, if_neg hstar, covers_set]
      constructor
      · rintro ⟨_, r, rfl, ⟨d, rfl, hset⟩, h⟩
        obtain ⟨hd, hr⟩ := List.forall_mem_cons.mp hr
        exact .char hstar ((mem_setOf_iff hc hd).mp hset) ((ih hrest hr).mp h)
      · intro h
        cases h with
        | @char _ d _ r other same rest =>
          obtain ⟨hd, hr⟩ := List.forall_mem_cons.mp hr
          exact ⟨[d], r, rfl, ⟨d, rfl, (mem_setOf_iff hc hd).mpr same⟩, (ih hrest hr).mpr rest⟩
        | star _ _ => exact absurd rfl hstar

/-- **The pattern of a word matches the runs that the word matches.** -/
theorem covers_ofWord {count : Nat} (hw : IsGlob w) (hr : ∀ c ∈ r, Text.fold c = c.toLower) :
    (ofWord ignoreCase count w).Covers xs r ys ↔
      GlobMatches (!ignoreCase) w r ∧ IsRun isWordChar xs r ys := by
  have hchars : ∀ index, (group index (ofSeq (w.map (ofChar ignoreCase)))).Covers xs r ys ↔
      GlobMatches (!ignoreCase) w r := fun _ => covers_chars hw.fold_eq hr
  rw [← hchars (count + 2)]
  refine covers_between_edges fun h => ?_
  have hmatch := (hchars (count + 2)).mp h
  exact ⟨hmatch.ne_nil hw.exists_isAlpha, hmatch.isWordChar hw.isAlpha_or_star⟩

/-! ### Bounds -/

/-- The pattern of a phrase of words is read, and so its bounds are in order. -/
theorem inOrder_ofWords {ws : List (List Char)} (hws : ∀ w ∈ ws, IsGlob w) :
    (ofWords ignoreCase sloppy ws).InOrder := by
  by_cases hne : ws = []
  · subst hne
    trivial
  · have hread := @PhraseStyle.read?_source ws (!ignoreCase) sloppy hne hws
    rw [Bool.not_not] at hread
    exact inOrder_of_read? hread

/-! ### Phrases -/

/-- The pattern of a word is among the items of its phrase. -/
theorem exists_ofWord_mem_wordItems {count : Nat} {ws : List (List Char)} (h : w ∈ ws) :
    ∃ n, ofWord ignoreCase n w ∈ wordItems ignoreCase sloppy count ws := by
  fun_induction wordItems ignoreCase sloppy count ws with
  | case1 => cases h
  | case2 count v =>
    obtain rfl := List.mem_singleton.mp h
    exact ⟨count, List.mem_singleton.mpr rfl⟩
  | case3 count v ws _ ih =>
    rcases List.mem_cons.mp h with rfl | h
    · exact ⟨count, List.mem_cons_self⟩
    · obtain ⟨n, hn⟩ := ih h
      exact ⟨n, List.mem_cons_of_mem _ (List.mem_cons_of_mem _ hn)⟩

/-- **A text in which a phrase matches has all of its words.** -/
theorem exists_run_of_isMatch {cs : List Char} {ws : List (List Char)} (hcs : IsAscii cs)
    (hws : ∀ w ∈ ws, IsLetters w) (h : (ofWords ignoreCase sloppy ws).isMatch cs.toArray = true) :
    ∀ w ∈ ws, ∃ r ∈ runs isWordChar cs, SameWord (!ignoreCase) r w := by
  intro w hw
  obtain ⟨xs, _, rfl, r, ys, rfl, hall⟩ :=
    (isMatch_iff_opens (inOrder_ofWords fun w hw => isGlob_of_isLetters (hws w hw))).mp h
  obtain ⟨n, hn⟩ : ∃ n, ofWord ignoreCase n w ∈ wordItems ignoreCase sloppy 0 ws :=
    exists_ofWord_mem_wordItems hw
  obtain ⟨xs', r', ys', htext, hword⟩ := exists_covers_of_mem hall hn
  rw [← List.append_assoc, htext] at hcs ⊢
  obtain ⟨hmatch, hrun⟩ := (covers_ofWord (isGlob_of_isLetters (hws w hw)) fun c hc =>
    Text.fold_of_ascii (hcs c (by simp [hc]))).mp hword
  exact ⟨r', hrun.mem_runs, hmatch.sameWord (hws w hw).isAlpha⟩

/-! ### Spelling -/

/-- Two patterns have the same outcomes everywhere. -/
def SameOutcomes (p q : Pattern) : Prop := ∀ t i, p.outcomes t i = q.outcomes t i

theorem SameOutcomes.seq {p p' q q' : Pattern} (hp : SameOutcomes p p') (hq : SameOutcomes q q') :
    SameOutcomes (.seq p q) (.seq p' q') := by
  intro t i
  have hrest : q.outcomes t = q'.outcomes t := funext fun j => hq t j
  rw [outcomes, outcomes, hp t i, hrest]

theorem SameOutcomes.group {p p' : Pattern} (hp : SameOutcomes p p') (index : Nat) :
    SameOutcomes (.group index p) (.group index p') := by
  intro t i
  rw [outcomes, outcomes, hp t i]

theorem sameOutcomes_set {s s' : CharSet} (h : ∀ c, s.mem c = s'.mem c) :
    SameOutcomes (.set s) (.set s') := by
  intro t i
  simp only [outcomes, h]

theorem sameOutcomes_ofSeq {ps qs : List Pattern} (h : List.Forall₂ SameOutcomes ps qs) :
    SameOutcomes (ofSeq ps) (ofSeq qs) := by
  induction h with
  | nil => exact fun _ _ => rfl
  | cons hfirst hrest ih =>
    cases hrest with
    | nil => exact hfirst
    | cons _ _ => exact hfirst.seq ih

theorem SameOutcomes.isMatch_eq {p q : Pattern} (h : SameOutcomes p q) (t : Array Char) :
    p.isMatch t = q.isMatch t := by
  have hamong : ∀ count i, p.findAmong t count i = q.findAmong t count i := by
    intro count
    induction count with
    | zero => exact fun _ => rfl
    | succ count ih =>
      intro i
      rw [findAmong, findAmong, matchAt?, matchAt?, h t i, ih]
  rw [isMatch, isMatch, find?, find?, findFrom?, findFrom?, hamong]

/-- The spelling of a letter does not matter where case is ignored. -/
theorem mem_setOf_toLower {c : Char} (hc : c.isAlpha = true) (d : Char) :
    (setOf true c.toLower).mem d = (setOf true c).mem d := by
  have hfold : Text.fold c.toLower = Text.fold c := by
    rw [Text.fold_of_ascii (Text.toNat_of_isAlpha hc),
      Text.fold_of_ascii (Text.toNat_of_isAlpha (Text.isAlpha_toLower hc)),
      Text.toLower_toLower (Text.toNat_of_isAlpha hc)]
  simp [setOf, CharSet.mem, Text.alike, hfold]

/-- Letters stand for themselves. -/
theorem map_ofChar (hw : ∀ c ∈ w, c.isAlpha = true) :
    w.map (ofChar ignoreCase) = w.map fun c => .set (setOf ignoreCase c) := by
  refine List.map_congr_left fun c hc => if_neg ?_
  rintro rfl
  exact absurd (hw '*' hc) (by decide)

theorem sameOutcomes_ofWord_lower {count : Nat} (hw : IsLetters w) :
    SameOutcomes (ofWord true count (Text.lower w)) (ofWord true count w) := by
  have hletters : SameOutcomes (ofSeq ((Text.lower w).map (ofChar true)))
      (ofSeq (w.map (ofChar true))) := by
    rw [map_ofChar hw.lower.isAlpha, map_ofChar hw.isAlpha, Text.lower_of_ascii hw.isAscii,
      List.map_map]
    refine sameOutcomes_ofSeq (List.forall₂_map_left_iff.mpr (List.forall₂_map_right_iff.mpr
      (List.forall₂_same.mpr fun c hc => sameOutcomes_set (mem_setOf_toLower (hw.isAlpha c hc)))))
  have hedge : SameOutcomes wordEdge wordEdge := fun _ _ => rfl
  exact (hedge.seq ((hletters.group _).seq hedge)).group _

/-- **The spelling of words does not matter where case is ignored.** -/
theorem sameOutcomes_ofWords_lower {ws : List (List Char)} (hws : ∀ w ∈ ws, IsLetters w) :
    SameOutcomes (ofWords true sloppy (ws.map Text.lower)) (ofWords true sloppy ws) := by
  have hitems : ∀ count, List.Forall₂ SameOutcomes (wordItems true sloppy count (ws.map Text.lower))
      (wordItems true sloppy count ws) := by
    induction ws with
    | nil => exact fun _ => .nil
    | cons w ws ih =>
      intro count
      have hfirst : SameOutcomes (ofWord true count (Text.lower w)) (ofWord true count w) :=
        sameOutcomes_ofWord_lower (hws w List.mem_cons_self)
      have hrest := ih (fun v hv => hws v (List.mem_cons_of_mem _ hv)) (count + 2)
      cases ws with
      | nil => exact .cons hfirst .nil
      | cons v ws => exact .cons hfirst (.cons (fun _ _ => rfl) hrest)
  exact sameOutcomes_ofSeq (hitems 0)

end Pattern

/-- The matcher of a phrase matches what the pattern of the phrase does, if the engine takes it. -/
theorem PhraseStyle.isMatch_matcher (engine : Engine) {caseSensitive sloppy : Bool}
    {ws : List (List Char)} {t : Array Char} (hne : ws ≠ []) (hws : ∀ w ∈ ws, Pattern.IsGlob w) :
    (({ caseSensitive, sloppy } : PhraseStyle).matcher engine
        ([' '].intercalate ws)).pattern.isMatch t = true ↔
      ({ caseSensitive, sloppy } : PhraseStyle).Fits engine ([' '].intercalate ws) ∧
        (Pattern.ofWords (!caseSensitive) sloppy ws).isMatch t = true := by
  rw [pattern_matcher engine hne hws, Pattern.isMatch_ite_never]

end Concordance
