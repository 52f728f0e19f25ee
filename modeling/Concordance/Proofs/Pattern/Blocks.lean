import Concordance.Proofs.Pattern.Words
import Concordance.Proofs.Text.Prose

/-!
# Blocks of words

In prose the pattern of a phrase matches where its words stand one after another. A word of the phrase
matches maximal runs of word characters only, so that no match starts or ends within a word; the filler
passes over separators, which are all that it can pass over between two words, and over whole words
besides if the phrase may be interrupted. So the runs of the text decide about a match: the words of
the phrase match a block of consecutive runs one by one, or a selection of the runs in their order.

## Main definitions

* `Pattern.Follow` — words follow in a list of words, at once or sooner or later

## Main results

* `Pattern.covers_fillerOfWords` — the filler matches what may stand between two words
* `Pattern.opens_wordItems` — a phrase matches where a block of its words starts
* `Pattern.isMatch_ofWords_iff` — the meaning of the pattern of a phrase
* `PhraseStyle.isMatch_matcher_iff` — when a phrase matches a text
-/

namespace Concordance

namespace Pattern

open Text (IsProse IsProseChar IsRun isRun_append_iff isSeparator isWordChar runs)

variable {ignoreCase sloppy : Bool} {xs r ys : List Char}

/-! ### Characters -/

/-- Prose has none of the signs that open colours and tags. -/
theorem mem_setOf_eq_false {c d : Char} (hc : c.toLower = c) (hfold : Text.fold c = c)
    (hother : ¬ IsProseChar c) (hd : IsProseChar d) : (setOf ignoreCase c).mem d = false := by
  rw [Bool.eq_false_iff]
  intro h
  cases ignoreCase with
  | false =>
    obtain rfl : d = c := by simpa [setOf] using h
    exact hother hd
  | true =>
    have heq : c = d.toLower := by
      simpa [setOf, CharSet.mem, Text.alike, hfold, hd.fold_eq] using h
    exact hother (heq ▸ hd.toLower)

/-- Of the characters of prose, the separators are the signs of punctuation and the blanks. -/
theorem mem_punctuationSet {c : Char} (hc : IsProseChar c) :
    (punctuationSet ignoreCase).mem c = isSeparator c := by
  rcases hc with hc | hc
  · exact Text.of_isAlphanum (P := fun c => ∀ b, (punctuationSet b).mem c = isSeparator c)
      (by decide) hc ignoreCase
  · exact Text.of_isSeparator (P := fun c => ∀ b, (punctuationSet b).mem c = isSeparator c)
      (by decide) (by decide +kernel) hc ignoreCase

/-! ### Fillers -/

/-- Any word matches the runs. -/
theorem covers_ofAnyWord : ofAnyWord.Covers xs r ys ↔ IsRun isWordChar xs r ys := by
  have hword : (repeated (.set .word) 1 none true).Covers xs r ys ↔
      r ≠ [] ∧ ∀ c ∈ r, isWordChar c = true := by
    simp only [covers_repeated_one, covers_set, coversAll_set]
    constructor
    · rintro ⟨_, r, rfl, ⟨c, rfl, hc⟩, h⟩
      exact ⟨List.cons_ne_nil c r, List.forall_mem_cons.mpr ⟨hc, h⟩⟩
    · rintro ⟨hne, h⟩
      obtain ⟨c, r, rfl⟩ := List.exists_cons_of_ne_nil hne
      obtain ⟨hc, h⟩ := List.forall_mem_cons.mp h
      exact ⟨[c], r, rfl, ⟨c, rfl, hc⟩, h⟩
  rw [ofAnyWord, anyWordItems, covers_between_edges hword.mp, hword]
  exact and_iff_right_of_imp fun h => ⟨h.ne_nil, h.mem⟩

/-- In prose no colour and no tag opens. -/
theorem not_covers_of_opening {c : Char} {ps : List Pattern} (hc : c.toLower = c)
    (hfold : Text.fold c = c) (hother : ¬ IsProseChar c) (hr : IsProse r) :
    ¬ (ofSeq (.set (setOf ignoreCase c) :: ps)).Covers xs r ys := by
  rw [covers_ofSeq_cons]
  rintro ⟨_, r, rfl, h, -⟩
  obtain ⟨d, rfl, hd⟩ := covers_set.mp h
  rw [mem_setOf_eq_false hc hfold hother (hr d List.mem_cons_self)] at hd
  cases hd

/-- The filler passes over one separator at a time, or over a whole word if it may. -/
theorem covers_fillerPart (hr : IsProse r) : (fillerPart ignoreCase sloppy).Covers xs r ys ↔
    (∃ c, r = [c] ∧ isSeparator c = true) ∨ sloppy = true ∧ IsRun isWordChar xs r ys := by
  have hpunctuation : (ofPunctuation ignoreCase).Covers xs r ys ↔
      ∃ c, r = [c] ∧ isSeparator c = true := by
    rw [ofPunctuation, covers_set]
    refine exists_congr fun c => and_congr_right ?_
    rintro rfl
    rw [mem_punctuationSet (hr c List.mem_cons_self)]
  have hcolor : ¬ (ofColor ignoreCase).Covers xs r ys :=
    not_covers_of_opening (by decide) (by decide) (by decide) hr
  have hangles : ¬ (ofEnclosed ignoreCase '<' '>').Covers xs r ys :=
    not_covers_of_opening (by decide) (by decide) (by decide) hr
  have hbraces : ¬ (ofEnclosed ignoreCase '\x7b' '\x7d').Covers xs r ys :=
    not_covers_of_opening (by decide) (by decide) (by decide) hr
  rw [fillerPart, covers_ofAlt (by simp)]
  cases sloppy <;> simp [hpunctuation, hcolor, hangles, hbraces, covers_ofAnyWord]

/-- Without words to be passed over there are separators only. -/
theorem isSeparator_of_coversAll (hr : IsProse r)
    (h : (fillerPart ignoreCase false).CoversAll xs r ys) : ∀ c ∈ r, isSeparator c = true := by
  induction h with
  | nil => simp
  | cons first _ ih =>
    obtain ⟨c, rfl, hc⟩ | ⟨hsloppy, -⟩ := (covers_fillerPart hr.of_append.1).mp first
    · exact List.forall_mem_cons.mpr ⟨hc, ih hr.of_append.2⟩
    · cases hsloppy

/-- A text that does not end in a word is passed over part by part. -/
theorem coversAll_fillerPart (hr : IsProse r) (hpass : sloppy = true ∨ runs isWordChar r = [])
    (hfirst : (∀ c ∈ xs.getLast?, isWordChar c = false) ∨ ∀ c ∈ r.head?, isWordChar c = false)
    (hlast : ∀ c ∈ r.getLast?, isWordChar c = false) :
    (fillerPart ignoreCase sloppy).CoversAll xs r ys := by
  induction r using Text.runs_induction (p := isWordChar) generalizing xs with
  | run w hw =>
    have hnil : w = [] := by
      by_contra hne
      have hend := hlast _ (List.getLast?_eq_some_getLast hne)
      rw [hw _ (List.getLast_mem hne)] at hend
      cases hend
    rw [hnil]
    exact .nil
  | split w c cs hw hc ih =>
    obtain ⟨hprose, hprose'⟩ := hr.of_append
    obtain ⟨hchar, hprose'⟩ := List.forall_mem_cons.mp hprose'
    have hsep : isSeparator c = true := by
      refine hchar.resolve_left ?_
      rw [← hchar.isWordChar_eq, hc]
      exact Bool.false_ne_true
    rw [Text.runs_append_cons hc, List.append_eq_nil_iff] at hpass
    have hlast' : ∀ d ∈ cs.getLast?, isWordChar d = false := fun d hd => by
      refine hlast d ?_
      rw [List.getLast?_append, List.getLast?_cons, Option.mem_def.mp hd]
      rfl
    have hrest : ∀ xs, (fillerPart ignoreCase sloppy).CoversAll xs (c :: cs) ys := fun xs =>
      .cons ((covers_fillerPart (List.forall_mem_singleton.mpr hchar)).mpr (.inl ⟨c, rfl, hsep⟩))
        (ih hprose' (hpass.imp_right And.right) (.inl (by simpa using hc)) hlast')
    by_cases hne : w = []
    · rw [hne]
      exact hrest xs
    · have hsloppy : sloppy = true := by
        refine hpass.resolve_right fun h => ?_
        rw [Text.runs_of_forall hne hw] at h
        cases h.1
      have hbefore : ∀ d ∈ xs.getLast?, isWordChar d = false := by
        refine hfirst.resolve_right fun h => ?_
        obtain ⟨d, w, rfl⟩ := List.exists_cons_of_ne_nil hne
        have hword := hw d List.mem_cons_self
        rw [h d rfl] at hword
        cases hword
      exact .cons ((covers_fillerPart hprose).mpr
        (.inr ⟨hsloppy, hne, hw, hbefore, by simpa using hc⟩)) (hrest (xs ++ w))

/-- **The filler matches what may stand between two words**: separators, and whole words besides if the
phrase may be interrupted. -/
theorem covers_fillerOfWords (hr : IsProse r) (hfirst : ∀ c ∈ r.head?, isWordChar c = false)
    (hlast : ∀ c ∈ r.getLast?, isWordChar c = false) :
    (fillerOfWords ignoreCase sloppy).Covers xs r ys ↔ sloppy = true ∨ runs isWordChar r = [] := by
  rw [fillerOfWords, covers_repeated]
  constructor
  · intro h
    cases sloppy with
    | true => exact .inl rfl
    | false =>
      exact .inr (Text.runs_eq_nil fun c hc =>
        Text.isWordChar_of_isSeparator (isSeparator_of_coversAll hr h c hc))
  · exact fun hpass => coversAll_fillerPart hr hpass (.inr hfirst) hlast

/-! ### Blocks -/

/-- Words follow in a list of words: as the first words of it, or as some words of it in their order. -/
def Follow (sloppy : Bool) (us ws : List (List Char)) : Prop :=
  if sloppy then us.Sublist ws else us <+: ws

theorem follow_nil (ws : List (List Char)) : Follow sloppy [] ws := by
  cases sloppy
  · exact List.nil_prefix
  · exact List.nil_sublist ws

theorem follow_cons_iff {u : List Char} {us ws : List (List Char)} :
    Follow sloppy (u :: us) ws ↔ ∃ earlier later, ws = earlier ++ u :: later ∧
      (sloppy = true ∨ earlier = []) ∧ Follow sloppy us later := by
  cases sloppy with
  | true =>
    simp only [Follow, if_true, true_or, true_and]
    constructor
    · intro h
      obtain ⟨front, back, rfl, hmem, hsub⟩ := List.cons_sublist_iff.mp h
      obtain ⟨earlier, later, rfl⟩ := List.append_of_mem hmem
      exact ⟨earlier, later ++ back, by simp, hsub.trans (List.sublist_append_right later back)⟩
    · rintro ⟨earlier, later, rfl, hsub⟩
      exact (hsub.cons_cons u).trans (List.sublist_append_right earlier _)
  | false =>
    simp only [Follow, Bool.false_eq_true, if_false, false_or]
    constructor
    · rintro ⟨rest, rfl⟩
      exact ⟨[], us ++ rest, rfl, rfl, List.prefix_append us rest⟩
    · rintro ⟨_, _, rfl, rfl, rest, rfl⟩
      exact ⟨rest, rfl⟩

/-- Between one run and the next, the filler passes over what it may. -/
theorem covers_filler_between {u f v : List Char} (hu : IsRun isWordChar xs u (f ++ v ++ ys))
    (hf : IsProse f) :
    (fillerOfWords ignoreCase sloppy).Covers (xs ++ u) f (v ++ ys) ∧
        IsRun isWordChar (xs ++ u ++ f) v ys ↔
      (sloppy = true ∨ runs isWordChar f = []) ∧ IsRun isWordChar f v ys := by
  -- two runs do not touch
  by_cases hne : f = []
  · subst hne
    constructor
    · rintro ⟨-, h⟩
      have hlast := h.before (u.getLast hu.ne_nil) (by
        rw [List.append_nil, List.getLast?_append, List.getLast?_eq_some_getLast hu.ne_nil]
        rfl)
      rw [hu.mem _ (List.getLast_mem hu.ne_nil)] at hlast
      cases hlast
    · rintro ⟨-, h⟩
      obtain ⟨c, v, rfl⟩ := List.exists_cons_of_ne_nil h.ne_nil
      have hfirst := hu.after c rfl
      rw [h.mem c List.mem_cons_self] at hfirst
      cases hfirst
  · rw [isRun_append_iff hne]
    refine and_congr_left fun h => covers_fillerOfWords hf (fun c hc => hu.after c ?_) h.before
    obtain ⟨d, f, rfl⟩ := List.exists_cons_of_ne_nil hne
    exact hc

/-- **A phrase matches where a block of its words starts.** -/
theorem opens_wordItems {count : Nat} {t : List Char} {ts : List (List Char)} {s : List Char}
    (ht : IsGlob t) (hts : ∀ w ∈ ts, IsGlob w) (hs : IsProse s) :
    (ofSeq (wordItems ignoreCase sloppy count (t :: ts))).Opens xs s ↔
      ∃ u ys, s = u ++ ys ∧ GlobMatches (!ignoreCase) t u ∧ IsRun isWordChar xs u ys ∧
        ∃ us, Follow sloppy us (runs isWordChar ys) ∧
          List.Forall₂ (GlobMatches (!ignoreCase)) ts us := by
  induction ts generalizing count t xs s with
  | nil =>
    constructor
    · rintro ⟨u, ys, rfl, h⟩
      obtain ⟨hmatch, hrun⟩ := (covers_ofWord ht hs.of_append.1.fold_eq).mp h
      exact ⟨u, ys, rfl, hmatch, hrun, [], follow_nil _, .nil⟩
    · rintro ⟨u, ys, rfl, hmatch, hrun, -⟩
      exact ⟨u, ys, rfl, (covers_ofWord ht hs.of_append.1.fold_eq).mpr ⟨hmatch, hrun⟩⟩
  | cons t' ts ih =>
    obtain ⟨ht', hts⟩ := List.forall_mem_cons.mp hts
    rw [wordItems_cons_cons, opens_ofSeq_cons]
    constructor
    · rintro ⟨u, rest, rfl, hword, hopens⟩
      obtain ⟨f, rest, rfl, hfiller, hopens⟩ := opens_ofSeq_cons.mp hopens
      obtain ⟨v, ys, rfl, hmatch', hrun', us, hfollow, hall⟩ :=
        (ih ht' hts hs.of_append.2.of_append.2).mp hopens
      obtain ⟨hmatch, hrun⟩ := (covers_ofWord ht hs.of_append.1.fold_eq).mp hword
      rw [← List.append_assoc] at hrun
      obtain ⟨hpass, hnext⟩ :=
        (covers_filler_between hrun hs.of_append.2.of_append.1).mp ⟨hfiller, hrun'⟩
      refine ⟨u, f ++ v ++ ys, by simp, hmatch, hrun, v :: us, ?_, .cons hmatch' hall⟩
      exact follow_cons_iff.mpr ⟨_, _, hnext.runs_eq, hpass, hfollow⟩
    · rintro ⟨u, rest, rfl, hmatch, hrun, _, hfollow, hall⟩
      cases hall with
      | @cons _ v _ us hmatch' hall =>
        obtain ⟨_, _, hruns, hpass, hfollow⟩ := follow_cons_iff.mp hfollow
        obtain ⟨f, ys, rfl, hnext, rfl, rfl⟩ := Text.runs_eq_append_cons_iff.mp hruns
        obtain ⟨hu, hrest⟩ := hs.of_append
        rw [List.append_assoc] at hrest
        obtain ⟨hf, hrest⟩ := hrest.of_append
        obtain ⟨hfiller, hrun'⟩ := (covers_filler_between hrun hf).mpr ⟨hpass, hnext⟩
        refine ⟨u, f ++ (v ++ ys), by simp, (covers_ofWord ht hu.fold_eq).mpr ⟨hmatch, ?_⟩, ?_⟩
        · rwa [← List.append_assoc]
        · exact opens_ofSeq_cons.mpr ⟨f, v ++ ys, rfl, hfiller,
            (ih ht' hts hrest).mpr ⟨v, ys, rfl, hmatch', hrun', us, hfollow, hall⟩⟩

/-- Words are a block of a list of words, or a selection from it, if the others follow the first. -/
theorem block_cons_iff {u : List Char} {us ws : List (List Char)} :
    (if sloppy then (u :: us).Sublist ws else u :: us <:+: ws) ↔
      ∃ earlier later, ws = earlier ++ u :: later ∧ Follow sloppy us later := by
  cases sloppy with
  | true =>
    refine (@follow_cons_iff true u us ws).trans ?_
    simp
  | false =>
    simp only [Follow, Bool.false_eq_true, if_false]
    constructor
    · rintro ⟨earlier, later, rfl⟩
      exact ⟨earlier, us ++ later, by simp, List.prefix_append us later⟩
    · rintro ⟨earlier, _, rfl, later, rfl⟩
      exact ⟨earlier, later, by simp⟩

/-- **The meaning of the pattern of a phrase**: a block of consecutive words of the text matches its
words one by one, or some words of the text do, in their order, if the phrase may be interrupted. -/
theorem isMatch_ofWords_iff {terms : List (List Char)} {text : List Char} (hne : terms ≠ [])
    (hterms : ∀ w ∈ terms, IsGlob w) (htext : IsProse text) :
    (ofWords ignoreCase sloppy terms).isMatch text.toArray = true ↔
      ∃ ws, (if sloppy then ws.Sublist (runs Char.isAlphanum text)
          else ws <:+: runs Char.isAlphanum text) ∧
        List.Forall₂ (GlobMatches (!ignoreCase)) terms ws := by
  obtain ⟨t, ts, rfl⟩ := List.exists_cons_of_ne_nil hne
  obtain ⟨ht, hts⟩ := List.forall_mem_cons.mp hterms
  have hruns : runs Char.isAlphanum text = runs isWordChar text :=
    Text.runs_congr fun c hc => (htext c hc).isWordChar_eq.symm
  rw [isMatch_iff_opens (inOrder_ofWords hterms), ofWords, hruns]
  constructor
  · rintro ⟨xs, s, rfl, hopens⟩
    obtain ⟨u, ys, rfl, hmatch, hrun, us, hfollow, hall⟩ :=
      (opens_wordItems ht hts htext.of_append.2).mp hopens
    rw [← List.append_assoc]
    exact ⟨u :: us, block_cons_iff.mpr ⟨_, _, hrun.runs_eq, hfollow⟩, .cons hmatch hall⟩
  · rintro ⟨_, hblock, hall⟩
    cases hall with
    | @cons _ u _ us hmatch hall =>
      obtain ⟨_, _, hruns, hfollow⟩ := block_cons_iff.mp hblock
      obtain ⟨xs, ys, rfl, hrun, rfl, rfl⟩ := Text.runs_eq_append_cons_iff.mp hruns
      rw [List.append_assoc] at htext ⊢
      exact ⟨xs, u ++ ys, rfl, (opens_wordItems ht hts htext.of_append.2).mpr
        ⟨u, ys, rfl, hmatch, hrun, us, hfollow, hall⟩⟩

end Pattern

/-! ### Phrases -/

namespace PhraseStyle

open Pattern Text

/-- **When a phrase matches a text.** On any engine, words of letters and wildcards, joined by spaces,
match a text of words and separators if and only if the engine takes their pattern and a block of
consecutive words of the text matches them one by one; if the phrase may be interrupted, some words of
the text in their order. -/
theorem isMatch_matcher_iff (engine : Engine) (caseSensitive sloppy : Bool) {terms : List (List Char)}
    {text : List Char} (hne : terms ≠ []) (hterms : ∀ w ∈ terms, IsGlob w) (htext : IsProse text) :
    (({ caseSensitive, sloppy } : PhraseStyle).matcher engine ([' '].intercalate terms)).pattern.isMatch
        text.toArray = true ↔
      ({ caseSensitive, sloppy } : PhraseStyle).Fits engine ([' '].intercalate terms) ∧
      ∃ ws, (if sloppy then ws.Sublist (runs Char.isAlphanum text)
          else ws <:+: runs Char.isAlphanum text) ∧
        List.Forall₂ (GlobMatches caseSensitive) terms ws := by
  rw [isMatch_matcher engine hne hterms, isMatch_ofWords_iff hne hterms htext, Bool.not_not]

theorem isMatch_matcher_in_beginning :
    [['i', 'n'], ['b', '*', 'g']] ≠ [] ∧ (∀ w ∈ [['i', 'n'], ['b', '*', 'g']], IsGlob w) ∧
      IsProse "In the (Beginning)\u00A0!".toList ∧
      (({ sloppy := true } : PhraseStyle).matcher .unlimited
        ([' '].intercalate [['i', 'n'], ['b', '*', 'g']])).pattern.isMatch
          "In the (Beginning)\u00A0!".toList.toArray = true := by
  have hterms : ∀ w ∈ [['i', 'n'], ['b', '*', 'g']], IsGlob w := by decide
  have htext : IsProse "In the (Beginning)\u00A0!".toList := by decide +kernel
  have hwords : runs Char.isAlphanum "In the (Beginning)\u00A0!".toList =
      [['I', 'n'], ['t', 'h', 'e'], "Beginning".toList] := by decide +kernel
  have hin : GlobMatches false ['i', 'n'] ['I', 'n'] :=
    .char (by decide) (by decide) (.char (by decide) (by decide) .nil)
  have hbeginning : GlobMatches false ['b', '*', 'g'] ('B' :: ("eginnin".toList ++ ['g'])) :=
    .char (by decide) (by decide)
      (.star (List.all_eq_true.mp (by decide +kernel)) (.char (by decide) (by decide) .nil))
  refine ⟨by decide, hterms, htext, (isMatch_matcher_iff .unlimited false true (by decide) hterms
    htext).mpr ⟨fits_unlimited _ _, ?_⟩⟩
  rw [hwords]
  exact ⟨[['I', 'n'], "Beginning".toList], by decide +kernel, .cons hin (.cons hbeginning .nil)⟩

/-- Five hundred words. -/
def longPhrase : List (List Char) := List.replicate 500 ['a']

/-- The filler starts with what punctuation and colours are matched by. -/
theorem le_length_filler (s : PhraseStyle) (ts : List Term) : 45 ≤ (s.filler ts).length := by
  have hstart : 45 ≤ ("(?:".toList ++ punctuation ++ '|' :: color).length := by
    unfold punctuation color
    simp only [String.reduceToList]
    simp only [List.length_append, List.length_cons, List.length_nil]
    omega
  unfold filler
  generalize "(?:".toList ++ punctuation ++ '|' :: color = start at hstart ⊢
  iterate 5 refine Nat.le_trans ?_ (List.prefix_append _ _).length_le
  exact hstart

/-- The text of the pattern of a phrase has a filler between any two words. -/
theorem le_length_source {s : PhraseStyle} {terms : List (List Char)} (hpattern : s.isPattern = false)
    (hterms : ∀ w ∈ terms, IsGlob w) :
    45 * (terms.length - 1) ≤ (s.source ([' '].intercalate terms)).length := by
  rw [source, if_neg (by simp [hpattern]), elements_intercalate hterms]
  have hjoined := le_length_intercalate (s.filler ((terms.map fun w => [Term.word w]).flatten))
    ((terms.map fun w => [Term.word w]).map fun e => e.flatMap s.termSource)
  rw [List.length_map, List.length_map] at hjoined
  exact Nat.le_trans (Nat.mul_le_mul_right _ (s.le_length_filler _)) hjoined

/-- Five hundred words are more than an engine takes that goes by the lengths of texts, if they may be
interrupted: the phrase does not match even the text that is made of its own words. -/
theorem not_isMatch_matcher_longPhrase :
    longPhrase ≠ [] ∧ (∀ w ∈ longPhrase, IsGlob w) ∧ IsProse ([' '].intercalate longPhrase) ∧
      ¬ ((({ sloppy := true } : PhraseStyle).matcher (.upTo 20000)
            ([' '].intercalate longPhrase)).pattern.isMatch
          ([' '].intercalate longPhrase).toArray = true ↔
        ∃ ws : List (List Char), ws.Sublist (runs Char.isAlphanum ([' '].intercalate longPhrase)) ∧
          List.Forall₂ (GlobMatches false) longPhrase ws) := by
  have hall : ∀ w ∈ longPhrase, w = ['a'] := fun w => List.eq_of_mem_replicate
  have hne : longPhrase ≠ [] := List.cons_ne_nil _ _
  have hterms : ∀ w ∈ longPhrase, IsGlob w := fun w hw => by
    rw [hall w hw]
    decide
  have hchars : ∀ c ∈ [' '].intercalate longPhrase, c = 'a' ∨ c = ' ' :=
    Term.forall_mem_intercalate fun w hw c hc => by
      rw [hall w hw] at hc
      exact List.mem_singleton.mp hc
  have htext : IsProse ([' '].intercalate longPhrase) := fun c hc => by
    rcases hchars c hc with rfl | rfl <;> decide
  have hruns : runs Char.isAlphanum ([' '].intercalate longPhrase) = longPhrase := by
    refine Eq.trans (runs_congr fun c hc => ?_) (words_intercalate fun w hw => ?_)
    · rcases hchars c hc with rfl | rfl <;> decide
    · rw [hall w hw]
      exact IsLetters.isPart (by decide)
  have hblock : List.Forall₂ (GlobMatches false) longPhrase longPhrase := by
    have hself : GlobMatches false ['a'] ['a'] := .char (by decide) (by decide) .nil
    refine List.forall₂_same.mpr fun w hw => ?_
    rw [hall w hw]
    exact hself
  have hlarge : ¬ ({ sloppy := true } : PhraseStyle).Fits (.upTo 20000)
      ([' '].intercalate longPhrase) := by
    have hlong := @le_length_source { sloppy := true } _ rfl hterms
    have hcount : longPhrase.length = 500 := List.length_replicate
    rw [Fits, Engine.upTo, decide_eq_true_eq]
    omega
  refine ⟨hne, hterms, htext, fun h => ?_⟩
  rw [hruns] at h
  have hmatch := h.mpr ⟨longPhrase, List.Sublist.refl _, hblock⟩
  exact hlarge ((isMatch_matcher _ hne hterms).mp hmatch).1

end PhraseStyle

end Concordance
