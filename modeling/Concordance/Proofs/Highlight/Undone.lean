import Concordance.Proofs.Highlight.ClearTerms
import Concordance.Proofs.Highlight.Insertion

/-!
# Marking is undone

Marking puts marks into a tidy row, around pieces of it, and the row stays tidy. So what is marked later
is looked for between the marks that are there, as they are, and in the end the text without colours is
the text that was marked.

This needs the words that are looked for not to be taken for what the marks end with. A mark has a letter
with the edge of a word before it: a letter that is looked for as a word of its own is found there, and
what is marked then is no mark any more.

## Main definitions

* `Highlight.Remarks` — the text of a tidy row with more marks in it
* `Highlight.RemarksFrom` — and so it is from some place on

## Main results

* `Highlight.RemarksFrom.next` — a piece of the row is marked
* `Highlight.remarks_markWord`, `Highlight.remarks_markAll` — one word, and all matches of a pattern
* `Highlight.stripColor_mark` — the text without colours is the text that was marked
* `Highlight.stripColor_mark_letter` — but not if the letter of the marks is looked for
-/

namespace Concordance

namespace Highlight

open Pattern
open Text (isWordChar)

/-- A text is that of a tidy row with the same characters as another row. -/
def Remarks (before : List Char) (ts : List Shade) (after out : List Char) : Prop :=
  ∃ ts', out = write ts' ∧ plain ts' = plain ts ∧ IsTidy before ts' after

/-- From some place of a row on, a text is that of a tidy row with the same characters. -/
def RemarksFrom (before : List Char) (ts : List Shade) (after xs s out : List Char) : Prop :=
  ∀ us ss, ts = us ++ ss → xs = write us → s = write ss → Remarks (before ++ plain us) ss after out

variable {before after xs u r s v out cs : List Char} {ts us rs vs ws : List Shade} {p : Pattern}
  {engine : Engine}
  {m : Match}

/-! ### Rows with more marks -/

theorem IsWellMarked.remarks (h : IsWellMarked before ts after) : Remarks before ts after (write ts) :=
  ⟨ts, rfl, rfl, h.tidy⟩

/-- A row with more marks is between the same places. -/
theorem IsWellMarked.of_plain {ts' : List Shade} (h : IsWellMarked before ts after)
    (hplain : plain ts' = plain ts) (htidy : IsTidy before ts' after) :
    IsWellMarked before ts' after where
  tidy := htidy
  sign := by rw [hplain]; exact h.sign
  start := by rw [hplain]; exact h.start
  stop := by rw [hplain]; exact h.stop

theorem RemarksFrom.stop (h : IsWellMarked before ts after) (xs s : List Char) :
    RemarksFrom before ts after xs s s := by
  rintro us ss rfl rfl rfl
  exact ⟨ss, rfl, rfl, (isTidy_append.mp h.tidy).2⟩

/-- **A piece of a row is marked**, and so is what comes after it. -/
theorem RemarksFrom.next (h : IsWellMarked before ts after)
    (hpiece : IsPiece before ts after (xs ++ u) r s us rs vs)
    (hv : Remarks (before ++ plain us) rs (plain vs ++ after) v)
    (hrest : RemarksFrom before ts after (xs ++ u ++ r) s out) :
    RemarksFrom before ts after xs (u ++ (r ++ s)) (u ++ (v ++ out)) := by
  obtain ⟨rfl, hxs, rfl, rfl, -⟩ := hpiece
  obtain ⟨rs', rfl, hrs, htidy⟩ := hv
  obtain ⟨vs', rfl, hvs, htidy'⟩ := hrest (us ++ rs) vs (by simp) (by simp [hxs]) rfl
  rintro us₀ ss hcut rfl hss
  obtain ⟨ms, rfl, rfl, rfl⟩ := exists_eq_append_of_cut hcut.symm hxs.symm
  refine ⟨ms ++ (rs' ++ vs'), by simp, by simp [hrs, hvs], ?_⟩
  obtain ⟨-, hrow⟩ := isTidy_append.mp (by simpa using h.tidy)
  have hms := (isTidy_append.mp hrow).1
  refine isTidy_append.mpr ⟨by simpa [hrs, hvs] using hms, isTidy_append.mpr ⟨?_, ?_⟩⟩
  · simpa [hvs] using htidy
  · simpa [hrs] using htidy'

/-! ### One word -/

/-- A target is marked. -/
theorem IsPiece.remarks_wrap (hpiece : IsPiece before ts after xs r s us rs vs) (hrs : IsTarget rs) :
    Remarks (before ++ plain us) rs (plain vs ++ after) (reverseVideo.wrap r) := by
  obtain ⟨ms, g, ns, htarget, hms, hns, hg⟩ := hrs
  have hplain : plain rs = g := by simp [htarget, hms, hns]
  have hwell := hpiece.isWellMarked
  refine ⟨.on :: (rs ++ [.off]), by rw [write_wrap, hpiece.text], by simp, ?_⟩
  refine ⟨by simpa using hwell.start, isTidy_append.mpr ⟨by simpa using hwell.tidy, ?_⟩⟩
  refine ⟨⟨?_, by simpa using hwell.stop⟩, trivial⟩
  rw [hplain, List.getLast?_append_of_ne_nil _ hg.ne_nil, hg.last]

/-- **One word.** -/
theorem remarks_markWord (h : IsWellMarked before ts after) (hws : IsTarget ws) :
    Remarks before ts after (reverseVideo.markWord engine (write ts) (write ws)) := by
  have hall : RemarksFrom before ts after [] (write ts)
      (reverseVideo.markWord engine (write ts) (write ws)) := by
    refine markWord_induction (fun xs s _ => .stop h xs s) fun xs u r s out htext hcovers hrest => ?_
    obtain ⟨a, b, rfl, ha, hb⟩ := covers_ofMarkedWord.mp hcovers
    have htext' : write ts = (xs ++ u) ++ (a ++ (write ws ++ (b ++ s))) := by simpa using htext
    obtain ⟨us, rs, vs, hrs, hpiece⟩ := exists_isPiece_of_edges h hws htext' (by simpa using ha)
      (by simpa using hb)
    exact .next h hpiece (hpiece.remarks_wrap hrs) hrest
  simpa using hall [] ts rfl rfl rfl

/-- Several words, one after another. -/
theorem remarks_foldl_markWord {words : List (List Char)}
    (hwords : ∀ w ∈ words, ∃ vs, IsTarget vs ∧ w = write vs) (h : IsWellMarked before ts after) :
    Remarks before ts after (words.foldl (reverseVideo.markWord engine) (write ts)) := by
  induction words generalizing ts with
  | nil => exact h.remarks
  | cons w words ih =>
    obtain ⟨⟨ws, hws, rfl⟩, hrest⟩ := List.forall_mem_cons.mp hwords
    obtain ⟨ts', hts', hplain, htidy⟩ := remarks_markWord h hws
    rw [List.foldl_cons, hts', Remarks, ← hplain]
    exact ih hrest (h.of_plain hplain htidy)

/-! ### Matches -/

/-- The stretches of a match that are marked are targets. -/
theorem exists_isTarget_of_mem_targets (hp : IsUndoable p) (h : IsWellMarked before ts after)
    (hfound : p.IsFound (write ts).toArray m) (hsize : m.start ≤ (write ts).length) :
    ∀ w ∈ targets p (write ts).toArray m, ∃ vs, IsTarget vs ∧ w = write vs := by
  have hheld : ∀ {index w}, index ≠ 0 → m.group? (write ts).toArray index = some w →
      ∃ vs, IsTarget vs ∧ w = write vs := by
    intro index w hindex hw
    obtain ⟨q, xs, ys, hq, hts, hcovers⟩ := hfound.exists_covers_of_group? hp.inOrder hsize hindex hw
    exact (hp.markable _ hq).2 h hts hcovers
  obtain ⟨⟨index, q⟩, hq, halways⟩ := hp.always
  have hindex := (hp.markable _ hq).1
  obtain ⟨w, hw⟩ := hfound.exists_group? hindex halways
  obtain ⟨ws, ⟨ms, g, ns, rfl, -, -, hg⟩, hws⟩ := hheld hindex hw
  have hne : w ≠ [] := by
    rw [hws, Ne, write_eq_nil_iff]
    simp [hg.ne_nil]
  have hcount := lt_groupCount hq
  have hmem : w ∈ ((List.range' 1 (p.groupCount - 1)).filterMap
      (m.group? (write ts).toArray)).filter (!·.isEmpty) := by
    refine List.mem_filter.mpr ⟨List.mem_filterMap.mpr ⟨index, ?_, hw⟩, by simpa using hne⟩
    have hpos := Nat.pos_of_ne_zero hindex
    exact List.mem_range'_1.mpr ⟨hpos, by omega⟩
  have hsome : (((List.range' 1 (p.groupCount - 1)).filterMap
      (m.group? (write ts).toArray)).filter (!·.isEmpty)).isEmpty = false :=
    Bool.eq_false_iff.mpr fun hempty => List.ne_nil_of_mem hmem (List.isEmpty_iff.mp hempty)
  intro w' hw'
  rw [targets] at hw'
  simp only [hsome] at hw'
  have hw'' := (List.mem_filter.mp (List.mem_eraseDups.mp hw')).1
  obtain ⟨i, hi, hgroup⟩ := List.mem_filterMap.mp hw''
  have hpos := (List.mem_range'_1.mp hi).1
  exact hheld (by omega) hgroup

/-- **All matches of a pattern.** -/
theorem remarks_markAll (hp : IsUndoable p ∨ p = .never) (h : IsWellMarked before ts after) :
    Remarks before ts after (reverseVideo.markAll engine (write ts) p) := by
  have hall : RemarksFrom before ts after [] (write ts) (reverseVideo.markAll engine (write ts) p) := by
    refine replaceAll_induction (fun xs s _ => .stop h xs s)
      fun xs u r s out m htext hfound hstart hstop hrest => ?_
    rcases hp with hp | rfl
    · have hcovers : p.Covers (xs ++ u) r s := by
        refine IsFound.covers ?_ hp.inOrder hstart hstop
        rwa [← htext]
      obtain ⟨us, rs, vs, hpiece⟩ := hp.seamed h htext hcovers
      have hsize : m.start ≤ (write ts).length := by
        rw [hstart, htext, @List.length_append _ (xs ++ u)]
        exact Nat.le_add_right _ _
      have hmatch : m.text (write ts).toArray = write rs := by
        rw [htext, Match.text_eq hstart hstop, hpiece.text]
      refine .next h hpiece ?_ hrest
      rw [markMatch, hmatch]
      exact remarks_foldl_markWord (exists_isTarget_of_mem_targets hp h hfound hsize) hpiece.isWellMarked
    · exact (not_isFound_never _ _ hfound).elim
  simpa using hall [] ts rfl rfl rfl

/-! ### Texts -/

/-- All patterns, one after another. -/
theorem remarks_foldl_markAll {ps : List Pattern} (hps : ∀ p ∈ ps, IsUndoable p ∨ p = .never)
    (h : IsWellMarked before ts after) :
    Remarks before ts after (ps.foldl (reverseVideo.markAll engine) (write ts)) := by
  induction ps generalizing ts with
  | nil => exact h.remarks
  | cons p ps ih =>
    obtain ⟨hp, hps⟩ := List.forall_mem_cons.mp hps
    obtain ⟨ts', hts', hplain, htidy⟩ := remarks_markAll hp h
    rw [List.foldl_cons, hts', Remarks, ← hplain]
    exact ih hps (h.of_plain hplain htidy)

/-- A text without marks is well marked. -/
theorem isWellMarked_chars (hesc : '\x1b' ∉ cs) : IsWellMarked [] (cs.map .char) [] where
  tidy := isTidy_chars [] cs []
  sign := by rwa [plain_chars]
  start := isParted_of_last rfl
  stop := isParted_of_head rfl

/-- **Marking is undone.** Let a text have no escape sequences, and let all that the terms look for be
clear. Then the text with all that they find marked in reverse video, by any engine and however strictly
they are matched, is that of a row of characters and marks: it has the characters of the text without
blanks at its ends, and among them whole marks. So without escape sequences that set colours it is the text
again. -/
theorem stripColor_mark (engine : Engine) {terms : List (List Char)} (caseSensitive sloppy : Bool)
    (hesc : '\x1b' ∉ cs) (hterms : ∀ term ∈ terms, IsClearTerm caseSensitive (Text.trim term)) :
    (∃ ts, reverseVideo.mark engine (matchers engine terms caseSensitive sloppy) cs = write ts ∧
      plain ts = Text.trim cs) ∧
    stripColor (reverseVideo.mark engine (matchers engine terms caseSensitive sloppy) cs)
      = Text.trim cs := by
  have hps : ∀ p ∈ (matchers engine terms caseSensitive sloppy).map (·.pattern),
      IsUndoable p ∨ p = .never := by
    intro p hp
    obtain ⟨matcher, hmatcher, rfl⟩ := List.mem_map.mp hp
    obtain ⟨_, htrimmed, rfl⟩ := List.mem_map.mp hmatcher
    obtain ⟨term, hterm, rfl⟩ := List.mem_map.mp (List.mem_filter.mp htrimmed).1
    exact isUndoable_pattern_matcherOf (hterms term hterm)
  have hesc' : '\x1b' ∉ Text.trim cs := fun hmem => hesc (Text.trim_subset cs hmem)
  obtain ⟨ts, hts, hplain, -⟩ := remarks_foldl_markAll hps (isWellMarked_chars hesc')
  rw [write_chars] at hts
  rw [plain_chars] at hplain
  refine ⟨⟨ts, hts, hplain⟩, ?_⟩
  rw [mark, hts, stripColor_write (by rwa [hplain]), hplain]

/-- In ` mercy<H1> ` a word is marked for a word with wildcards and for the word with the number after
it, and the number is marked. -/
theorem stripColor_mark_mercy :
    '\x1b' ∉ " mercy<H1> ".toList ∧
      (∀ term ∈ [" me*y".toList, "mercy<h1>".toList], IsClearTerm false (Text.trim term)) ∧
      reverseVideo.mark .unlimited
        (matchers .unlimited [" me*y".toList, "mercy<h1>".toList] false false)
        " mercy<H1> ".toList = "\x1b[7m\x1b[7mmercy\x1b[m\x1b[m<\x1b[7mH1\x1b[m>".toList ∧
      stripColor (reverseVideo.mark .unlimited
        (matchers .unlimited [" me*y".toList, "mercy<h1>".toList] false false)
        " mercy<H1> ".toList) = "mercy<H1>".toList := by
  have hesc : '\x1b' ∉ " mercy<H1> ".toList := by decide
  have hterms : ∀ term ∈ [" me*y".toList, "mercy<h1>".toList], IsClearTerm false (Text.trim term) := by
    decide +kernel
  exact ⟨hesc, hterms, by decide +kernel,
    (stripColor_mark .unlimited false false hesc hterms).2.trans (by decide +kernel)⟩

/-- **The letter of the marks is found within them.** Once `god` has been marked, `m` is marked in the
mark after it, and without escape sequences a part of that mark is left. -/
theorem stripColor_mark_letter :
    '\x1b' ∉ "god said".toList ∧ (∀ term ∈ ["god".toList, "m".toList], term.head? ≠ some '&') ∧
      stripColor (reverseVideo.mark .unlimited
        (matchers .unlimited ["god".toList, "m".toList] false false) "god said".toList)
          = "god\x1b[m said".toList ∧
      Text.trim "god said".toList = "god said".toList := by
  decide +kernel

end Highlight

end Concordance
