import Concordance.Proofs.Highlight.Shades
import Concordance.Proofs.Pattern.ColorEdges

/-!
# Where patterns match in marked texts

The edge of a word in a marked text is made of marks, or it is a place where a word starts or ends. Such
a place may be within a mark: before the letter that the marks end with, and before the digit of the mark
that starts a stretch. A text that can not be taken for the letter or the digit, with what follows them,
is clear. Between two edges, a clear text, which may have marks before and after it, is a piece of the
row: it does not start or end within a mark, and marks may be put around it.

## Main definitions

* `Highlight.IsWellMarked` — a tidy row between two places that are not within words
* `Highlight.IsPiece` — a piece of the text of a row is such a row
* `Highlight.IsClearText`, `Highlight.IsTarget` — a text that is not taken for a mark, and one with marks
  before and after it
* `Highlight.IsSeamed` — what a pattern matches is a piece of the row

## Main results

* `Highlight.colorEdge_cases` — an edge is a place, or it is made of marks
* `Highlight.exists_isPiece_of_edges` — a target between two edges is a piece of the row
* `Highlight.isSeamed_ofSeq` — a sequence takes the place of its first item and of its last one
-/

namespace Concordance

namespace Highlight

open Pattern
open Text (isWordChar)

/-- A tidy row between two places that are not within words. -/
structure IsWellMarked (before : List Char) (ts : List Shade) (after : List Char) : Prop where
  /-- Marks stand where marks are put. -/
  tidy : IsTidy before ts after
  /-- The sign that marks start with stands nowhere else. -/
  sign : '\x1b' ∉ plain ts
  /-- The row does not start within a word. -/
  start : IsParted before (plain ts ++ after)
  /-- It does not end within a word. -/
  stop : IsParted (before ++ plain ts) after

/-- A piece of the text of a row is such a row. -/
structure IsPiece (before : List Char) (ts : List Shade) (after xs r ys : List Char)
    (us rs vs : List Shade) : Prop where
  /-- The row, taken apart. -/
  row : ts = us ++ (rs ++ vs)
  /-- What stands before the piece. -/
  text_before : xs = write us
  /-- The piece. -/
  text : r = write rs
  /-- What stands after it. -/
  text_after : ys = write vs
  /-- The piece is well marked. -/
  isWellMarked : IsWellMarked (before ++ plain us) rs (plain vs ++ after)

/-- A text is not taken for what a mark ends with, whatever follows. -/
structure IsClearText (g : List Char) : Prop where
  /-- The sign that marks start with is not in it. -/
  sign : '\x1b' ∉ g
  /-- It does not start with the digit and the letter of a mark. -/
  digit : ∀ g', g ≠ '7' :: 'm' :: g'
  /-- After the letter of a mark, if it starts with it, the word goes on. -/
  letter : ∀ g', g = 'm' :: g' → g'.head?.any isWordChar = true
  /-- It ends with a word character. -/
  last : g.getLast?.any isWordChar = true

/-- A clear text, which may have marks before and after it. -/
def IsTarget (vs : List Shade) : Prop :=
  ∃ ms g ns, vs = ms ++ (g.map .char ++ ns) ∧ plain ms = [] ∧ plain ns = [] ∧ IsClearText g

/-- Whatever a pattern matches in the text of a row is a piece of the row. -/
def IsSeamed (p : Pattern) : Prop :=
  ∀ ⦃before after ts xs r ys⦄, IsWellMarked before ts after → write ts = xs ++ (r ++ ys) →
    p.Covers xs r ys → ∃ us rs vs, IsPiece before ts after xs r ys us rs vs

variable {ignoreCase : Bool} {p q : Pattern} {before after xs r ys g : List Char}
  {s : Shade} {ts us rs vs ws ms ns : List Shade}

/-! ### Places -/

/-- A character that marks do not go on with stands between two items of the row. -/
theorem exists_cut_of_head {c : Char} (hc : c ∉ ['[', '7', 'm']) (h : write ts = xs ++ c :: ys) :
    ∃ us vs, ts = us ++ vs ∧ xs = write us ∧ c :: ys = write vs := by
  rcases exists_cut h with hcut | ⟨us, s, vs, a, b, rfl, hs, htext, ha, hb, rfl, hrest⟩
  · exact hcut
  · obtain ⟨d, b, rfl⟩ := List.exists_cons_of_ne_nil hb
    obtain ⟨rfl, -⟩ := List.cons.inj hrest
    obtain ⟨e, a, rfl⟩ := List.exists_cons_of_ne_nil ha
    refine absurd ?_ hc
    have hmem : c ∈ a ++ c :: b := by simp
    cases s with
    | char c => cases hs
    | on =>
      rw [text_on, List.cons_append] at htext
      rwa [← (List.cons.inj htext).2] at hmem
    | off =>
      rw [text_off, List.cons_append] at htext
      rw [← (List.cons.inj htext).2] at hmem
      exact List.cons_subset_cons _ (List.subset_cons_self _ _) hmem

theorem isParted_of_head (h : after.head?.any isWordChar = false) : IsParted before after :=
  fun hboth => Bool.false_ne_true (h.symm.trans hboth.2)

theorem isParted_of_last (h : before.getLast?.any isWordChar = false) : IsParted before after :=
  fun hboth => Bool.false_ne_true (h.symm.trans hboth.1)

/-- Between places that are not within words, a piece of a row is well marked. -/
theorem IsWellMarked.isPiece (h : IsWellMarked before (us ++ (rs ++ vs)) after)
    (hstart : IsParted (before ++ plain us) (plain rs ++ (plain vs ++ after)))
    (hstop : IsParted (before ++ (plain us ++ plain rs)) (plain vs ++ after)) :
    IsPiece before (us ++ (rs ++ vs)) after (write us) (write rs) (write vs) us rs vs where
  row := rfl
  text_before := rfl
  text := rfl
  text_after := rfl
  isWellMarked := {
    tidy := (isTidy_append.mp (isTidy_append.mp h.tidy).2).1
    sign := fun hmem => h.sign (by simp [hmem])
    start := hstart
    stop := by rwa [List.append_assoc] }

/-! ### Edges -/

/-- A mark ends at its letter. -/
theorem text_eq_of_mark {ds cs : List Char} {c : Char} (hs : s.char? = none) (hds : 'm' ∉ ds)
    (hc : c ≠ '7') (h : s.text ++ cs = '\x1b' :: '[' :: (ds ++ c :: ys)) :
    s.text = '\x1b' :: '[' :: (ds ++ [c]) ∧ ys = cs := by
  cases s with
  | char d => cases hs
  | on =>
    have htail : '7' :: 'm' :: cs = ds ++ c :: ys := by simpa using h
    match ds with
    | [] => exact absurd (List.cons.inj htail).1.symm hc
    | [d] =>
      obtain ⟨rfl, rfl, rfl⟩ : '7' = d ∧ 'm' = c ∧ cs = ys := by simpa using htail
      exact ⟨text_on, rfl⟩
    | d :: e :: ds => simp_all
  | off =>
    have htail : 'm' :: cs = ds ++ c :: ys := by simpa using h
    match ds with
    | [] =>
      obtain ⟨rfl, rfl⟩ : 'm' = c ∧ cs = ys := by simpa using htail
      exact ⟨text_off, rfl⟩
    | d :: ds => simp_all

/-- A colour is one mark. -/
theorem exists_of_covers_ofColor (hesc : '\x1b' ∉ plain ts) (hts : write ts = r ++ ys)
    (h : (ofColor ignoreCase).Covers xs r ys) :
    ∃ s us, ts = s :: us ∧ s.char? = none ∧ r = s.text ∧ ys = write us := by
  have hdigit : ∀ b, (Pattern.setOf b 'm').mem '7' = false := by decide
  have hletter : ∀ b, (bracketSet b [.digit, .single ';']).mem 'm' = false := by decide
  obtain ⟨r₁, _, rfl, h₁, hrest⟩ := covers_ofSeq_cons.mp h
  obtain ⟨r₂, _, rfl, h₂, hrest⟩ := covers_ofSeq_cons.mp hrest
  obtain ⟨ds, _, rfl, hds, hrest⟩ := covers_ofSeq_cons.mp hrest
  obtain ⟨r₃, _, rfl, h₃, hrest⟩ := covers_ofSeq_cons.mp hrest
  obtain rfl := covers_ofSeq_nil.mp hrest
  obtain ⟨c₁, rfl, hc₁⟩ := covers_set.mp h₁
  obtain ⟨c₂, rfl, hc₂⟩ := covers_set.mp h₂
  obtain ⟨c, rfl, hc⟩ := covers_set.mp h₃
  obtain rfl := eq_of_mem_setOf (by decide) (by decide) (by decide) hc₁
  obtain rfl := eq_of_mem_setOf (by decide) (by decide) (by decide) hc₂
  have hmem : 'm' ∉ ds := fun hmem => by
    have hset := coversAll_set.mp (covers_repeated.mp hds) 'm' hmem
    rw [hletter] at hset
    cases hset
  have hne : c ≠ '7' := by
    rintro rfl
    rw [hdigit] at hc
    cases hc
  simp only [List.append_nil, List.cons_append, List.nil_append, List.append_assoc] at hts ⊢
  obtain ⟨s, us, rfl, hs⟩ := mark_of_write_eq_cons hesc hts
  obtain ⟨htext, rfl⟩ := text_eq_of_mark hs hmem hne hts
  exact ⟨s, us, rfl, hs, htext.symm, rfl⟩

/-- Colours in a row are marks in a row. -/
theorem exists_of_coversAll_ofColor (hesc : '\x1b' ∉ plain ts) (hts : write ts = r ++ ys)
    (h : (ofColor ignoreCase).CoversAll xs r ys) :
    ∃ ms us, ts = ms ++ us ∧ plain ms = [] ∧ r = write ms ∧ ys = write us := by
  induction h generalizing ts with
  | nil => exact ⟨[], ts, rfl, rfl, rfl, hts.symm⟩
  | cons first rest ih =>
    obtain ⟨s, us, rfl, hs, rfl, hus⟩ :=
      exists_of_covers_ofColor hesc (hts.trans (List.append_assoc ..)) first
    have hplain : plain (s :: us) = plain us := by
      cases s with
      | char c => cases hs
      | on => rfl
      | off => rfl
    obtain ⟨ms, us, rfl, hms, rfl, rfl⟩ := ih (hplain ▸ hesc) hus.symm
    refine ⟨s :: ms, us, rfl, ?_, rfl, rfl⟩
    cases s with
    | char c => cases hs
    | on => exact hms
    | off => exact hms

/-- **An edge is a place, or it is made of marks.** -/
theorem colorEdge_cases (hesc : '\x1b' ∉ plain ts) (hts : write ts = xs ++ (r ++ ys))
    (h : (colorEdge ignoreCase).Covers xs r ys) :
    (r = [] ∧ xs.getLast?.any isWordChar ≠ ys.head?.any isWordChar) ∨
      ∃ us s ms vs, ts = us ++ (s :: ms ++ vs) ∧ s.char? = none ∧ plain (s :: ms) = [] ∧
        xs = write us ∧ r = write (s :: ms) ∧ ys = write vs := by
  rcases h with hcolors | hedge
  · right
    obtain ⟨r₁, r₂, rfl, hfirst, hrest⟩ := covers_repeated_one.mp hcolors
    obtain ⟨r', rfl⟩ := exists_cons_of_covers_ofColor hfirst
    have hsign : '\x1b' ∉ ['[', '7', 'm'] := by decide
    obtain ⟨us, vs, rfl, rfl, hvs⟩ := exists_cut_of_head hsign
      (by simpa only [List.cons_append] using hts)
    have hesc' : '\x1b' ∉ plain vs := fun hmem => hesc (by simp [hmem])
    obtain ⟨s, vs, rfl, hs, htext, hvs'⟩ :=
      exists_of_covers_ofColor hesc' (by rw [← hvs]; simp) hfirst
    have hplain : plain [s] = [] ∧ plain (s :: vs) = plain vs := by
      cases s with
      | char c => cases hs
      | on => exact ⟨rfl, rfl⟩
      | off => exact ⟨rfl, rfl⟩
    obtain ⟨ms, vs, rfl, hms, rfl, rfl⟩ :=
      exists_of_coversAll_ofColor (hplain.2 ▸ hesc') hvs'.symm hrest
    refine ⟨us, s, ms, vs, rfl, hs, ?_, rfl, by rw [htext]; rfl, rfl⟩
    have happend : plain ([s] ++ ms) = [] := by rw [plain_append, hplain.1, hms, List.append_nil]
    exact happend
  · exact .inl (covers_wordEdge.mp hedge)

/-! ### Clear texts -/

theorem IsClearText.ne_nil (hg : IsClearText g) : g ≠ [] := by
  rintro rfl
  exact absurd hg.last (by decide)

/-- A clear text does not start with a mark. -/
theorem IsClearText.exists_cons (hg : IsClearText g) : ∃ c g', g = c :: g' ∧ c ≠ '\x1b' := by
  obtain ⟨c, g', rfl⟩ := List.exists_cons_of_ne_nil hg.ne_nil
  exact ⟨c, g', rfl, fun hc => hg.sign (hc ▸ List.mem_cons_self)⟩

/-- Right after the place before a clear text there is a character. -/
theorem IsClearText.exists_char (hg : IsClearText g) (h : g ++ ys = write vs) :
    ∃ c g' vs', g = c :: g' ∧ vs = .char c :: vs' := by
  obtain ⟨c, g', rfl, hc⟩ := hg.exists_cons
  refine ⟨c, g', ?_⟩
  cases vs with
  | nil => cases h
  | cons s vs =>
    cases s with
    | char d =>
      obtain ⟨rfl, -⟩ : c = d ∧ g' ++ ys = write vs := by simpa using h
      exact ⟨vs, rfl, rfl⟩
    | on => simp [hc] at h
    | off => simp [hc] at h

/-- A word that starts or ends between two items does not go on across the place. -/
theorem isParted_of_edge {c : Char} (h : IsWellMarked before (us ++ .char c :: vs) after)
    (hedge : (write us).getLast?.any isWordChar ≠ isWordChar c) :
    IsParted (before ++ plain us) (plain (.char c :: vs) ++ after) := by
  have hletter : isWordChar 'm' = true := by decide
  obtain rfl | ⟨us, s, rfl⟩ := List.eq_nil_or_concat us
  · simpa using h.start
  · cases s with
    | char d =>
      rintro ⟨hlast, hhead⟩
      simp at hedge hlast hhead
      exact hedge (hlast.trans hhead.symm)
    | on => exact isParted_of_head (by simpa [hletter] using hedge)
    | off => exact isParted_of_head (by simpa [hletter] using hedge)

/-- A clear text after an edge, with no word character after it, does not start within a mark. -/
theorem not_within_mark {a b : List Char} (h : IsWellMarked before (us ++ s :: vs) after)
    (hg : IsClearText g) (hs : s.char? = none) (htext : s.text = a ++ b) (ha : a ≠ []) (hb : b ≠ [])
    (hrest : g ++ ys = b ++ write vs)
    (hedge : a.getLast?.any isWordChar ≠ b.head?.any isWordChar)
    (hnext : ys.head?.any isWordChar = false) : False := by
  have hletter : isWordChar 'm' = true := by decide
  obtain ⟨c, g', rfl, -⟩ := hg.exists_cons
  obtain ⟨rfl, rfl⟩ | ⟨rfl, rfl⟩ := edge_of_mark hs htext ha hb hedge
  · -- the digit and the letter of the mark would be a clear text, or the start of one
    obtain ⟨rfl, htail⟩ : c = '7' ∧ g' ++ ys = 'm' :: write vs := by simpa using hrest
    cases g' with
    | nil =>
      obtain rfl : ys = 'm' :: write vs := htail
      simp [hletter] at hnext
    | cons d g' =>
      obtain ⟨rfl, -⟩ : d = 'm' ∧ g' ++ ys = write vs := by simpa using htail
      exact hg.digit g' rfl
  · -- the word would go on after the letter of the mark
    obtain ⟨rfl, htail⟩ : c = 'm' ∧ g' ++ ys = write vs := by simpa using hrest
    have hword := hg.letter g' rfl
    have hne : g' ≠ [] := by
      rintro rfl
      cases hword
    have hhead : (g' ++ ys).head? = g'.head? := List.head?_append_of_ne_nil _ hne
    rw [← hhead, htail] at hword
    exact h.tidy.not_isWordChar_after_off hword

/-- **A clear text after an edge** starts at a place between two items that is not within a word, if no
word character comes after it. -/
theorem exists_cut_of_clear (h : IsWellMarked before ts after) (hg : IsClearText g)
    (hts : write ts = xs ++ (g ++ ys))
    (hedge : xs.getLast?.any isWordChar ≠ (g ++ ys).head?.any isWordChar)
    (hnext : ys.head?.any isWordChar = false) :
    ∃ us vs, ts = us ++ vs ∧ xs = write us ∧ g ++ ys = write vs ∧
      IsParted (before ++ plain us) (plain vs ++ after) := by
  rcases exists_cut hts with ⟨us, vs, rfl, rfl, hvs⟩ |
    ⟨us, s, vs, a, b, rfl, hs, htext, ha, hb, rfl, hrest⟩
  · refine ⟨us, vs, rfl, rfl, hvs, ?_⟩
    obtain ⟨c, g', vs, rfl, rfl⟩ := hg.exists_char hvs
    exact isParted_of_edge h (by simpa using hedge)
  · rw [hrest, List.getLast?_append_of_ne_nil _ ha, List.head?_append_of_ne_nil _ hb] at hedge
    exact (not_within_mark h hg hs htext ha hb hrest hedge hnext).elim

/-! ### Targets -/

theorem eq_char_of_char? {c : Char} (h : s.char? = some c) : s = .char c := by
  cases s with
  | char d => exact congrArg _ (Option.some.inj h)
  | on => cases h
  | off => cases h

/-- A row without characters is made of marks. -/
theorem mark_of_plain (h : plain (s :: ms) = []) : s.char? = none ∧ plain ms = [] := by
  cases s with
  | char c => cases h
  | on => exact ⟨rfl, h⟩
  | off => exact ⟨rfl, h⟩

/-- Where there are marks, no word goes on. -/
theorem isParted_of_marks (h : IsTidy before (us ++ (ms ++ vs)) after) (hms : plain ms = [])
    (hne : ms ≠ []) : IsParted (before ++ plain us) (plain vs ++ after) := by
  obtain ⟨s, ms, rfl⟩ := List.exists_cons_of_ne_nil hne
  obtain ⟨hs, hms⟩ := mark_of_plain hms
  simpa [hms] using h.isParted hs

/-- Marks start with their sign. -/
theorem exists_write_of_marks (hms : plain ms = []) (hne : ms ≠ []) : ∃ cs, write ms = '\x1b' :: cs := by
  obtain ⟨s, ms, rfl⟩ := List.exists_cons_of_ne_nil hne
  obtain ⟨cs, hs⟩ := text_of_mark (mark_of_plain hms).1
  exact ⟨cs ++ write ms, by rw [write_cons, hs, List.cons_append]⟩

theorem sign_of_target (hms : plain ms = []) (hns : plain ns = []) (hg : IsClearText g)
    (hws : ws = ms ++ (g.map .char ++ ns)) : '\x1b' ∉ plain ws := by
  simpa [hws, hms, hns] using hg.sign

/-- A target after a place where a word starts or ends is a part of the row. -/
theorem exists_cut_of_target (h : IsWellMarked before ts after) (hms : plain ms = [])
    (hns : plain ns = []) (hg : IsClearText g) (hws : ws = ms ++ (g.map .char ++ ns))
    (hts : write ts = xs ++ (write ws ++ ys))
    (hedge : xs.getLast?.any isWordChar ≠ (write ws ++ ys).head?.any isWordChar)
    (hnext : (write ns ++ ys).head?.any isWordChar = false) :
    ∃ us vs, ts = us ++ (ws ++ vs) ∧ xs = write us ∧ ys = write vs ∧
      IsParted (before ++ plain us) (plain (ws ++ vs) ++ after) := by
  have hsign := sign_of_target hms hns hg hws
  by_cases hne : ms = []
  · have htext : write ws ++ ys = g ++ (write ns ++ ys) := by simp [hws, hne]
    rw [htext] at hedge hts
    obtain ⟨us, vs, rfl, rfl, hvs, hparted⟩ := exists_cut_of_clear h hg hts hedge hnext
    have hsign' : '\x1b' ∉ plain vs := fun hmem => h.sign (by simp [hmem])
    obtain ⟨vs, rfl, rfl⟩ := exists_eq_append_of_write hsign' hsign (hvs.symm.trans htext.symm)
    exact ⟨us, vs, rfl, rfl, rfl, hparted⟩
  · obtain ⟨cs, hcs⟩ := exists_write_of_marks hms hne
    have htext : write ws ++ ys = '\x1b' :: (cs ++ (g ++ (write ns ++ ys))) := by simp [hws, hcs]
    have hother : '\x1b' ∉ ['[', '7', 'm'] := by decide
    obtain ⟨us, vs, rfl, rfl, hvs⟩ := exists_cut_of_head hother (hts.trans (by rw [htext]))
    have hsign' : '\x1b' ∉ plain vs := fun hmem => h.sign (by simp [hmem])
    obtain ⟨vs, rfl, rfl⟩ := exists_eq_append_of_write hsign' hsign (hvs.symm.trans htext.symm)
    refine ⟨us, vs, rfl, rfl, rfl, ?_⟩
    have htidy := h.tidy
    rw [hws, List.append_assoc] at htidy
    simpa [hws, hms] using isParted_of_marks htidy hms hne

/-- **An edge before a target** is made of marks, and before these no word goes on. -/
theorem exists_start {a : List Char} (h : IsWellMarked before ts after) (hms : plain ms = [])
    (hns : plain ns = []) (hg : IsClearText g) (hws : ws = ms ++ (g.map .char ++ ns))
    (hts : write ts = xs ++ (a ++ (write ws ++ ys)))
    (hedge : (colorEdge ignoreCase).Covers xs a (write ws ++ ys))
    (hnext : (write ns ++ ys).head?.any isWordChar = false) :
    ∃ us ks vs, ts = us ++ (ks ++ (ws ++ vs)) ∧ plain ks = [] ∧ xs = write us ∧ a = write ks ∧
      ys = write vs ∧ IsParted (before ++ plain us) (plain (ks ++ (ws ++ vs)) ++ after) := by
  rcases colorEdge_cases h.sign hts hedge with ⟨rfl, hplace⟩ |
    ⟨us, s, ks, vs, rfl, -, hks, rfl, rfl, hvs⟩
  · obtain ⟨us, vs, rfl, rfl, rfl, hparted⟩ := exists_cut_of_target h hms hns hg hws hts hplace hnext
    exact ⟨us, [], vs, rfl, rfl, rfl, rfl, rfl, hparted⟩
  · have hsign : '\x1b' ∉ plain vs := fun hmem => h.sign (by
      rw [plain_append, plain_append]
      simp [hmem])
    obtain ⟨vs, rfl, rfl⟩ := exists_eq_append_of_write hsign (sign_of_target hms hns hg hws) hvs.symm
    refine ⟨us, s :: ks, vs, rfl, hks, rfl, rfl, rfl, ?_⟩
    have hparted := isParted_of_marks h.tidy hks (List.cons_ne_nil s ks)
    rwa [@plain_append (s :: ks), hks]

/-- Where no word character follows in the text, no word goes on in the row. -/
theorem IsWellMarked.isParted_of_head? (h : IsWellMarked before (us ++ vs) after)
    (hhead : (write vs).head?.any isWordChar = false) :
    IsParted (before ++ plain us) (plain vs ++ after) := by
  cases vs with
  | nil => simpa using h.stop
  | cons s vs =>
    cases hs : s.char? with
    | none =>
      have hplain : plain (s :: vs) = plain vs := by simp [plain, hs]
      rw [hplain]
      exact h.tidy.isParted hs
    | some c =>
      obtain rfl := eq_char_of_char? hs
      exact isParted_of_head (by simpa using hhead)

/-- **An edge after a target** is made of marks, and after these no word goes on. -/
theorem exists_stop {b : List Char} (h : IsWellMarked before (us ++ (ws ++ vs)) after)
    (hns : plain ns = []) (hg : IsClearText g) (hws : ws = ms ++ (g.map .char ++ ns))
    (hvs : b ++ ys = write vs) (hedge : (colorEdge ignoreCase).Covers (write (us ++ ws)) b ys) :
    ∃ ks vs', vs = ks ++ vs' ∧ plain ks = [] ∧ b = write ks ∧ ys = write vs' ∧
      IsParted (before ++ plain (us ++ (ws ++ ks))) (plain vs' ++ after) := by
  have hts : write (us ++ (ws ++ vs)) = write (us ++ ws) ++ (b ++ ys) := by simp [hvs]
  rcases colorEdge_cases h.sign hts hedge with ⟨rfl, hplace⟩ |
    ⟨us', s, ks, vs', hcut, -, hks, hus', rfl, rfl⟩
  · refine ⟨[], vs, rfl, rfl, rfl, hvs, ?_⟩
    rw [List.append_nil]
    by_cases hne : ns = []
    · have htext : write (us ++ ws) = write (us ++ ms) ++ g := by simp [hws, hne]
      rw [htext, List.getLast?_append_of_ne_nil _ hg.ne_nil, hg.last] at hplace
      refine IsWellMarked.isParted_of_head? (by rwa [List.append_assoc]) ?_
      rw [← hvs]
      exact Bool.eq_false_iff.mpr hplace.symm
    · have htidy := h.tidy
      have hrow : us ++ (ws ++ vs) = (us ++ (ms ++ g.map .char)) ++ (ns ++ vs) := by simp [hws]
      rw [hrow] at htidy
      simpa [hws, hns] using isParted_of_marks htidy hns hne
  · have hcut' : (us ++ ws) ++ vs = us' ++ (s :: ks ++ vs') := by rw [← hcut, List.append_assoc]
    obtain ⟨us'', rfl, rfl, hnil⟩ := exists_eq_append_of_cut hcut' (by rw [← hus', List.append_nil])
    obtain rfl := write_eq_nil_iff.mp hnil.symm
    refine ⟨s :: ks, vs', rfl, hks, rfl, rfl, ?_⟩
    have htidy := h.tidy
    rw [List.nil_append, ← List.append_assoc] at htidy
    rw [← List.append_assoc, plain_append, hks, List.append_nil]
    exact isParted_of_marks htidy hks (List.cons_ne_nil s ks)

/-- Right after the characters of a target there is no word character. -/
theorem head?_after_target {b : List Char} (hns : plain ns = []) (hg : IsClearText g)
    (hws : ws = ms ++ (g.map .char ++ ns))
    (hedge : (colorEdge ignoreCase).Covers (xs ++ write ws) b ys) :
    (write ns ++ (b ++ ys)).head?.any isWordChar = false := by
  by_cases hne : ns = []
  · rcases hedge with hcolors | hwordEdge
    · obtain ⟨r₁, r₂, rfl, hfirst, -⟩ := covers_repeated_one.mp hcolors
      obtain ⟨r', rfl⟩ := exists_cons_of_covers_ofColor hfirst
      rw [hne]
      rfl
    · obtain ⟨rfl, hplace⟩ := covers_wordEdge.mp hwordEdge
      have htext : xs ++ write ws = xs ++ write ms ++ g := by simp [hws, hne]
      rw [htext, List.getLast?_append_of_ne_nil _ hg.ne_nil, hg.last] at hplace
      simpa [hne] using hplace
  · obtain ⟨cs, hcs⟩ := exists_write_of_marks hns hne
    rw [hcs]
    rfl

/-- **A target between two edges is a piece of the row**, and so it is with the marks of the edges. -/
theorem exists_isPiece_of_edges {a b : List Char} (h : IsWellMarked before ts after) (hws : IsTarget ws)
    (hts : write ts = xs ++ (a ++ (write ws ++ (b ++ ys))))
    (hstart : (colorEdge ignoreCase).Covers xs a (write ws ++ (b ++ ys)))
    (hstop : (colorEdge ignoreCase).Covers (xs ++ (a ++ write ws)) b ys) :
    ∃ us rs vs, IsTarget rs ∧ IsPiece before ts after xs (a ++ (write ws ++ b)) ys us rs vs := by
  obtain ⟨ms, g, ns, hrow, hms, hns, hg⟩ := hws
  rw [← List.append_assoc] at hstop
  have hnext := head?_after_target hns hg hrow hstop
  obtain ⟨us, ks, vs, rfl, hks, rfl, rfl, hvs, hfirst⟩ :=
    exists_start h hms hns hg hrow hts hstart hnext
  have h' : IsWellMarked before ((us ++ ks) ++ (ws ++ vs)) after := by rwa [List.append_assoc]
  have hstop' : (colorEdge ignoreCase).Covers (write ((us ++ ks) ++ ws)) b ys := by simpa using hstop
  obtain ⟨ls, vs, rfl, hls, rfl, rfl, hlast⟩ := exists_stop h' hns hg hrow hvs hstop'
  refine ⟨us, ks ++ (ws ++ ls), vs, ⟨ks ++ ms, g, ns ++ ls, ?_, ?_, ?_, hg⟩, ?_⟩
  · simp [hrow]
  · simp [hks, hms]
  · simp [hns, hls]
  have hrow' : us ++ (ks ++ (ws ++ (ls ++ vs))) = us ++ ((ks ++ (ws ++ ls)) ++ vs) := by simp
  have htext : write ks ++ (write ws ++ write ls) = write (ks ++ (ws ++ ls)) := by simp
  rw [hrow'] at h ⊢
  rw [htext]
  exact h.isPiece (by simpa using hfirst) (by simpa using hlast)

/-! ### Patterns -/

/-- A sign that is no word character, and that marks do not have, is a piece of the row. -/
theorem isSeamed_sign {c : Char} (hascii : c.toNat < 0x80) (hcase : c.isAlpha = false)
    (hzero : c ≠ '\x00') (hmark : c ∉ ['\x1b', '[', '7', 'm']) (hword : isWordChar c = false) :
    IsSeamed (.set (Pattern.setOf ignoreCase c)) := by
  intro before after ts xs r ys h hts hcovers
  obtain ⟨d, rfl, hd⟩ := covers_set.mp hcovers
  obtain rfl := eq_of_mem_setOf hascii hcase hzero hd
  obtain ⟨hsign, hother⟩ := not_or.mp (mt List.mem_cons.mpr hmark)
  obtain ⟨us, vs, rfl, rfl, hvs⟩ := exists_cut_of_head hother hts
  cases vs with
  | nil => cases hvs
  | cons s vs =>
    cases s with
    | char e =>
      obtain ⟨rfl, rfl⟩ : d = e ∧ ys = write vs := by simpa using hvs
      have hrow : IsWellMarked before (us ++ ([.char d] ++ vs)) after := h
      refine ⟨us, [.char d], vs, hrow.isPiece ?_ ?_⟩
      · exact isParted_of_head (by simpa using hword)
      · exact isParted_of_last (by simpa using hword)
    | on => simp [hsign] at hvs
    | off => simp [hsign] at hvs

/-- From the start of one piece to the end of another there is a piece. -/
theorem IsPiece.join {r₁ r₂ r₃ : List Char} {us' rs' vs' : List Shade} (h : IsWellMarked before ts after)
    (hfront : IsPiece before ts after xs r₁ (r₂ ++ (r₃ ++ ys)) us rs vs)
    (hback : IsPiece before ts after (xs ++ (r₁ ++ r₂)) r₃ ys us' rs' vs') :
    ∃ us₀ rs₀ vs₀, IsPiece before ts after xs (r₁ ++ (r₂ ++ r₃)) ys us₀ rs₀ vs₀ := by
  obtain ⟨rfl, rfl, rfl, hvs, hfront⟩ := hfront
  obtain ⟨hcut, hus', rfl, rfl, hback⟩ := hback
  have hcut' : (us ++ rs) ++ vs = us' ++ (rs' ++ vs') := by rw [← hcut, List.append_assoc]
  have hus'' : write us' = write (us ++ rs) ++ r₂ := by simpa using hus'.symm
  obtain ⟨ms, rfl, rfl, rfl⟩ := exists_eq_append_of_cut hcut' hus''
  have hrow : us ++ (rs ++ (ms ++ (rs' ++ vs'))) = us ++ ((rs ++ (ms ++ rs')) ++ vs') := by simp
  have htext : write rs ++ (write ms ++ write rs') = write (rs ++ (ms ++ rs')) := by simp
  rw [hrow] at h ⊢
  rw [htext]
  exact ⟨us, _, vs', h.isPiece (by simpa using hfront.start) (by simpa using hback.stop)⟩

/-- **A sequence starts where its first item starts, and ends where its last one ends.** -/
theorem isSeamed_ofSeq {ps : List Pattern} (hne : ps ≠ []) (hfirst : ∀ p ∈ ps.head?, IsSeamed p)
    (hlast : ∀ p ∈ ps.getLast?, IsSeamed p) : IsSeamed (.ofSeq ps) := by
  obtain ⟨p, ps, rfl⟩ := List.exists_cons_of_ne_nil hne
  have hp := hfirst p rfl
  obtain rfl | ⟨ps, q, rfl⟩ := List.eq_nil_or_concat' ps
  · exact hp
  · have hq := hlast q (by simp [List.getLast?_cons])
    intro before after ts xs r ys h hts hcovers
    obtain ⟨r₁, _, rfl, h₁, hrest⟩ := covers_ofSeq_cons.mp hcovers
    obtain ⟨r₂, r₃, rfl, -, h₃⟩ := covers_ofSeq_append.mp hrest
    obtain ⟨r₃, _, rfl, h₃, hnil⟩ := covers_ofSeq_cons.mp h₃
    obtain rfl := covers_ofSeq_nil.mp hnil
    simp only [List.append_nil, List.append_assoc, List.nil_append] at hts h₁ h₃ ⊢
    obtain ⟨us, rs, vs, hfront⟩ := hp h hts h₁
    obtain ⟨us', rs', vs', hback⟩ := hq h (by simpa using hts) h₃
    exact hfront.join h hback

end Highlight

end Concordance
