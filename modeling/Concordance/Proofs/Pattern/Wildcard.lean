import Concordance.Index.Wildcard
import Concordance.Proofs.Pattern.Words

/-!
# Wildcards as patterns

A word with wildcards is written as a pattern of a whole text: it is split at the wildcards, its parts are
escaped, and what matches any run of word characters is put between them. So no character of the parts
keeps a meaning of its own, and what is read is one set after another. The table that decides about a
word without any search has a row for each rest of the pattern; it is the pattern that says what the rows
tell.

## Main definitions

* `Pattern.ofWildcards` — what is read from the text of a word with wildcards
* `Wildcard.Fits` — the engine takes the patterns of words with wildcards
* `Wildcard.Tells` — a row tells which tails of a word some patterns match

## Main results

* `Wildcard.read?_source` — the text is read, whatever characters the word has
* `Wildcard.matchesWord_eq` — the table decides what the pattern matches
* `Wildcard.matchesWord_iff` — within ASCII, these are the words that the wildcards match
-/

namespace Concordance

/-! ### The text of the pattern -/

namespace Pattern

/-- The characters of a word with wildcards, as the whole of a text that starts and ends with an edge. -/
def ofWildcards (ignoreCase : Bool) (pattern : List Char) : Pattern :=
  .ofSeq (.anchor .textStart :: wordEdge :: (pattern.map (ofChar ignoreCase)
    ++ [wordEdge, .anchor .textEnd]))

variable {ignoreCase : Bool} {pattern : List Char}

/-- A word in which the wildcards are written out and everything else is escaped. -/
def escapeWildcards (pattern : List Char) : List Char :=
  pattern.flatMap fun c => if c = '*' then PhraseStyle.anyRun else escape [c]

/-- Escaping the parts and putting them together again is escaping one character after another. -/
theorem intercalate_escape (pattern : List Char) :
    PhraseStyle.anyRun.intercalate ((pattern.splitOn '*').map escape) = escapeWildcards pattern := by
  induction pattern with
  | nil => rfl
  | cons c pattern ih =>
    have hcons : escapeWildcards (c :: pattern)
        = (if c = '*' then PhraseStyle.anyRun else escape [c]) ++ escapeWildcards pattern :=
      List.flatMap_cons
    obtain ⟨part, parts, hparts⟩ := List.exists_cons_of_ne_nil (List.splitOnP_ne_nil (· == '*') pattern)
    rw [List.splitOn, hparts] at ih
    rw [hcons, ← ih, List.splitOn, List.splitOnP_cons_eq_if_modifyHead, hparts]
    by_cases hstar : c = '*'
    · simp [hstar, escape, List.intercalate_cons_cons]
    · have hescape : escape (c :: part) = escape [c] ++ escape part := by simp [escape]
      cases parts <;> simp [hstar, hescape, List.intercalate_cons_cons]

/-- No escaped character changes the meaning of what it follows, and no wildcard does. -/
theorem closes_escapeWildcards (pattern : List Char) : Reading.Closes (escapeWildcards pattern) := by
  cases pattern with
  | nil => exact Reading.closes_nil
  | cons c pattern =>
    rw [escapeWildcards, List.flatMap_cons]
    refine Reading.Closes.append ?_ (closes_escapeWildcards pattern)
    split
    · unfold PhraseStyle.anyRun
      simp only [String.reduceToList]
      exact Reading.closes_cons (by decide)
    · exact closes_escape [c]

/-- Characters and wildcards are read one after another. -/
theorem writesOn_escapeWildcards (pattern : List Char) :
    WritesOn ignoreCase (escapeWildcards pattern) (pattern.map (ofChar ignoreCase)) := by
  induction pattern with
  | nil => exact writes_nil.writesOn
  | cons c pattern ih =>
    have hfirst : WritesOn ignoreCase (if c = '*' then PhraseStyle.anyRun else escape [c])
        [ofChar ignoreCase c] := by
      by_cases hstar : c = '*'
      · subst hstar
        exact writesOn_anyRun
      · rw [ofChar, if_neg hstar, if_neg hstar]
        exact (writes_escape [c]).writesOn
    exact hfirst.append ih (closes_escapeWildcards pattern)

/-! ### What is read -/

/-- The start of a text and the edge of a word. -/
theorem writesOn_start : WritesOn ignoreCase "^\\b".toList [.anchor .textStart, wordEdge] := by
  simp only [String.reduceToList]
  exact fun done items groups count => ⟨2, by decide, fun fuel rest hrest =>
    readFrom_wordEdge hrest fuel ⟨done, some (.anchor .textStart) :: items⟩ groups count⟩

/-- The edge of a word and the end of a text. -/
theorem writes_end : Writes ignoreCase "\\b$".toList [wordEdge, .anchor .textEnd] := by
  simp only [String.reduceToList]
  exact fun _ _ _ _ => ⟨2, by decide, fun _ _ => rfl⟩

/-- The anchored text of a word is read. -/
theorem writes_wildcards (pattern : List Char) :
    Writes ignoreCase ("^\\b".toList ++ escapeWildcards pattern ++ "\\b$".toList)
      (.anchor .textStart :: wordEdge :: (pattern.map (ofChar ignoreCase)
        ++ [wordEdge, .anchor .textEnd])) := by
  have hend : "\\b$".toList = '\\' :: "b$".toList := by simp
  have hstart := @writesOn_start ignoreCase
  have hlast := @writes_end ignoreCase
  rw [hend] at hlast ⊢
  exact (hstart.append (writesOn_escapeWildcards pattern)
    (closes_escapeWildcards pattern)).append_cons hlast (by decide)

end Pattern

/-- The engine takes the patterns of words with wildcards, all of them in one. -/
def Wildcard.Fits (engine : Engine) (caseSensitive : Bool) (patterns : List (List Char)) : Prop :=
  engine.fitsAll (patterns.map (source caseSensitive)) = true

open Pattern in
/-- **The text of a word with wildcards is read**, whatever characters the word has. -/
theorem Wildcard.read?_source (caseSensitive : Bool) (pattern : List Char) :
    Pattern.read? false (source caseSensitive pattern)
      = some (.ofWildcards (!caseSensitive) pattern) := by
  rw [source, Pattern.intercalate_escape]
  cases caseSensitive with
  | true =>
    rw [if_pos rfl, List.nil_append]
    exact (Pattern.writes_wildcards pattern).read?
  | false =>
    have hswitch : (Reading.start { ignoreCase := false }).Leads "(?i)".toList
        ⟨{ ignoreCase := true }, ⟨[], [none]⟩, [], 0, []⟩ := by
      simp only [String.reduceToList]
      exact ⟨1, by decide, fun _ _ => rfl⟩
    have hleads := hswitch.append (Pattern.writes_wildcards pattern [] [none] [] 0)
    rw [if_neg Bool.false_ne_true, List.append_assoc, List.append_assoc,
      ← List.append_assoc "^\\b".toList, hleads.read? rfl rfl]
    simp [Pattern.Branches.pattern, Pattern.Branches.current, Pattern.ofWildcards, Pattern.ofAlt]

/-! ### What is matched -/

namespace Pattern

open Text (isWordChar IsAscii)

variable {ignoreCase : Bool} {pattern xs r ys w : List Char} {ps qs : List Pattern}

theorem covers_textStart : (anchor .textStart).Covers xs r ys ↔ r = [] ∧ xs = [] := by
  constructor
  · rintro ⟨hlength, hholds⟩
    exact ⟨by simpa using hlength, by simpa [Anchor.holds] using hholds⟩
  · rintro ⟨rfl, rfl⟩
    exact ⟨rfl, rfl⟩

theorem covers_textEnd : (anchor .textEnd).Covers xs r ys ↔ r = [] ∧ ys = [] := by
  constructor
  · rintro ⟨hlength, hholds⟩
    obtain rfl : r = [] := by simpa using hlength
    exact ⟨rfl, by simpa [Anchor.holds] using hholds⟩
  · rintro ⟨rfl, rfl⟩
    exact ⟨rfl, by simp [Anchor.holds]⟩

/-- **Wildcards match a text as a whole**, if it starts and ends with word characters. -/
theorem isMatch_ofWildcards : (ofWildcards ignoreCase pattern).isMatch w.toArray = true ↔
    w.head?.any isWordChar = true ∧ w.getLast?.any isWordChar = true ∧
      (ofSeq (pattern.map (ofChar ignoreCase))).Covers [] w [] := by
  have hread := Wildcard.read?_source (!ignoreCase) pattern
  rw [Bool.not_not] at hread
  rw [isMatch_iff_opens (inOrder_of_read? hread)]
  have hedges : ∀ {xs r ys}, (ofWildcards ignoreCase pattern).Covers xs r ys ↔
      xs = [] ∧ ys = [] ∧ r.head?.any isWordChar = true ∧ r.getLast?.any isWordChar = true ∧
        (ofSeq (pattern.map (ofChar ignoreCase))).Covers [] r [] := by
    intro xs r ys
    simp only [ofWildcards, covers_ofSeq_cons, covers_ofSeq_append, covers_ofSeq_nil,
      covers_textStart, covers_textEnd, covers_wordEdge]
    constructor
    · rintro ⟨_, _, rfl, ⟨rfl, rfl⟩, _, _, rfl, ⟨rfl, hstart⟩, r, _, rfl, hr, _, _, rfl,
        ⟨rfl, hstop⟩, _, _, rfl, ⟨rfl, hend⟩, rfl⟩
      obtain rfl : ys = [] := hend
      have hhead : r.head?.any isWordChar = true := by simpa using hstart
      have hlast : r.getLast?.any isWordChar = true := by simpa using hstop
      simpa [hhead, hlast] using hr
    · rintro ⟨rfl, rfl, hstart, hstop, hr⟩
      refine ⟨[], r, rfl, ⟨rfl, rfl⟩, [], r, rfl, ⟨rfl, ?_⟩, r, [], by simp, by simpa using hr, [], [],
        rfl, ⟨rfl, ?_⟩, [], [], rfl, ⟨rfl, rfl⟩, rfl⟩
      · simp [hstart]
      · simp [hstop]
  constructor
  · rintro ⟨xs, s, rfl, r, ys, rfl, h⟩
    obtain ⟨rfl, rfl, hr⟩ := hedges.mp h
    simpa using hr
  · intro h
    exact ⟨[], w, rfl, w, [], (List.append_nil w).symm, hedges.mpr ⟨rfl, rfl, h⟩⟩

/-- Within ASCII, what is between the edges is matched by the wildcards. -/
theorem isMatch_ofWildcards_iff (hpattern : IsAscii pattern) (hw : IsAscii w) (hne : w ≠ [])
    (hword : ∀ c ∈ w, isWordChar c = true) :
    (ofWildcards ignoreCase pattern).isMatch w.toArray = true ↔
      GlobMatches (!ignoreCase) pattern w := by
  obtain ⟨hfirst, hlast⟩ := any_of_word hne hword [] []
  rw [List.append_nil] at hfirst
  rw [isMatch_ofWildcards, covers_chars (fun c hc => Text.fold_of_ascii (hpattern c hc))
      (fun c hc => Text.fold_of_ascii (hw c hc))]
  exact ⟨fun h => h.2.2, fun h => ⟨hfirst, hlast, h⟩⟩

end Pattern

/-! ### The table -/

namespace Wildcard

open Pattern
open Text (isWordChar IsAscii)

variable {word : List Char} {ps : List Pattern} {bs : List Bool}

/-- A row tells of every tail of a word, the longest first, whether patterns match all of it. -/
def Tells (ps : List Pattern) (word : List Char) (bs : List Bool) : Prop :=
  List.Forall₂ (fun tail b => ∀ xs ys, b = true ↔ (ofSeq ps).Covers xs tail ys) word.tails bs

/-- A row starts with what it tells of the word itself. -/
theorem Tells.exists_cons (h : Tells ps word bs) :
    ∃ b later, bs = b :: later ∧ ∀ xs ys, b = true ↔ (ofSeq ps).Covers xs word ys := by
  cases word <;>
  · obtain ⟨b, later, hfirst, -, rfl⟩ := List.forall₂_cons_left_iff.mp h
    exact ⟨b, later, rfl, hfirst⟩

/-- The first entry of a row is about the word itself. -/
theorem Tells.head (h : Tells ps word bs) (xs ys : List Char) :
    bs.head?.getD false = true ↔ (ofSeq ps).Covers xs word ys := by
  obtain ⟨b, later, rfl, hfirst⟩ := h.exists_cons
  exact hfirst xs ys

/-- Without patterns, a row tells of the empty tail only. -/
theorem tells_nil (word : List Char) : Tells [] word (word.map (fun _ => false) ++ [true]) := by
  induction word with
  | nil => exact .cons (by simp [covers_ofSeq_nil]) .nil
  | cons c word ih => exact .cons (by simp [covers_ofSeq_nil]) ih

/-- One character before what a row tells of. -/
theorem Tells.charRow {s : CharSet} (h : Tells ps word bs) :
    Tells (.set s :: ps) word (Wildcard.charRow s.mem word bs) := by
  induction word generalizing bs with
  | nil =>
    obtain ⟨b, later, -, hlater, rfl⟩ := List.forall₂_cons_left_iff.mp h
    obtain rfl : later = [] := List.forall₂_nil_left_iff.mp hlater
    refine .cons (fun xs ys => ?_) .nil
    simp [covers_ofSeq_cons, covers_set]
  | cons c word ih =>
    obtain ⟨b, later, -, hlater, rfl⟩ := List.forall₂_cons_left_iff.mp h
    refine .cons (fun xs ys => ?_) (ih hlater)
    rw [Bool.and_eq_true, Tells.head hlater (xs ++ [c]) ys, covers_ofSeq_cons]
    constructor
    · rintro ⟨hc, hrest⟩
      exact ⟨[c], word, rfl, covers_set.mpr ⟨c, rfl, hc⟩, hrest⟩
    · rintro ⟨_, r, heq, hset, hrest⟩
      obtain ⟨d, rfl, hd⟩ := covers_set.mp hset
      obtain ⟨rfl, rfl⟩ := List.cons.inj heq
      exact ⟨hd, hrest⟩

/-- A run of word characters is none, or starts with one of them. -/
theorem covers_anyRun_cons {c : Char} {xs ys : List Char} :
    (ofSeq (.repeated (.set .word) 0 none true :: ps)).Covers xs (c :: word) ys ↔
      (ofSeq ps).Covers xs (c :: word) ys ∨ isWordChar c = true ∧
        (ofSeq (.repeated (.set .word) 0 none true :: ps)).Covers (xs ++ [c]) word ys := by
  simp only [covers_ofSeq_cons, covers_repeated, coversAll_set]
  constructor
  · rintro ⟨run, rest, heq, hrun, hrest⟩
    cases run with
    | nil =>
      obtain rfl : c :: word = rest := heq
      exact .inl (by simpa using hrest)
    | cons d run =>
      obtain ⟨rfl, rfl⟩ := List.cons.inj heq
      obtain ⟨hd, hrun⟩ := List.forall_mem_cons.mp hrun
      exact .inr ⟨hd, run, rest, rfl, hrun, by simpa using hrest⟩
  · rintro (hrest | ⟨hc, run, rest, rfl, hrun, hrest⟩)
    · exact ⟨[], c :: word, rfl, by simp, by simpa using hrest⟩
    · exact ⟨c :: run, rest, rfl, List.forall_mem_cons.mpr ⟨hc, hrun⟩, by simpa using hrest⟩

/-- Any run of word characters before what a row tells of. -/
theorem Tells.runRow (h : Tells ps word bs) :
    Tells (.repeated (.set .word) 0 none true :: ps) word (Wildcard.runRow word bs) := by
  induction word generalizing bs with
  | nil =>
    obtain ⟨b, later, hfirst, hlater, rfl⟩ := List.forall₂_cons_left_iff.mp h
    obtain rfl : later = [] := List.forall₂_nil_left_iff.mp hlater
    refine .cons (fun xs ys => ?_) .nil
    rw [hfirst xs ys, covers_ofSeq_cons]
    simp [covers_repeated, coversAll_set]
  | cons c word ih =>
    obtain ⟨b, later, hfirst, hlater, rfl⟩ := List.forall₂_cons_left_iff.mp h
    have hrest := ih hlater
    refine .cons (fun xs ys => ?_) hrest
    rw [Bool.or_eq_true, Bool.and_eq_true, hfirst xs ys, Tells.head hrest (xs ++ [c]) ys,
      covers_anyRun_cons]

/-- **The rows of the table tell what the rests of the pattern match.** -/
theorem tells_rows (ignoreCase : Bool) (word pattern : List Char) :
    Tells (pattern.map (ofChar ignoreCase)) word
      (rows (fun c d => (Pattern.setOf ignoreCase c).mem d) word pattern) := by
  induction pattern with
  | nil => exact tells_nil word
  | cons c pattern ih =>
    rw [List.map_cons, rows, ofChar]
    split
    · exact ih.runRow
    · exact ih.charRow

/-- **The table decides what the pattern matches**, for all patterns and words. -/
theorem matchesWord_eq (caseSensitive : Bool) (pattern word : List Char) :
    matchesWord caseSensitive pattern word
      = (ofWildcards (!caseSensitive) pattern).isMatch word.toArray := by
  have hsame : (fun c d => (Pattern.setOf (!caseSensitive) c).mem d)
      = fun c d => if caseSensitive then c == d else Text.alike c d := by
    funext c d
    cases caseSensitive with
    | true => simp [Pattern.setOf, Bool.beq_comm]
    | false => rfl
  have hrows := (tells_rows (!caseSensitive) word pattern).head [] []
  rw [hsame] at hrows
  rw [Bool.eq_iff_iff, isMatch_ofWildcards, ← hrows, matchesWord, Bool.and_eq_true, Bool.and_eq_true,
    and_assoc]

/-- **Within ASCII, the words are those that the wildcards match.** -/
theorem matchesWord_iff {caseSensitive : Bool} {pattern word : List Char} (hpattern : IsAscii pattern)
    (hword : IsAscii word) (hne : word ≠ []) (hchars : ∀ c ∈ word, isWordChar c = true) :
    matchesWord caseSensitive pattern word = true ↔ GlobMatches caseSensitive pattern word := by
  rw [matchesWord_eq, isMatch_ofWildcards_iff hpattern hword hne hchars, Bool.not_not]

end Wildcard

end Concordance
