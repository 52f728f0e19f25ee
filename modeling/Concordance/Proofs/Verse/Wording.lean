import Concordance.Pattern.Reader
import Concordance.Proofs.Markup.Tag
import Concordance.Proofs.Pattern.Order
import Concordance.Proofs.Pattern.Preferred
import Concordance.Proofs.Text.LetterCase
import Concordance.Proofs.Verse.Reference

/-!
# Mentions as a regular expression

The wording of a mention can be written as a regular expression with groups for the book, the chapter and
the verse. Matching it goes back and forth: a Roman numeral at the head of a name may be as well a part of
the name, and blanks before a colon are taken before it is known whether there is one. What comes out of
it is what reading without looking back gives. Names end where they end, however their first characters
are taken; and a colon is there, or no way of taking blanks brings one about.

Looking a text up among the written forms of verses before it is matched makes no difference, as a written
form mentions its verse.

## Main definitions

* `Mention.source`, `Mention.pattern` — the regular expression, and the pattern that it writes
* `Mention.ofMatch` — the mention that the groups of a match say
* `Verse.lookUp` — the verse of a text, looked up among the written forms first

## Main results

* `Mention.takes_name` — a name is taken as a whole
* `Mention.takes_items` — the pattern prefers what is read
* `Mention.find?_pattern` — the first match says what the first mention says
* `Verse.lookUp_eq_parse` — looking up written forms first makes no difference
-/

namespace Concordance

namespace Mention

open Pattern (ofSeq wordEdge Takes Opens Covers IsFullRun)
open Text (trimStart isBlank isDigit isWordChar)

/-! ### Places -/

/-- A mention can be read at a place: a word begins or ends there, and a name follows. -/
structure Stands (xs cs : List Char) : Prop where
  edge : xs.getLast?.any isWordChar ≠ cs.head?.any isWordChar
  name : (readName? cs).isSome = true

/-! ### Characters without case -/

/-- The code points of the characters that end names. -/
def endRanges : Text.CodeRanges := (0x2C, 0x3B) :: Text.digitRanges

theorem exists_endRange {c : Char} (h : isNameChar c = false) :
    ∃ r ∈ endRanges, r.1 ≤ c.toNat ∧ c.toNat ≤ r.2 := by
  by_cases hc : c.toNat < 0x80
  · have hascii := Text.forall_ascii
      (P := fun c => isNameChar c = false → 0x2C ≤ c.toNat ∧ c.toNat ≤ 0x3B) (by decide) hc h
    exact ⟨_, List.mem_cons_self, hascii⟩
  · have hmarks : [',', '-', '.', '/', ':', ';'].all (·.toNat < 0x80) = true := by decide
    rw [isNameChar, Bool.and_eq_false_iff, Bool.not_eq_false', Bool.not_eq_false',
      decide_eq_true_eq] at h
    obtain hdigit | hmark := h
    · rw [isDigit, if_neg hc] at hdigit
      obtain ⟨r, hr, hn⟩ := Text.CodeRanges.exists_of_contains hdigit
      exact ⟨r, List.mem_cons_of_mem _ hr, hn⟩
    · exact absurd (of_decide_eq_true (List.all_eq_true.mp hmarks c hmark)) hc

/-- **The characters that end names have no case.** -/
theorem mem_orbit_iff {c d : Char} (h : isNameChar c = false) : c ∈ Text.orbit d ↔ c = d := by
  have havoids : (endRanges.all fun r =>
      Nat.blt 0 r.1 && Text.foldShifts.all (·.avoids r.1 r.2)) = true := by decide +kernel
  by_cases hd : d.toNat < 0x80
  · have hascii : ∀ d : Char, d.toNat < 0x80 →
        (Text.orbit d).all (fun c => isNameChar c || c == d) = true ∧
          (isNameChar d = false → d ∈ Text.orbit d) := fun d hd =>
      Text.forall_ascii (P := fun d => (Text.orbit d).all (fun c => isNameChar c || c == d) = true ∧
        (isNameChar d = false → d ∈ Text.orbit d)) (by decide +kernel) hd
    constructor
    · intro hc
      simpa [h] using List.all_eq_true.mp (hascii d hd).1 c hc
    · rintro rfl
      exact (hascii c hd).2 h
  · obtain ⟨r, hr, hc⟩ := exists_endRange h
    obtain ⟨hpositive, havoids⟩ := Bool.and_eq_true_iff.mp (List.all_eq_true.mp havoids r hr)
    exact Text.mem_orbit_iff_of_avoids havoids (Nat.blt_eq.mp hpositive) hc (Nat.le_of_not_lt hd)

/-- A set of characters that end names is not enlarged by other cases. -/
theorem mem_folded {s : CharSet} (hs : ∀ c, s.mem c = true → isNameChar c = false) (c : Char) :
    (CharSet.folded s).mem c = s.mem c := by
  rw [CharSet.mem, Bool.eq_iff_iff, List.any_eq_true]
  constructor
  · rintro ⟨d, hd, hmem⟩
    rwa [← (mem_orbit_iff (hs d hmem)).mp hd]
  · exact fun h => ⟨c, (mem_orbit_iff (hs c h)).mpr rfl, h⟩

/-- What is alike a character of ASCII up to case is so in ASCII, but for the long s and the Kelvin
sign. -/
theorem of_mem_like {d c : Char} (h : (CharSet.like d).mem c = true) (hd : d.toNat < 0x80)
    (hlower : d.toLower ∉ ['\x00', 's', 'k']) : c.toNat < 0x80 ∧ c.toLower = d.toLower := by
  have hfold : Text.fold c = d.toLower := by
    rw [← Text.fold_of_ascii hd]
    exact (eq_of_beq h).symm
  simp only [List.mem_cons, List.not_mem_nil, or_false, not_or] at hlower
  rcases Text.eq_of_fold_eq (Text.toNat_toLower hd) hlower.1 hfold with h | ⟨-, h⟩ | ⟨-, h⟩
  · exact h
  · exact absurd h hlower.2.1
  · exact absurd h hlower.2.2

/-- The marks of a mention. -/
inductive IsMark : Char → Prop where
  | dot : IsMark '.'
  | colon : IsMark ':'
  | dash : IsMark '-'

/-- A mark is alike itself only. -/
theorem mem_like {mark : Char} (hmark : IsMark mark) (c : Char) :
    (CharSet.like mark).mem c = true ↔ c = mark := by
  constructor
  · intro h
    have hback : ∀ {c : Char}, c.toNat < 0x80 → c.toLower = mark → c = mark := by
      cases hmark <;>
        exact fun hc => Text.forall_ascii (P := fun c => c.toLower = _ → c = _) (by decide) hc
    obtain ⟨hc, hlower⟩ := of_mem_like h (by cases hmark <;> decide) (by cases hmark <;> decide)
    refine hback hc (hlower.trans ?_)
    cases hmark <;> rfl
  · rintro rfl
    exact Text.alike_self c

/-- A Roman numeral is part of a name. -/
theorem isNameChar_of_mem_like {c : Char} (h : (CharSet.like 'I').mem c = true) :
    isNameChar c = true := by
  obtain ⟨hc, hlower⟩ := of_mem_like h (by decide) (by decide)
  exact Text.forall_ascii (P := fun c => c.toLower = 'i' → isNameChar c = true) (by decide) hc hlower

/-! ### The pattern -/

/-- The characters that end names. -/
def endSet : CharSet :=
  .unionAll [.digit, .single ',', .single '-', .single '.', .single '/', .single ':', .single ';']

/-- The characters of names. -/
def nameSet : CharSet := .compl (.folded endSet)

/-- The numerals that a name may begin with. -/
def numeralSet : CharSet := .folded (.unionAll [.range '1' '3'])

theorem mem_nameSet (c : Char) : nameSet.mem c = isNameChar c := by
  have hends : ∀ c, endSet.mem c = !isNameChar c := by
    intro c
    simp [endSet, CharSet.unionAll, CharSet.mem, isNameChar, Bool.or_assoc, beq_eq_decide]
  rw [nameSet, CharSet.mem, mem_folded (fun c hc => by simpa [hends] using hc), hends, Bool.not_not]

theorem isNameChar_of_isBookNumeral {c : Char} (h : isBookNumeral c = true) :
    isNameChar c = false := by
  simp only [isBookNumeral, Bool.or_eq_true, beq_iff_eq] at h
  obtain (rfl | rfl) | rfl := h <;> decide

theorem mem_numeralSet (c : Char) : numeralSet.mem c = isBookNumeral c := by
  have hrange : ∀ c, (CharSet.unionAll [.range '1' '3']).mem c = isBookNumeral c := by
    intro c
    have hmem : (CharSet.unionAll [.range '1' '3']).mem c = (decide ('1' ≤ c) && decide (c ≤ '3')) := by
      simp [CharSet.unionAll, CharSet.mem]
    rw [hmem, Bool.eq_iff_iff, Bool.and_eq_true, decide_eq_true_eq, decide_eq_true_eq]
    constructor
    · rintro ⟨hlow, hhigh⟩
      have hc : c.toNat < 0x80 := Nat.lt_of_le_of_lt (m := '3'.toNat) hhigh (by decide)
      exact Text.forall_ascii (P := fun c => '1' ≤ c → c ≤ '3' → isBookNumeral c = true) (by decide) hc
        hlow hhigh
    · intro h
      simp only [isBookNumeral, Bool.or_eq_true, beq_iff_eq] at h
      obtain (rfl | rfl) | rfl := h <;> decide
  have hends : ∀ c, (CharSet.unionAll [.range '1' '3']).mem c = true → isNameChar c = false :=
    fun c hc => isNameChar_of_isBookNumeral (hrange c ▸ hc)
  rw [numeralSet, mem_folded hends, hrange]

/-- A set as often as possible. -/
def run (s : CharSet) (low : Nat) (high? : Option Nat) : Pattern := .repeated (.set s) low high? true

/-- A part that need not be there. -/
def optional (p : Pattern) : Pattern := .repeated p 0 (some 1) true

/-- The numeral at the head of a name: a Roman one, or an Arabic one. -/
def numeral : Pattern := optional (.alt (run (.like 'I') 1 (some 3)) (.set numeralSet))

/-- A name. -/
def name : Pattern := .seq numeral (run nameSet 1 none)

/-- A mark with the blanks around it, and what follows it. -/
def marked (mark : Char) (ps : List Pattern) : List Pattern :=
  run .blank 0 none :: .set (.like mark) :: run .blank 0 none :: ps

/-- A colon and the number of a verse. -/
def verseItems : List Pattern := marked ':' [.group 3 (run .digit 1 (some 3))]

/-- The parts of a mention, and what follows it. -/
def items (ps : List Pattern) : List Pattern :=
  wordEdge :: .group 1 name :: optional (.set (.like '.')) :: run .blank 0 none
    :: .group 2 (run .digit 0 (some 3))
    :: optional (ofSeq verseItems) :: ps

/-- The pattern of a mention. -/
def pattern : Pattern := ofSeq (items [])

/-- The regular expression of a mention, line by line. -/
def sourceLines : List String :=
  ["(?ix)",
    "\\b(?P<book>(?:I\x7b1,3\x7d|[1-3])?[^\\d,\\-./:;]+)\\.?",
    "\\s*",
    "(?P<chapter>\\d\x7b0,3\x7d)",
    "(?:\\s*:\\s*(?P<verse>\\d\x7b1,3\x7d))?"]

/-- Lines that are indented, with a line of blanks after them. -/
def indented (lines : List String) : String := "\n        ".intercalate (lines ++ [""])

/-- The regular expression of a mention. -/
def source : String := indented sourceLines

/-- **The regular expression writes the pattern.** -/
theorem read?_source : Pattern.read? false source.toList = some pattern := by
  -- the characters are taken from each line: those of a long string are slow to compute
  rw [source, indented, String.toList_intercalate]
  decide +kernel

/-! ### Runs -/

variable {xs cs rest s ys : List Char} {ps : List Pattern} {gs : List (Nat × List Char)}

/-- A run of a set without an upper bound is taken as far as it goes. -/
theorem takes_takeWhile {set : CharSet} {p : Char → Bool} (hset : ∀ c, set.mem c = p c) {low : Nat}
    (hlow : low ≤ (cs.takeWhile p).length) (xs : List Char) :
    (run set low none).Takes xs (cs.takeWhile p) (cs.dropWhile p) [] := by
  refine Pattern.takes_run ⟨fun c hc => ?_, by simp, .inr fun c hc => ?_⟩ hlow xs
  · rw [hset]
    exact List.all_eq_true.mp List.all_takeWhile c hc
  · rw [hset]
    exact Text.head?_dropWhile c hc

/-- Blanks are passed over. -/
theorem takes_blanks (xs cs : List Char) :
    ∃ r, cs = r ++ trimStart cs ∧ (run .blank 0 none).Takes xs r (trimStart cs) [] :=
  ⟨cs.takeWhile isBlank, List.takeWhile_append_dropWhile.symm,
    takes_takeWhile (fun _ => rfl) (Nat.zero_le _) xs⟩

/-- One dot is passed over. -/
theorem takes_dot (xs cs : List Char) :
    ∃ r, cs = r ++ skipDot cs ∧ (optional (.set (.like '.'))).Takes xs r (skipDot cs) [] := by
  have hdot := mem_like .dot
  by_cases hcs : ∃ rest, cs = '.' :: rest
  · obtain ⟨rest, rfl⟩ := hcs
    exact ⟨['.'], rfl, Pattern.takes_optional (Pattern.takes_set ((hdot '.').mpr rfl))⟩
  · have hskip : skipDot cs = cs := by
      rw [skipDot]
      rintro rest rfl
      exact hcs ⟨rest, rfl⟩
    refine ⟨[], by rw [hskip]; rfl, hskip.symm ▸ Pattern.takes_optional_nil trivial ?_⟩
    rintro ⟨r, ys, rfl, hcovers⟩
    obtain ⟨c, rfl, hc⟩ := Pattern.covers_set.mp hcovers
    exact hcs ⟨ys, by rw [(hdot c).mp hc]; rfl⟩

/-- What is read as digits is a full run of digits. -/
theorem isFullRun_readDigits (h : readDigits cs = (s, rest)) :
    cs = s ++ rest ∧ IsFullRun .digit (some 3) s rest := by
  obtain ⟨rfl, rfl⟩ := Prod.mk.inj h
  have hfirst : (cs.take 3).takeWhile isDigit ++ (cs.take 3).dropWhile isDigit = cs.take 3 :=
    List.takeWhile_append_dropWhile
  have hmem : ∀ c ∈ (cs.take 3).takeWhile isDigit, isDigit c = true :=
    List.all_eq_true.mp List.all_takeWhile
  have hstop : ∀ c ∈ ((cs.take 3).dropWhile isDigit).head?, isDigit c = false :=
    fun _ => Text.head?_dropWhile _
  generalize (cs.take 3).takeWhile isDigit = digits at *
  generalize (cs.take 3).dropWhile isDigit = others at *
  have htext : cs = digits ++ (others ++ cs.drop 3) := by
    rw [← List.append_assoc, hfirst, List.take_append_drop]
  have hdrop : cs.drop digits.length = others ++ cs.drop 3 := by
    have hdrop := congrArg (List.drop digits.length) htext
    rwa [List.drop_left] at hdrop
  have hlength : digits.length + others.length = min 3 cs.length := by
    rw [← List.length_append, hfirst, List.length_take]
  refine ⟨by rw [hdrop, ← htext], hmem, fun high hhigh => ?_, ?_⟩
  · obtain rfl := Option.some.inj hhigh
    omega
  rw [hdrop]
  cases others with
  | cons c others => exact .inr fun c' hc' => hstop c' hc'
  | nil =>
    -- all of the first three characters are digits
    by_cases hshort : cs.length < 3
    · exact .inr (by simp [List.drop_eq_nil_of_le (Nat.le_of_lt hshort)])
    · refine .inl (congrArg some ?_)
      simp only [List.length_nil] at hlength
      omega

/-! ### Names -/

/-- What the numeral of a name may take: nothing, characters of names, or an Arabic numeral. -/
theorem covers_numeral {r : List Char} (h : numeral.Covers xs r ys) :
    (∀ c ∈ r, isNameChar c = true) ∨ ∃ d, r = [d] ∧ isBookNumeral d = true := by
  obtain rfl | hroman | harabic := Pattern.covers_optional.mp h
  · exact .inl fun _ hc => nomatch hc
  · exact .inl fun c hc => isNameChar_of_mem_like ((Pattern.mem_of_covers_repeated hroman).2.2 c hc)
  · obtain ⟨d, rfl, hd⟩ := Pattern.covers_set.mp harabic
    exact .inr ⟨d, rfl, by rwa [← mem_numeralSet]⟩

theorem takes_nameRun (hne : cs.takeWhile isNameChar ≠ []) (xs : List Char) :
    (run nameSet 1 none).Takes xs (cs.takeWhile isNameChar) (cs.dropWhile isNameChar) [] :=
  takes_takeWhile mem_nameSet (List.length_pos_iff.mpr hne) xs

theorem inOrder_nameRun : (run nameSet 1 none).InOrder := ⟨trivial, by simp⟩

theorem inOrder_name : name.InOrder :=
  ⟨⟨⟨⟨trivial, by simp⟩, trivial⟩, by simp⟩, inOrder_nameRun⟩

/-- Characters of names are there where some are taken. -/
theorem opens_nameRun : (run nameSet 1 none).Opens xs cs ↔ cs.takeWhile isNameChar ≠ [] := by
  constructor
  · rintro ⟨r, ys, rfl, hcovers⟩
    obtain ⟨hlow, -, hmem⟩ := Pattern.mem_of_covers_repeated hcovers
    obtain ⟨c, r, rfl⟩ := List.exists_cons_of_length_pos hlow
    have hc : isNameChar c = true := by rw [← mem_nameSet, hmem c List.mem_cons_self]
    simp [hc]
  · intro hne
    have hopens := (takes_nameRun hne xs).opens inOrder_nameRun
    rwa [List.takeWhile_append_dropWhile] at hopens

/-- **A name is read to the same end**, whatever is taken for a numeral at its head. -/
theorem readName?_of_covers_numeral {r : List Char} (hr : numeral.Covers xs r cs)
    (hne : cs.takeWhile isNameChar ≠ []) :
    readName? (r ++ cs) = some (r ++ cs.takeWhile isNameChar, cs.dropWhile isNameChar) := by
  obtain hname | ⟨d, rfl, hd⟩ := covers_numeral hr
  · have htake : (r ++ cs).takeWhile isNameChar = r ++ cs.takeWhile isNameChar :=
      List.takeWhile_append_of_pos hname
    have hdrop : (r ++ cs).dropWhile isNameChar = cs.dropWhile isNameChar :=
      List.dropWhile_append_of_pos hname
    have hne' : (r ++ cs).takeWhile isNameChar ≠ [] := by simp [htake, hne]
    rw [← htake, ← hdrop]
    cases htext : r ++ cs with
    | nil => simp [htext] at hne'
    | cons c rest =>
      rw [htext] at hne'
      have hc : isBookNumeral c = false := by
        rw [Bool.eq_false_iff]
        intro hc
        simp [isNameChar_of_isBookNumeral hc] at hne'
      rw [readName?_cons_of_not_numeral hc, if_neg hne']
  · rw [List.singleton_append, readName?_cons_of_numeral hd, if_neg hne, List.singleton_append]

/-- A name is there where one is read. -/
theorem opens_name : name.Opens xs cs ↔ (readName? cs).isSome = true := by
  constructor
  · rintro ⟨_, ys, rfl, hcovers⟩
    obtain ⟨r₁, r₂, rfl, hnumeral, hrun⟩ := Pattern.covers_seq.mp hcovers
    rw [List.append_assoc, readName?_of_covers_numeral hnumeral (opens_nameRun.mp ⟨r₂, ys, rfl, hrun⟩)]
    rfl
  · intro h
    cases cs with
    | nil => cases h
    | cons c cs =>
      cases hc : isBookNumeral c with
      | true =>
        rw [readName?_cons_of_numeral hc, Option.isSome_ite'] at h
        have hnumeral : numeral.Covers xs [c] cs := Pattern.covers_optional.mpr (.inr (.inr
          (Pattern.covers_set.mpr ⟨c, rfl, by rwa [mem_numeralSet]⟩)))
        exact Pattern.opens_seq hnumeral (opens_nameRun.mpr h)
      | false =>
        rw [readName?_cons_of_not_numeral hc, Option.isSome_ite'] at h
        have hnumeral : numeral.Covers xs [] (c :: cs) := Pattern.covers_optional.mpr (.inl rfl)
        exact Pattern.opens_seq hnumeral (opens_nameRun.mpr h)

/-- A name that is read has characters, and the rest of the text is left. -/
theorem split_of_readName? (h : readName? cs = some (s, rest)) : cs = s ++ rest ∧ s ≠ [] := by
  cases cs with
  | nil => cases h
  | cons c cs =>
    cases hc : isBookNumeral c with
    | true =>
      rw [readName?_cons_of_numeral hc, Option.ite_none_left_eq_some, Option.some.injEq,
        Prod.mk.injEq] at h
      obtain ⟨-, rfl, rfl⟩ := h
      exact ⟨by rw [List.cons_append, List.takeWhile_append_dropWhile], List.cons_ne_nil _ _⟩
    | false =>
      rw [readName?_cons_of_not_numeral hc, Option.ite_none_left_eq_some, Option.some.injEq,
        Prod.mk.injEq] at h
      obtain ⟨hne, rfl, rfl⟩ := h
      exact ⟨List.takeWhile_append_dropWhile.symm, hne⟩

/-- **A name is taken as a whole.** -/
theorem takes_name (h : readName? cs = some (s, rest)) (xs : List Char) :
    name.Takes xs s rest [] := by
  obtain ⟨rfl, -⟩ := split_of_readName? h
  refine Pattern.takes_seq_of_ends inOrder_name ⟨trivial, trivial⟩ (opens_name.mpr (by rw [h]; rfl))
    fun r₁ r₂ htext hnumeral hrun => ?_
  have hne := opens_nameRun.mp hrun
  rw [htext, readName?_of_covers_numeral hnumeral hne, Option.some.injEq, Prod.mk.injEq] at h
  obtain ⟨rfl, rfl⟩ := h
  exact ⟨_, rfl, takes_nameRun hne (xs ++ r₁)⟩

/-! ### Marks -/

/-- **A mark is taken with the blanks around it**, if what is to follow is taken after it. -/
theorem takes_marked {mark : Char} (hmark : IsMark mark) {after : List Char}
    (h : trimStart cs = mark :: after) (ps : List Pattern) (xs : List Char) :
    ∃ r, cs = r ++ trimStart after ∧ ∀ {s ys gs}, trimStart after = s ++ ys →
      (ofSeq ps).Takes (xs ++ r) s ys gs → (ofSeq (marked mark ps)).Takes xs (r ++ s) ys gs := by
  obtain ⟨b, hb, hbefore⟩ := takes_blanks xs cs
  obtain ⟨b', hb', hafter⟩ := takes_blanks (xs ++ b ++ [mark]) after
  rw [h] at hb hbefore
  refine ⟨b ++ mark :: b', ?_, fun {s ys gs} htrim hps => ?_⟩
  · rw [hb, List.append_assoc, List.cons_append, ← hb']
  · have hset : (Pattern.set (.like mark)).Takes (xs ++ b) [mark] after [] :=
      Pattern.takes_set ((mem_like hmark mark).mpr rfl)
    have hrest : (ofSeq ps).Takes (xs ++ b ++ [mark] ++ b') s ys gs := by simpa using hps
    rw [htrim] at hb'
    have hall := Pattern.takes_ofSeq_cons hbefore (Pattern.takes_ofSeq_cons hset
      (Pattern.takes_ofSeq_cons hafter hrest htrim) (by simp [hb'])) (by simp [hb'])
    simpa [marked] using hall

/-- What a mark with blanks around it matches. -/
theorem exists_of_opens_marked {mark : Char} (hmark : IsMark mark)
    (h : (ofSeq (marked mark ps)).Opens xs cs) :
    ∃ b b' t, cs = b ++ mark :: (b' ++ t) ∧ (∀ c ∈ b, isBlank c = true) ∧ (∀ c ∈ b', isBlank c = true) ∧
      (ofSeq ps).Opens (xs ++ b ++ [mark] ++ b') t := by
  obtain ⟨b, _, rfl, hb, h₁⟩ := Pattern.opens_ofSeq_cons.mp h
  obtain ⟨r, _, rfl, hr, h₂⟩ := Pattern.opens_ofSeq_cons.mp h₁
  obtain ⟨b', t, rfl, hb', h₃⟩ := Pattern.opens_ofSeq_cons.mp h₂
  obtain ⟨c, rfl, hc⟩ := Pattern.covers_set.mp hr
  obtain rfl := (mem_like hmark c).mp hc
  exact ⟨b, b', t, rfl, (Pattern.mem_of_covers_repeated hb).2.2,
    (Pattern.mem_of_covers_repeated hb').2.2, h₃⟩

/-! ### Whole mentions -/

/-- The characters of the digits that are read. -/
theorem takes_digits {low : Nat} (h : readDigits cs = (s, rest)) (hlow : low ≤ s.length)
    (xs : List Char) : cs = s ++ rest ∧ (run .digit low (some 3)).Takes xs s rest [] :=
  ⟨(isFullRun_readDigits h).1, Pattern.takes_run (isFullRun_readDigits h).2 hlow xs⟩

theorem isBlank_of_isDigit {c : Char} (h : isDigit c = true) : isBlank c = false := by
  rw [Bool.eq_false_iff]
  intro hblank
  have hname := isNameChar_of_isBlank hblank
  rw [isNameChar_of_isDigit h] at hname
  cases hname

/-- Digits are there where some are read. -/
theorem exists_digit_of_opens (h : (run .digit 1 (some 3)).Opens xs cs) :
    ∃ d rest, cs = d :: rest ∧ isDigit d = true := by
  obtain ⟨r, ys, rfl, hcovers⟩ := h
  obtain ⟨hlow, -, hmem⟩ := Pattern.mem_of_covers_repeated hcovers
  obtain ⟨d, r, rfl⟩ := List.exists_cons_of_length_pos hlow
  exact ⟨d, r ++ ys, rfl, hmem d List.mem_cons_self⟩

theorem readColon?_eq_some_iff : readColon? cs = some rest ↔
    ∃ after, trimStart cs = ':' :: after ∧ rest = trimStart after := by
  rw [readColon?]
  split
  · rename_i after htrim
    simp [htrim, eq_comm]
  · rename_i hnone
    refine ⟨by simp, ?_⟩
    rintro ⟨after, htrim, -⟩
    exact absurd htrim (hnone after)

theorem readVerse?_eq_some_iff : readVerse? cs = some (s, rest) ↔
    ∃ after, trimStart cs = ':' :: after ∧ readDigits (trimStart after) = (s, rest) ∧ s ≠ [] := by
  rw [readVerse?]
  constructor
  · intro h
    split at h
    · cases h
    · rename_i digits hcolon
      obtain ⟨after, htrim, rfl⟩ := readColon?_eq_some_iff.mp hcolon
      simp only [List.isEmpty_iff, Option.ite_none_left_eq_some, Option.some.injEq] at h
      exact ⟨after, htrim, h.2, by rw [← (Prod.mk.inj h.2).1]; exact h.1⟩
  · rintro ⟨after, htrim, hdigits, hne⟩
    rw [readColon?_eq_some_iff.mpr ⟨after, htrim, rfl⟩]
    simp [hdigits, hne]

theorem takes_verse (h : readVerse? cs = some (s, rest)) (xs : List Char) :
    ∃ r, cs = r ++ rest ∧ (ofSeq verseItems).Takes xs r rest [(3, s)] := by
  obtain ⟨after, htrim, hdigits, hne⟩ := readVerse?_eq_some_iff.mp h
  obtain ⟨r, hr, htakes⟩ := takes_marked .colon htrim _ xs
  obtain ⟨hrest, hnumber⟩ := takes_digits hdigits (List.length_pos_iff.mpr hne) (xs ++ r)
  exact ⟨r ++ s, by rw [hr, hrest, List.append_assoc], htakes hrest (Pattern.takes_group hnumber 3)⟩

theorem not_opens_verse (h : readVerse? cs = none) (xs : List Char) :
    ¬ (ofSeq verseItems).Opens xs cs := by
  intro hopens
  obtain ⟨b, b', t, rfl, hb, hb', ht⟩ := exists_of_opens_marked .colon hopens
  obtain ⟨d, rest, rfl, hd⟩ := exists_digit_of_opens ht
  have htrim : trimStart (b ++ ':' :: (b' ++ d :: rest)) = ':' :: (b' ++ d :: rest) := by
    rw [Text.trimStart_append_left hb]
    rfl
  have hafter : trimStart (b' ++ d :: rest) = d :: rest := by
    rw [Text.trimStart_append_left hb']
    exact List.dropWhile_cons_of_neg (by rw [isBlank_of_isDigit hd]; exact Bool.false_ne_true)
  have hne : (readDigits (d :: rest)).1 ≠ [] := by simp [readDigits, hd]
  have hsome := readVerse?_eq_some_iff.mpr ⟨_, htrim, by rw [hafter], hne⟩
  rw [h] at hsome
  cases hsome

/-- What the groups say of a mention, the last one first. -/
def groups (m : Mention) : List (Nat × List Char) :=
  (m.verse?.map fun verse => (3, verse)).toList ++ [(2, m.chapter), (1, m.book)]

/-- What is read of a mention, part by part. -/
theorem read?_eq_some {m : Mention} (h : read? cs = some (m, rest)) :
    ∃ after chapter, readName? cs = some (m.book, after) ∧
      readDigits (trimStart (skipDot after)) = (m.chapter, chapter) ∧
      (readVerse? chapter = none ∧ m.verse? = none ∧ rest = chapter ∨
        ∃ verse, readVerse? chapter = some (verse, rest) ∧ m.verse? = some verse) := by
  rw [read?] at h
  split at h
  · cases h
  · rename_i book after hname
    split at h
    rename_i chapter rest' hdigits
    split at h
    · rename_i verse rest hverse
      obtain ⟨rfl, rfl⟩ := Prod.mk.inj (Option.some.inj h)
      exact ⟨after, rest', hname, hdigits, .inr ⟨verse, hverse, rfl⟩⟩
    · rename_i hverse
      obtain ⟨rfl, rfl⟩ := Prod.mk.inj (Option.some.inj h)
      exact ⟨after, rest', hname, hdigits, .inl ⟨hverse, rfl, rfl⟩⟩

/-- What is read as numbers are digits. -/
theorem isDigit_of_read? {m : Mention} (h : read? cs = some (m, rest)) :
    (∀ c ∈ m.chapter, isDigit c = true) ∧ ∀ c ∈ m.verse?.getD [], isDigit c = true := by
  obtain ⟨after, chapter, -, hchapter, hverse⟩ := read?_eq_some h
  refine ⟨(isFullRun_readDigits hchapter).2.mem, ?_⟩
  obtain ⟨-, hnone, -⟩ | ⟨verse, hverse, hsome⟩ := hverse
  · rw [hnone]
    exact fun _ hc => nomatch hc
  · obtain ⟨_, -, hdigits, -⟩ := readVerse?_eq_some_iff.mp hverse
    rw [hsome]
    exact (isFullRun_readDigits hdigits).2.mem

/-- A verse is taken if one is read. -/
theorem takes_optional_verse {verse? : Option (List Char)}
    (h : readVerse? cs = none ∧ verse? = none ∧ rest = cs ∨
      ∃ verse, readVerse? cs = some (verse, rest) ∧ verse? = some verse) (xs : List Char) :
    ∃ r, cs = r ++ rest ∧ (optional (ofSeq verseItems)).Takes xs r rest
      (verse?.map fun verse => (3, verse)).toList := by
  obtain ⟨hnone, rfl, rfl⟩ | ⟨verse, hverse, rfl⟩ := h
  · have horder : (ofSeq verseItems).InOrder :=
      ⟨⟨trivial, by simp⟩, trivial, ⟨trivial, by simp⟩, trivial, by simp⟩
    exact ⟨[], rfl, Pattern.takes_optional_nil horder (not_opens_verse hnone xs)⟩
  · obtain ⟨r, hr, htakes⟩ := takes_verse hverse xs
    exact ⟨r, hr, Pattern.takes_optional htakes⟩

/-- **The pattern prefers what is read**, if what is to follow is taken after it. -/
theorem takes_items {m : Mention} (h : read? cs = some (m, rest)) {xs : List Char}
    (hedge : xs.getLast?.any isWordChar ≠ cs.head?.any isWordChar) :
    ∃ r, cs = r ++ rest ∧ r ≠ [] ∧ ∀ {s ys gs}, rest = s ++ ys →
      (ofSeq ps).Takes (xs ++ r) s ys gs →
        (ofSeq (items ps)).Takes xs (r ++ s) ys (gs ++ groups m) := by
  obtain ⟨after, after', hname, hdigits, hverse⟩ := read?_eq_some h
  obtain ⟨r₁, hr₁, hdot⟩ := takes_dot (xs ++ m.book) after
  obtain ⟨r₂, hr₂, hblanks⟩ := takes_blanks (xs ++ m.book ++ r₁) (skipDot after)
  obtain ⟨hchapter, htakes⟩ := takes_digits hdigits (Nat.zero_le _) (xs ++ m.book ++ r₁ ++ r₂)
  obtain ⟨r₃, hr₃, hoptional⟩ := takes_optional_verse hverse (xs ++ m.book ++ r₁ ++ r₂ ++ m.chapter)
  have hbook := Pattern.takes_group (takes_name hname xs) 1
  have hedge' := Pattern.takes_wordEdge hedge
  obtain ⟨htext, hne⟩ := split_of_readName? hname
  rw [hr₃] at hchapter htakes
  rw [hchapter] at hr₂ hblanks
  rw [hr₂] at hr₁ hdot
  rw [hr₁] at htext hbook
  rw [htext] at hedge'
  refine ⟨m.book ++ (r₁ ++ (r₂ ++ (m.chapter ++ r₃))), by simpa using htext, by simp [hne], ?_⟩
  rintro s ys gs rfl hps
  have hps' : (ofSeq ps).Takes (xs ++ m.book ++ r₁ ++ r₂ ++ m.chapter ++ r₃) s ys gs := by
    simpa using hps
  -- the parts from the last one to the first
  have h₆ := Pattern.takes_ofSeq_cons hoptional hps' rfl
  have h₅ := Pattern.takes_ofSeq_cons (Pattern.takes_group htakes 2) h₆ (by simp)
  have h₄ := Pattern.takes_ofSeq_cons hblanks h₅ (by simp)
  have h₃ := Pattern.takes_ofSeq_cons hdot h₄ (by simp)
  have h₂ := Pattern.takes_ofSeq_cons hbook h₃ (by simp)
  have h₁ := Pattern.takes_ofSeq_cons hedge' (by rwa [List.append_nil]) (by simp)
  simpa only [items, groups, List.nil_append, List.append_nil, List.append_assoc, List.singleton_append]
    using h₁

/-! ### The first mention -/

theorem stands_of_opens (h : (ofSeq (items ps)).Opens xs cs) : Stands xs cs := by
  obtain ⟨r, t, rfl, h₀, h₁⟩ := Pattern.opens_ofSeq_cons.mp h
  obtain ⟨rfl, hedge⟩ := Pattern.covers_wordEdge.mp h₀
  obtain ⟨r₁, t, rfl, hname, -⟩ := Pattern.opens_ofSeq_cons.mp h₁
  exact ⟨hedge, opens_name.mp ⟨r₁, t, rfl, hname⟩⟩

theorem isSome_read? : (read? cs).isSome = (readName? cs).isSome := by
  rw [read?]
  split
  · rename_i hname
    rw [hname]
    rfl
  · rename_i book after hname
    rw [hname]
    split
    split <;> rfl

theorem atBoundary_getLast? {c : Char} :
    atBoundary xs.getLast? c = true ↔ xs.getLast?.any isWordChar ≠ (c :: cs).head?.any isWordChar := by
  simp [atBoundary]

/-- Where nothing is read, the first mention is the first one of the rest. -/
theorem find?_of_not_stands {c : Char} (h : ¬ Stands xs (c :: cs)) :
    find? xs.getLast? (c :: cs) = find? (xs ++ [c]).getLast? cs := by
  rw [List.getLast?_concat, find?]
  split
  · rename_i hedge
    split
    · rename_i found hread
      refine absurd ⟨atBoundary_getLast?.mp hedge, ?_⟩ h
      rw [← isSome_read?, hread]
      rfl
    · rfl
  · rfl

/-- **The first mention in a text** is read at the first place where one can be read. -/
theorem exists_of_find? {found : Mention × List Char} (h : find? xs.getLast? cs = some found) :
    ∃ us s, cs = us ++ s ∧ Stands (xs ++ us) s ∧ read? s = some found ∧
      ∀ us₁ us₂, us = us₁ ++ us₂ → us₂ ≠ [] → ¬ Stands (xs ++ us₁) (us₂ ++ s) := by
  induction cs generalizing xs with
  | nil => cases h
  | cons c cs ih =>
    by_cases hstands : Stands xs (c :: cs)
    · refine ⟨[], c :: cs, rfl, by rwa [List.append_nil], ?_, fun us₁ us₂ hus hne => ?_⟩
      · obtain ⟨found', hread⟩ := Option.isSome_iff_exists.mp (isSome_read?.trans hstands.name)
        rw [find?, if_pos (atBoundary_getLast?.mpr hstands.edge), hread] at h
        rwa [hread]
      · exact absurd (List.append_eq_nil_iff.mp hus.symm).2 hne
    · rw [find?_of_not_stands hstands] at h
      obtain ⟨us, s, rfl, hs, hread, hfirst⟩ := ih h
      rw [List.append_assoc] at hs
      refine ⟨c :: us, s, rfl, hs, hread, fun us₁ us₂ hus hne => ?_⟩
      cases us₁ with
      | nil =>
        obtain rfl : c :: us = us₂ := hus
        rwa [List.append_nil]
      | cons c' us₁ =>
        obtain ⟨rfl, rfl⟩ := List.cons.inj hus
        have hrest := hfirst us₁ us₂ rfl hne
        rwa [List.append_assoc] at hrest

/-- Where no mention is found, none can be read. -/
theorem not_stands_of_find? (h : find? xs.getLast? cs = none) {us s : List Char} (hs : cs = us ++ s) :
    ¬ Stands (xs ++ us) s := by
  induction cs generalizing xs us with
  | nil =>
    obtain ⟨rfl, rfl⟩ := List.append_eq_nil_iff.mp hs.symm
    exact fun hstands => nomatch hstands.name
  | cons c cs ih =>
    have hfirst : ¬ Stands xs (c :: cs) := by
      intro hstands
      obtain ⟨found, hread⟩ := Option.isSome_iff_exists.mp (isSome_read?.trans hstands.name)
      rw [find?, if_pos (atBoundary_getLast?.mpr hstands.edge), hread] at h
      cases h
    cases us with
    | nil =>
      obtain rfl : c :: cs = s := hs
      rwa [List.append_nil]
    | cons c' us =>
      obtain ⟨rfl, rfl⟩ := List.cons.inj hs
      rw [find?_of_not_stands hfirst] at h
      have hrest := ih h rfl
      rwa [List.append_assoc] at hrest

/-! ### The first match -/

section

variable (hp : (ofSeq (items ps)).InOrder)

include hp

/-- **The first match says what the first mention says**, and what is taken after it. -/
theorem exists_findFrom?_items (xs : List Char) {m : Mention}
    (h : find? xs.getLast? cs = some (m, rest))
    (hps : ∀ xs, ∃ s, rest = s ++ ys ∧ (ofSeq ps).Takes xs s ys gs) :
    ∃ found us, (ofSeq (items ps)).findFrom? (xs ++ cs).toArray xs.length = some found ∧
      found.captures.map (Pattern.said (xs ++ cs).toArray) = gs ++ groups m ∧
      cs = us ++ ys ∧ us ≠ [] ∧ found.start < found.stop ∧ found.stop = (xs ++ us).length := by
  obtain ⟨us, t, rfl, hstands, hread, hfirst⟩ := exists_of_find? h
  obtain ⟨r, rfl, hne, htakes⟩ := takes_items hread hstands.edge
  obtain ⟨s, rfl, hs⟩ := hps (xs ++ us ++ r)
  have hall := htakes rfl hs
  rw [← List.append_assoc r] at hfirst ⊢
  obtain ⟨found, hfound, hstart, hstop, hsaid⟩ := Pattern.exists_findFrom?_of_takes hp
    (fun us₁ us₂ hus hne hopens => hfirst us₁ us₂ hus hne (stands_of_opens hopens)) hall
  rw [← List.append_assoc xs]
  refine ⟨found, us ++ (r ++ s), hfound, hsaid, by simp, by simp [hne], ?_, ?_⟩
  · have := List.length_pos_iff.mpr hne
    rw [hstart, hstop]
    simp only [List.length_append]
    omega
  · rw [hstop, List.append_assoc]

/-- Where nothing is mentioned nothing matches. -/
theorem findFrom?_items_eq_none (xs : List Char) (h : find? xs.getLast? cs = none) :
    (ofSeq (items ps)).findFrom? (xs ++ cs).toArray xs.length = none :=
  Pattern.findFrom?_eq_none hp fun _ _ hs hopens => not_stands_of_find? h hs (stands_of_opens hopens)

end

/-- The mention that the groups of a match say. -/
def ofMatch (t : Array Char) (found : Match) : Mention where
  book := (found.group? t 1).getD []
  chapter := (found.group? t 2).getD []
  verse? := found.group? t 3

theorem ofMatch_eq {t : Array Char} {found : Match} {m : Mention}
    (h : found.captures.map (Pattern.said t) = gs ++ groups m) (hgs : ∀ g ∈ gs, 3 < g.1) :
    ofMatch t found = m := by
  have hskip : ∀ index ≤ 3, gs.find? (·.1 == index) = none := by
    intro index hindex
    rw [List.find?_eq_none]
    intro g hg
    have := hgs g hg
    simp
    omega
  have hgroup : ∀ index, index ≠ 0 → index ≤ 3 →
      found.group? t index = ((groups m).find? (·.1 == index)).map Prod.snd := by
    intro index hzero hindex
    rw [Pattern.group?_eq t found hzero, h, List.find?_append, hskip index hindex, Option.none_or]
  obtain ⟨book, chapter, verse?⟩ := m
  rw [ofMatch, hgroup 1 (by decide) (by decide), hgroup 2 (by decide) (by decide),
    hgroup 3 (by decide) (by decide)]
  cases verse? <;> rfl

/-- **The first match of the regular expression says what the first mention says.** -/
theorem find?_pattern (cs : List Char) :
    (pattern.find? cs.toArray).map (ofMatch cs.toArray) = (find? none cs).map Prod.fst := by
  have horder : pattern.InOrder := Pattern.inOrder_of_read? read?_source
  cases hfind : find? none cs with
  | none =>
    have hnone : pattern.find? cs.toArray = none := findFrom?_items_eq_none horder [] hfind
    rw [hnone]
    rfl
  | some found =>
    obtain ⟨m, rest⟩ := found
    obtain ⟨found, -, hfound, hsaid, -⟩ := exists_findFrom?_items horder [] hfind
      fun _ => ⟨[], rfl, Pattern.takes_empty⟩
    have hsome : pattern.find? cs.toArray = some found := hfound
    have hmention : ofMatch cs.toArray found = m := ofMatch_eq hsaid fun _ hg => nomatch hg
    rw [hsome, Option.map_some, hmention]
    rfl

end Mention

namespace Verse

/-! ### Looking up written forms -/

/-- The verses of the corpus, in order. -/
def all : List Verse := (List.range corpusSize).map ofOrdinal

theorem mem_all (v : Verse) : v ∈ all :=
  List.mem_map.mpr ⟨v.ordinal, List.mem_range.mpr v.ordinal_lt, v.ofOrdinal_ordinal⟩

/-- The verse that is written so. -/
def written? (cs : List Char) : Option Verse := all.find? fun v => v.reference.toList == cs

/-- Every verse is found by its written form, and nothing else is found. -/
theorem written?_eq_some_iff {cs : List Char} {v : Verse} :
    written? cs = some v ↔ v.reference.toList = cs := by
  have hform : ∀ {w}, written? cs = some w → w.reference.toList = cs := by
    intro w h
    have hfound := List.find?_some h
    exact eq_of_beq hfound
  refine ⟨hform, fun h => ?_⟩
  obtain ⟨w, hw⟩ : ∃ w, written? cs = some w := by
    rw [← Option.isSome_iff_exists, written?, List.find?_isSome]
    exact ⟨v, v.mem_all, beq_iff_eq.mpr h⟩
  rw [hw, reference_injective (String.toList_injective ((hform hw).trans h.symm))]

/-- The verse that the first match of the regular expression says, or the first verse of the corpus. -/
def matched (text : String) : Verse :=
  ((Mention.pattern.find? text.toList.toArray).map fun found =>
    (Mention.ofMatch text.toList.toArray found).verse).getD .first

/-- The verse that a text means: the one that it is the written form of, blanks around it apart, or else
the one that the first match says. -/
def lookUp (text : String) : Verse := (written? (Text.trim text.toList)).getD (matched text)

theorem parse_eq (text : String) :
    parse text = ((Mention.find? none text.toList).map fun found => found.1.verse).getD .first := by
  rw [parse]
  cases Mention.find? none text.toList <;> rfl

theorem matched_eq_parse (text : String) : matched text = parse text := by
  have hfirst := congrArg (Option.map Mention.verse) (Mention.find?_pattern text.toList)
  rw [Option.map_map, Option.map_map] at hfirst
  rw [parse_eq]
  exact congrArg (Option.getD · first) hfirst

/-- **Looking up written forms first makes no difference.** -/
theorem lookUp_eq_parse (text : String) : lookUp text = parse text := by
  cases hwritten : written? (Text.trim text.toList) with
  | some v =>
    obtain ⟨before, after, htext, hbefore, hafter⟩ := Text.exists_trim text.toList
    rw [← written?_eq_some_iff.mp hwritten, List.append_assoc] at htext
    have hparse := v.parse_padded ⟨before, hbefore⟩ ⟨after, hafter⟩
    rw [← htext, String.ofList_toList] at hparse
    rw [lookUp, hwritten, hparse, Option.getD_some]
  | none => rw [lookUp, hwritten, Option.getD_none, matched_eq_parse]

end Verse

end Concordance
