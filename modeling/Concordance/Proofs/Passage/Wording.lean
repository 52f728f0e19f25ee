import Concordance.Proofs.Passage.Fragments
import Concordance.Proofs.Verse.Wording

/-!
# Extents as a regular expression

The wording of an extent is that of a mention with a long optional tail: a dash, and a name, a chapter and
a number after it, each if it is there. Whatever comes after the mention, the tail takes it or leaves it
out, and so it never sends the mention back to take less. Hence both regular expressions find the same
mention first, whatever the text, and the first item of an expression starts at the verse that the text
mentions.

## Main definitions

* `Extent.source`, `Extent.pattern` — the regular expression, and the pattern that it writes
* `Extent.firstOf` — the verse that the groups of a match say to start at
* `PassageItem.first` — the first verse of an item

## Main results

* `Extent.takes_tail` — the pattern prefers what is read of an end
* `Extent.findAll_pattern` — all matches say what all extents say
* `PassageItem.parseAll_first` — where the first item of an expression starts
-/

namespace Concordance

/-- What the groups say of an end, the last one first. -/
def ExtentEnd.groups (e : ExtentEnd) : List (Nat × List Char) :=
  (e.number?.map fun digits => (6, digits)).toList ++ (e.chapter?.map fun digits => (5, digits)).toList
    ++ (e.book?.map fun name => (4, name)).toList

namespace Extent

open Mention (run optional name marked items takes_blanks takes_dot takes_digits takes_name)
open Pattern (ofSeq)
open Text (trimStart isBlank isDigit)

/-! ### The pattern -/

/-- A chapter, with the colon after it. -/
def chapterItems : List Pattern := .group 5 (run .digit 1 (some 3)) :: marked ':' []

/-- The end that follows a dash. -/
def endItems : List Pattern :=
  [optional (.group 4 name), optional (.set (.like '.')), run .blank 0 none,
    optional (ofSeq chapterItems), optional (.group 6 (run .digit 1 (some 3)))]

/-- A dash, and the end after it. -/
def dashItems : List Pattern := marked '-' endItems

/-- What may follow a mention. -/
def tail : Pattern := optional (ofSeq dashItems)

/-- The pattern of an extent. -/
def pattern : Pattern := ofSeq (items [tail])

/-- The regular expression of an extent, line by line. It starts like that of a mention. -/
def sourceLines : List String :=
  Mention.sourceLines ++
    ["(?:",
      "    \\s*-\\s*",
      "    (?P<end_book>(?:I\x7b1,3\x7d|[1-3])?[^\\d,\\-./:;]+)?\\.?",
      "    \\s*",
      "    (?:(?P<end_chapter>\\d\x7b1,3\x7d)\\s*:\\s*)?",
      "    (?P<end_verse>\\d\x7b1,3\x7d)?",
      ")?"]

/-- The regular expression of an extent. -/
def source : String := Mention.indented sourceLines

/-- **The regular expression writes the pattern.** -/
theorem read?_source : Pattern.read? false source.toList = some pattern := by
  rw [source, Mention.indented, String.toList_intercalate]
  decide +kernel

theorem inOrder_pattern : pattern.InOrder := Pattern.inOrder_of_read? read?_source

theorem inOrder_dash : (ofSeq dashItems).InOrder := inOrder_pattern.2.2.2.2.2.2.1

theorem inOrder_chapter : (ofSeq chapterItems).InOrder := inOrder_dash.2.2.2.2.2.2.1.1

/-! ### The end -/

variable {xs cs digits after rest s ys : List Char} {gs : List (Nat × List Char)}

/-- Digits that are there. -/
def given (digits : List Char) : Option (List Char) := if digits.isEmpty then none else some digits

/-- What is read as a name, or nothing. -/
def readBook (cs : List Char) : Option (List Char) × List Char :=
  match Mention.readName? cs with
  | some (name, rest) => (some name, rest)
  | none => (none, cs)

/-- What is read as a chapter and a number. -/
def readNumbers (cs : List Char) : (Option (List Char) × Option (List Char)) × List Char :=
  let (digits, after) := Mention.readDigits cs
  if digits.isEmpty then ((none, none), cs)
  else match Mention.readColon? after with
    | none => ((none, some digits), after)
    | some after =>
      let (number, rest) := Mention.readDigits after
      ((some digits, given number), rest)

/-- An end is a name and numbers after it. -/
theorem readEnd_eq (cs : List Char) :
    readEnd cs = (⟨(readBook cs).1, (readNumbers (trimStart (Mention.skipDot (readBook cs).2))).1.1,
        (readNumbers (trimStart (Mention.skipDot (readBook cs).2))).1.2⟩,
      (readNumbers (trimStart (Mention.skipDot (readBook cs).2))).2) := by
  rw [readEnd, readBook, readNumbers]
  cases Mention.readName? cs <;> dsimp only
  all_goals
    split
    · rfl
    · generalize Mention.readColon? _ = after?
      cases after? <;> rfl

/-- A name is taken if one is read. -/
theorem takes_book (xs cs : List Char) :
    ∃ r, cs = r ++ (readBook cs).2 ∧ (optional (.group 4 name)).Takes xs r (readBook cs).2
      ((readBook cs).1.map fun name => (4, name)).toList := by
  rw [readBook]
  split
  · rename_i book rest hname
    exact ⟨book, (Mention.split_of_readName? hname).1,
      Pattern.takes_optional (Pattern.takes_group (takes_name hname xs) 4)⟩
  · rename_i hname
    refine ⟨[], rfl, Pattern.takes_optional_nil Mention.inOrder_name fun hopens => ?_⟩
    have hsome := Mention.opens_name.mp hopens
    rw [hname] at hsome
    cases hsome

/-- Digits are taken if there are any. -/
theorem takes_optional_digits (h : Mention.readDigits cs = (digits, rest)) (index : Nat)
    (xs : List Char) : cs = digits ++ rest ∧ (optional (.group index (run .digit 1 (some 3)))).Takes xs
      digits rest ((given digits).map fun digits => (index, digits)).toList := by
  refine ⟨(Mention.isFullRun_readDigits h).1, ?_⟩
  cases digits with
  | nil =>
    obtain rfl : cs = rest := (Mention.isFullRun_readDigits h).1
    refine Pattern.takes_optional_nil ⟨trivial, by simp⟩ fun hopens => ?_
    obtain ⟨d, rest, rfl, hd⟩ := Mention.exists_digit_of_opens hopens
    simp [Mention.readDigits, hd] at h
  | cons d digits =>
    obtain ⟨-, htakes⟩ := takes_digits h (Nat.succ_pos _) xs
    exact Pattern.takes_optional (Pattern.takes_group htakes index)

/-- A chapter is taken with the colon after it. -/
theorem takes_chapter (h : Mention.readDigits cs = (digits, after)) (hne : digits ≠ [])
    (hcolon : Mention.readColon? after = some rest) (xs : List Char) :
    ∃ r, cs = r ++ rest ∧ (optional (ofSeq chapterItems)).Takes xs r rest [(5, digits)] := by
  obtain ⟨after', htrim, rfl⟩ := Mention.readColon?_eq_some_iff.mp hcolon
  obtain ⟨hdigits, htakes⟩ := takes_digits h (List.length_pos_iff.mpr hne) xs
  obtain ⟨r, hr, hmarked⟩ : ∃ r, after = r ++ trimStart after' ∧
      (ofSeq (marked ':' [])).Takes (xs ++ digits) r (trimStart after') [] := by
    obtain ⟨r, hr, hmarked⟩ := Mention.takes_marked .colon htrim [] (xs ++ digits)
    have hempty := hmarked (s := []) rfl Pattern.takes_empty
    exact ⟨r, hr, by rwa [List.append_nil] at hempty⟩
  have hall := Pattern.takes_ofSeq_cons (Pattern.takes_group htakes 5) hmarked hr
  exact ⟨digits ++ r, by rw [hdigits, hr, List.append_assoc], Pattern.takes_optional hall⟩

/-- Without a colon after the digits there is no chapter, nor after fewer of them. -/
theorem not_opens_chapter (h : Mention.readDigits cs = (digits, after))
    (hcolon : digits ≠ [] → Mention.readColon? after = none) (xs : List Char) :
    ¬ (ofSeq chapterItems).Opens xs cs := by
  intro hopens
  obtain ⟨r, t, htext, hr, hrest⟩ := Pattern.opens_ofSeq_cons.mp hopens
  obtain ⟨b, b', t', rfl, hb, -, -⟩ := Mention.exists_of_opens_marked .colon hrest
  have hrun : (run .digit 1 (some 3)).Covers xs r (b ++ ':' :: (b' ++ t')) := hr
  obtain ⟨hlow, hhigh, hmem⟩ := Pattern.mem_of_covers_repeated hrun
  -- what comes after the digits is a blank or the colon
  have hfull : Pattern.IsFullRun .digit (some 3) r (b ++ ':' :: (b' ++ t')) := by
    refine ⟨hmem, hhigh, .inr fun c hc => ?_⟩
    cases b with
    | nil =>
      obtain rfl := Option.some.inj hc
      decide
    | cons c' b =>
      obtain rfl := Option.some.inj hc
      rw [CharSet.mem, Bool.eq_false_iff]
      intro hdigit
      have hblank := Mention.isBlank_of_isDigit hdigit
      rw [hb _ List.mem_cons_self] at hblank
      cases hblank
  obtain ⟨htext', hdigits⟩ := Mention.isFullRun_readDigits h
  obtain ⟨rfl, rfl⟩ := hfull.unique hdigits (htext.symm.trans htext')
  have htrim : trimStart (b ++ ':' :: (b' ++ t')) = ':' :: (b' ++ t') := by
    rw [Text.trimStart_append_left hb]
    rfl
  have hsome := Mention.readColon?_eq_some_iff.mpr ⟨_, htrim, rfl⟩
  rw [hcolon (List.length_pos_iff.mp hlow)] at hsome
  cases hsome

/-- **Numbers are taken as they are read.** -/
theorem takes_numbers (xs cs : List Char) :
    ∃ r, cs = r ++ (readNumbers cs).2 ∧
      (ofSeq [optional (ofSeq chapterItems), optional (.group 6 (run .digit 1 (some 3)))]).Takes xs r
        (readNumbers cs).2 (((readNumbers cs).1.2.map fun digits => (6, digits)).toList
          ++ ((readNumbers cs).1.1.map fun digits => (5, digits)).toList) := by
  -- without a chapter, the digits are the number
  have hnumber : ∀ {digits after}, Mention.readDigits cs = (digits, after) →
      (digits ≠ [] → Mention.readColon? after = none) → cs = digits ++ after ∧
        (ofSeq [optional (ofSeq chapterItems), optional (.group 6 (run .digit 1 (some 3)))]).Takes xs
          digits after (((given digits).map fun digits => (6, digits)).toList ++ []) := by
    intro digits after h hcolon
    have hchapter := Pattern.takes_optional_nil inOrder_chapter (not_opens_chapter h hcolon xs)
    obtain ⟨hcs, hdigits⟩ := takes_optional_digits h 6 (xs ++ [])
    exact ⟨hcs, Pattern.takes_ofSeq_cons hchapter hdigits hcs⟩
  rw [readNumbers]
  split
  rename_i digits after hdigits
  split
  · rename_i hnil
    obtain rfl := List.isEmpty_iff.mp hnil
    obtain ⟨rfl, htakes⟩ := hnumber hdigits (absurd rfl)
    exact ⟨[], rfl, htakes⟩
  · rename_i hne
    have hne' : digits ≠ [] := fun hnil => hne (List.isEmpty_iff.mpr hnil)
    have hgiven : given digits = some digits := if_neg hne
    split
    · rename_i hcolon
      obtain ⟨hcs, htakes⟩ := hnumber hdigits fun _ => hcolon
      rw [hgiven] at htakes
      exact ⟨digits, hcs, htakes⟩
    · rename_i after' hcolon
      split
      rename_i number rest hrest
      obtain ⟨r, hr, hchapter⟩ := takes_chapter hdigits hne' hcolon xs
      obtain ⟨hafter, htakes⟩ := takes_optional_digits hrest 6 (xs ++ r)
      exact ⟨r ++ number, by rw [hr, hafter, List.append_assoc],
        Pattern.takes_ofSeq_cons hchapter htakes hafter⟩

/-- **An end is taken as it is read.** -/
theorem takes_end (xs cs : List Char) :
    ∃ r, cs = r ++ (readEnd cs).2 ∧
      (ofSeq endItems).Takes xs r (readEnd cs).2 (readEnd cs).1.groups := by
  obtain ⟨r₁, hr₁, hbook⟩ := takes_book xs cs
  obtain ⟨r₂, hr₂, hdot⟩ := takes_dot (xs ++ r₁) (readBook cs).2
  obtain ⟨r₃, hr₃, hblanks⟩ := takes_blanks (xs ++ r₁ ++ r₂) (Mention.skipDot (readBook cs).2)
  obtain ⟨r₄, hr₄, hnumbers⟩ := takes_numbers (xs ++ r₁ ++ r₂ ++ r₃)
    (trimStart (Mention.skipDot (readBook cs).2))
  have h₃ := Pattern.takes_ofSeq_cons hblanks hnumbers hr₄
  have h₂ := Pattern.takes_ofSeq_cons hdot h₃ (by rw [List.append_assoc, ← hr₄, ← hr₃])
  have h₁ := Pattern.takes_ofSeq_cons hbook h₂
    (by rw [List.append_assoc, List.append_assoc, ← hr₄, ← hr₃, ← hr₂])
  refine ⟨r₁ ++ (r₂ ++ (r₃ ++ r₄)), ?_, ?_⟩
  · rw [readEnd_eq, List.append_assoc, List.append_assoc, List.append_assoc, ← hr₄, ← hr₃, ← hr₂, ← hr₁]
  · rw [readEnd_eq]
    simp only [List.append_nil] at h₁
    exact h₁

/-! ### The tail -/

/-- What the groups say of a tail. -/
def stopGroups (stop? : Option ExtentEnd) : List (Nat × List Char) := stop?.elim [] ExtentEnd.groups

theorem readDash?_eq_some_iff {found : ExtentEnd × List Char} : readDash? cs = some found ↔
    ∃ after, trimStart cs = '-' :: after ∧ readEnd (trimStart after) = found := by
  rw [readDash?]
  split
  · rename_i after htrim
    simp [htrim]
  · rename_i hnone
    refine ⟨fun h => (nomatch h), ?_⟩
    rintro ⟨after, htrim, -⟩
    exact absurd htrim (hnone after)

/-- **A tail is taken if a dash is read**, and left out otherwise. -/
theorem takes_tail (xs cs : List Char) :
    ∃ r, cs = r ++ ((readDash? cs).elim cs Prod.snd) ∧
      tail.Takes xs r ((readDash? cs).elim cs Prod.snd) (stopGroups ((readDash? cs).map Prod.fst)) := by
  cases hdash : readDash? cs with
  | some found =>
    obtain ⟨after, htrim, rfl⟩ := readDash?_eq_some_iff.mp hdash
    obtain ⟨r, hr, htakes⟩ := Mention.takes_marked .dash htrim endItems xs
    obtain ⟨s, hs, hend⟩ := takes_end (xs ++ r) (trimStart after)
    exact ⟨r ++ s, by rw [List.append_assoc, Option.elim_some, ← hs, ← hr],
      Pattern.takes_optional (htakes hs hend)⟩
  | none =>
    refine ⟨[], rfl, Pattern.takes_optional_nil inOrder_dash fun hopens => ?_⟩
    obtain ⟨b, b', t, rfl, hb, -, -⟩ := Mention.exists_of_opens_marked .dash hopens
    have htrim : trimStart (b ++ '-' :: (b' ++ t)) = '-' :: (b' ++ t) := by
      rw [Text.trimStart_append_left hb]
      rfl
    have hsome := readDash?_eq_some_iff.mpr ⟨_, htrim, rfl⟩
    rw [hdash] at hsome
    cases hsome

/-! ### Matches -/

/-- An extent with an end, be it that nothing is said of it. -/
def withStop (e : Extent) : Extent := ⟨e.start, some (e.stop?.getD ⟨none, none, none⟩)⟩

/-- An end of which nothing is said makes no difference. -/
@[simp] theorem item_withStop (e : Extent) : e.withStop.item = e.item := by
  obtain ⟨start, stop?⟩ := e
  cases stop? <;> rfl

/-- The extent that the groups of a match say. They do not say whether there is a dash. -/
def ofMatch (t : Array Char) (found : Match) : Extent where
  start := Mention.ofMatch t found
  stop? := some ⟨found.group? t 4, found.group? t 5, found.group? t 6⟩

theorem lt_of_mem_stopGroups {stop? : Option ExtentEnd} : ∀ g ∈ stopGroups stop?, 3 < g.1 := by
  intro g hg
  obtain _ | ⟨book?, chapter?, number?⟩ := stop?
  · cases hg
  · simp only [stopGroups, Option.elim_some, ExtentEnd.groups, List.mem_append, Option.mem_toList,
      Option.map_eq_some_iff] at hg
    obtain (⟨_, -, rfl⟩ | ⟨_, -, rfl⟩) | ⟨_, -, rfl⟩ := hg <;> dsimp only <;> decide

theorem ofMatch_eq {t : Array Char} {found : Match} {e : Extent}
    (h : found.captures.map (Pattern.said t) = stopGroups e.stop? ++ Mention.groups e.start) :
    ofMatch t found = e.withStop := by
  have hstart : Mention.ofMatch t found = e.start := Mention.ofMatch_eq h lt_of_mem_stopGroups
  have hstop : ∀ index, 3 < index → found.group? t index
      = ((stopGroups e.stop?).find? (·.1 == index)).map Prod.snd := by
    intro index hindex
    have hnone : (Mention.groups e.start).find? (·.1 == index) = none := by
      rw [List.find?_eq_none]
      intro g hg
      simp only [Mention.groups, List.mem_append, Option.mem_toList, Option.map_eq_some_iff,
        List.mem_cons, List.not_mem_nil, or_false] at hg
      obtain ⟨_, -, rfl⟩ | rfl | rfl := hg <;> simp <;> omega
    rw [Pattern.group?_eq t found (by omega), h, List.find?_append, hnone, Option.or_none]
  rw [ofMatch, hstart, hstop 4 (by decide), hstop 5 (by decide), hstop 6 (by decide), withStop]
  obtain ⟨start, _ | ⟨book?, chapter?, number?⟩⟩ := e
  · rfl
  · cases book? <;> cases chapter? <;> cases number? <;> rfl

theorem find?_eq (before? : Option Char) (cs : List Char) :
    find? before? cs = (Mention.find? before? cs).map fun found =>
      (⟨found.1, (readDash? found.2).map Prod.fst⟩, (readDash? found.2).elim found.2 Prod.snd) := by
  rw [find?]
  cases Mention.find? before? cs with
  | none => rfl
  | some found =>
    dsimp only [Option.map_some]
    cases readDash? found.2 <;> rfl

/-- **The first match says what the first extent says.** -/
theorem exists_findFrom?_pattern (xs : List Char) {e : Extent}
    (h : find? xs.getLast? cs = some (e, rest)) :
    ∃ found us, pattern.findFrom? (xs ++ cs).toArray xs.length = some found ∧
      ofMatch (xs ++ cs).toArray found = e.withStop ∧ cs = us ++ rest ∧ us ≠ [] ∧
      found.start < found.stop ∧ found.stop = (xs ++ us).length := by
  rw [find?_eq, Option.map_eq_some_iff] at h
  obtain ⟨⟨start, after⟩, hstart, hfound⟩ := h
  obtain ⟨rfl, rfl⟩ := Prod.mk.inj hfound
  obtain ⟨found, us, hfound, hsaid, hrest⟩ :=
    Mention.exists_findFrom?_items inOrder_pattern xs hstart (takes_tail · after)
  exact ⟨found, us, hfound, ofMatch_eq hsaid, hrest⟩

/-- Where no extent is found nothing matches. -/
theorem findFrom?_pattern_eq_none (xs : List Char) (h : find? xs.getLast? cs = none) :
    pattern.findFrom? (xs ++ cs).toArray xs.length = none := by
  rw [find?_eq, Option.map_eq_none_iff] at h
  exact Mention.findFrom?_items_eq_none inOrder_pattern xs h

theorem findAllFrom_pattern {fuel fuel' : Nat} (hfuel : cs.length ≤ fuel) (hfuel' : cs.length < fuel')
    (xs : List Char) (last? : Option Nat) :
    (pattern.findAllFrom (xs ++ cs).toArray fuel' xs.length last?).map (ofMatch (xs ++ cs).toArray)
      = (findFrom fuel xs.getLast? cs).map withStop := by
  induction fuel generalizing fuel' xs cs last? with
  | zero =>
    obtain rfl := List.eq_nil_of_length_eq_zero (Nat.le_zero.mp hfuel)
    obtain ⟨fuel', rfl⟩ := Nat.exists_eq_succ_of_ne_zero (Nat.ne_of_gt hfuel')
    have hnone : pattern.findFrom? (xs ++ []).toArray xs.length = none :=
      findFrom?_pattern_eq_none xs rfl
    rw [Pattern.findAllFrom, Pattern.findNext?, hnone]
    rfl
  | succ fuel ih =>
    obtain ⟨fuel', rfl⟩ := Nat.exists_eq_succ_of_ne_zero (Nat.ne_of_gt (Nat.zero_lt_of_lt hfuel'))
    cases hfind : find? xs.getLast? cs with
    | none =>
      rw [Pattern.findAllFrom, Pattern.findNext?, findFrom?_pattern_eq_none xs hfind, findFrom, hfind]
      rfl
    | some first =>
      obtain ⟨e, rest⟩ := first
      obtain ⟨found, us, hfound, hsaid, rfl, hne, hlt, hstop⟩ := exists_findFrom?_pattern xs hfind
      have hempty : found.isEmpty = false := beq_false_of_ne (Nat.ne_of_lt hlt)
      have hlast : (xs ++ us).getLast? = us.getLast? := by
        rw [List.getLast?_append, List.getLast?_eq_some_getLast hne, Option.some_or]
      have htake : (us ++ rest).take ((us ++ rest).length - rest.length) = us := by simp
      have hlength := List.length_pos_iff.mpr hne
      rw [List.length_append] at hfuel hfuel'
      have hfuel₁ : rest.length ≤ fuel := by omega
      have hfuel₂ : rest.length < fuel' := by omega
      have hrest := ih hfuel₁ hfuel₂ (xs ++ us) (some found.stop)
      rw [List.append_assoc, hlast, ← hstop] at hrest
      rw [Pattern.findAllFrom, Pattern.findNext?, hfound, findFrom, hfind]
      simp only [hempty, Bool.false_and, Bool.false_eq_true, if_false, List.map_cons, hsaid, htake,
        hrest]

/-- **All matches of the regular expression say what all extents say.** -/
theorem findAll_pattern (cs : List Char) :
    (pattern.findAll cs.toArray).map (ofMatch cs.toArray) = (findAll cs).map withStop :=
  findAllFrom_pattern (Nat.le_refl _) (by simp) [] none

/-! ### Where an extent starts -/

/-- What a group of a match says, trimmed, if there is anything left. -/
def part? (t : Array Char) (found : Match) (index : Nat) : Option (List Char) :=
  ((found.group? t index).map Text.trim).filter fun part => !part.isEmpty

/-- The verse that the groups of a match say to start at. -/
def firstOf (t : Array Char) (found : Match) : Verse :=
  .ofParts (resolveBook ((part? t found 1).getD [])) ((value? (part? t found 2)).getD 1 : Nat)
    ((value? (part? t found 3)).getD 1 : Nat)

/-- A name that is trimmed away is no name at all. -/
theorem part?_getD (t : Array Char) (found : Match) (index : Nat) :
    (part? t found index).getD [] = Text.trim ((found.group? t index).getD []) := by
  rw [part?]
  cases found.group? t index with
  | none => rfl
  | some part =>
    rw [Option.map_some, Option.filter_some, Option.getD_some]
    split
    · rfl
    · rename_i hempty
      simp only [Bool.not_eq_true, Bool.not_eq_false', List.isEmpty_iff] at hempty
      rw [hempty]
      rfl

/-- Trimming does nothing to digits. -/
theorem value?_part? {t : Array Char} {found : Match} {index : Nat}
    (h : ∀ c ∈ (found.group? t index).getD [], isDigit c = true) :
    value? (part? t found index) = value? (found.group? t index) := by
  rw [part?]
  cases hgroup : found.group? t index with
  | none => rfl
  | some digits =>
    rw [hgroup, Option.getD_some] at h
    have htrim : Text.trim digits = digits := Text.trim_eq_self
      (fun c hc => Mention.isBlank_of_isDigit (h c (List.mem_of_mem_head? hc)))
      (fun c hc => Mention.isBlank_of_isDigit (h c (List.mem_of_mem_getLast? hc)))
    rw [Option.map_some, htrim, Option.filter_some]
    cases digits <;> rfl

/-- **The groups of the first match say where the first extent starts**, trimmed or not. -/
theorem firstOf_eq {t : Array Char} {found : Match} {e : Extent}
    (h : find? none cs = some (e, rest)) (hfound : ofMatch t found = e.withStop) :
    firstOf t found = e.start.verse := by
  have hstart : Mention.ofMatch t found = e.start := congrArg Extent.start hfound
  rw [find?_eq, Option.map_eq_some_iff] at h
  obtain ⟨⟨m, after⟩, hfind, hextent⟩ := h
  obtain rfl : m = e.start := congrArg Extent.start (Prod.mk.inj hextent).1
  have hfirst : Mention.find? ([] : List Char).getLast? cs = some (e.start, after) := hfind
  obtain ⟨_, _, -, -, hread, -⟩ := Mention.exists_of_find? hfirst
  obtain ⟨hchapter, hverse⟩ := Mention.isDigit_of_read? hread
  rw [← hstart] at hchapter hverse ⊢
  have hchapter' : value? (part? t found 2) = value? (found.group? t 2) := value?_part? hchapter
  have hverse' : value? (part? t found 3) = value? (found.group? t 3) := value?_part? hverse
  rw [firstOf, hchapter', hverse', part?_getD, resolveBook_trim, Mention.verse]
  simp only [Mention.ofMatch, value?]
  cases found.group? t 2 <;> rfl

end Extent

namespace PassageItem

/-- The first verse of an item. -/
def first : PassageItem → Verse
  | verse v => v
  | passage p => p.lower

theorem first_item (e : Extent) : e.item.first = e.start.verse := by
  rw [Extent.item]
  split
  · rename_i hlt
    have hle : e.start.verse ≤ e.last := Nat.le_of_lt hlt
    simp [first, Passage.ofEnds, hle]
  · rfl

/-- The items of a fragment begin with what its first extent means. -/
theorem exists_parseFragment {e : Extent} {cs rest : List Char}
    (h : Extent.find? none cs = some (e, rest)) : ∃ items, parseFragment cs = e.item :: items := by
  cases cs with
  | nil => cases h
  | cons c cs =>
    rw [parseFragment, Extent.findAll, List.length_cons, Extent.findFrom, h]
    exact ⟨_, rfl⟩

/-- **The first item of an expression starts at the verse that the text mentions.** The groups of the first
match say the same, and so does looking the text up among the written forms of verses first. -/
theorem parseAll_first {text : String} (hseparators : ∀ c ∈ text.toList, isFragmentChar c = true)
    (htrim : Text.trim text.toList = text.toList) {found : Match}
    (hfound : Extent.pattern.find? text.toList.toArray = some found) :
    ∃ item items, parseAll text = item :: items ∧ item.first = Verse.parse text ∧
      item.first = Verse.lookUp text ∧ item.first = Extent.firstOf text.toList.toArray found ∧
      ∀ v : Verse, v.reference = text → item.first = v := by
  cases hfind : Extent.find? none text.toList with
  | none =>
    have hnone := Extent.findFrom?_pattern_eq_none [] hfind
    cases hfound.symm.trans hnone
  | some extent =>
    obtain ⟨e, rest⟩ := extent
    obtain ⟨found', _, hfound', hextent, htext, hne, -⟩ := Extent.exists_findFrom?_pattern [] hfind
    obtain rfl := Option.some.inj (hfound.symm.trans hfound')
    obtain ⟨items, hitems⟩ := exists_parseFragment hfind
    have hfirst : e.item.first = Verse.parse text := by
      rw [first_item, Verse.parse_eq]
      rw [Extent.find?_eq, Option.map_eq_some_iff] at hfind
      obtain ⟨m, hm, hextent⟩ := hfind
      rw [hm, ← (Prod.mk.inj hextent).1]
      rfl
    have hfragments : fragments text.toList = [text.toList] := by
      rw [fragments_of_forall hseparators, htrim, if_neg (by simp [htext, hne])]
    refine ⟨e.item, items, ?_, hfirst, hfirst.trans (Verse.lookUp_eq_parse text).symm, ?_, ?_⟩
    · rw [parseAll, hfragments, parseFragments, parseAfter, hitems]
      simp [parseFragments]
    · exact (first_item e).trans (Extent.firstOf_eq hfind hextent).symm
    · rintro v rfl
      rw [hfirst, Verse.parse_reference]

theorem parseAll_first_john : ∃ item items, parseAll "III John 1:2-4" = item :: items ∧
    item.first = Verse.parse "III John 1:2-4" ∧ item.first.reference = "III John 1:2" := by
  have hfound : Extent.pattern.find? "III John 1:2-4".toList.toArray
      = some ⟨0, 14, [⟨6, 13, 14⟩, ⟨3, 11, 12⟩, ⟨2, 9, 10⟩, ⟨1, 0, 9⟩]⟩ := by decide +kernel
  obtain ⟨item, items, hitems, hfirst, -⟩ :=
    parseAll_first (List.all_eq_true.mp (by decide +kernel)) (by decide +kernel) hfound
  exact ⟨item, items, hitems, hfirst, by rw [hfirst]; decide +kernel⟩

end PassageItem

end Concordance
