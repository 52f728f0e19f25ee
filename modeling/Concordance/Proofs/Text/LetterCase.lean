import Concordance.Proofs.Text.Ascii
import Concordance.Text.CaseFold
import Concordance.Text.LetterCase

/-!
# ASCII characters and letter case

The tables of upper case lead from letters of one script to letters of the same, but for a few that
lead to capital letters of ASCII. So putting a text in upper case leaves no small letter of ASCII in
it, and brings in no sign that was not there before. The table of case classes leads from beyond ASCII
into it in two places only, the long s and the Kelvin sign; and the long s is nothing in upper case.

## Main definitions

* `Text.CaseShift.IsSafe` — the counterparts within ASCII are capital letters
* `Text.CaseShift.StaysBeyond` — there are no counterparts within ASCII, but for two letters
* `Text.CaseShift.avoids` — neither letters nor counterparts are in an interval
* `Text.CaseShift.isWord` — letters and counterparts are word characters

## Main results

* `Text.isLower_of_mem_upper` — a text in upper case has no small letter of ASCII
* `Text.mem_of_mem_upper` — the signs of a text in upper case were there before
* `Text.eq_of_alike` — capital letters are alike only if they are the same, but for the Kelvin sign
* `Text.mem_orbit_iff_of_avoids` — a character that the table avoids has no case
* `Text.isWordChar_eq_of_alike` — characters that are alike are both word characters, or neither is
* `Text.isWordChar_of_mem_upper` — word characters are word characters in upper case
-/

namespace Concordance

namespace Text

/-! ### Tables -/

namespace CaseShift

/-- A code point is its own counterpart, or an interval that covers it has its counterpart. -/
theorem image_eq_or (table : List CaseShift) (n : Nat) :
    image table n = n ∨ ∃ s ∈ table, s.image? n = some (image table n) := by
  induction table with
  | nil => exact .inl rfl
  | cons s rest ih =>
    rw [image]
    split
    · exact .inl rfl
    · cases hs : s.image? n with
      | some m => exact .inr ⟨s, List.mem_cons_self, hs⟩
      | none => exact ih.imp_right fun ⟨s', hs', h⟩ => ⟨s', List.mem_cons_of_mem _ hs', h⟩

theorem image?_eq_some_iff {s : CaseShift} {n m : Nat} : s.image? n = some m ↔
    s.covers n = true ∧ m = if s.down then n - s.distance else n + s.distance := by
  rw [image?]
  split
  · rename_i h
    rw [Option.some.injEq, eq_comm, and_iff_right h]
  · rename_i h
    exact ⟨fun h' => (nomatch h'), fun h' => absurd h'.1 h⟩

theorem le_of_covers {s : CaseShift} {n : Nat} (h : s.covers n = true) : s.low ≤ n ∧ n ≤ s.high := by
  simp only [covers, Bool.and_eq_true, decide_eq_true_eq] at h
  exact h.1

/-- What a letter leads to, leads back to it. -/
theorem source?_of_image? {s : CaseShift} {n m : Nat} (h : s.image? n = some m) (hm : m ≠ 0) :
    s.source? m = some n := by
  obtain ⟨hcovers, hshift⟩ := image?_eq_some_iff.mp h
  have hback : (if s.down then m + s.distance else m - s.distance) = n := by
    cases hdown : s.down <;> simp only [hdown, if_true, Bool.false_eq_true, if_false] at hshift ⊢ <;>
      omega
  rw [source?]
  simp [hback, hcovers, h]

/-- Letters beyond ASCII whose counterparts are beyond ASCII too, or else capital letters; or letters
of ASCII. -/
def IsSafe (s : CaseShift) : Prop :=
  s.high < 0x80 ∨ 0x80 ≤ s.low ∧
    (s.down = false ∨ 0x80 + s.distance ≤ s.low ∨
      'A'.toNat + s.distance ≤ s.low ∧ s.high ≤ 'Z'.toNat + s.distance)

instance (s : CaseShift) : Decidable s.IsSafe := by
  unfold IsSafe
  infer_instance

/-- Letters beyond ASCII whose counterparts are beyond ASCII too, or one of two letters; or letters of
ASCII. -/
def StaysBeyond (s : CaseShift) : Prop :=
  s.high < 0x80 ∨ 0x80 ≤ s.low ∧
    (s.down = false ∨ 0x80 + s.distance ≤ s.low ∨ s.low = s.high ∧ s.low ∈ [0x17F, 0x212A])

instance (s : CaseShift) : Decidable s.StaysBeyond := by
  unfold StaysBeyond
  infer_instance

/-- A counterpart is beyond ASCII, or a capital letter. -/
theorem le_image_of_isSafe {table : List CaseShift} (h : ∀ s ∈ table, s.IsSafe) {n : Nat}
    (hn : 0x80 ≤ n) :
    0x80 ≤ image table n ∨ 'A'.toNat ≤ image table n ∧ image table n ≤ 'Z'.toNat := by
  have ha : 'A'.toNat = 65 := rfl
  have hz : 'Z'.toNat = 90 := rfl
  rcases image_eq_or table n with himage | ⟨s, hs, himage⟩
  · exact .inl (by rwa [himage])
  · obtain ⟨hcovers, hshift⟩ := image?_eq_some_iff.mp himage
    have hwithin := le_of_covers hcovers
    have hsafe := h s hs
    unfold IsSafe at hsafe
    cases hdown : s.down <;> simp only [hdown, if_true, Bool.false_eq_true, if_false, reduceCtorEq,
      false_or, true_or, and_true] at hshift hsafe <;> omega

/-- A counterpart is beyond ASCII, or it is that of the long s or the Kelvin sign. -/
theorem le_image_of_staysBeyond {table : List CaseShift} (h : ∀ s ∈ table, s.StaysBeyond) {n : Nat}
    (hn : 0x80 ≤ n) : 0x80 ≤ image table n ∨ n ∈ [0x17F, 0x212A] := by
  rcases image_eq_or table n with himage | ⟨s, hs, himage⟩
  · exact .inl (by rwa [himage])
  · obtain ⟨hcovers, hshift⟩ := image?_eq_some_iff.mp himage
    obtain ⟨hlow, hhigh⟩ := le_of_covers hcovers
    rcases h s hs with hascii | ⟨-, hup | hfar | ⟨hone, hmem⟩⟩
    · omega
    · rw [hup, if_neg Bool.false_ne_true] at hshift
      omega
    · left
      cases hdown : s.down <;> simp only [hdown, if_true, Bool.false_eq_true, if_false] at hshift <;>
        omega
    · obtain rfl : n = s.low := by omega
      exact .inr hmem

end CaseShift

theorem isSafe_upperShifts : ∀ s ∈ upperShifts, s.IsSafe := by decide +kernel

theorem staysBeyond_foldShifts : ∀ s ∈ foldShifts, s.StaysBeyond := by decide +kernel

theorem isUpper_ofNat {n : Nat} (h : 'A'.toNat ≤ n ∧ n ≤ 'Z'.toNat) :
    (Char.ofNat n).isUpper = true := by
  have hall : ∀ n ≤ 'Z'.toNat, 'A'.toNat ≤ n → (Char.ofNat n).isUpper = true := by decide
  exact hall n h.2 h.1

/-- A code point has a character of its own, or none. -/
theorem toNat_ofNat_or (n : Nat) : (Char.ofNat n).toNat = n ∨ Char.ofNat n = '\x00' := by
  by_cases hn : n.isValidChar
  · left
    rw [Char.ofNat, dif_pos hn]
    rfl
  · right
    rw [Char.ofNat, dif_neg hn]
    rfl

/-- The upper case of a character beyond ASCII has no characters of ASCII but capital letters. -/
theorem of_mem_upperChar {c d : Char} (hc : 0x80 ≤ c.toNat) (h : d ∈ upperChar c) :
    0x80 ≤ d.toNat ∨ d.isUpper = true ∨ d = '\x00' := by
  have hexpansions : ∀ p ∈ upperExpansions, ∀ n ∈ p.2,
      0x80 ≤ n ∨ 'A'.toNat ≤ n ∧ n ≤ 'Z'.toNat := by decide
  have hcode : ∀ n, 0x80 ≤ n ∨ 'A'.toNat ≤ n ∧ n ≤ 'Z'.toNat →
      0x80 ≤ (Char.ofNat n).toNat ∨ (Char.ofNat n).isUpper = true ∨ Char.ofNat n = '\x00' := by
    rintro n (hn | hn)
    · exact (toNat_ofNat_or n).imp (fun h => by rwa [h]) .inr
    · exact .inr (.inl (isUpper_ofNat hn))
  rw [upperChar, if_neg (Nat.not_lt.mpr hc)] at h
  split at h
  · rename_i codes hcodes
    obtain ⟨n, hn, rfl⟩ := List.mem_map.mp h
    obtain ⟨before, after, htable, -⟩ := List.lookup_eq_some_iff.mp hcodes
    have hentry : (c.toNat, codes) ∈ upperExpansions := by simp [htable]
    exact hcode n (hexpansions _ hentry n hn)
  · obtain rfl := List.mem_singleton.mp h
    exact hcode _ (CaseShift.le_image_of_isSafe isSafe_upperShifts hc)

/-! ### Texts -/

/-- The upper case of a character of ASCII. -/
theorem upperChar_of_ascii {c : Char} (hc : c.toNat < 0x80) : upperChar c = [c.toUpper] := if_pos hc

/-- **A text in upper case has no small letter of ASCII.** -/
theorem isLower_of_mem_upper {cs : List Char} {d : Char} (h : d ∈ upper cs) : d.isLower = false := by
  obtain ⟨c, -, hd⟩ := List.mem_flatMap.mp h
  by_cases hc : c.toNat < 0x80
  · rw [upperChar_of_ascii hc, List.mem_singleton] at hd
    rw [hd]
    exact forall_ascii (P := fun c => c.toUpper.isLower = false) (by decide) hc
  · by_cases hascii : d.toNat < 0x80
    · rcases of_mem_upperChar (Nat.le_of_not_lt hc) hd with hle | hupper | rfl
      · omega
      · exact forall_ascii (P := fun d => d.isUpper = true → d.isLower = false) (by decide) hascii
          hupper
      · decide
    · refine Bool.eq_false_iff.mpr fun hlower => hascii ?_
      have hle : d.toNat ≤ 'z'.toNat := of_decide_eq_true (Bool.and_eq_true_iff.mp hlower).2
      exact Nat.lt_of_le_of_lt hle (by decide)

/-- **The signs of a text in upper case were there before.** -/
theorem mem_of_mem_upper {cs : List Char} {d : Char} (h : d ∈ upper cs) (hascii : d.toNat < 0x80)
    (hupper : d.isUpper = false) (hzero : d ≠ '\x00') : d ∈ cs := by
  obtain ⟨c, hmem, hd⟩ := List.mem_flatMap.mp h
  by_cases hc : c.toNat < 0x80
  · rw [upperChar_of_ascii hc, List.mem_singleton] at hd
    have hsame : c.toUpper = c := forall_ascii
      (P := fun c => c.toUpper.isUpper = false → c.toUpper = c) (by decide) hc (hd ▸ hupper)
    rwa [hd, hsame]
  · rcases of_mem_upperChar (Nat.le_of_not_lt hc) hd with hle | h | h
    · omega
    · rw [hupper] at h
      cases h
    · exact absurd h hzero

/-- Nothing is a long s in upper case. -/
theorem longS_notMem_upper (cs : List Char) : '\u017F' ∉ upper cs := by
  have hsource : ∀ s ∈ upperShifts, s.source? 0x17F = none := by decide +kernel
  have hself : CaseShift.image upperShifts 0x17F ≠ 0x17F := by decide
  have hexpansions : ∀ p ∈ upperExpansions, ∀ n ∈ p.2, Char.ofNat n ≠ '\u017F' := by decide
  intro h
  obtain ⟨c, -, h⟩ := List.mem_flatMap.mp h
  by_cases hc : c.toNat < 0x80
  · rw [upperChar_of_ascii hc, List.mem_singleton] at h
    exact absurd h (forall_ascii (P := fun c => '\u017F' ≠ c.toUpper) (by decide) hc)
  · rw [upperChar, if_neg hc] at h
    split at h
    · rename_i codes hcodes
      obtain ⟨n, hn, hchar⟩ := List.mem_map.mp h
      obtain ⟨before, after, htable, -⟩ := List.lookup_eq_some_iff.mp hcodes
      exact hexpansions (c.toNat, codes) (by simp [htable]) n hn hchar
    · have himage : CaseShift.image upperShifts c.toNat = 0x17F := by
        have hchar := (List.mem_singleton.mp h).symm
        rcases toNat_ofNat_or (CaseShift.image upperShifts c.toNat) with hcode | hcode
        · rw [← hcode, hchar]
          rfl
        · exact absurd (hchar.symm.trans hcode) (by decide)
      rcases CaseShift.image_eq_or upperShifts c.toNat with hsame | ⟨s, hs, hshift⟩
      · rw [himage] at hsame
        rw [← hsame] at himage
        exact hself himage
      · rw [himage] at hshift
        exact Option.some_ne_none _
          ((CaseShift.source?_of_image? hshift (by decide)).symm.trans (hsource s hs))

/-! ### Case classes -/

/-- What is alike a character of ASCII is one, or it is the long s or the Kelvin sign. -/
theorem eq_of_fold_eq {c d : Char} (hd : d.toNat < 0x80) (hzero : d ≠ '\x00') (h : fold c = d) :
    c.toNat < 0x80 ∧ c.toLower = d ∨ c = '\u017F' ∧ d = 's' ∨ c = '\u212A' ∧ d = 'k' := by
  by_cases hc : c.toNat < 0x80
  · rw [fold_of_ascii hc] at h
    exact .inl ⟨hc, h⟩
  · have hcode : ∀ {e : Char}, c.toNat = e.toNat → c = e := fun heq => Char.toNat_inj.mp heq
    have himage := CaseShift.le_image_of_staysBeyond staysBeyond_foldShifts (Nat.le_of_not_lt hc)
    rw [List.mem_cons, List.mem_singleton] at himage
    rcases himage with hle | hlong | hkelvin
    · rw [fold, if_neg hc] at h
      rcases toNat_ofNat_or (CaseShift.image foldShifts c.toNat) with hcode | hcode
      · rw [h] at hcode
        omega
      · exact absurd (h.symm.trans hcode) hzero
    · obtain rfl : c = '\u017F' := hcode hlong
      exact .inr (.inl ⟨rfl, h.symm.trans (by decide)⟩)
    · obtain rfl : c = '\u212A' := hcode hkelvin
      exact .inr (.inr ⟨rfl, h.symm.trans (by decide)⟩)

/-- **Characters without small letters are alike only if they are the same**, but for the long s and the
Kelvin sign. -/
theorem eq_of_alike {c d : Char} (h : alike c d = true) (hc : c.isLower = false)
    (hd : d.isLower = false) (hascii : d.toNat < 0x80) (hzero : d ≠ '\x00') (hlong : c ≠ '\u017F')
    (hkelvin : c = '\u212A' → d ≠ 'K') : c = d := by
  have hfold : fold c = d.toLower := by
    rw [← fold_of_ascii hascii]
    exact eq_of_beq h
  have hback : ∀ {e : Char}, e.toNat < 0x80 → e.isLower = false → e.toLower.toUpper = e :=
    fun he => forall_ascii (P := fun e => e.isLower = false → e.toLower.toUpper = e) (by decide) he
  have hnonzero : d.toLower ≠ '\x00' :=
    forall_ascii (P := fun d => d ≠ '\x00' → d.toLower ≠ '\x00') (by decide) hascii hzero
  rcases eq_of_fold_eq (toNat_toLower hascii) hnonzero hfold with ⟨hc', hsame⟩ | ⟨h, -⟩ | ⟨h, hk⟩
  · rw [← hback hc' hc, hsame, hback hascii hd]
  · exact absurd h hlong
  · refine absurd ?_ (hkelvin h)
    rw [← hback hascii hd, hk]
    decide

/-! ### Characters without case -/

/-- Whether neither letters nor their counterparts are in an interval. The comparisons are ones that are
fast to compute, as there are many to make. -/
def CaseShift.avoids (s : CaseShift) (lo hi : Nat) : Bool :=
  (Nat.blt s.high lo || Nat.blt hi s.low) &&
    bif s.down then Nat.blt s.high (lo + s.distance) || Nat.blt (hi + s.distance) s.low
    else Nat.blt (s.high + s.distance) lo || Nat.blt hi (s.low + s.distance)

theorem CaseShift.of_avoids {s : CaseShift} {lo hi n m : Nat} (h : s.avoids lo hi = true)
    (hlo : 0 < lo) (hs : s.image? n = some m) : ¬ (lo ≤ n ∧ n ≤ hi) ∧ ¬ (lo ≤ m ∧ m ≤ hi) := by
  obtain ⟨hcovers, hshift⟩ := image?_eq_some_iff.mp hs
  have hwithin := le_of_covers hcovers
  rw [avoids, Bool.and_eq_true, Bool.or_eq_true, Nat.blt_eq, Nat.blt_eq] at h
  obtain ⟨hletters, hcounterparts⟩ := h
  cases hdown : s.down <;> simp only [hdown, cond_true, cond_false, if_true, Bool.false_eq_true,
    if_false, Bool.or_eq_true, Nat.blt_eq] at hshift hcounterparts <;> omega

/-- **A character that the table of case classes avoids** is alone in its class. -/
theorem mem_orbit_iff_of_avoids {lo hi : Nat} (h : foldShifts.all (·.avoids lo hi) = true) (hlo : 0 < lo)
    {c d : Char} (hc : lo ≤ c.toNat ∧ c.toNat ≤ hi) (hd : 0x80 ≤ d.toNat) :
    c ∈ orbit d ↔ c = d := by
  have havoids := List.all_eq_true.mp h
  have hzero : c ≠ '\x00' := by
    rintro rfl
    exact Nat.lt_irrefl _ (Nat.lt_of_lt_of_le hlo hc.1)
  have hcode : ∀ {n : Nat}, c = Char.ofNat n → c.toNat = n := by
    rintro n rfl
    exact (toNat_ofNat_or n).resolve_right hzero
  have hfold : fold d = Char.ofNat (CaseShift.image foldShifts d.toNat) := if_neg (by omega)
  have himage := CaseShift.image_eq_or foldShifts d.toNat
  rw [orbit, if_neg (by omega), List.mem_cons, List.mem_map]
  constructor
  · rintro (hc' | ⟨m, hm, hc'⟩)
    · rw [hfold] at hc'
      obtain himage | ⟨s, hs, himage⟩ := himage
      · rw [hc', himage, Char.ofNat_toNat]
      · exact absurd (hcode hc' ▸ hc) (CaseShift.of_avoids (havoids s hs) hlo himage).2
    · obtain ⟨s, hs, hsource⟩ := List.mem_filterMap.mp hm
      have hshift : s.image? m = some (fold d).toNat := by
        rw [CaseShift.source?, Option.ite_none_right_eq_some, Bool.and_eq_true, beq_iff_eq] at hsource
        rw [← Option.some.inj hsource.2]
        exact hsource.1.2
      exact absurd (hcode hc'.symm ▸ hc) (CaseShift.of_avoids (havoids s hs) hlo hshift).1
  · rintro rfl
    obtain himage | ⟨s, hs, himage⟩ := himage
    · exact .inl (by rw [hfold, himage, Char.ofNat_toNat])
    · exact absurd hc (CaseShift.of_avoids (havoids s hs) hlo himage).1

/-! ### Word characters -/

/-- The code points of a list of intervals, as the bits of a number. -/
def CodeRanges.bits : CodeRanges → Nat
  | [] => 0
  | (lo, hi) :: rest => (1 <<< (hi + 1 - lo) - 1 ||| bits rest >>> lo) <<< lo

theorem CodeRanges.testBit_bits (ranges : CodeRanges) (n : Nat) :
    ranges.bits.testBit n = ranges.contains n := by
  induction ranges with
  | nil => exact Nat.zero_testBit n
  | cons range ranges ih =>
    rw [bits, contains, Nat.testBit_shiftLeft, Nat.testBit_or, Nat.one_shiftLeft,
      Nat.testBit_two_pow_sub_one, Nat.testBit_shiftRight]
    split
    · rw [decide_eq_false (by omega), Bool.false_and]
    · rw [decide_eq_true (by omega), Bool.true_and, Nat.add_sub_cancel' (by omega), ih]
      congr 1
      exact decide_eq_decide.mpr (by omega)

/-- Whether a list of intervals has all code points between two of them. -/
def CodeRanges.spans (ranges : CodeRanges) (low high : Nat) : Bool :=
  Nat.beq (ranges.bits >>> low % 1 <<< (high + 1 - low)) (1 <<< (high + 1 - low) - 1)

theorem CodeRanges.contains_of_spans {ranges : CodeRanges} {low high n : Nat}
    (h : ranges.spans low high = true) (hlow : low ≤ n) (hhigh : n ≤ high) :
    ranges.contains n = true := by
  have hbit := congrArg (Nat.testBit · (n - low)) (Nat.eq_of_beq_eq_true h)
  rwa [Nat.one_shiftLeft, Nat.testBit_mod_two_pow, Nat.testBit_two_pow_sub_one,
    decide_eq_true (by omega), Bool.true_and, Nat.testBit_shiftRight, Nat.add_sub_cancel' hlow,
    testBit_bits] at hbit

/-- Word characters between two code points: all of them are in the table, and each is a character. -/
def areWord (low high : Nat) : Bool :=
  wordRanges.spans low high && (Nat.blt high 0xD800 || Nat.blt 0xDFFF low && Nat.blt high 0x110000)

theorem isWordChar_ofNat {low high n : Nat} (h : areWord low high = true) (hlow : low ≤ n)
    (hhigh : n ≤ high) : isWordChar (Char.ofNat n) = true := by
  have hascii : ∀ n < 0x80, wordRanges.contains n = true → isWordChar (Char.ofNat n) = true := by
    decide
  simp only [areWord, Bool.and_eq_true, Bool.or_eq_true, Nat.blt_eq] at h
  have hcontains := CodeRanges.contains_of_spans h.1 hlow hhigh
  have hvalid : n.isValidChar := by
    unfold Nat.isValidChar
    omega
  have hcode : (Char.ofNat n).toNat = n := by
    rw [Char.ofNat, dif_pos hvalid]
    rfl
  by_cases hn : n < 0x80
  · exact hascii n hn hcontains
  · rw [isWordChar, hcode, if_neg hn, hcontains]

namespace CaseShift

/-- The counterpart of a letter. -/
def counterpart (s : CaseShift) (n : Nat) : Nat := bif s.down then n - s.distance else n + s.distance

/-- Letters and their counterparts are word characters. Where not all code points between them are, they
are looked at one by one. -/
def isWord (s : CaseShift) : Bool :=
  areWord s.low s.high && areWord (s.counterpart s.low) (s.counterpart s.high) ||
    (List.range' s.low ((s.high - s.low) / s.step + 1) s.step).all fun n =>
      areWord n n && areWord (s.counterpart n) (s.counterpart n)

theorem isWordChar_of_image? {s : CaseShift} {n m : Nat} (h : s.isWord = true) (hm : s.image? n = some m) :
    isWordChar (Char.ofNat n) = true ∧ isWordChar (Char.ofNat m) = true := by
  obtain ⟨hcovers, hcounterpart⟩ := image?_eq_some_iff.mp hm
  have hm' : m = s.counterpart n := by rw [hcounterpart, counterpart, cond_eq_ite]
  obtain ⟨hlow, hhigh⟩ := le_of_covers hcovers
  rw [isWord, Bool.or_eq_true] at h
  rcases h with h | h
  · obtain ⟨hletters, hcounterparts⟩ := Bool.and_eq_true_iff.mp h
    refine ⟨isWordChar_ofNat hletters hlow hhigh, hm' ▸ isWordChar_ofNat hcounterparts ?_ ?_⟩ <;>
      cases hdown : s.down <;> simp only [counterpart, hdown, cond_true, cond_false] <;> omega
  · have hstep : (n - s.low) % s.step = 0 := beq_iff_eq.mp (Bool.and_eq_true_iff.mp hcovers).2
    have hnth := Nat.mul_div_cancel' (Nat.dvd_of_mod_eq_zero hstep)
    have hmem : n ∈ List.range' s.low ((s.high - s.low) / s.step + 1) s.step :=
      List.mem_range'.mpr ⟨(n - s.low) / s.step,
        Nat.lt_succ_of_le (Nat.div_le_div_right (by omega)), by omega⟩
    obtain ⟨hletter, hother⟩ := Bool.and_eq_true_iff.mp (List.all_eq_true.mp h n hmem)
    exact ⟨isWordChar_ofNat hletter (Nat.le_refl n) (Nat.le_refl n),
      hm' ▸ isWordChar_ofNat hother (Nat.le_refl _) (Nat.le_refl _)⟩

end CaseShift

/-- What the tables of letters have are word characters, and so is what the table of digits has. -/
theorem isWord_tables : foldShifts.all (·.isWord) = true ∧ upperShifts.all (·.isWord) = true ∧
    (upperExpansions.all fun p => p.2.all fun n => areWord n n) = true ∧
    (digitRanges.all fun range => areWord range.1 range.2) = true := by
  decide +kernel

/-- Folding leads from word characters to word characters, and from others to others. -/
theorem isWordChar_fold (c : Char) : isWordChar (fold c) = isWordChar c := by
  by_cases hc : c.toNat < 0x80
  · rw [fold_of_ascii hc, isWordChar_toLower hc]
  · rw [fold, if_neg hc]
    obtain hsame | ⟨s, hs, himage⟩ := CaseShift.image_eq_or foldShifts c.toNat
    · rw [hsame, Char.ofNat_toNat]
    · obtain ⟨hself, hother⟩ :=
        CaseShift.isWordChar_of_image? (List.all_eq_true.mp isWord_tables.1 s hs) himage
      rw [Char.ofNat_toNat] at hself
      rw [hself, hother]

/-- **Characters that are alike are both word characters**, or neither is. -/
theorem isWordChar_eq_of_alike {c d : Char} (h : alike c d = true) : isWordChar c = isWordChar d := by
  rw [← isWordChar_fold c, eq_of_beq h, isWordChar_fold]

/-- A code point of a list of intervals is in one of them. -/
theorem CodeRanges.exists_of_contains {ranges : CodeRanges} {n : Nat} (h : ranges.contains n = true) :
    ∃ range ∈ ranges, range.1 ≤ n ∧ n ≤ range.2 := by
  induction ranges with
  | nil => cases h
  | cons range ranges ih =>
    rw [contains] at h
    split at h
    · cases h
    · rename_i hlow
      rw [Bool.or_eq_true, decide_eq_true_eq] at h
      rcases h with hhigh | h
      · exact ⟨range, List.mem_cons_self, Nat.le_of_not_lt hlow, hhigh⟩
      · exact (ih h).imp fun _ hrange => ⟨List.mem_cons_of_mem _ hrange.1, hrange.2⟩

/-- Digits are word characters. -/
theorem isWordChar_of_isDigit {c : Char} (h : isDigit c = true) : isWordChar c = true := by
  by_cases hc : c.toNat < 0x80
  · exact forall_ascii (P := fun c => isDigit c = true → isWordChar c = true) (by decide) hc h
  · rw [isDigit, if_neg hc] at h
    obtain ⟨range, hrange, hlow, hhigh⟩ := CodeRanges.exists_of_contains h
    simpa using isWordChar_ofNat (List.all_eq_true.mp isWord_tables.2.2.2 range hrange) hlow hhigh

/-- **Word characters are word characters in upper case.** -/
theorem isWordChar_of_mem_upper {cs : List Char} (hcs : ∀ c ∈ cs, isWordChar c = true) :
    ∀ d ∈ upper cs, isWordChar d = true := by
  obtain ⟨-, hshifts, hexpansions, -⟩ := isWord_tables
  intro d hd
  obtain ⟨c, hmem, hd⟩ := List.mem_flatMap.mp hd
  have hword := hcs c hmem
  by_cases hc : c.toNat < 0x80
  · rw [upperChar_of_ascii hc, List.mem_singleton] at hd
    rw [hd]
    exact forall_ascii (P := fun c => isWordChar c = true → isWordChar c.toUpper = true) (by decide) hc
      hword
  · rw [upperChar, if_neg hc] at hd
    split at hd
    · rename_i codes hcodes
      obtain ⟨n, hn, rfl⟩ := List.mem_map.mp hd
      obtain ⟨before, after, htable, -⟩ := List.lookup_eq_some_iff.mp hcodes
      have hentry := List.all_eq_true.mp hexpansions (c.toNat, codes) (by simp [htable])
      exact isWordChar_ofNat (List.all_eq_true.mp hentry n hn) (Nat.le_refl n) (Nat.le_refl n)
    · obtain rfl := List.mem_singleton.mp hd
      obtain hsame | ⟨s, hs, himage⟩ := CaseShift.image_eq_or upperShifts c.toNat
      · rwa [hsame, Char.ofNat_toNat]
      · exact (CaseShift.isWordChar_of_image? (List.all_eq_true.mp hshifts s hs) himage).2

end Text

end Concordance
