import Concordance.Proofs.Markup.Tag
import Concordance.Proofs.Text.LetterCase

/-!
# Texts in upper case

What the tables of upper case lead to is in upper case already: it is none of the letters that they lead
from. So a text in upper case stays as it is. Digits are not in the tables, and beyond ASCII nothing
leads to one of the letters of the two languages alone; so a Strong's number in upper case was one before.

## Main definitions

* `Text.CaseShift.letters` — the letters of an interval
* `Text.smallLetters`, `Text.capitals` — what the tables of upper case lead from and to

## Main results

* `Text.upper_upper` — a text in upper case stays as it is
* `Text.eq_of_mem_upperChar` — digits are the upper case of nothing else
* `Markup.isNumber_of_upper` — a Strong's number in upper case was one before
-/

namespace Concordance

namespace Text

/-! ### Tables -/

/-- Numbers as the bits of one number. -/
def bitsOf (ns : List Nat) : Nat := ns.foldr (fun n bits => 1 <<< n ||| bits) 0

theorem testBit_bitsOf {ns : List Nat} {n : Nat} : (bitsOf ns).testBit n = true ↔ n ∈ ns := by
  induction ns with
  | nil => simp [bitsOf]
  | cons m ns ih =>
    have hbits : bitsOf (m :: ns) = 1 <<< m ||| bitsOf ns := rfl
    rw [hbits, Nat.testBit_or, Bool.or_eq_true, ih, Nat.one_shiftLeft, Nat.testBit_two_pow,
      decide_eq_true_eq, List.mem_cons, eq_comm]

/-- Numbers without common bits have no common members. -/
theorem testBit_eq_false {a b n : Nat} (h : a &&& b = 0) (ha : a.testBit n = true) :
    b.testBit n = false := by
  have hbit := congrArg (Nat.testBit · n) h
  simpa [ha] using hbit

/-- The letters of an interval. -/
def CaseShift.letters (s : CaseShift) : List Nat :=
  List.range' s.low ((s.high - s.low) / s.step + 1) s.step

/-- What the tables of upper case lead from. -/
def smallLetters : List Nat := upperShifts.flatMap (·.letters) ++ upperExpansions.map Prod.fst

/-- What the tables of upper case lead to. -/
def capitals : List Nat :=
  (upperShifts.flatMap fun s => s.letters.map s.counterpart) ++ upperExpansions.flatMap Prod.snd

/-- No capital is a small letter, and neither is a digit. -/
theorem bits_disjoint : bitsOf capitals &&& bitsOf smallLetters = 0 ∧
    digitRanges.bits &&& bitsOf smallLetters = 0 ∧ digitRanges.bits &&& bitsOf capitals = 0 := by
  decide +kernel

theorem CaseShift.mem_letters {s : CaseShift} {n : Nat} (h : s.covers n = true) : n ∈ s.letters := by
  obtain ⟨hlow, hhigh⟩ := le_of_covers h
  have hstep : (n - s.low) % s.step = 0 := beq_iff_eq.mp (Bool.and_eq_true_iff.mp h).2
  have hnth := Nat.mul_div_cancel' (Nat.dvd_of_mod_eq_zero hstep)
  exact List.mem_range'.mpr
    ⟨(n - s.low) / s.step, Nat.lt_succ_of_le (Nat.div_le_div_right (by omega)), by omega⟩

/-! ### Characters -/

/-- A text stays as it is if its characters do. -/
theorem map_eq_self_iff {f : Char → Char} {cs : List Char} : cs.map f = cs ↔ ∀ c ∈ cs, f c = c := by
  have hiff : cs.map f = cs.map id ↔ ∀ c ∈ cs, f c = id c := List.map_inj_left
  rwa [List.map_id] at hiff

variable {c d : Char}

theorem mem_of_lookup {codes : List Nat} (h : upperExpansions.lookup c.toNat = some codes) :
    (c.toNat, codes) ∈ upperExpansions := by
  obtain ⟨before, after, htable, -⟩ := List.lookup_eq_some_iff.mp h
  simp [htable]

/-- A character beyond ASCII is in upper case, or it is a small letter and leads to capitals. -/
theorem upperChar_cases (hc : 0x80 ≤ c.toNat) :
    upperChar c = [c] ∨ c.toNat ∈ smallLetters ∧ ∀ d ∈ upperChar c, ∃ n ∈ capitals, d = Char.ofNat n := by
  rw [upperChar, if_neg (Nat.not_lt.mpr hc)]
  split
  · rename_i codes hcodes
    have hentry := mem_of_lookup hcodes
    refine .inr ⟨List.mem_append_right _ (List.mem_map.mpr ⟨_, hentry, rfl⟩), fun d hd => ?_⟩
    obtain ⟨n, hn, rfl⟩ := List.mem_map.mp hd
    exact ⟨n, List.mem_append_right _ (List.mem_flatMap.mpr ⟨_, hentry, hn⟩), rfl⟩
  · obtain hsame | ⟨s, hs, himage⟩ := CaseShift.image_eq_or upperShifts c.toNat
    · exact .inl (by rw [hsame, Char.ofNat_toNat])
    · obtain ⟨hcovers, hcounterpart⟩ := CaseShift.image?_eq_some_iff.mp himage
      have hletter := CaseShift.mem_letters hcovers
      rw [← cond_eq_ite] at hcounterpart
      refine .inr ⟨List.mem_append_left _ (List.mem_flatMap.mpr ⟨s, hs, hletter⟩), fun d hd => ?_⟩
      refine ⟨_, List.mem_append_left _ (List.mem_flatMap.mpr ⟨s, hs, ?_⟩), List.mem_singleton.mp hd⟩
      exact List.mem_map.mpr ⟨c.toNat, hletter, hcounterpart.symm⟩

theorem upperChar_of_notMem (hc : 0x80 ≤ c.toNat) (h : c.toNat ∉ smallLetters) : upperChar c = [c] :=
  (upperChar_cases hc).resolve_right fun hletter => h hletter.1

/-- What is in upper case stays as it is. -/
theorem upperChar_of_mem_upperChar (h : d ∈ upperChar c) : upperChar d = [d] := by
  by_cases hd : d.toNat < 0x80
  · have hlower : d.isLower = false := isLower_of_mem_upper (show d ∈ upper [c] by simpa using h)
    rw [upperChar_of_ascii hd]
    exact congrArg (fun d => [d])
      (forall_ascii (P := fun d => d.isLower = false → d.toUpper = d) (by decide) hd hlower)
  · have hc : 0x80 ≤ c.toNat := by
      refine Nat.le_of_not_lt fun hc => hd ?_
      rw [upperChar_of_ascii hc, List.mem_singleton] at h
      exact h ▸ forall_ascii (P := fun c => c.toUpper.toNat < 0x80) (by decide) hc
    rcases upperChar_cases hc with hself | ⟨-, hcapital⟩
    · rw [hself, List.mem_singleton] at h
      rw [h, hself]
    · obtain ⟨n, hn, rfl⟩ := hcapital d h
      refine upperChar_of_notMem (Nat.le_of_not_lt hd) fun hletter => ?_
      rcases toNat_ofNat_or n with hcode | hzero
      · rw [hcode] at hletter
        have hbit := testBit_eq_false bits_disjoint.1 (testBit_bitsOf.mpr hn)
        rw [testBit_bitsOf.mpr hletter] at hbit
        cases hbit
      · rw [hzero] at hd
        exact hd (by decide)

theorem upper_append (cs cs' : List Char) : upper (cs ++ cs') = upper cs ++ upper cs' :=
  List.flatMap_append

/-- A text without small letters stays as it is. -/
theorem upper_eq_self {cs : List Char} (h : ∀ c ∈ cs, upperChar c = [c]) : upper cs = cs := by
  induction cs with
  | nil => rfl
  | cons c cs ih =>
    obtain ⟨hc, hcs⟩ := List.forall_mem_cons.mp h
    rw [upper_cons, hc, ih hcs, List.singleton_append]

/-- **A text in upper case stays as it is.** -/
theorem upper_upper (cs : List Char) : upper (upper cs) = upper cs := by
  refine upper_eq_self fun d hd => ?_
  obtain ⟨c, -, hd⟩ := List.mem_flatMap.mp hd
  exact upperChar_of_mem_upperChar hd

theorem upperChar_ne_nil (c : Char) : upperChar c ≠ [] := by
  have hexpansions : ∀ p ∈ upperExpansions, p.2 ≠ [] := by decide
  rw [upperChar]
  split
  · exact List.cons_ne_nil _ _
  · split
    · rename_i codes hcodes
      rw [ne_eq, List.map_eq_nil_iff]
      exact hexpansions _ (mem_of_lookup hcodes)
    · exact List.cons_ne_nil _ _

/-! ### Digits -/

theorem isDigit_eq_contains (c : Char) : isDigit c = digitRanges.contains c.toNat := by
  by_cases hc : c.toNat < 0x80
  · exact forall_ascii (P := fun c => isDigit c = digitRanges.contains c.toNat) (by decide) hc
  · rw [isDigit, if_neg hc]

theorem testBit_of_isDigit (h : isDigit c = true) : digitRanges.bits.testBit c.toNat = true := by
  rw [CodeRanges.testBit_bits, ← isDigit_eq_contains, h]

/-- Digits have no case. -/
theorem upperChar_of_isDigit (h : isDigit c = true) : upperChar c = [c] := by
  by_cases hc : c.toNat < 0x80
  · rw [upperChar_of_ascii hc]
    exact congrArg (fun c => [c])
      (forall_ascii (P := fun c => isDigit c = true → c.toUpper = c) (by decide) hc h)
  · refine upperChar_of_notMem (Nat.le_of_not_lt hc) fun hletter => ?_
    have hbit := testBit_eq_false bits_disjoint.2.1 (testBit_of_isDigit h)
    rw [testBit_bitsOf.mpr hletter] at hbit
    cases hbit

/-- **Digits are the upper case of nothing else.** -/
theorem eq_of_mem_upperChar (h : d ∈ upperChar c) (hd : isDigit d = true) : c = d := by
  by_cases hc : c.toNat < 0x80
  · rw [upperChar_of_ascii hc, List.mem_singleton] at h
    rw [h] at hd ⊢
    exact (forall_ascii (P := fun c => isDigit c.toUpper = true → c = c.toUpper) (by decide) hc hd)
  · rcases upperChar_cases (Nat.le_of_not_lt hc) with hself | ⟨-, hcapital⟩
    · rw [hself, List.mem_singleton] at h
      exact h.symm
    · obtain ⟨n, hn, rfl⟩ := hcapital d h
      rcases toNat_ofNat_or n with hcode | hzero
      · have hbit := testBit_eq_false bits_disjoint.2.2 (testBit_of_isDigit hd)
        rw [hcode, testBit_bitsOf.mpr hn] at hbit
        cases hbit
      · rw [hzero] at hd
        exact absurd hd (by decide)

end Text

namespace Markup

open Text

/-! ### Strong's numbers -/

/-- The table of single letters leads from beyond ASCII to no letter of the two languages. -/
theorem ofNat_image_ne {n : Nat} (hn : 0x80 ≤ n) {d : Char} (hd : d ∈ ['G', 'H', 'g', 'h']) :
    Char.ofNat (CaseShift.image upperShifts n) ≠ d := by
  have hsource : (upperShifts.all fun s => ['G', 'H', 'g', 'h'].all fun d =>
      (s.source? d.toNat).all (Nat.blt · 0x80)) = true := by decide +kernel
  have hascii : ['G', 'H', 'g', 'h'].all (fun d => d ≠ '\x00' ∧ d.toNat ≠ 0 ∧ d.toNat < 0x80) = true := by
    decide
  obtain ⟨hzero, hpos, hlt⟩ := of_decide_eq_true (List.all_eq_true.mp hascii d hd)
  intro hchar
  have hcode : CaseShift.image upperShifts n = d.toNat := by
    rw [← hchar] at hzero ⊢
    exact ((toNat_ofNat_or _).resolve_right hzero).symm
  rcases CaseShift.image_eq_or upperShifts n with hsame | ⟨s, hs, himage⟩
  · omega
  · rw [hcode] at himage
    have hall := List.all_eq_true.mp (List.all_eq_true.mp hsource s hs) d hd
    rw [CaseShift.source?_of_image? himage hpos, Option.all_some, Nat.blt_eq] at hall
    omega

/-- What has a letter of the two languages as its upper case is such a letter. -/
theorem isLanguageAnyCase_of_upperChar {c d : Char} (h : upperChar c = [d])
    (hd : isLanguageAnyCase d = true) : isLanguageAnyCase c = true := by
  have hexpansions : ∀ p ∈ upperExpansions, p.2.length ≠ 1 := by decide
  by_cases hc : c.toNat < 0x80
  · rw [upperChar_of_ascii hc] at h
    rw [← (List.cons.inj h).1] at hd
    exact forall_ascii (P := fun c => isLanguageAnyCase c.toUpper = true → isLanguageAnyCase c = true)
      (by decide) hc hd
  · rw [upperChar, if_neg hc] at h
    split at h
    · rename_i codes hcodes
      exact absurd (by simpa using congrArg List.length h)
        (hexpansions _ (mem_of_lookup hcodes))
    · refine absurd (List.cons.inj h).1 (ofNat_image_ne (Nat.le_of_not_lt hc) ?_)
      simpa [isLanguageAnyCase, isLanguage, or_assoc] using hd

/-- **A Strong's number in upper case was one before.** -/
theorem isNumber_of_upper {w : List Char} (h : IsNumber isLanguageAnyCase (upper w)) :
    IsNumber isLanguageAnyCase w := by
  obtain ⟨d, ds, hw, hd, hne, hds⟩ := h
  cases w with
  | nil => cases hw
  | cons c w =>
    obtain ⟨e, es, hchar⟩ := List.exists_cons_of_ne_nil (upperChar_ne_nil c)
    rw [upper_cons, hchar, List.cons_append] at hw
    obtain ⟨rfl, rfl⟩ := List.cons.inj hw
    have hes : es = [] := by
      rw [List.eq_nil_iff_forall_not_mem]
      intro x hx
      have hdigit := hds x (List.mem_append_left _ hx)
      -- a digit would be all that the letter leads to
      obtain rfl := eq_of_mem_upperChar (c := c) (by simp [hchar, hx]) hdigit
      rw [upperChar_of_isDigit hdigit] at hchar
      obtain ⟨-, rfl⟩ := List.cons.inj hchar
      cases hx
    subst hes
    rw [List.nil_append] at hne hds
    refine ⟨c, w, rfl, isLanguageAnyCase_of_upperChar hchar hd, fun hnil => hne (by rw [hnil, upper_nil]),
      fun x hx => ?_⟩
    obtain ⟨y, ys, hy⟩ := List.exists_cons_of_ne_nil (upperChar_ne_nil x)
    have hmem : y ∈ upperChar x := by simp [hy]
    have hdigit := hds y (List.mem_flatMap.mpr ⟨x, hx, hmem⟩)
    exact eq_of_mem_upperChar hmem hdigit ▸ hdigit

end Markup

end Concordance
