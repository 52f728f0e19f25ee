import Mathlib.Tactic.SplitIfs
import Concordance.Error

/-!
# Bytes of texts read back

Encoding a text and decoding the bytes gives the text again. A character of several bytes goes
through one pending state for each of them; the bounds of the second byte are what keeps out longer
forms and codes of no character, so that they are met here because the code is a character's. For the
same reason nothing but the bytes of a text is decoded: within the bounds, the bits of the bytes are
the code of a character that has just these bytes.

## Main results

* `Text.decode?_encode` — the bytes of a text stand for the text
* `Text.decode_eq_ok_iff` — nothing else stands for it
-/

namespace Concordance

namespace Text

/-! ### Bytes as numbers -/

/-- A byte within its bounds. -/
theorem accepts_ofNat {p : Pending} {m : Nat} (hm : m < 256) (hlow : p.low.toNat ≤ m)
    (hhigh : m ≤ p.high.toNat) : p.accepts (UInt8.ofNat m) = true := by
  rw [Pending.accepts, Bool.and_eq_true, decide_eq_true_iff, decide_eq_true_iff,
    UInt8.le_iff_toNat_le, UInt8.le_iff_toNat_le, UInt8.toNat_ofNat_of_lt' hm]
  exact ⟨hlow, hhigh⟩

/-- A byte that goes on with a character, and does not end it. -/
theorem decodeFrom_push {index m : Nat} {p : Pending} {bs : Bytes} (hm : m < 256)
    (hlow : p.low.toNat ≤ m) (hhigh : m ≤ p.high.toNat) (hmore : p.missing ≠ 1) :
    decodeFrom index (some p) (UInt8.ofNat m :: bs)
      = decodeFrom (index + 1) (some (p.push (UInt8.ofNat m))) bs := by
  simp [decodeFrom, accepts_ofNat hm hlow hhigh, hmore]

/-- A byte that ends a character. -/
theorem decodeFrom_last {index m : Nat} {p : Pending} {bs : Bytes} (hm : m < 256)
    (hlow : p.low.toNat ≤ m) (hhigh : m ≤ p.high.toNat) (hlast : p.missing = 1) :
    decodeFrom index (some p) (UInt8.ofNat m :: bs)
      = (decodeFrom (index + 1) none bs).map (Char.ofNat (p.extend (UInt8.ofNat m)) :: ·) := by
  simp [decodeFrom, accepts_ofNat hm hlow hhigh, hlast]

/-- A byte that begins a character of several bytes. -/
theorem decodeFrom_lead {index m : Nat} {p : Pending} {bs : Bytes} (hm : m < 256) (h : 0x80 ≤ m)
    (hp : Pending.ofLead? (UInt8.ofNat m) = some p) :
    decodeFrom index none (UInt8.ofNat m :: bs) = decodeFrom (index + 1) (some p) bs := by
  have hnot : ¬ UInt8.ofNat m < 0x80 := by
    rw [UInt8.lt_iff_toNat_lt, UInt8.toNat_ofNat_of_lt' hm]
    change ¬ m < 128
    omega
  simp [decodeFrom, hnot, hp]

theorem extend_ofNat {p : Pending} {m : Nat} (hm : m < 256) :
    p.extend (UInt8.ofNat m) = p.value * 64 + (m - 0x80) :=
  congrArg (fun n => p.value * 64 + (n - 0x80)) (UInt8.toNat_ofNat_of_lt' hm)

section

variable {index n k m : Nat} {bs : Bytes}

/-- A byte with any six bits goes on with a character that has no bounds of its own. -/
theorem decodeFrom_push_any (hmore : k ≠ 1) (h : 0x80 ≤ m) (h' : m ≤ 0xBF) (seen : Nat) :
    decodeFrom index (some ⟨n, seen, k, 0x80, 0xBF⟩) (UInt8.ofNat m :: bs)
      = decodeFrom (index + 1) (some ⟨n * 64 + (m - 0x80), seen + 1, k - 1, 0x80, 0xBF⟩) bs := by
  have hm : m < 256 := by omega
  have hlow : (0x80 : UInt8).toNat = 0x80 := rfl
  have hhigh : (0xBF : UInt8).toNat = 0xBF := rfl
  rw [decodeFrom_push hm (by rw [hlow]; exact h) (by rw [hhigh]; exact h') hmore, Pending.push,
    extend_ofNat hm]

/-- A byte with any six bits ends a character that has no bounds of its own. -/
theorem decodeFrom_last_any (h : 0x80 ≤ m) (h' : m ≤ 0xBF) (seen : Nat) :
    decodeFrom index (some ⟨n, seen, 1, 0x80, 0xBF⟩) (UInt8.ofNat m :: bs)
      = (decodeFrom (index + 1) none bs).map (Char.ofNat (n * 64 + (m - 0x80)) :: ·) := by
  have hm : m < 256 := by omega
  have hlow : (0x80 : UInt8).toNat = 0x80 := rfl
  have hhigh : (0xBF : UInt8).toNat = 0xBF := rfl
  rw [decodeFrom_last hm (by rw [hlow]; exact h) (by rw [hhigh]; exact h') rfl, extend_ofNat hm]

end

/-! ### Leading bytes -/

theorem ofLead?_two {m : Nat} (h : 0xC2 ≤ m) (h' : m < 0xE0) :
    Pending.ofLead? (UInt8.ofNat m) = some ⟨m - 0xC0, 1, 1, 0x80, 0xBF⟩ := by
  rw [Pending.ofLead?, UInt8.toNat_ofNat_of_lt' (by omega : m < 256), if_neg (by omega), if_pos h']

theorem ofLead?_three {m : Nat} (h : 0xE0 ≤ m) (h' : m < 0xF0) :
    Pending.ofLead? (UInt8.ofNat m) =
      some ⟨m - 0xE0, 1, 2, if m = 0xE0 then 0xA0 else 0x80, if m = 0xED then 0x9F else 0xBF⟩ := by
  rw [Pending.ofLead?, UInt8.toNat_ofNat_of_lt' (by omega : m < 256), if_neg (by omega),
    if_neg (by omega), if_pos h']

theorem ofLead?_four {m : Nat} (h : 0xF0 ≤ m) (h' : m < 0xF5) :
    Pending.ofLead? (UInt8.ofNat m) =
      some ⟨m - 0xF0, 1, 3, if m = 0xF0 then 0x90 else 0x80, if m = 0xF4 then 0x8F else 0xBF⟩ := by
  rw [Pending.ofLead?, UInt8.toNat_ofNat_of_lt' (by omega : m < 256), if_neg (by omega),
    if_neg (by omega), if_neg (by omega), if_pos h']

/-! ### Characters by their number of bytes -/

section

variable (index : Nat) {c : Char} (bs : Bytes)

theorem decodeFrom_one (h : c.toNat ≤ 0x7F) :
    decodeFrom index none (UInt8.ofNat c.toNat :: bs)
      = (decodeFrom (index + 1) none bs).map (c :: ·) := by
  have hm : c.toNat < 256 := by omega
  have hlt : UInt8.ofNat c.toNat < 0x80 := by
    rw [UInt8.lt_iff_toNat_lt, UInt8.toNat_ofNat_of_lt' hm]
    change c.toNat < 128
    omega
  rw [decodeFrom]
  simp only [hlt, if_true]
  rw [UInt8.toNat_ofNat_of_lt' hm, Char.ofNat_toNat]

theorem decodeFrom_two (h : 0x80 ≤ c.toNat) (h' : c.toNat ≤ 0x7FF) :
    decodeFrom index none (UInt8.ofNat (c.toNat / 64 % 0x20 + 0xC0)
        :: UInt8.ofNat (c.toNat % 0x40 + 0x80) :: bs)
      = (decodeFrom (index + 2) none bs).map (c :: ·) := by
  have hvalue : (c.toNat / 64 % 0x20 + 0xC0 - 0xC0) * 64 + (c.toNat % 0x40 + 0x80 - 0x80)
      = c.toNat := by omega
  rw [decodeFrom_lead (by omega) (by omega) (ofLead?_two (by omega) (by omega)),
    decodeFrom_last_any (by omega) (by omega), hvalue, Char.ofNat_toNat]

theorem decodeFrom_three (h : 0x800 ≤ c.toNat) (h' : c.toNat ≤ 0xFFFF) :
    decodeFrom index none (UInt8.ofNat (c.toNat / 4096 % 0x10 + 0xE0)
        :: UInt8.ofNat (c.toNat / 64 % 0x40 + 0x80) :: UInt8.ofNat (c.toNat % 0x40 + 0x80) :: bs)
      = (decodeFrom (index + 3) none bs).map (c :: ·) := by
  have hvalid : c.toNat < 0xD800 ∨ 0xDFFF < c.toNat ∧ c.toNat < 0x110000 := c.valid
  have hvalue :
    ((c.toNat / 4096 % 0x10 + 0xE0 - 0xE0) * 64 + (c.toNat / 64 % 0x40 + 0x80 - 0x80)) * 64
      + (c.toNat % 0x40 + 0x80 - 0x80) = c.toNat := by omega
  rw [decodeFrom_lead (by omega) (by omega) (ofLead?_three (by omega) (by omega)),
    decodeFrom_push (by omega) ?_ ?_ (show 2 ≠ 1 by decide), Pending.push, extend_ofNat (by omega)]
  · dsimp only
    rw [decodeFrom_last_any (by omega) (by omega), hvalue, Char.ofNat_toNat]
  · -- the least second byte keeps out the codes that two bytes hold
    by_cases h0 : c.toNat / 4096 % 0x10 + 0xE0 = 0xE0
    · simp only [h0, if_true]
      change 0xA0 ≤ _
      omega
    · simp only [h0, if_false]
      exact Nat.le_add_left _ _
  · -- the greatest keeps out the codes that are no character's
    by_cases hd : c.toNat / 4096 % 0x10 + 0xE0 = 0xED
    · simp only [hd, if_true]
      change _ ≤ 0x9F
      omega
    · simp only [hd, if_false]
      change _ ≤ 0xBF
      omega

theorem decodeFrom_four (h : 0x10000 ≤ c.toNat) :
    decodeFrom index none (UInt8.ofNat (c.toNat / 262144 % 0x08 + 0xF0)
        :: UInt8.ofNat (c.toNat / 4096 % 0x40 + 0x80) :: UInt8.ofNat (c.toNat / 64 % 0x40 + 0x80)
        :: UInt8.ofNat (c.toNat % 0x40 + 0x80) :: bs)
      = (decodeFrom (index + 4) none bs).map (c :: ·) := by
  have hvalid : c.toNat < 0xD800 ∨ 0xDFFF < c.toNat ∧ c.toNat < 0x110000 := c.valid
  have hvalue : (((c.toNat / 262144 % 0x08 + 0xF0 - 0xF0) * 64
        + (c.toNat / 4096 % 0x40 + 0x80 - 0x80)) * 64 + (c.toNat / 64 % 0x40 + 0x80 - 0x80)) * 64
      + (c.toNat % 0x40 + 0x80 - 0x80) = c.toNat := by omega
  rw [decodeFrom_lead (by omega) (by omega) (ofLead?_four (by omega) (by omega)),
    decodeFrom_push (by omega) ?_ ?_ (show 3 ≠ 1 by decide), Pending.push, extend_ofNat (by omega)]
  · dsimp only
    rw [decodeFrom_push_any (by decide) (by omega) (by omega),
      decodeFrom_last_any (by omega) (by omega), hvalue, Char.ofNat_toNat]
  · -- the least second byte keeps out the codes that three bytes hold
    by_cases h0 : c.toNat / 262144 % 0x08 + 0xF0 = 0xF0
    · simp only [h0, if_true]
      change 0x90 ≤ _
      omega
    · simp only [h0, if_false]
      exact Nat.le_add_left _ _
  · -- the greatest keeps out the codes past the last character
    by_cases h4 : c.toNat / 262144 % 0x08 + 0xF0 = 0xF4
    · simp only [h4, if_true]
      change _ ≤ 0x8F
      omega
    · simp only [h4, if_false]
      change _ ≤ 0xBF
      omega

end

/-- **The bytes of a character are read as the character.** -/
theorem decodeFrom_utf8EncodeChar (index : Nat) (c : Char) (bs : Bytes) :
    ∃ next, decodeFrom index none (String.utf8EncodeChar c ++ bs)
      = (decodeFrom next none bs).map (c :: ·) := by
  have hval : c.val.toNat = c.toNat := rfl
  rw [String.utf8EncodeChar]
  simp only [hval]
  split_ifs with h₁ h₂ h₃
  · exact ⟨_, decodeFrom_one index bs h₁⟩
  · exact ⟨_, decodeFrom_two index bs (by omega) h₂⟩
  · exact ⟨_, decodeFrom_three index bs (by omega) h₃⟩
  · exact ⟨_, decodeFrom_four index bs (by omega)⟩

theorem decodeFrom_encode (index : Nat) (cs : List Char) :
    decodeFrom index none (encode cs) = .ok cs := by
  induction cs generalizing index with
  | nil => rfl
  | cons c cs ih =>
    obtain ⟨next, h⟩ := decodeFrom_utf8EncodeChar index c (encode cs)
    rw [encode_cons, h, ih]
    rfl

/-- **The bytes of a text stand for the text.** -/
@[simp] theorem decode?_encode (cs : List Char) : decode? (encode cs) = some cs := by
  rw [decode?, decode, decodeFrom_encode]
  rfl

/-! ### Bytes that have been read -/

theorem toNat_val_ofNat {n : Nat} (h : n.isValidChar) : (Char.ofNat n).val.toNat = n := by
  rw [Char.ofNat, dif_pos h]
  rfl

section

variable {m k l j : Nat}

theorem utf8EncodeChar_one (h : m < 0x80) :
    String.utf8EncodeChar (Char.ofNat m) = [UInt8.ofNat m] := by
  have hval : (Char.ofNat m).val.toNat = m := toNat_val_ofNat (.inl (by omega))
  simp only [String.utf8EncodeChar, hval]
  rw [if_pos (by omega)]

theorem utf8EncodeChar_two (hm : 0xC2 ≤ m) (hm' : m < 0xE0) (hk : 0x80 ≤ k) (hk' : k ≤ 0xBF) :
    String.utf8EncodeChar (Char.ofNat ((m - 0xC0) * 64 + (k - 0x80)))
      = [UInt8.ofNat m, UInt8.ofNat k] := by
  obtain ⟨n, hn⟩ : ∃ n, n = (m - 0xC0) * 64 + (k - 0x80) := ⟨_, rfl⟩
  have hval : (Char.ofNat n).val.toNat = n := toNat_val_ofNat (.inl (by omega))
  rw [← hn]
  simp only [String.utf8EncodeChar, hval]
  rw [if_neg (by omega), if_pos (by omega), show n / 64 % 32 + 192 = m by omega,
    show n % 64 + 128 = k by omega]

theorem utf8EncodeChar_three (hm : 0xE0 ≤ m) (hm' : m < 0xF0)
    (hk : (if m = 0xE0 then 0xA0 else 0x80) ≤ k) (hk' : k ≤ if m = 0xED then 0x9F else 0xBF)
    (hl : 0x80 ≤ l) (hl' : l ≤ 0xBF) :
    String.utf8EncodeChar (Char.ofNat (((m - 0xE0) * 64 + (k - 0x80)) * 64 + (l - 0x80)))
      = [UInt8.ofNat m, UInt8.ofNat k, UInt8.ofNat l] := by
  obtain ⟨n, hn⟩ : ∃ n, n = ((m - 0xE0) * 64 + (k - 0x80)) * 64 + (l - 0x80) := ⟨_, rfl⟩
  have hk128 : 0x80 ≤ k ∧ k ≤ 0xBF := by split at hk <;> split at hk' <;> omega
  have hlong : 0x800 ≤ n := by split at hk <;> omega
  have hval : (Char.ofNat n).val.toNat = n := by
    -- the codes between are kept out by the greatest second byte
    refine toNat_val_ofNat ?_
    by_cases h : m = 0xED
    · rw [if_pos h] at hk'
      exact .inl (by omega)
    · by_cases h' : m < 0xED
      · exact .inl (by omega)
      · exact .inr ⟨by omega, by omega⟩
  rw [← hn]
  simp only [String.utf8EncodeChar, hval]
  rw [if_neg (by omega), if_neg (by omega), if_pos (by omega), show n / 4096 % 16 + 224 = m by omega,
    show n / 64 % 64 + 128 = k by omega, show n % 64 + 128 = l by omega]

theorem utf8EncodeChar_four (hm : 0xF0 ≤ m) (hm' : m < 0xF5)
    (hk : (if m = 0xF0 then 0x90 else 0x80) ≤ k) (hk' : k ≤ if m = 0xF4 then 0x8F else 0xBF)
    (hl : 0x80 ≤ l) (hl' : l ≤ 0xBF) (hj : 0x80 ≤ j) (hj' : j ≤ 0xBF) :
    String.utf8EncodeChar
        (Char.ofNat ((((m - 0xF0) * 64 + (k - 0x80)) * 64 + (l - 0x80)) * 64 + (j - 0x80)))
      = [UInt8.ofNat m, UInt8.ofNat k, UInt8.ofNat l, UInt8.ofNat j] := by
  obtain ⟨n, hn⟩ :
      ∃ n, n = (((m - 0xF0) * 64 + (k - 0x80)) * 64 + (l - 0x80)) * 64 + (j - 0x80) := ⟨_, rfl⟩
  have hk128 : 0x80 ≤ k ∧ k ≤ 0xBF := by split at hk <;> split at hk' <;> omega
  have hlong : 0x10000 ≤ n := by split at hk <;> omega
  have hlast : n < 0x110000 := by split at hk' <;> omega
  have hval : (Char.ofNat n).val.toNat = n := toNat_val_ofNat (.inr ⟨by omega, hlast⟩)
  rw [← hn]
  simp only [String.utf8EncodeChar, hval]
  rw [if_neg (by omega), if_neg (by omega), if_neg (by omega),
    show n / 262144 % 8 + 240 = m by omega, show n / 4096 % 64 + 128 = k by omega,
    show n / 64 % 64 + 128 = l by omega, show n % 64 + 128 = j by omega]

end

/-- What a character that is pending takes next. -/
theorem exists_of_decodeFrom_pending {index : Nat} {p : Pending} {bs : Bytes} {cs : List Char}
    (h : decodeFrom index (some p) bs = .ok cs) :
    ∃ b rest, bs = b :: rest ∧ (p.low.toNat ≤ b.toNat ∧ b.toNat ≤ p.high.toNat) ∧
      (p.missing = 1 → ∃ cs', cs = Char.ofNat (p.extend b) :: cs' ∧
        decodeFrom (index + 1) none rest = .ok cs') ∧
      (p.missing ≠ 1 → decodeFrom (index + 1) (some (p.push b)) rest = .ok cs) := by
  cases bs with
  | nil => cases h
  | cons b rest =>
    rw [decodeFrom] at h
    split at h
    · cases h
    · rename_i haccepts
      have hbounds : p.low.toNat ≤ b.toNat ∧ b.toNat ≤ p.high.toNat := by
        simpa [Pending.accepts, UInt8.le_iff_toNat_le] using haccepts
      refine ⟨b, rest, rfl, hbounds, fun hlast => ?_, fun hmore => ?_⟩
      · rw [if_pos hlast] at h
        obtain ⟨cs', hrest, rfl⟩ := map_eq_ok_iff.mp h
        exact ⟨cs', rfl, hrest⟩
      · rwa [if_neg hmore] at h

/-- The character that a leading byte begins, by its number of bytes. -/
theorem exists_of_ofLead? {b : UInt8} {p : Pending} (h : Pending.ofLead? b = some p) :
    (0xC2 ≤ b.toNat ∧ b.toNat < 0xE0 ∧ p = ⟨b.toNat - 0xC0, 1, 1, 0x80, 0xBF⟩) ∨
    (0xE0 ≤ b.toNat ∧ b.toNat < 0xF0 ∧ p = ⟨b.toNat - 0xE0, 1, 2,
      if b.toNat = 0xE0 then 0xA0 else 0x80, if b.toNat = 0xED then 0x9F else 0xBF⟩) ∨
    (0xF0 ≤ b.toNat ∧ b.toNat < 0xF5 ∧ p = ⟨b.toNat - 0xF0, 1, 3,
      if b.toNat = 0xF0 then 0x90 else 0x80, if b.toNat = 0xF4 then 0x8F else 0xBF⟩) := by
  have hb : Pending.ofLead? (UInt8.ofNat b.toNat) = some p := by rwa [UInt8.ofNat_toNat]
  by_cases h₁ : b.toNat < 0xC2
  · rw [Pending.ofLead?, if_pos h₁] at h
    cases h
  by_cases h₂ : b.toNat < 0xE0
  · rw [ofLead?_two (by omega) h₂] at hb
    exact .inl ⟨by omega, h₂, (Option.some.inj hb).symm⟩
  by_cases h₃ : b.toNat < 0xF0
  · rw [ofLead?_three (by omega) h₃] at hb
    exact .inr (.inl ⟨by omega, h₃, (Option.some.inj hb).symm⟩)
  by_cases h₄ : b.toNat < 0xF5
  · rw [ofLead?_four (by omega) h₄] at hb
    exact .inr (.inr ⟨by omega, h₄, (Option.some.inj hb).symm⟩)
  · rw [Pending.ofLead?, if_neg h₁, if_neg h₂, if_neg h₃, if_neg h₄] at h
    cases h

section

variable {index : Nat} {n k : Nat} {low high : UInt8} {seen : Nat} {bs : Bytes} {cs : List Char}

/-- A character takes one of several more bytes. -/
theorem exists_of_decodeFrom_push
    (h : decodeFrom index (some ⟨n, seen, k + 2, low, high⟩) bs = .ok cs) :
    ∃ b rest, bs = b :: rest ∧ low.toNat ≤ b.toNat ∧ b.toNat ≤ high.toNat ∧
      decodeFrom (index + 1)
        (some ⟨n * 64 + (b.toNat - 0x80), seen + 1, k + 1, 0x80, 0xBF⟩) rest = .ok cs := by
  obtain ⟨b, rest, hbs, hbounds, -, hmore⟩ := exists_of_decodeFrom_pending h
  exact ⟨b, rest, hbs, hbounds.1, hbounds.2, hmore (by simp)⟩

/-- A character takes its last byte. -/
theorem exists_of_decodeFrom_last
    (h : decodeFrom index (some ⟨n, seen, 1, low, high⟩) bs = .ok cs) :
    ∃ b rest cs', bs = b :: rest ∧ low.toNat ≤ b.toNat ∧ b.toNat ≤ high.toNat ∧
      cs = Char.ofNat (n * 64 + (b.toNat - 0x80)) :: cs' ∧
      decodeFrom (index + 1) none rest = .ok cs' := by
  obtain ⟨b, rest, hbs, hbounds, hlast, -⟩ := exists_of_decodeFrom_pending h
  obtain ⟨cs', hcs, hrest⟩ := hlast rfl
  exact ⟨b, rest, cs', hbs, hbounds.1, hbounds.2, hcs, hrest⟩

end

/-- Two, three or four bytes that are read as a character are its bytes. -/
theorem exists_of_decodeFrom_lead {index : Nat} {b : UInt8} {p : Pending} {bs : Bytes}
    {cs : List Char} (hp : Pending.ofLead? b = some p)
    (h : decodeFrom index (some p) bs = .ok cs) :
    ∃ c cs' rest next, cs = c :: cs' ∧ b :: bs = String.utf8EncodeChar c ++ rest ∧
      decodeFrom next none rest = .ok cs' := by
  obtain ⟨hb, hb', hp⟩ | ⟨hb, hb', hp⟩ | ⟨hb, hb', hp⟩ := exists_of_ofLead? hp
  · rw [hp] at h
    obtain ⟨b₁, rest, cs', rfl, h₁, h₁', rfl, hrest⟩ := exists_of_decodeFrom_last h
    refine ⟨_, cs', rest, _, rfl, ?_, hrest⟩
    rw [utf8EncodeChar_two hb hb' h₁ h₁']
    simp
  · rw [hp] at h
    obtain ⟨b₁, bs, rfl, h₁, h₁', h⟩ := exists_of_decodeFrom_push h
    obtain ⟨b₂, rest, cs', rfl, h₂, h₂', rfl, hrest⟩ := exists_of_decodeFrom_last h
    refine ⟨_, cs', rest, _, rfl, ?_, hrest⟩
    rw [utf8EncodeChar_three hb hb' (by simpa [apply_ite] using h₁) (by simpa [apply_ite] using h₁')
      h₂ h₂']
    simp
  · rw [hp] at h
    obtain ⟨b₁, bs, rfl, h₁, h₁', h⟩ := exists_of_decodeFrom_push h
    obtain ⟨b₂, bs, rfl, h₂, h₂', h⟩ := exists_of_decodeFrom_push h
    obtain ⟨b₃, rest, cs', rfl, h₃, h₃', rfl, hrest⟩ := exists_of_decodeFrom_last h
    refine ⟨_, cs', rest, _, rfl, ?_, hrest⟩
    rw [utf8EncodeChar_four hb hb' (by simpa [apply_ite] using h₁) (by simpa [apply_ite] using h₁')
      h₂ h₂' h₃ h₃']
    simp

/-- **Only the bytes of a text stand for it.** -/
theorem eq_encode_of_decodeFrom {index : Nat} {bs : Bytes} {cs : List Char}
    (h : decodeFrom index none bs = .ok cs) : bs = encode cs := by
  induction hn : bs.length using Nat.strongRecOn generalizing index bs cs with
  | _ n ih =>
    cases bs with
    | nil =>
      cases h
      rfl
    | cons b bs =>
      rw [decodeFrom] at h
      split at h
      · rename_i hb
        obtain ⟨cs', hrest, rfl⟩ := map_eq_ok_iff.mp h
        rw [encode_cons, utf8EncodeChar_one (by simpa [UInt8.lt_iff_toNat_lt] using hb),
          UInt8.ofNat_toNat, ← ih bs.length (by simp [← hn]) hrest rfl]
        rfl
      · cases hp : Pending.ofLead? b with
        | none => simp [hp] at h
        | some p =>
          rw [hp] at h
          obtain ⟨c, cs', rest, next, rfl, hbs, hrest⟩ := exists_of_decodeFrom_lead hp h
          have hshorter : rest.length < n := by
            have hlength := congrArg List.length hbs
            have hpos : 0 < (String.utf8EncodeChar c).length := by simp [Char.utf8Size_pos]
            rw [List.length_append] at hlength
            omega
          rw [encode_cons, hbs, ← ih rest.length hshorter hrest rfl]

/-- **Bytes stand for a text exactly if they are its bytes.** -/
theorem decode_eq_ok_iff {bs : Bytes} {cs : List Char} : decode bs = .ok cs ↔ bs = encode cs := by
  constructor
  · exact eq_encode_of_decodeFrom
  · rintro rfl
    exact decodeFrom_encode 0 cs

end Text

end Concordance
