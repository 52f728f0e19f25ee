import Concordance.Proofs.Text.Ascii

/-!
# Keys of terms

A term is looked up under its key, and the same term may be written in many ways: in upper or lower
case, and with its brackets or without. What all of these have in common is what stays in lower case
without brackets. So a key is known up to case before anything is known about the case of the term.

## Main definitions

* `Text.IsSolid` — a text of ASCII without blanks
* `Term.bare` — what the ways to write a term have in common

## Main results

* `Term.normalizeKey_of_isSolid` — the key of a text without blanks has only lost its brackets
* `Term.map_toLower_key` — a key in lower case
-/

namespace Concordance

namespace Text

/-! ### Upper case -/

theorem toNat_toUpper {c : Char} (hc : c.toNat < 0x80) : c.toUpper.toNat < 0x80 :=
  forall_ascii (P := fun c => c.toUpper.toNat < 0x80) (by decide) hc

theorem toLower_toUpper {c : Char} (hc : c.toNat < 0x80) : c.toUpper.toLower = c.toLower :=
  forall_ascii (P := fun c => c.toUpper.toLower = c.toLower) (by decide) hc

theorem isBlank_toLower {c : Char} (hc : c.toNat < 0x80) : isBlank c.toLower = isBlank c :=
  forall_ascii (P := fun c => isBlank c.toLower = isBlank c) (by decide) hc

theorem isBlank_toUpper {c : Char} (hc : c.toNat < 0x80) : isBlank c.toUpper = isBlank c :=
  forall_ascii (P := fun c => isBlank c.toUpper = isBlank c) (by decide) hc

/-- An ASCII text is put in upper case letter by letter. -/
theorem upper_of_ascii {cs : List Char} (h : IsAscii cs) : upper cs = cs.map Char.toUpper := by
  induction cs with
  | nil => rfl
  | cons c cs ih =>
    have hc : c.toNat < 0x80 := h c (by simp)
    rw [upper_cons, ih fun d hd => h d (by simp [hd]), upperChar, if_pos hc]
    rfl

/-! ### Solid texts -/

/-- A text of ASCII without blanks. -/
def IsSolid (cs : List Char) : Prop := ∀ c ∈ cs, c.toNat < 0x80 ∧ isBlank c = false

namespace IsSolid

variable {cs : List Char}

theorem isAscii (h : IsSolid cs) : IsAscii cs := fun c hc => (h c hc).1

theorem enclosed (h : IsSolid cs) {opening closing : Char}
    (hopening : opening.toNat < 0x80 ∧ isBlank opening = false)
    (hclosing : closing.toNat < 0x80 ∧ isBlank closing = false) :
    IsSolid (opening :: cs ++ [closing]) := by
  intro c hc
  simp only [List.cons_append, List.mem_cons, List.mem_append, List.not_mem_nil, or_false] at hc
  rcases hc with rfl | hc | rfl
  · exact hopening
  · exact h c hc
  · exact hclosing

theorem of_subset {cs' : List Char} (h : IsSolid cs) (hsub : ∀ c ∈ cs', c ∈ cs) : IsSolid cs' :=
  fun c hc => h c (hsub c hc)

protected theorem lower (h : IsSolid cs) : IsSolid (lower cs) := by
  rw [lower_of_ascii h.isAscii]
  intro c hc
  obtain ⟨d, hd, rfl⟩ := List.mem_map.mp hc
  obtain ⟨hascii, hblank⟩ := h d hd
  exact ⟨toNat_toLower hascii, (isBlank_toLower hascii).trans hblank⟩

protected theorem upper (h : IsSolid cs) : IsSolid (upper cs) := by
  rw [upper_of_ascii h.isAscii]
  intro c hc
  obtain ⟨d, hd, rfl⟩ := List.mem_map.mp hc
  obtain ⟨hascii, hblank⟩ := h d hd
  exact ⟨toNat_toUpper hascii, (isBlank_toUpper hascii).trans hblank⟩

end IsSolid

theorem IsLetters.isSolid {w : List Char} (h : IsLetters w) : IsSolid w :=
  fun c hc => ⟨h.isAscii c hc, h.isPart.2 c hc⟩

end Text

namespace Term

open Text

theorem isBracket_toLower {c : Char} (hc : c.toNat < 0x80) : isBracket c.toLower = isBracket c :=
  forall_ascii (P := fun c => isBracket c.toLower = isBracket c) (by decide) hc

/-! ### Keys -/

variable {cs : List Char}

/-- **The key of a text without blanks has only lost its brackets.** -/
theorem normalizeKey_of_isSolid (h : IsSolid cs) : normalizeKey cs = cs.filter (!isBracket ·) := by
  have hsolid : IsSolid (cs.filter (!isBracket ·)) :=
    h.of_subset fun c hc => (List.mem_filter.mp hc).1
  exact trim_eq_self (fun c hc => (hsolid c (List.mem_of_mem_head? hc)).2)
    fun c hc => (hsolid c (List.mem_of_mem_getLast? hc)).2

theorem isSolid_normalizeKey (h : IsSolid cs) : IsSolid (normalizeKey cs) := by
  rw [normalizeKey_of_isSolid h]
  exact h.of_subset fun c hc => (List.mem_filter.mp hc).1

theorem isBracket_of_mem_normalizeKey (h : IsSolid cs) :
    ∀ c ∈ normalizeKey cs, isBracket c = false := by
  rw [normalizeKey_of_isSolid h]
  intro c hc
  simpa using (List.mem_filter.mp hc).2

/-- A text without blanks and brackets is a key as it stands. -/
theorem normalizeKey_eq_self (h : IsSolid cs) (hbracket : ∀ c ∈ cs, isBracket c = false) :
    normalizeKey cs = cs := by
  rw [normalizeKey_of_isSolid h, List.filter_eq_self]
  exact fun c hc => by simp [hbracket c hc]

section

variable {w : List Char} (hascii : IsAscii w) (hword : ∀ c ∈ w, isWordChar c = true)

include hascii hword

theorem isSolid_of_isWordChar : IsSolid w :=
  fun c hc => ⟨hascii c hc, isBlank_of_isWordChar (hascii c hc) (hword c hc)⟩

theorem isBracket_of_isWordChar : ∀ c ∈ w, isBracket c = false := fun c hc =>
  forall_ascii (P := fun c => isWordChar c = true → isBracket c = false) (by decide) (hascii c hc)
    (hword c hc)

/-- A word is a key as it stands. -/
theorem normalizeKey_of_isWordChar : normalizeKey w = w :=
  normalizeKey_eq_self (isSolid_of_isWordChar hascii hword) (isBracket_of_isWordChar hascii hword)

end

/-! ### What the ways to write a term have in common -/

/-- A text in lower case and without brackets. -/
def bare (cs : List Char) : List Char := (cs.map Char.toLower).filter (!isBracket ·)

@[simp] theorem bare_nil : bare [] = [] := rfl

@[simp] theorem bare_append (cs cs' : List Char) : bare (cs ++ cs') = bare cs ++ bare cs' := by
  simp [bare]

theorem bare_lower (h : IsAscii cs) : bare (lower cs) = bare cs := by
  rw [bare, lower_of_ascii h, List.map_map, bare]
  congr 1
  exact List.map_congr_left fun c hc => toLower_toLower (h c hc)

theorem bare_upper (h : IsAscii cs) : bare (upper cs) = bare cs := by
  rw [bare, upper_of_ascii h, List.map_map, bare]
  congr 1
  exact List.map_congr_left fun c hc => toLower_toUpper (h c hc)

/-- Brackets around a text leave nothing behind. -/
theorem bare_enclosed {opening closing : Char} (hopening : bare [opening] = [])
    (hclosing : bare [closing] = []) (cs : List Char) :
    bare (opening :: cs ++ [closing]) = bare cs := by
  rw [List.cons_append, ← List.singleton_append, bare_append, bare_append, hopening, hclosing,
    List.nil_append, List.append_nil]

theorem bare_inAngles (cs : List Char) : bare (inAngles cs) = bare cs :=
  bare_enclosed (by decide) (by decide) cs

theorem bare_inBraces (cs : List Char) : bare (inBraces cs) = bare cs :=
  bare_enclosed (by decide) (by decide) cs

/-- A key in lower case. -/
theorem map_toLower_normalizeKey (h : IsSolid cs) :
    (normalizeKey cs).map Char.toLower = bare cs := by
  rw [normalizeKey_of_isSolid h, bare, List.filter_map]
  congr 1
  exact List.filter_congr fun c hc => by simp [isBracket_toLower (h c hc).1]

theorem bare_normalizeKey (h : IsSolid cs) : bare (normalizeKey cs) = bare cs := by
  rw [bare, map_toLower_normalizeKey h, bare, List.filter_filter]
  simp

theorem isSolid_inAngles (h : IsSolid cs) : IsSolid (inAngles cs) :=
  h.enclosed (by decide) (by decide)

theorem isSolid_inBraces (h : IsSolid cs) : IsSolid (inBraces cs) :=
  h.enclosed (by decide) (by decide)

/-- The term that a token writes is written like the token, up to case and brackets. -/
theorem text_ofToken (h : IsSolid cs) :
    IsSolid (ofToken cs).text ∧ bare (ofToken cs).text = bare cs := by
  have hkey := (isSolid_normalizeKey h).upper
  have hbare : bare (upper (normalizeKey cs)) = bare cs := by
    rw [bare_upper (isSolid_normalizeKey h).isAscii, bare_normalizeKey h]
  rw [ofToken]
  split
  · exact ⟨isSolid_inAngles hkey, (bare_inAngles _).trans hbare⟩
  · split
    · exact ⟨isSolid_inBraces hkey, (bare_inBraces _).trans hbare⟩
    · exact ⟨h, rfl⟩

theorem foldCase_true (t : Term) : foldCase true t = t := by
  cases t <;> rfl

/-- A term for a search that ignores case is the same up to case. -/
theorem text_foldCase {t : Term} (h : IsSolid t.text) (caseSensitive : Bool) :
    IsSolid (foldCase caseSensitive t).text ∧ bare (foldCase caseSensitive t).text =
      bare t.text := by
  cases caseSensitive with
  | true =>
    rw [foldCase_true]
    exact ⟨h, rfl⟩
  | false =>
    cases t with
    | word spelling => exact ⟨h.lower, bare_lower h.isAscii⟩
    | strongs number => exact ⟨h, rfl⟩
    | morph tag => exact ⟨h, rfl⟩

/-- **The key of a term in lower case.** -/
theorem map_toLower_key {t : Term} (h : IsSolid t.text) : t.key.map Char.toLower = bare t.text :=
  map_toLower_normalizeKey h

end Term

end Concordance
