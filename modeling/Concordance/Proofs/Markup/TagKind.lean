import Mathlib.Data.List.Basic
import Concordance.Proofs.Markup.Passes

/-!
# Tags of one kind

A Strong's number stands in angle brackets, and what a morphology tag holds in braces. In an annotated
text these signs belong to tags only. So wherever the sign stands that opens tags of a kind, there is a
tag of that kind, in a row of segments that may have tags of the other kind or not.

## Main definitions

* `Markup.TagKind` — the two kinds, with their signs and with what may stand between these
* `Markup.TagKind.Holds` — a segment is a tag of a kind

## Main results

* `Markup.TagKind.exists_of_write_eq` — an opening sign is that of a tag
* `Markup.TagKind.filterMap_filter_keeps` — the tags of a kind are kept in a rendering that shows them
-/

namespace Concordance

namespace Markup

open Text

/-- The kinds of tags. -/
inductive TagKind where
  /-- Strong's numbers. -/
  | strongs
  /-- Morphology tags. -/
  | morph
deriving Repr, DecidableEq

namespace TagKind

/-- The sign before what a tag holds. -/
def opening : TagKind → Char
  | strongs => '<'
  | morph => '\x7b'

/-- The sign after it. -/
def closing : TagKind → Char
  | strongs => '>'
  | morph => '\x7d'

/-- A text between the signs. -/
def enclosed (k : TagKind) (body : List Char) : List Char := k.opening :: body ++ [k.closing]

/-- What a tag holds, if it is of the kind. -/
def body? : TagKind → Tag → Option (List Char)
  | strongs => Tag.number?
  | morph => Tag.morph?

/-- The characters that a tag may hold. -/
def isBodyChar : TagKind → Char → Bool
  | strongs, c => isLanguage c || c.isDigit
  | morph, c => isCapitalTagChar c

/-- A segment is a tag of a kind that holds some text. -/
def Holds (k : TagKind) (s : Segment) (body : List Char) : Prop :=
  s.value? k.body? = some body

variable {k : TagKind} {t : Tag} {s : Segment} {segs : List Segment} {body : List Char}

/-! ### Tags -/

/-- What holds of all capitals, digits and hyphens holds of what tags hold. -/
theorem of_isBodyChar {P : Char → Prop}
    (h : ∀ n < 0x80, isCapitalTagChar (Char.ofNat n) = true → P (Char.ofNat n)) {c : Char}
    (hc : k.isBodyChar c = true) : P c := by
  have hcapital : isCapitalTagChar c = true := by
    cases k with
    | strongs =>
      rcases Bool.or_eq_true_iff.mp hc with hc | hc
      · exact isCapitalTagChar_of_isLanguage hc
      · exact isCapitalTagChar_of_isDigit hc
    | morph => exact hc
  exact forall_ascii (P := fun c => isCapitalTagChar c = true → P c) h
    (toNat_of_isCapitalTagChar hcapital) hcapital

theorem chars_eq (h : k.body? t = some body) : t.chars = k.enclosed body := by
  cases k <;> cases t <;> cases h <;> rfl

theorem isBodyChar_of_mem (h : k.body? t = some body) : ∀ c ∈ body, k.isBodyChar c = true := by
  cases t with
  | strongs letter digits hletter hne hdigits =>
    cases k with
    | strongs =>
      obtain rfl := Option.some.inj h
      intro c hc
      rcases List.mem_cons.mp hc with rfl | hc
      · exact Bool.or_eq_true_iff.mpr (.inl hletter)
      · exact Bool.or_eq_true_iff.mpr (.inr (hdigits c hc))
    | morph => cases h
  | morph body' hne hbody =>
    cases k with
    | strongs => cases h
    | morph =>
      obtain rfl := Option.some.inj h
      exact hbody

/-- What the tags of a text hold. -/
theorem isBodyChar_of_mem_filterMap {tags : List Tag} (h : body ∈ tags.filterMap k.body?) :
    ∀ c ∈ body, k.isBodyChar c = true := by
  obtain ⟨_, -, hbody⟩ := List.mem_filterMap.mp h
  exact isBodyChar_of_mem hbody

/-- A tag holds characters of ASCII only. -/
theorem isAscii_of_isBodyChar (h : ∀ c ∈ body, k.isBodyChar c = true) : IsAscii body :=
  fun c hc => of_isBodyChar (P := fun c => c.toNat < 0x80) (by decide) (h c hc)

/-- With its signs it is of ASCII too. -/
theorem isAscii_enclosed (h : IsAscii body) : IsAscii (k.enclosed body) := by
  have hsigns : k.opening.toNat < 0x80 ∧ k.closing.toNat < 0x80 := by cases k <;> decide
  intro c hc
  simp only [enclosed, List.mem_cons, List.mem_append, List.not_mem_nil, or_false] at hc
  rcases hc with (rfl | hc) | rfl
  · exact hsigns.1
  · exact h c hc
  · exact hsigns.2

/-- No tag holds a sign. -/
theorem ne_of_isBodyChar {c : Char} (hc : k.isBodyChar c = true) (k' : TagKind) :
    c ≠ k'.opening ∧ c ≠ k'.closing := by
  have hsigns : c ≠ '<' ∧ c ≠ '>' ∧ c ≠ '\x7b' ∧ c ≠ '\x7d' :=
    of_isBodyChar (P := fun c => c ≠ '<' ∧ c ≠ '>' ∧ c ≠ '\x7b' ∧ c ≠ '\x7d') (by decide) hc
  cases k' with
  | strongs => exact ⟨hsigns.1, hsigns.2.1⟩
  | morph => exact hsigns.2.2

/-- Every tag is of one of the kinds. -/
theorem exists_body? (t : Tag) : ∃ (k : TagKind) (body : List Char), k.body? t = some body := by
  cases t with
  | strongs letter digits _ _ _ => exact ⟨strongs, letter :: digits, rfl⟩
  | morph body _ _ => exact ⟨morph, body, rfl⟩

/-- A tag of one kind does not have the opening sign of another. -/
theorem opening_notMem_chars_tag (h : k.body? t = none) : k.opening ∉ t.chars := by
  obtain ⟨k', body, hbody⟩ := exists_body? t
  have hk : k ≠ k' := by
    rintro rfl
    rw [h] at hbody
    cases hbody
  have hsigns : k.opening ≠ k'.opening ∧ k.opening ≠ k'.closing := by
    cases k <;> cases k' <;> first | exact absurd rfl hk | decide
  have hheld : k.opening ∉ body := fun hmem =>
    (ne_of_isBodyChar (isBodyChar_of_mem hbody _ hmem) k).1 rfl
  simp [chars_eq hbody, enclosed, hsigns, hheld]

/-! ### Segments -/

theorem Holds.chars_eq (h : k.Holds s body) : s.chars = ' ' :: k.enclosed body := by
  cases s with
  | plain _ _ => cases h
  | tag t => exact congrArg (' ' :: ·) (TagKind.chars_eq h)

theorem Holds.isBodyChar (h : k.Holds s body) : ∀ c ∈ body, k.isBodyChar c = true := by
  cases s with
  | plain _ _ => cases h
  | tag t => exact isBodyChar_of_mem h

/-- The opening sign stands in tags of its kind only. -/
theorem opening_notMem_chars (h : s.value? k.body? = none) : k.opening ∉ s.chars := by
  have hspace : k.opening ≠ ' ' := by cases k <;> decide
  cases s with
  | plain spaced p =>
    have hplain : k.opening ∉ p.chars := by
      intro hmem
      obtain ⟨-, hangle, hbrace⟩ := isDull_of_isPlainChar (p.isPlain _ hmem)
      cases k with
      | strongs => exact hangle rfl
      | morph => exact hbrace rfl
    cases spaced <;> simp [Segment.chars, hspace, hplain]
  | tag t => simpa [Segment.chars, hspace] using opening_notMem_chars_tag h

theorem isAscii_write (segs : List Segment) : IsAscii (Segment.write segs) := by
  intro c hc
  obtain ⟨s, -, hc⟩ := List.mem_flatMap.mp hc
  cases s with
  | plain spaced p =>
    have hplain : ∀ c ∈ p.chars, c.toNat < 0x80 := by
      intro c hc
      have h := p.isPlain c hc
      simp only [isPlainChar, Bool.and_eq_true, decide_eq_true_eq] at h
      exact h.1.1
    rcases List.mem_append.mp hc with hc | hc
    · cases spaced with
      | true => exact List.mem_singleton.mp hc ▸ by decide
      | false => cases hc
    · exact hplain c hc
  | tag t =>
    obtain ⟨k, body, hbody⟩ := exists_body? t
    rw [Segment.chars, chars_eq hbody] at hc
    rcases List.mem_cons.mp hc with rfl | hc
    · decide
    · exact isAscii_enclosed (isAscii_of_isBodyChar (isBodyChar_of_mem hbody)) c hc

/-- Where there is no tag of a kind, there is no opening sign. -/
theorem opening_notMem_write_iff : k.opening ∉ Segment.write segs ↔
    ∀ s ∈ segs, s.value? k.body? = none := by
  rw [Segment.write, List.mem_flatMap]
  constructor
  · intro h s hs
    rw [Option.eq_none_iff_forall_ne_some]
    intro body hbody
    have hchars : s.chars = ' ' :: k.enclosed body := Holds.chars_eq hbody
    exact h ⟨s, hs, by simp [hchars, enclosed]⟩
  · rintro h ⟨s, hs, hmem⟩
    exact opening_notMem_chars (h s hs) hmem

/-- **An opening sign is that of a tag**, with a space before it. -/
theorem exists_of_write_eq {xs ys : List Char} (h : Segment.write segs = xs ++ k.opening :: ys) :
    ∃ before s body after, segs = before ++ s :: after ∧ k.Holds s body ∧
      xs = Segment.write before ++ [' '] ∧ ys = body ++ k.closing :: Segment.write after := by
  induction segs generalizing xs with
  | nil => simp at h
  | cons s segs ih =>
    -- the sign stands in the rest of the row
    have hlater : ∀ {zs}, Segment.write segs = zs ++ k.opening :: ys →
        ∃ before s' body after, s :: segs = before ++ s' :: after ∧ k.Holds s' body ∧
          s.chars ++ zs = Segment.write before ++ [' '] ∧
            ys = body ++ k.closing :: Segment.write after := by
      intro zs hzs
      obtain ⟨before, s', body, after, rfl, hs', rfl, hys⟩ := ih hzs
      exact ⟨s :: before, s', body, after, rfl, hs', by simp, hys⟩
    rw [Segment.write_cons] at h
    rcases List.append_eq_append_iff.mp h with ⟨zs, rfl, hzs⟩ | ⟨zs, hchars, hzs⟩
    · exact hlater hzs
    · cases zs with
      | nil =>
        have hfound := @hlater [] hzs.symm
        rwa [List.append_nil, hchars, List.append_nil] at hfound
      | cons z zs =>
        obtain ⟨rfl, rfl⟩ := List.cons.inj hzs
        cases hbody : s.value? k.body? with
        | none =>
          refine absurd ?_ (opening_notMem_chars hbody)
          simp [hchars]
        | some body =>
          have hs : k.Holds s body := hbody
          have hspace : k.opening ∉ [' '] := by cases k <;> decide
          have hrest : k.opening ∉ body ++ [k.closing] := by
            have hsigns : k.opening ≠ k.closing := by cases k <;> decide
            simpa [hsigns] using fun hmem => (ne_of_isBodyChar (hs.isBodyChar _ hmem) k).1 rfl
          have hsplit : [' '] ++ k.opening :: (body ++ [k.closing]) = xs ++ k.opening :: zs :=
            hs.chars_eq.symm.trans hchars
          obtain ⟨rfl, -, rfl⟩ := (List.append_cons_inj_of_notMem hspace hrest).mp hsplit
          exact ⟨[], s, body, segs, rfl, hs, rfl, by simp⟩

/-! ### Renderings -/

/-- Whether a rendering shows the tags of a kind. -/
def shows : TagKind → Rendering → Bool
  | strongs, r => r.strongs
  | morph, r => r.morph

/-- **The tags of a kind are kept in a rendering that shows them.** -/
theorem filterMap_filter_keeps {r : Rendering} (h : k.shows r = true) (segs : List Segment) :
    (segs.filter r.keeps).filterMap (Segment.value? k.body?)
      = segs.filterMap (Segment.value? k.body?) := by
  rw [List.filterMap_filter]
  refine List.filterMap_congr fun s _ => ?_
  split
  · rfl
  · rename_i hdropped
    cases s with
    | plain _ _ => rfl
    | tag t => cases k <;> cases t <;> first | rfl | exact absurd h hdropped

end TagKind

end Markup

end Concordance
