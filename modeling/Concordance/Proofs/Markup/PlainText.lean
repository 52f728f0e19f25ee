import Concordance.Proofs.Markup.Passes

/-!
# Plain texts

A text without the signs that open tags and marks has nothing to be read in it. Whatever its blanks and
its punctuation are, all passes leave it as it is but for the blanks at its ends, and its words lead to
it. A plain text, one of ASCII besides, is found by its words only.

## Main definitions

* `Markup.IsUnmarked` — a text without tags and marks
* `Markup.IsPlainText` — a text of ASCII without tags and marks

## Main results

* `Rendering.render_unmarked` — only the blanks at the ends of a text are not shown
* `Extract.mem_words_unmarked` — the words of a text lead to it
* `Extract.mem_keys_plain_iff` — a plain text is found by its words only
-/

namespace Concordance

namespace Markup

open Text

/-- A text without the signs that open tags and marks. -/
def IsUnmarked (cs : List Char) : Prop := '<' ∉ cs ∧ '\x7b' ∉ cs

instance (cs : List Char) : Decidable (IsUnmarked cs) :=
  inferInstanceAs (Decidable ('<' ∉ cs ∧ '\x7b' ∉ cs))

/-- A text of ASCII characters without the signs that enclose tags and marks. -/
def IsPlainText (cs : List Char) : Prop :=
  ∀ c ∈ cs, c.toNat < 0x80 ∧ c ∉ ['<', '>', '\x7b', '\x7d']

instance (cs : List Char) : Decidable (IsPlainText cs) :=
  decidable_of_iff (cs.all (fun c => c.toNat < 0x80 ∧ c ∉ ['<', '>', '\x7b', '\x7d']) = true) (by
    simp only [List.all_eq_true, decide_eq_true_eq]
    exact Iff.rfl)

theorem sign?_eq_none {c : Char} {cs : List Char} (h : c ∉ cs) : sign? c cs = none := by
  cases cs with
  | nil => rfl
  | cons d cs => exact sign?_cons_of_ne (fun heq => h (by simp [heq])) cs

/-! ### Nothing is read -/

namespace IsUnmarked

variable {cs : List Char} (h : IsUnmarked cs)

include h

theorem of_subset {cs' : List Char} (hsub : ∀ c ∈ cs', c ∈ cs) : IsUnmarked cs' :=
  ⟨fun hmem => h.1 (hsub _ hmem), fun hmem => h.2 (hsub _ hmem)⟩

theorem hasNoMark : HasNoMark cs := by
  cases cs with
  | nil => exact fun k => by cases k <;> exact ⟨rfl, rfl⟩
  | cons c cs =>
    refine hasNoMark_cons ?_ cs
    rintro rfl
    exact h.1 (by simp)

/-- Where nothing is read in unmarked texts, nothing is replaced in them. -/
theorem scan_eq {α : Type} {f : Recognizer α} (hf : ∀ b cs, IsUnmarked cs → f b cs = none) :
    scan f cs = cs.map .other := by
  refine scan_eq_map fun before c after hcs => hf _ _ (h.of_subset fun d hd => ?_)
  rw [hcs]
  exact List.mem_append_right _ hd

theorem dropItems_eq {α : Type} {f : Recognizer α} (hf : ∀ b cs, IsUnmarked cs → f b cs = none) :
    dropItems f cs = cs :=
  replaceItems_of_scan (h.scan_eq hf)

theorem skipBlank : IsUnmarked (skipBlank cs) := h.of_subset fun _ hc => skipBlank_subset cs hc

theorem trimStart : IsUnmarked (trimStart cs) := h.of_subset fun _ hc => List.dropWhile_subset _ hc

theorem span?_eq_none (k : SpanKind) : span? k cs = none := by
  simp [span?, (h.skipBlank.hasNoMark k).1]

theorem marker?_eq_none (k : SpanKind) : marker? k cs = none := by
  simp [marker?, (h.hasNoMark k).1, (h.skipBlank.hasNoMark k).2]

theorem anyMark?_eq_none : anyMark? cs = none := by
  have hnone : ∀ k : SpanKind, (after? k.opening cs).or (after? k.closing cs) = none := fun k => by
    simp [(h.hasNoMark k).1, (h.hasNoMark k).2]
  simp [anyMark?, SpanKind.all, hnone]

theorem strongs?_eq_none (language : Char → Bool) : strongs? language cs = none := by
  simp [strongs?, sign?_eq_none h.1]

theorem morph?_eq_none : morph? cs = none := by
  simp [morph?, sign?_eq_none h.2]

theorem upperTag?_eq_none : Extract.upperTag? cs = none := by
  simp [Extract.upperTag?, sign?_eq_none h.trimStart.1, sign?_eq_none h.trimStart.2]

omit h in
theorem afterBlank_eq_none {α : Type} {g : List Char → Option (α × List Char)}
    (hg : ∀ cs, IsUnmarked cs → g cs = none) (b : Bool) (cs : List Char) (h : IsUnmarked cs) :
    Extract.afterBlank g b cs = none := by
  cases cs with
  | nil => rfl
  | cons c cs =>
    rw [Extract.afterBlank]
    split
    · exact hg cs (h.of_subset fun d hd => List.mem_cons_of_mem c hd)
    · rfl

end IsUnmarked

namespace IsPlainText

variable {cs : List Char} (h : IsPlainText cs)

include h

theorem isAscii : IsAscii cs := fun c hc => (h c hc).1

theorem isUnmarked : IsUnmarked cs :=
  ⟨fun hmem => (h '<' hmem).2 (by decide), fun hmem => (h '\x7b' hmem).2 (by decide)⟩

end IsPlainText

end Markup

/-! ### How unmarked texts are shown -/

namespace Rendering

open Markup Text

/-- **Only the blanks at the ends of a text are not shown**, whichever annotations are kept. -/
theorem render_unmarked (r : Rendering) {t : List Char} (h : IsUnmarked t) : r.render t = trim t := by
  have hstrongs : dropStrongs t = t := h.dropItems_eq fun _ _ hcs => hcs.trimStart.strongs?_eq_none _
  have hmorph : dropMorph t = t := h.dropItems_eq fun _ _ hcs => hcs.trimStart.morph?_eq_none
  have hspans : ∀ k, dropSpans k t = t := fun k => h.dropItems_eq fun _ _ hcs => hcs.span?_eq_none k
  have hmarkers : ∀ k, dropMarkers k t = t := fun k =>
    h.dropItems_eq fun _ _ hcs => hcs.marker?_eq_none k
  have hnotes : showNotes t = t :=
    replaceItems_of_scan (h.scan_eq fun _ _ hcs => hcs.span?_eq_none .note)
  have hpass : ∀ {pass : List Char → List Char} (wanted : Bool), pass t = t →
      passIf wanted pass t = t := by
    intro pass wanted hpass
    cases wanted
    · rfl
    · exact hpass
  simp only [render, hpass _ hstrongs, hpass _ hmorph, hpass _ (hspans _), hpass _ (hmarkers _),
    hspans, hmarkers, hnotes, ite_self]

end Rendering

/-! ### What plain texts are found by -/

namespace Extract

open Markup Text

variable {t : List Char}

theorem withoutSpans_unmarked (h : IsUnmarked t) : withoutSpans t = t := by
  have hnotes : dropItems (fun _ => span? .note) t = t :=
    h.dropItems_eq fun _ _ hcs => hcs.span?_eq_none .note
  rw [withoutSpans, hnotes, h.dropItems_eq fun _ _ hcs => hcs.anyMark?_eq_none]

theorem joined_unmarked (h : IsUnmarked t) : joined t = t :=
  h.dropItems_eq fun _ _ hcs => hcs.upperTag?_eq_none

/-- **The words of a text lead to it.** -/
theorem mem_words_unmarked (h : IsUnmarked t) {w : List Char} (hw : w ∈ runs isWordChar t) :
    w ∈ (ofText t).words := by
  simp [ofText, withoutSpans_unmarked h, joined_unmarked h, hw]

section

variable (h : IsPlainText t)

include h

theorem separated_plain : separated t = t := by
  have hstrongs : dropItems spacedStrongs? t = t :=
    h.isUnmarked.dropItems_eq (IsUnmarked.afterBlank_eq_none fun _ hcs => hcs.strongs?_eq_none _)
  have hmorph : dropItems spacedMorph? t = t :=
    h.isUnmarked.dropItems_eq (IsUnmarked.afterBlank_eq_none fun _ hcs => hcs.morph?_eq_none)
  rw [separated, hstrongs, hmorph, List.filter_eq_self]
  exact fun c hc => by simpa using (h c hc).1

theorem mem_words_plain_iff {w : List Char} :
    w ∈ (ofText t).words ↔ w ∈ runs isWordChar t := by
  simp [ofText, withoutSpans_unmarked h.isUnmarked, joined_unmarked h.isUnmarked, separated_plain h]

/-- **A plain text is found by its words only.** -/
theorem mem_keys_plain_iff {k : List Char} : k ∈ (ofText t).keys ↔ k ∈ runs isWordChar t := by
  have hstrongs : (ofText t).strongs = [] := by
    rw [ofText, withoutSpans_unmarked h.isUnmarked]
    exact items_of_scan (h.isUnmarked.scan_eq
      (IsUnmarked.afterBlank_eq_none fun _ hcs => hcs.strongs?_eq_none _))
  have hmorph : (ofText t).morph = [] := by
    rw [ofText, withoutSpans_unmarked h.isUnmarked]
    exact items_of_scan
      (h.isUnmarked.scan_eq (IsUnmarked.afterBlank_eq_none fun _ hcs => hcs.morph?_eq_none))
  rw [keys, hstrongs, hmorph, List.nil_append, List.nil_append, mem_words_plain_iff h]

end

end Extract

end Concordance
