import Concordance.Highlight
import Concordance.Proofs.Text.Ascii
import Concordance.Proofs.Text.Scanning

/-!
# Texts with marks in them

A text that has been marked in reverse video is a row of characters and marks. The text without colours
is the row without its marks. As no other character is the sign that the marks start with, the row can be
told from the text; and a place in the text is between two items of the row or else within a mark.

The marks are put around words. So a mark does not stand within a word, and right before a mark that ends
a stretch there is a word character. Rows of this kind are tidy. In a tidy row, the letter that the marks
end with may be taken for the start of a word only after a mark that starts a stretch.

## Main definitions

* `Highlight.Shade` — a character or a mark
* `Highlight.write`, `Highlight.plain` — a row with its marks, and without them
* `Highlight.IsParted` — a place that is not within a word
* `Highlight.IsTidy` — marks stand where marks are put

## Main results

* `Highlight.exists_eq_append_of_write` — a row can be told from the text
* `Highlight.exists_cut` — a place is between two items or within a mark
* `Highlight.isTidy_append` — two tidy rows, one after the other
* `Highlight.stripColor_write` — the text without colours is the row without its marks
-/

namespace Concordance

namespace Highlight

open Text (isWordChar)

/-- A character of a marked text, or a mark. -/
inductive Shade where
  /-- A character. -/
  | char (c : Char)
  /-- The mark that starts a stretch. -/
  | on
  /-- The mark that ends a stretch. -/
  | off

/-- The text of a character or mark. -/
def Shade.text : Shade → List Char
  | char c => [c]
  | on => reverseVideo.before
  | off => reverseVideo.after

/-- A character, unless it is a mark. -/
def Shade.char? : Shade → Option Char
  | char c => some c
  | on | off => none

/-- The text of a row, with its marks. -/
def write (ts : List Shade) : List Char := ts.flatMap Shade.text

/-- The characters of a row, without its marks. -/
def plain (ts : List Shade) : List Char := ts.filterMap Shade.char?

/-- A place is not within a word. -/
def IsParted (before after : List Char) : Prop :=
  ¬ (before.getLast?.any isWordChar = true ∧ after.head?.any isWordChar = true)

/-- Marks do not stand within words, and those that end a stretch are right after a word. -/
def IsTidy : (before : List Char) → List Shade → (after : List Char) → Prop
  | _, [], _ => True
  | before, .char c :: ts, after => IsTidy (before ++ [c]) ts after
  | before, .on :: ts, after => IsParted before (plain ts ++ after) ∧ IsTidy before ts after
  | before, .off :: ts, after =>
    (before.getLast?.any isWordChar = true ∧ IsParted before (plain ts ++ after)) ∧
      IsTidy before ts after

variable {s : Shade} {ts us vs ws : List Shade} {xs ys cs before after : List Char} {c : Char}

/-! ### Rows -/

@[simp] theorem text_char (c : Char) : (Shade.char c).text = [c] := rfl

@[simp] theorem text_on : Shade.on.text = ['\x1b', '[', '7', 'm'] := by decide

@[simp] theorem text_off : Shade.off.text = ['\x1b', '[', 'm'] := by decide

@[simp] theorem write_nil : write [] = [] := rfl

@[simp] theorem write_cons : write (s :: ts) = s.text ++ write ts := rfl

@[simp] theorem write_append : write (ts ++ us) = write ts ++ write us := List.flatMap_append

@[simp] theorem write_chars (cs : List Char) : write (cs.map .char) = cs := by
  simp [write, List.flatMap_map]

@[simp] theorem plain_nil : plain [] = [] := rfl

@[simp] theorem plain_char : plain (.char c :: ts) = c :: plain ts := rfl

@[simp] theorem plain_on : plain (.on :: ts) = plain ts := rfl

@[simp] theorem plain_off : plain (.off :: ts) = plain ts := rfl

@[simp] theorem plain_append : plain (ts ++ us) = plain ts ++ plain us := List.filterMap_append

@[simp] theorem plain_chars (cs : List Char) : plain (cs.map .char) = cs := by
  simp [plain, List.filterMap_map, Function.comp_def, Shade.char?]

/-- A row in marks. -/
theorem write_wrap (ts : List Shade) : write (.on :: (ts ++ [.off])) = reverseVideo.wrap (write ts) := by
  simp [Shade.text, wrap]

theorem text_ne_nil (s : Shade) : s.text ≠ [] := by
  cases s <;> simp

theorem write_eq_nil_iff : write ts = [] ↔ ts = [] := by
  cases ts with
  | nil => simp
  | cons s ts => simp [text_ne_nil s]

/-- A mark starts with its sign. -/
theorem text_of_mark (hs : s.char? = none) : ∃ cs, s.text = '\x1b' :: cs := by
  cases s with
  | char c => cases hs
  | on => exact ⟨_, text_on⟩
  | off => exact ⟨_, text_off⟩

/-- The sign that marks start with stands nowhere else. -/
theorem mark_of_write_eq_cons (hesc : '\x1b' ∉ plain ts) (h : write ts = '\x1b' :: ys) :
    ∃ s us, ts = s :: us ∧ s.char? = none := by
  cases ts with
  | nil => cases h
  | cons s ts =>
    refine ⟨s, ts, rfl, ?_⟩
    cases s with
    | char c =>
      obtain ⟨rfl, -⟩ := List.cons.inj h
      exact absurd List.mem_cons_self hesc
    | on => rfl
    | off => rfl

/-- **A row can be told from the text.** -/
theorem exists_eq_append_of_write (hts : '\x1b' ∉ plain ts) (hus : '\x1b' ∉ plain us)
    (h : write ts = write us ++ ys) : ∃ vs, ts = us ++ vs ∧ ys = write vs := by
  induction us generalizing ts with
  | nil => exact ⟨ts, rfl, h.symm⟩
  | cons s us ih =>
    suffices hhead : ∃ ts', ts = s :: ts' by
      obtain ⟨ts, rfl⟩ := hhead
      rw [write_cons, write_cons, List.append_assoc, List.append_cancel_left_eq] at h
      have hts' : '\x1b' ∉ plain ts := fun hmem => hts (by cases s <;> simp [hmem])
      have hus' : '\x1b' ∉ plain us := fun hmem => hus (by cases s <;> simp [hmem])
      obtain ⟨vs, rfl, hys⟩ := ih hts' hus' h
      exact ⟨vs, rfl, hys⟩
    cases ts with
    | nil => exact absurd (congrArg List.isEmpty h) (by simp [text_ne_nil s])
    | cons s' ts =>
      refine ⟨ts, ?_⟩
      cases s <;> cases s' <;> simp_all

/-- The part of a row up to a place comes before the part up to a later place. -/
theorem exists_eq_append_of_cut (hcut : us ++ vs = ts ++ ws) (h : write ts = write us ++ cs) :
    ∃ us', ts = us ++ us' ∧ vs = us' ++ ws ∧ cs = write us' := by
  obtain ⟨us', rfl, rfl⟩ | ⟨us', rfl, rfl⟩ := List.append_eq_append_iff.mp hcut
  · refine ⟨us', rfl, rfl, ?_⟩
    rw [write_append, List.append_cancel_left_eq] at h
    exact h.symm
  · rw [write_append, List.append_assoc, List.self_eq_append_right, List.append_eq_nil_iff,
      write_eq_nil_iff] at h
    obtain ⟨rfl, rfl⟩ := h
    exact ⟨[], by simp, by simp, rfl⟩

/-- **A place is between two items of a row or within a mark.** -/
theorem exists_cut (h : write ts = xs ++ ys) :
    (∃ us vs, ts = us ++ vs ∧ xs = write us ∧ ys = write vs) ∨
      ∃ us s vs a b, ts = us ++ s :: vs ∧ s.char? = none ∧ s.text = a ++ b ∧ a ≠ [] ∧ b ≠ [] ∧
        xs = write us ++ a ∧ ys = b ++ write vs := by
  induction ts generalizing xs with
  | nil =>
    obtain ⟨rfl, rfl⟩ := List.append_eq_nil_iff.mp h.symm
    exact .inl ⟨[], [], rfl, rfl, rfl⟩
  | cons s ts ih =>
    rw [write_cons] at h
    obtain ⟨a, rfl, htail⟩ | ⟨b, htext, rfl⟩ := List.append_eq_append_iff.mp h
    · obtain ⟨us, vs, rfl, rfl, rfl⟩ | ⟨us, s', vs, a', b', rfl, hmark, htext, ha, hb, rfl, rfl⟩ :=
        ih htail
      · exact .inl ⟨s :: us, vs, rfl, rfl, rfl⟩
      · exact .inr ⟨s :: us, s', vs, a', b', rfl, hmark, htext, ha, hb, by simp, rfl⟩
    · by_cases hxs : xs = []
      · subst hxs
        exact .inl ⟨[], s :: ts, rfl, rfl, by rw [write_cons, htext, List.nil_append]⟩
      · by_cases hb : b = []
        · subst hb
          exact .inl ⟨[s], ts, rfl, by simp [htext], rfl⟩
        · refine .inr ⟨[], s, ts, xs, b, rfl, ?_, htext, hxs, hb, rfl, rfl⟩
          cases s with
          | char c =>
            have hlength := congrArg List.length htext
            have := List.length_pos_iff.mpr hxs
            have := List.length_pos_iff.mpr hb
            simp only [text_char, List.length_append, List.length_singleton] at hlength
            omega
          | on => rfl
          | off => rfl

/-- **The edges within a mark** are before its digit, or else before its letter. -/
theorem edge_of_mark {a b : List Char} (hs : s.char? = none) (h : s.text = a ++ b) (ha : a ≠ [])
    (hb : b ≠ []) (hedge : a.getLast?.any isWordChar ≠ b.head?.any isWordChar) :
    s = .on ∧ b = ['7', 'm'] ∨ s = .off ∧ b = ['m'] := by
  have hsplit : ∀ {text : List Char},
      text = a ++ b → a = text.take a.length ∧ b = text.drop a.length := by
    rintro text rfl
    simp
  obtain ⟨ha', hb'⟩ := hsplit h
  have hpos := List.length_pos_iff.mpr ha
  have hlength : a.length < s.text.length := by
    have := List.length_pos_iff.mpr hb
    rw [h, List.length_append]
    omega
  generalize a.length = n at *
  subst ha' hb'
  cases s with
  | char c => cases hs
  | on =>
    have hn : n = 1 ∨ n = 2 ∨ n = 3 := by
      rw [text_on] at hlength
      simp only [List.length_cons, List.length_nil] at hlength
      omega
    rcases hn with rfl | rfl | rfl
    · exact absurd hedge (by decide)
    · exact .inl ⟨rfl, rfl⟩
    · exact absurd hedge (by decide)
  | off =>
    have hn : n = 1 ∨ n = 2 := by
      rw [text_off] at hlength
      simp only [List.length_cons, List.length_nil] at hlength
      omega
    rcases hn with rfl | rfl
    · exact absurd hedge (by decide)
    · exact .inr ⟨rfl, rfl⟩

/-! ### Tidy rows -/

/-- **Two tidy rows, one after the other.** -/
theorem isTidy_append : IsTidy before (ts ++ us) after ↔
    IsTidy before ts (plain us ++ after) ∧ IsTidy (before ++ plain ts) us after := by
  induction ts generalizing before with
  | nil => simp [IsTidy]
  | cons s ts ih =>
    cases s <;> simp [IsTidy, ih, and_assoc]

/-- A text without marks is tidy. -/
theorem isTidy_chars (before cs after : List Char) : IsTidy before (cs.map .char) after := by
  induction cs generalizing before with
  | nil => trivial
  | cons c cs ih => exact ih (before ++ [c])

/-- A mark does not stand within a word. -/
theorem IsTidy.isParted (h : IsTidy before (us ++ s :: vs) after) (hs : s.char? = none) :
    IsParted (before ++ plain us) (plain vs ++ after) := by
  have hcons := (isTidy_append.mp h).2
  cases s with
  | char c => cases hs
  | on => exact hcons.1
  | off => exact hcons.1.2

/-- After a mark that ends a stretch there is no word. -/
theorem IsTidy.not_isWordChar_after_off (h : IsTidy before (us ++ .off :: vs) after) :
    (write vs).head?.any isWordChar ≠ true := by
  obtain ⟨⟨hword, hparted⟩, -⟩ := (isTidy_append.mp h).2
  have hsign : isWordChar '\x1b' = false := by decide
  intro hhead
  cases vs with
  | nil => cases hhead
  | cons s vs =>
    cases s with
    | char c => exact hparted ⟨hword, by simpa using hhead⟩
    | on => simp [hsign] at hhead
    | off => simp [hsign] at hhead

/-! ### Colours -/

theorem color?_eq_none (hc : c ≠ '\x1b') : color? (c :: cs) = none := by
  simp [color?, Text.after?, Ne.symm hc]

/-- A mark is a colour. -/
theorem color?_mark (hs : s.char? = none) (cs : List Char) : color? (s.text ++ cs) = some ((), cs) := by
  have hdigit : Text.isDigit '7' = true := by decide
  have hletter : Text.isDigit 'm' = false := by decide
  cases s with
  | char c => cases hs
  | on => simp [color?, Text.after?, hdigit, hletter]
  | off => simp [color?, Text.after?, hletter]

theorem isSteady_color? : Text.IsSteady fun _ => color? where
  eq _ _ := rfl
  length_lt := by
    intro cs _ rest h
    obtain ⟨cs', hstart, h⟩ := Option.bind_eq_some_iff.mp h
    obtain ⟨cs'', hstop, h⟩ := Option.bind_eq_some_iff.mp h
    obtain ⟨-, rfl⟩ := Prod.mk.inj (Option.some.inj h)
    obtain rfl := Text.after?_eq_some_iff.mp hstart
    have hlength := congrArg List.length (Text.after?_eq_some_iff.mp hstop)
    have hle := (List.dropWhile_suffix (l := cs') fun c => Text.isDigit c || c == ';').length_le
    simp only [List.length_append, List.length_cons] at hlength ⊢
    omega

/-- **The text without colours is the row without its marks.** -/
theorem stripColor_write (hesc : '\x1b' ∉ plain ts) : stripColor (write ts) = plain ts := by
  rw [stripColor]
  induction ts with
  | nil => simp [Text.dropItems, Text.replaceItems]
  | cons s ts ih =>
    have hmark : s.char? = none → '\x1b' ∉ plain ts →
        Text.dropItems (fun _ => color?) (write (s :: ts)) = plain ts := fun hs hts => by
      rw [write_cons, isSteady_color?.dropItems_item (color?_mark hs _), ih hts]
    cases s with
    | char c =>
      rw [plain_char, List.mem_cons, not_or] at hesc
      rw [write_cons, Shade.text, List.singleton_append,
        isSteady_color?.dropItems_other (color?_eq_none (Ne.symm hesc.1)), ih hesc.2, plain_char]
    | on => exact hmark rfl hesc
    | off => exact hmark rfl hesc

end Highlight

end Concordance
