import Concordance.Proofs.Passage.Reading

/-!
# The meaning of passage expressions

An expression is cut at its commas and semicolons, and what is left are its fragments as they were
written, since none of them has blanks at its ends. So reading an expression gives what the grammar says
that it means. Blanks around marks are no part of that meaning; but a blank before a mark is read as a
name in a fragment that has none, and there the items are different ones.

## Main results

* `Joins.fragments_eq` — the fragments of a text that is made up of fragments
* `PassageItem.parseAll_text` — the items of an expression are what its fragments mean
* `PassageItem.parseAll_spacing` — where blanks around marks make no difference
* `PassageItem.parseAfter_of_blank` — a blank that takes a fragment out of its context
-/

namespace Concordance

open PassageItem (IsFragment isFragmentChar)

/-! ### Fragments of a text -/

theorem Number.isFragment_digits (n : Number) : IsFragment n.digits where
  ne_nil := n.ne_nil
  isFragmentChar c hc := by
    have hdigit := n.isDigit c hc
    rw [PassageItem.isFragmentChar, Bool.and_eq_true, bne_iff_ne, bne_iff_ne]
    constructor <;> rintro rfl <;> exact absurd hdigit (by decide)
  head c hc := (n.of_mem (List.mem_of_mem_head? hc)).2
  last c hc := (n.of_mem (List.mem_of_mem_getLast? hc)).2

theorem BookName.isFragment_chars (b : BookName) : IsFragment b.chars where
  ne_nil := by
    obtain ⟨c, cs, hcs, -⟩ := b.isName.exists_cons
    simp [hcs]
  isFragmentChar c hc := by simpa [PassageItem.isFragmentChar] using b.ne_separator c hc
  head := b.isBlank_ends.1
  last := b.isBlank_ends.2

theorem Gap.isFragmentChar_mark (g : Gap) {c : Char} (hc : isFragmentChar c = true) :
    ∀ c' ∈ g.mark c, isFragmentChar c' = true := by
  have hblanks : ∀ b : Blanks, ∀ c ∈ b.chars, isFragmentChar c = true := fun b c hc =>
    PassageItem.isFragmentChar_of_isBlank (b.isBlank c hc)
  simp only [mark, List.mem_append, List.mem_cons]
  rintro c' (hc' | rfl | hc')
  · exact hblanks _ c' hc'
  · exact hc
  · exact hblanks _ c' hc'

namespace Fragment

/-- **What a fragment is written as is a fragment of an expression.** -/
theorem isFragment_text (s : Spacing) (f : Fragment) : IsFragment (f.text s) := by
  have hspace : ∀ c ∈ [' '], isFragmentChar c = true := List.forall_mem_singleton.mpr (by decide)
  have hcolon : ∀ g : Gap, ∀ c ∈ g.mark ':', isFragmentChar c = true := fun g =>
    g.isFragmentChar_mark (by decide)
  have hdash : ∀ g : Gap, ∀ c ∈ g.mark '-', isFragmentChar c = true := fun g =>
    g.isFragmentChar_mark (by decide)
  have hstretch : ∀ t : Stretch, IsFragment (t.text s) := by
    intro t
    cases t with
    | verse c v => exact c.isFragment_digits.append (hcolon _) v.isFragment_digits
    | within c v w =>
      exact (c.isFragment_digits.append (hcolon _) v.isFragment_digits).append (hdash _)
        w.isFragment_digits
    | across c v d w =>
      exact ((c.isFragment_digits.append (hcolon _) v.isFragment_digits).append (hdash _)
        d.isFragment_digits).append (hcolon _) w.isFragment_digits
  cases f with
  | named f =>
    cases f with
    | book b => exact b.isFragment_chars
    | chapter b c => exact b.isFragment_chars.append hspace c.isFragment_digits
    | chapters b c d =>
      exact (b.isFragment_chars.append hspace c.isFragment_digits).append (hdash _)
        d.isFragment_digits
    | stretch b t => exact b.isFragment_chars.append hspace (hstretch t)
    | books b d => exact b.isFragment_chars.append (hdash _) d.isFragment_chars
    | toChapter b d c =>
      exact (b.isFragment_chars.append (hdash _) d.isFragment_chars).append hspace
        c.isFragment_digits
    | toVerse b c v d e w =>
      exact ((((b.isFragment_chars.append hspace c.isFragment_digits).append (hcolon _)
        v.isFragment_digits).append (hdash _) d.isFragment_chars).append hspace
        e.isFragment_digits).append (hcolon _) w.isFragment_digits
  | bare f =>
    cases f with
    | verse n => exact n.isFragment_digits
    | verses n m => exact n.isFragment_digits.append (hdash _) m.isFragment_digits
    | stretch t => exact hstretch t

end Fragment

/-- **The fragments of a text that is made up of fragments** are just those. -/
theorem Joins.fragments_eq {css : List (List Char)} {text : List Char} (h : Joins css text)
    (hcss : ∀ cs ∈ css, IsFragment cs) : PassageItem.fragments text = css := by
  induction h with
  | nil => rfl
  | single cs => exact (hcss cs (by simp)).fragments_eq
  | @cons cs separator hseparator blanks _ _ _ _ ih =>
    have hsplits : isFragmentChar separator = false := by
      obtain rfl | rfl := hseparator <;> decide
    obtain ⟨hcs, hds⟩ := List.forall_mem_cons.mp hcss
    rw [PassageItem.fragments_append_cons hsplits, hcs.fragments_eq,
      PassageItem.fragments_append_left blanks.isBlank, ih hds, List.singleton_append]

/-! ### Expressions -/

namespace PassageItem

/-- **Expressions mean what their fragments mean**, with blanks where they make no difference. -/
theorem parseAll_of_clear {fs : List (Fragment × Spacing)} (hclear : ∀ f ∈ fs, f.1.Clear f.2)
    {text : String} (h : Joins (fs.map fun f => f.1.text f.2) text.toList) :
    parseAll text = Fragment.items .first (fs.map Prod.fst) := by
  have hfragments : ∀ cs ∈ fs.map fun f => f.1.text f.2, IsFragment cs :=
    List.forall_mem_map.mpr fun f _ => f.1.isFragment_text f.2
  rw [parseAll, h.fragments_eq hfragments, Fragment.parseFragments_text fs hclear]

/-- Expressions without blanks around marks mean what their fragments mean. -/
theorem parseAll_of_tight {fs : List Fragment} {text : String}
    (h : Joins (fs.map (Fragment.text .tight)) text.toList) :
    parseAll text = Fragment.items .first fs := by
  have hclear : ∀ f ∈ fs.map fun f => (f, Spacing.tight), f.1.Clear f.2 :=
    List.forall_mem_map.mpr fun f _ => f.clear_tight
  have hjoins : Joins ((fs.map fun f => (f, Spacing.tight)).map fun f => f.1.text f.2) text.toList := by
    simpa [Function.comp_def] using h
  simpa [Function.comp_def] using parseAll_of_clear hclear hjoins

/-- **The grammar of passage expressions.** For any fragments, with names in full or abbreviated and
numbers of up to three digits, written without blanks around their marks and put together with commas or
semicolons, reading the text gives one item for each fragment: what the fragment means after the last
verse of the one before it, or after the first verse of all. -/
theorem parseAll_text (fs : List Fragment) (text : String)
    (h : Joins (fs.map (Fragment.text .tight)) text.toList) :
    (parseAll text).length = fs.length ∧ parseAll text = Fragment.items .first fs := by
  have hitems := parseAll_of_tight h
  exact ⟨by rw [hitems, Fragment.length_items], hitems⟩

/-- A verse, verses of the same chapter, the beginning of one book up to a chapter of another one, and
verses that go on from there. The chapter that the last fragment ends with is clamped. -/
theorem parseAll_text_john :
    parseAll "John 3:16, 10-12;1Sam-II Samuel 2,  24:24-99:99"
      = [.verse (.ofParts 42 3 16), .between (.ofParts 42 3 10) (.ofParts 42 3 12),
        .between (.ofParts 8 1 1) (.ofParts 9 2 32), .between (.ofParts 9 24 24) (.ofParts 9 24 25)] := by
  have hjoins : Joins
      ([.named (.stretch ⟨42, by decide, false⟩ (.verse (.ofNat 3 (by decide)) (.ofNat 16 (by decide)))),
        .bare (.verses (.ofNat 10 (by decide)) (.ofNat 12 (by decide))),
        .named (.toChapter ⟨8, by decide, true⟩ ⟨9, by decide, false⟩ (.ofNat 2 (by decide))),
        .bare (.stretch (.across (.ofNat 24 (by decide)) (.ofNat 24 (by decide))
          (.ofNat 99 (by decide)) (.ofNat 99 (by decide))))].map (Fragment.text .tight))
      "John 3:16, 10-12;1Sam-II Samuel 2,  24:24-99:99".toList :=
    .cons "John 3:16".toList (.inl rfl) .space (.cons "10-12".toList (.inr rfl) .empty
      (.cons "1Sam-II Samuel 2".toList (.inl rfl) (.spaces 2) (.single _)))
  exact (parseAll_text _ _ hjoins).2.trans (by decide +kernel)

/-- **Blanks around marks** make no difference, where no fragment without a book has any before a mark,
and a single digit that begins names has none between it and a second colon. -/
theorem parseAll_spacing (fs : List (Fragment × Spacing)) (hclear : ∀ f ∈ fs, f.1.Clear f.2)
    (spaced tight : String) (hspaced : Joins (fs.map fun f => f.1.text f.2) spaced.toList)
    (htight : Joins (fs.map fun f => f.1.text .tight) tight.toList) :
    parseAll spaced = parseAll tight := by
  have htight' : Joins ((fs.map Prod.fst).map (Fragment.text .tight)) tight.toList := by
    simpa [Function.comp_def] using htight
  rw [parseAll_of_clear hclear hspaced, parseAll_of_tight htight']

/-- Blanks around the marks of a fragment with a book, and after the dash of one without. -/
theorem parseAll_spacing_john :
    parseAll "John 3 : 16, 10-  12" = parseAll "John 3:16,10-12" := by
  have hspaced : Joins
      ([(.named (.stretch ⟨42, by decide, false⟩ (.verse (.ofNat 3 (by decide)) (.ofNat 16 (by decide)))),
          ⟨⟨.space, .space⟩, .tight, .tight⟩),
        (.bare (.verses (.ofNat 10 (by decide)) (.ofNat 12 (by decide))),
          ⟨.tight, ⟨.empty, (.spaces 2)⟩, .tight⟩)].map fun f : Fragment × Spacing =>
            f.1.text f.2)
      "John 3 : 16, 10-  12".toList :=
    .cons "John 3 : 16".toList (.inl rfl) .space (.single _)
  refine parseAll_spacing _ ?_ _ _ hspaced (.cons "John 3:16".toList (.inl rfl) .empty (.single _))
  simp [Fragment.Clear, Fragment.Named.Clear, Fragment.Stretch.Clear, Spacing.NoneBefore, Gap.tight]

/-- **A blank after a digit takes a fragment out of its context.** It is read as a name, and so the
fragment means the same after any verse. -/
theorem parseAfter_of_blank {d b : Char} (hd : d.isDigit = true) (hb : Text.isBlank b = true)
    (xs rest : List Char) (context : Verse) :
    parseAfter context (xs ++ d :: b :: rest) = parseFragment (xs ++ d :: b :: rest) := by
  have hitems : parseFragment (xs ++ d :: b :: rest) ≠ [] := by
    have hsome := Mention.isSome_find?_blank hd hb xs rest none
    rw [← Extent.isSome_find?] at hsome
    obtain ⟨found, hfound⟩ := Option.isSome_iff_exists.mp hsome
    have hfuel : (xs ++ d :: b :: rest).length = (xs ++ b :: rest).length + 1 := by
      simp only [List.length_append, List.length_cons]
      omega
    simp [parseFragment, Extent.findAll, hfuel, Extent.findFrom, hfound]
  rw [parseAfter]
  split
  · rename_i hnil
    exact absurd hnil hitems
  · rfl

/-- A blank before the dash of a fragment that names no book is read as a name, which means the first
book. -/
theorem parseAll_blank_before_dash :
    ∃ fs : List (Fragment × Spacing),
      Joins (fs.map fun f => f.1.text f.2) "John 3:16, 10 - 12".toList ∧
      Joins (fs.map fun f => f.1.text .tight) "John 3:16, 10-12".toList ∧
      parseAll "John 3:16, 10 - 12" ≠ parseAll "John 3:16, 10-12" := by
  refine ⟨[(.named (.stretch ⟨42, by decide, false⟩
        (.verse (.ofNat 3 (by decide)) (.ofNat 16 (by decide)))), .tight),
      (.bare (.verses (.ofNat 10 (by decide)) (.ofNat 12 (by decide))),
        ⟨.tight, ⟨.space, .space⟩, .tight⟩)], ?_, ?_, ?_⟩
  · exact .cons "John 3:16".toList (.inl rfl) .space (.single "10 - 12".toList)
  · exact .cons "John 3:16".toList (.inl rfl) .space (.single "10-12".toList)
  · decide +kernel

end PassageItem

end Concordance
