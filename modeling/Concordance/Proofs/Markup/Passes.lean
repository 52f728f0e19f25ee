import Concordance.Proofs.Markup.Annotated
import Concordance.Rendering

/-!
# Passes over annotated texts

Every pass that drops tags, when a text is rendered and when its words are extracted, reads the tags
of an annotated text alike, however its recognizer is put together; and the passes for spans find
nothing. So a rendered text consists of the segments that are kept, and both readings of the words
see the plain characters.

## Main definitions

* `Rendering.keeps` — whether a rendering keeps a segment
* `Markup.AnnotatedText.plainChars` — the text without its tags

## Main results

* `Rendering.render_annotated` — a rendered text consists of the segments that are kept
* `Extract.mem_words_annotated`, `Extract.strongs_annotated`, `Extract.morph_annotated`,
  `Extract.mem_keys_annotated` — what an annotated text is found by
-/

namespace Concordance

namespace Markup

open Text

/-! ### Tags after blanks -/

section

variable {α : Type} {g : List Char → Option (α × List Char)} {value? : Tag → Option α}

/-- Reads tags at their opening signs. -/
structure ReadsTags (g : List Char → Option (α × List Char)) (value? : Tag → Option α) : Prop where
  /-- Nothing starts at a dull character. -/
  dull : ∀ {c : Char} {cs : List Char}, IsDull c → g (c :: cs) = none
  /-- A tag is read if it has a value. -/
  tag : ∀ (t : Tag) (rest : List Char), g (t.chars ++ rest) = (value? t).map (·, rest)

theorem trimStart_of_not_blank {c : Char} (h : isBlank c = false) (cs : List Char) :
    trimStart (c :: cs) = c :: cs := by
  simp [trimStart, h]

theorem trimStart_space {c : Char} (h : isBlank c = false) (cs : List Char) :
    trimStart (' ' :: c :: cs) = c :: cs := by
  simp [trimStart, h, show isBlank ' ' = true by decide]

theorem Tag.not_blank (t : Tag) : ∃ c cs, t.chars = c :: cs ∧ isBlank c = false := by
  cases t with
  | strongs _ _ _ _ _ => exact ⟨'<', _, rfl, by decide⟩
  | morph _ _ _ => exact ⟨'\x7b', _, rfl, by decide⟩

/-- The blanks before a tag may go with it. -/
theorem ReadsTags.reads_trimStart (h : ReadsTags g value?) :
    Reads (fun _ cs => g (trimStart cs)) value? := by
  have htag : ∀ (t : Tag) (rest : List Char), trimStart (t.chars ++ rest) = t.chars ++ rest ∧
      trimStart (' ' :: t.chars ++ rest) = t.chars ++ rest := by
    intro t rest
    obtain ⟨c, cs, hcs, hc⟩ := t.not_blank
    simp only [hcs, List.cons_append]
    exact ⟨trimStart_of_not_blank hc _, trimStart_space hc _⟩
  refine ⟨fun hc => ?_, fun hc => ?_, fun hvalue => ?_, fun hvalue => ?_⟩
  · rw [trimStart_of_not_blank hc.1, h.dull hc]
  · rw [trimStart_space hc.1, h.dull hc]
  · rw [(htag _ _).2, h.tag, hvalue, Option.map_some]
  · rw [(htag _ _).1, (htag _ _).2, h.tag, hvalue, Option.map_none]
    exact ⟨rfl, rfl⟩

/-- One blank may be asked for before a tag. -/
theorem ReadsTags.reads_afterBlank (h : ReadsTags g value?) :
    Reads (Extract.afterBlank g) value? := by
  have hspace : isBlank ' ' = true := by decide
  refine ⟨fun hc => ?_, fun hc => ?_, fun hvalue => ?_, fun {b t rest} hvalue => ⟨?_, ?_⟩⟩
  · simp [Extract.afterBlank, hc.1]
  · simp [Extract.afterBlank, hspace, h.dull hc]
  · simp [Extract.afterBlank, hspace, h.tag, hvalue]
  · simp [Extract.afterBlank, hspace, h.tag, hvalue]
  · obtain ⟨c, cs, hcs, hc⟩ := t.not_blank
    simp [hcs, Extract.afterBlank, hc]

end

/-! ### Kinds of tags -/

theorem readsTags_strongs? {language : Char → Bool}
    (h : ∀ c, isLanguage c = true → language c = true) :
    ReadsTags (strongs? language) Tag.number? := by
  constructor
  · intro c cs hc
    simp [strongs?, sign?_cons_of_ne hc.2.1]
  · intro t rest
    cases hnumber : t.number? with
    | some number =>
      obtain ⟨⟨c, ds, rfl, hc, hds⟩, hchars⟩ := t.isNumber hnumber
      rw [Option.map_some, strongs?_eq_some_iff, hchars]
      exact ⟨⟨c, ds, rfl, h c hc, hds⟩, by simp⟩
    | none =>
      obtain ⟨body, -, hchars, -, -⟩ := t.exists_morph hnumber
      simp [hchars, strongs?, sign?_cons_of_ne (show '\x7b' ≠ '<' by decide)]

theorem readsTags_morph? : ReadsTags morph? Tag.morph? := by
  constructor
  · intro c cs hc
    simp [morph?, sign?_cons_of_ne hc.2.2]
  · intro t rest
    cases hnumber : t.number? with
    | some number =>
      have hmorph : t.morph? = none := by
        cases t with
        | strongs _ _ _ _ _ => rfl
        | morph _ _ _ => cases hnumber
      obtain ⟨-, hchars⟩ := t.isNumber hnumber
      simp [hmorph, hchars, morph?, sign?_cons_of_ne (show '<' ≠ '\x7b' by decide)]
    | none =>
      obtain ⟨body, hmorph, hchars, hne, hbody⟩ := t.exists_morph hnumber
      rw [hmorph, Option.map_some, morph?_eq_some_iff, hchars]
      exact ⟨hne, fun c hc => isTagChar_of_isCapitalTagChar (hbody c hc), by simp⟩

/-- What `Extract.upperTag?` reads once the blanks are gone. -/
def capitalTag? (cs : List Char) : Option (Unit × List Char) :=
  let number? : Option (List Char) := do
    let cs ← sign? '<' cs
    match cs with
    | c :: cs => if isLanguage c then sign? '>' (cs.dropWhile isDigit) else none
    | [] => none
  let tag? : Option (List Char) := do
    let cs ← sign? '\x7b' cs
    sign? '\x7d' (cs.dropWhile Extract.isUpperTagChar)
  (number?.or tag?).map fun rest => ((), rest)

theorem isUpperTagChar_of_isCapitalTagChar {c : Char} (h : isCapitalTagChar c = true) :
    Extract.isUpperTagChar c = true :=
  forall_ascii (P := fun c => isCapitalTagChar c = true → Extract.isUpperTagChar c = true)
    (by decide) (toNat_of_isCapitalTagChar h) h

/-- What a closing sign ends is all that is passed over. -/
theorem sign?_dropWhile_eq_some_iff {p : Char → Bool} {close : Char} {cs rest : List Char}
    (hclose : p close = false) :
    sign? close (cs.dropWhile p) = some rest ↔
      ∃ run, (∀ c ∈ run, p c = true) ∧ cs = run ++ close :: rest := by
  rw [sign?_eq_some_iff]
  constructor
  · intro hdrop
    refine ⟨cs.takeWhile p, List.all_eq_true.mp List.all_takeWhile, ?_⟩
    rw [← hdrop, List.takeWhile_append_dropWhile]
  · rintro ⟨run, hrun, rfl⟩
    exact (takeWhile_append hrun (by simpa using hclose)).2

/-- **A tag in capitals**, perhaps one without digits or empty. -/
theorem capitalTag?_eq_some_iff {cs rest : List Char} :
    capitalTag? cs = some ((), rest) ↔
      (∃ c ds, isLanguage c = true ∧ (∀ d ∈ ds, isDigit d = true) ∧
        cs = '<' :: c :: ds ++ '>' :: rest) ∨
      ∃ body, (∀ c ∈ body, Extract.isUpperTagChar c = true) ∧
        cs = '\x7b' :: body ++ '\x7d' :: rest := by
  have hdigits : ∀ cs : List Char, sign? '>' (cs.dropWhile isDigit) = some rest ↔ _ := fun _ =>
    sign?_dropWhile_eq_some_iff (by decide)
  have hbody : ∀ cs : List Char, sign? '\x7d' (cs.dropWhile Extract.isUpperTagChar) = some rest ↔ _ :=
    fun _ => sign?_dropWhile_eq_some_iff (by decide)
  constructor
  · intro h
    simp only [capitalTag?, Option.bind_eq_bind, Option.map_eq_some_iff, Option.or_eq_some_iff,
      Option.bind_eq_some_iff, Prod.mk.injEq, true_and] at h
    obtain ⟨_, ⟨cs', hsign, hread⟩ | ⟨-, cs', hsign, hread⟩, rfl⟩ := h
    · obtain rfl := sign?_eq_some_iff.mp hsign
      split at hread
      · rename_i c cs'
        split at hread
        · rename_i hc
          obtain ⟨ds, hds, rfl⟩ := (hdigits cs').mp hread
          exact .inl ⟨c, ds, hc, hds, rfl⟩
        · cases hread
      · cases hread
    · obtain rfl := sign?_eq_some_iff.mp hsign
      obtain ⟨body, hall, rfl⟩ := (hbody cs').mp hread
      exact .inr ⟨body, hall, rfl⟩
  · rintro (⟨c, ds, hc, hds, rfl⟩ | ⟨body, hall, rfl⟩)
    · have hread := (hdigits (ds ++ '>' :: rest)).mpr ⟨ds, hds, rfl⟩
      simp [capitalTag?, hc, hread]
    · have hread := (hbody (body ++ '\x7d' :: rest)).mpr ⟨body, hall, rfl⟩
      simp [capitalTag?, hread, sign?_cons_of_ne (show '\x7b' ≠ '<' by decide)]

theorem readsTags_capitalTag? : ReadsTags capitalTag? fun _ => some () := by
  constructor
  · intro c cs hc
    simp [capitalTag?, sign?_cons_of_ne hc.2.1, sign?_cons_of_ne hc.2.2]
  · intro t rest
    rw [Option.map_some, capitalTag?_eq_some_iff]
    cases hnumber : t.number? with
    | some number =>
      obtain ⟨⟨c, ds, rfl, hc, -, hds⟩, hchars⟩ := t.isNumber hnumber
      exact .inl ⟨c, ds, hc, hds, by simp [hchars]⟩
    | none =>
      obtain ⟨body, -, hchars, -, hbody⟩ := t.exists_morph hnumber
      exact .inr ⟨body, fun c hc => isUpperTagChar_of_isCapitalTagChar (hbody c hc),
        by simp [hchars]⟩

theorem reads_upperTag? : Reads (fun _ => Extract.upperTag?) fun _ => some () :=
  readsTags_capitalTag?.reads_trimStart

/-! ### Marks of spans -/

/-- No mark of a span starts a text. -/
def HasNoMark (cs : List Char) : Prop :=
  ∀ k : SpanKind, after? k.opening cs = none ∧ after? k.closing cs = none

theorem hasNoMark_cons {c : Char} (h : c ≠ '<') (cs : List Char) : HasNoMark (c :: cs) := by
  intro k
  simp [SpanKind.opening, SpanKind.closing, after?, h.symm]

theorem hasNoMark_tag (t : Tag) (rest : List Char) : HasNoMark (t.chars ++ rest) := by
  cases t with
  | strongs letter digits hletter _ _ =>
    have hne : letter ≠ '/' ∧ ∀ k : SpanKind, letter ≠ k.letter := by
      simp only [isLanguage, Bool.or_eq_true, beq_iff_eq] at hletter
      rcases hletter with rfl | rfl <;> exact ⟨by decide, fun k => by cases k <;> decide⟩
    intro k
    simp [Tag.chars, SpanKind.opening, SpanKind.closing, after?, hne.1.symm, (hne.2 k).symm]
  | morph _ _ _ => exact hasNoMark_cons (by decide) _

/-- A recognizer that reads nothing where no mark stands, with a blank before it or without, reads
nothing in an annotated text. -/
theorem reads_none {α : Type} {f : Recognizer α}
    (h : ∀ b cs, HasNoMark cs → HasNoMark (skipBlank cs) → f b cs = none) :
    Reads f fun _ => none := by
  have hspace : isBlank ' ' = true := by decide
  refine ⟨fun hc => ?_, fun hc => ?_, fun hvalue => (nomatch hvalue), fun {b t rest} _ => ?_⟩
  · refine h _ _ (hasNoMark_cons hc.2.1 _) ?_
    rw [skipBlank, if_neg (by simp [hc.1])]
    exact hasNoMark_cons hc.2.1 _
  · refine h _ _ (hasNoMark_cons (by decide) _) ?_
    rw [skipBlank, if_pos hspace]
    exact hasNoMark_cons hc.2.1 _
  · constructor
    · refine h _ _ (hasNoMark_cons (by decide) _) ?_
      rw [List.cons_append, skipBlank, if_pos hspace]
      exact hasNoMark_tag t rest
    · refine h _ _ (hasNoMark_tag t rest) ?_
      obtain ⟨c, cs, hcs, hc⟩ := t.not_blank
      have hsame : skipBlank (t.chars ++ rest) = t.chars ++ rest := by
        rw [hcs, List.cons_append, skipBlank, if_neg (by simp [hc])]
      rw [hsame]
      exact hasNoMark_tag t rest

theorem reads_anyMark? : Reads (fun _ => anyMark?) fun _ => (none : Option Unit) := by
  refine reads_none fun _ cs hcs _ => ?_
  have hnone : ∀ k : SpanKind, (after? k.opening cs).or (after? k.closing cs) = none := fun k => by
    simp [(hcs k).1, (hcs k).2]
  simp [anyMark?, SpanKind.all, hnone]

theorem reads_span? (k : SpanKind) :
    Reads (fun _ cs => span? k cs) fun _ => (none : Option (List Char)) :=
  reads_none fun _ cs _ hcs => by simp [span?, (hcs k).1]

theorem reads_marker? (k : SpanKind) :
    Reads (fun _ cs => marker? k cs) fun _ => (none : Option Unit) :=
  reads_none fun _ cs hcs hskip => by simp [marker?, (hcs k).1, (hskip k).2]

/-- Where nothing is read, all segments stay. -/
theorem Reads.replaceItems_write {α : Type} {f : Recognizer α} (h : Reads f fun _ => none)
    (replacement : α → List Char) (segs : List Segment) :
    replaceItems f replacement (Segment.write segs) = Segment.write segs := by
  refine replaceItems_of_scan ?_
  rw [scan, h.scanFrom_write, Segment.write, List.map_flatMap]
  congr 1
  funext s
  cases s <;> rfl

/-! ### Plain characters -/

/-- What stays of a token without its tag. -/
def Token.plainChars : Token → List Char
  | plain p => ' ' :: p.chars
  | tag _ mark? => (mark?.map Mark.char).toList

namespace AnnotatedText

variable (t : AnnotatedText)

/-- The text without its tags. -/
def plainChars : List Char := t.first.chars ++ t.rest.flatMap Token.plainChars

/-- Whatever keeps the plain segments and no tags leaves the plain characters. -/
theorem write_filter_segments {keep : Segment → Bool} (hplain : ∀ s p, keep (.plain s p) = true)
    (htag : ∀ τ, keep (.tag τ) = false) :
    Segment.write (t.segments.filter keep) = t.plainChars := by
  have hrest : ∀ rest : List Token, Segment.write ((rest.flatMap Token.segments).filter keep)
      = rest.flatMap Token.plainChars := by
    intro rest
    induction rest with
    | nil => rfl
    | cons τ rest ih =>
      rw [List.flatMap_cons, List.filter_append, Segment.write_append, ih, List.flatMap_cons]
      cases τ with
      | plain p => simp [Token.segments, hplain, Segment.chars, Token.plainChars]
      | tag τ mark? =>
        cases mark? <;>
          simp [Token.segments, hplain, htag, Segment.chars, Token.plainChars, Mark.token]
  rw [segments, List.filter_cons, if_pos (hplain _ _), Segment.write_cons, hrest]
  simp [plainChars, Segment.chars]

/-- The values of the segments are those of the tags. -/
theorem filterMap_segments {α : Type} (value? : Tag → Option α) :
    t.segments.filterMap (Segment.value? value?) = t.tags.filterMap value? := by
  have hrest : ∀ rest : List Token, (rest.flatMap Token.segments).filterMap (Segment.value? value?)
      = (rest.filterMap Token.tag?).filterMap value? := by
    intro rest
    induction rest with
    | nil => rfl
    | cons τ rest ih =>
      rw [List.flatMap_cons, List.filterMap_append, ih]
      cases τ with
      | plain p => rfl
      | tag τ mark? =>
        cases hvalue : value? τ <;> cases mark? <;>
          simp [Token.segments, Token.tag?, Segment.value?, hvalue]
  rw [segments, List.filterMap_cons, hrest]
  rfl

/-! ### Words -/

theorem head?_plainChars_rest (rest : List Token) :
    ∀ c ∈ (rest.flatMap Token.plainChars).head?, isWordChar c = false := by
  induction rest with
  | nil => simp
  | cons τ rest ih =>
    rw [List.flatMap_cons]
    cases τ with
    | plain p =>
      simp only [Token.plainChars, List.cons_append, List.head?_cons, Option.mem_some_iff]
      rintro _ rfl
      decide
    | tag τ mark? =>
      cases mark? with
      | none => simpa [Token.plainChars] using ih
      | some m => simpa [Token.plainChars] using m.isWordChar_eq_false

/-- **The words that stay are those of the plain tokens.** -/
theorem runs_plainChars :
    runs isWordChar t.plainChars = t.plainTokens.flatMap fun p => runs isWordChar p.chars := by
  have hrest : ∀ rest : List Token, runs isWordChar (rest.flatMap Token.plainChars)
      = (rest.filterMap Token.plain?).flatMap fun p => runs isWordChar p.chars := by
    intro rest
    induction rest with
    | nil => rfl
    | cons τ rest ih =>
      rw [List.flatMap_cons, runs_append_of_after (head?_plainChars_rest rest), ih]
      cases τ with
      | plain p =>
        rw [Token.plainChars, runs_cons (by decide)]
        rfl
      | tag τ mark? =>
        cases mark? with
        | none => rfl
        | some m =>
          have hm : runs isWordChar [m.char] = [] :=
            runs_eq_nil (by simpa using m.isWordChar_eq_false)
          have hplain : Token.plainChars (.tag τ (some m)) = [m.char] := rfl
          rw [hplain, hm]
          rfl
  rw [plainChars, runs_append_of_after (head?_plainChars_rest t.rest), hrest, plainTokens,
    List.flatMap_cons]

/-- Plain characters are ASCII. -/
theorem isAscii_plainChars : IsAscii t.plainChars := by
  have hplain : ∀ p : PlainToken, ∀ c ∈ p.chars, c.toNat < 0x80 := fun p c hc => by
    have h := p.isPlain c hc
    simp only [isPlainChar, Bool.and_eq_true, decide_eq_true_eq] at h
    exact h.1.1
  intro c hc
  rcases List.mem_append.mp hc with hc | hc
  · exact hplain _ c hc
  · obtain ⟨τ, -, hc⟩ := List.mem_flatMap.mp hc
    cases τ with
    | plain p =>
      rcases List.mem_cons.mp hc with rfl | hc
      · decide
      · exact hplain p c hc
    | tag τ mark? =>
      cases mark? with
      | none => cases hc
      | some m => exact hplain m.token c hc

end AnnotatedText

end Markup

/-! ### Extraction -/

namespace Extract

open Markup Text

variable (t : AnnotatedText)

theorem withoutSpans_annotated : withoutSpans t.chars = t.chars := by
  rw [withoutSpans, ← t.write_segments, dropItems, dropItems,
    (reads_span? .note).replaceItems_write, reads_anyMark?.replaceItems_write]

theorem joined_annotated : joined t.chars = t.plainChars := by
  rw [joined, ← t.write_segments, reads_upperTag?.dropItems_write]
  exact t.write_filter_segments (fun _ _ => rfl) fun _ => rfl

theorem reads_spacedStrongs? : Reads spacedStrongs? Tag.number? :=
  (readsTags_strongs? fun c hc => by simp [isLanguageAnyCase, hc]).reads_afterBlank

theorem reads_spacedMorph? : Reads spacedMorph? Tag.morph? :=
  readsTags_morph?.reads_afterBlank

theorem separated_annotated : separated t.chars = t.plainChars := by
  have hboth : ∀ τ : Tag, (τ.number?.isNone && τ.morph?.isNone) = false := fun τ => by
    cases τ <;> rfl
  have hdrop : dropItems spacedMorph? (dropItems spacedStrongs? t.chars) = t.plainChars := by
    rw [← t.write_segments, reads_spacedStrongs?.dropItems_write,
      reads_spacedMorph?.dropItems_write, List.filter_filter]
    refine t.write_filter_segments (fun _ _ => rfl) fun τ => ?_
    simpa [Segment.value?, Bool.and_comm] using hboth τ
  rw [separated, hdrop, List.filter_eq_self]
  exact fun c hc => by simpa using t.isAscii_plainChars c hc

/-- **The words of an annotated text are those of its plain tokens.** -/
theorem mem_words_annotated {w : List Char} :
    w ∈ (ofText t.chars).words ↔ ∃ p ∈ t.plainTokens, w ∈ runs isWordChar p.chars := by
  simp [ofText, withoutSpans_annotated, separated_annotated, joined_annotated, t.runs_plainChars,
    List.mem_eraseDups]

theorem items_annotated {α : Type} {f : Recognizer α} {value? : Tag → Option α}
    (h : Reads f value?) : items f t.chars = t.tags.filterMap value? := by
  rw [← t.write_segments, h.items_write, t.filterMap_segments]

/-- The Strong's numbers of an annotated text, in order. -/
theorem strongs_annotated : (ofText t.chars).strongs = t.tags.filterMap Tag.number? := by
  rw [ofText, withoutSpans_annotated]
  exact items_annotated t reads_spacedStrongs?

/-- The morphology tags of an annotated text, in order. -/
theorem morph_annotated : (ofText t.chars).morph = t.tags.filterMap Tag.morph? := by
  rw [ofText, withoutSpans_annotated]
  exact items_annotated t reads_spacedMorph?

/-- An annotated text is found by its words and by what the brackets of its tags hold. -/
theorem mem_keys_annotated {k : List Char} :
    k ∈ (ofText t.chars).keys ↔ k ∈ (ofText t.chars).words ∨ ∃ τ ∈ t.tags, τ.body = k := by
  have hbody : ∀ τ : Tag, τ.body = k ↔ τ.number? = some k ∨ τ.morph? = some k := by
    intro τ
    cases τ <;> simp [Tag.body, Tag.number?, Tag.morph?]
  rw [keys, List.mem_append, List.mem_append, strongs_annotated, morph_annotated,
    List.mem_filterMap, List.mem_filterMap]
  simp only [hbody, and_or_left, exists_or]
  exact or_comm

end Extract

/-! ### Rendering -/

namespace Rendering

open Markup Text

/-- Whether a rendering keeps a segment. -/
def keeps (r : Rendering) : Segment → Bool
  | .plain _ _ => true
  | .tag (.strongs _ _ _ _ _) => r.strongs
  | .tag (.morph _ _ _) => r.morph

theorem dropStrongs_write (segs : List Segment) :
    dropStrongs (Segment.write segs)
      = Segment.write (segs.filter fun s => (s.value? Tag.number?).isNone) :=
  (readsTags_strongs? fun _ hc => hc).reads_trimStart.dropItems_write segs

theorem dropMorph_write (segs : List Segment) :
    dropMorph (Segment.write segs)
      = Segment.write (segs.filter fun s => (s.value? Tag.morph?).isNone) :=
  readsTags_morph?.reads_trimStart.dropItems_write segs

theorem dropSpans_write (k : SpanKind) (segs : List Segment) :
    dropSpans k (Segment.write segs) = Segment.write segs :=
  (reads_span? k).replaceItems_write _ segs

theorem dropMarkers_write (k : SpanKind) (segs : List Segment) :
    dropMarkers k (Segment.write segs) = Segment.write segs :=
  (reads_marker? k).replaceItems_write _ segs

/-- The tags that are not wanted go, each with its space. -/
theorem dropTags_write (r : Rendering) (segs : List Segment) :
    passIf (!r.morph) dropMorph (passIf (!r.strongs) dropStrongs (Segment.write segs))
      = Segment.write (segs.filter r.keeps) := by
  have hall : ∀ keep keep' : Segment → Bool, (∀ s, keep s = keep' s) →
      segs.filter keep = segs.filter keep' := fun keep keep' h =>
    List.filter_congr fun s _ => h s
  have htrue : segs.filter (fun _ => true) = segs := List.filter_eq_self.mpr fun _ _ => rfl
  cases hs : r.strongs <;> cases hm : r.morph <;>
    simp only [passIf, Bool.not_true, Bool.not_false, if_true, Bool.false_eq_true, if_false,
      dropStrongs_write, dropMorph_write, List.filter_filter]
  · rw [hall _ r.keeps]
    rintro (⟨_, _⟩ | ⟨_⟩ | _) <;> simp [keeps, Segment.value?, Tag.number?, Tag.morph?, hs, hm]
  · rw [hall _ r.keeps]
    rintro (⟨_, _⟩ | ⟨_⟩ | _) <;> simp [keeps, Segment.value?, Tag.number?, hs, hm]
  · rw [hall _ r.keeps]
    rintro (⟨_, _⟩ | ⟨_⟩ | _) <;> simp [keeps, Segment.value?, Tag.morph?, hs, hm]
  · rw [hall r.keeps (fun _ => true), htrue]
    rintro (⟨_, _⟩ | ⟨_⟩ | _) <;> simp [keeps, hs, hm]

theorem getLast?_write (segs : List Segment) :
    ∀ c ∈ (Segment.write segs).getLast?, isBlank c = false := by
  have hsegment : ∀ s : Segment, ∀ c ∈ s.chars.getLast?, isBlank c = false := by
    rintro (⟨spaced, p⟩ | ⟨letter, digits, _, _, _⟩ | ⟨body, _, _⟩) c hc
    · have hlast : p.chars.getLast? = some (p.chars.getLast p.ne_nil) :=
        List.getLast?_eq_some_getLast _
      rw [Segment.chars, List.getLast?_append, hlast] at hc
      obtain rfl := Option.some.inj hc
      exact (isDull_of_isPlainChar (p.isPlain _ (List.getLast_mem _))).1
    · have hlast : (' ' :: '<' :: letter :: digits ++ ['>']).getLast? = some '>' :=
        List.getLast?_concat
      obtain rfl := Option.some.inj (hlast.symm.trans hc)
      decide
    · have hlast : (' ' :: '\x7b' :: body ++ ['\x7d']).getLast? = some '\x7d' :=
        List.getLast?_concat
      obtain rfl := Option.some.inj (hlast.symm.trans hc)
      decide
  induction segs with
  | nil => simp
  | cons s segs ih =>
    rw [Segment.write_cons, List.getLast?_append]
    intro c hc
    cases hlast : (Segment.write segs).getLast? with
    | none => exact hsegment s c (by simpa [hlast] using hc)
    | some d => exact ih c (by simpa [hlast] using hc)

/-- **A rendered text consists of the segments that are kept.** -/
theorem render_annotated (r : Rendering) (t : AnnotatedText) :
    r.render t.chars = Segment.write (t.segments.filter r.keeps) := by
  have hhead : ∀ c ∈ (Segment.write (t.segments.filter r.keeps)).head?, isBlank c = false := by
    obtain ⟨c, cs, hcs⟩ := List.exists_cons_of_ne_nil t.first.ne_nil
    have hc := isDull_of_isPlainChar (t.first.isPlain c (by simp [hcs]))
    simpa [AnnotatedText.segments, List.filter_cons, keeps, Segment.chars, hcs] using hc.1
  have hnotes : ∀ segs, showNotes (Segment.write segs) = Segment.write segs :=
    (reads_span? .note).replaceItems_write showNote
  have hpass : ∀ (wanted : Bool) (pass : List Char → List Char) (segs : List Segment),
      pass (Segment.write segs) = Segment.write segs →
      passIf wanted pass (Segment.write segs) = Segment.write segs := by
    intro wanted pass segs h
    cases wanted <;> simp [passIf, h]
  simp only [render, ← t.write_segments, dropTags_write, hpass _ _ _ (dropSpans_write _ _),
    hpass _ _ _ (dropMarkers_write _ _), dropSpans_write, dropMarkers_write, hnotes, ite_self]
  exact trim_eq_self hhead (getLast?_write _)

/-- Without tags, the plain characters are left. -/
theorem render_annotated_plain {r : Rendering} (hs : r.strongs = false) (hm : r.morph = false)
    (t : AnnotatedText) : r.render t.chars = t.plainChars := by
  rw [render_annotated]
  exact t.write_filter_segments (fun _ _ => rfl) fun τ => by cases τ <;> simp [keeps, hs, hm]

end Rendering

end Concordance
