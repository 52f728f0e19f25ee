import Concordance.Proofs.Markup.Layout

/-!
# Rendering item by item

Each pass of a rendering works on what the passes before it have left. A recognizer is quiet if it reads
nothing within words, and nothing at a space that is not right before something it reads. All recognizers
of a rendering are quiet, and each of them skips the signs of the others. So a pass takes a row of blocks
apart block by block, and leaves a row of blocks: it never eats the space or the sign of a neighbour. The
one block that depends on what follows is the space before a span whose marks have gone. No span follows it
without a space of its own, and tags are read before any marks go.

## Main definitions

* `Markup.Layout.Quiet`, `Markup.Layout.Skips` — what the recognizers of a rendering pass over
* `Markup.Layout.Fits` — the rows of blocks that the passes leave

## Main results

* `Markup.Layout.dropTags_write` — a pass for tags, block by block
* `Markup.Layout.dropSpans_write`, `Markup.Layout.dropMarkers_write` — the passes for spans
* `Rendering.render_layout` — a rendering shows what it is expected to show, item by item
-/

namespace Concordance

namespace Markup

namespace Layout

open Text

variable {α : Type} {f : Recognizer α}

/-! ### Quiet recognizers -/

/-- A recognizer that reads nothing at a dull character, and nothing at a space unless it reads something
right after it. -/
structure Quiet (f : Recognizer α) : Prop where
  steady : IsSteady f
  dull : ∀ {c : Char} (cs : List Char), IsDull c → f false (c :: cs) = none
  spaced : ∀ {c : Char} {cs : List Char}, isBlank c = false → f false (c :: cs) = none →
    f false (' ' :: c :: cs) = none

/-- A recognizer reads nothing where a sign stands. -/
def Skips (f : Recognizer α) (sign : List Char) : Prop := ∀ rest, f false (sign ++ rest) = none

/-- A sign starts with a character that is no blank, and goes on with dull ones. -/
def IsSign (sign : List Char) : Prop :=
  ∃ c cs, sign = c :: cs ∧ isBlank c = false ∧ ∀ d ∈ cs, IsDull d

theorem isDull_of_allows {k : TagKind} {body : List Char} (h : k.Allows body) :
    ∀ c ∈ body, IsDull c := by
  cases k with
  | strongs =>
    obtain ⟨l, ds, rfl, hl, -, hds⟩ := h
    have hchars : ∀ c ∈ l :: ds, (isLanguageAnyCase c || isDigit c) = true := by
      rintro c (_ | ⟨_, hc⟩)
      · simp [isLanguageAnyCase, hl]
      · simp [hds c hc]
    exact fun c hc => (within_of_forall hchars (fun _ => isNumberChar_of_isBlank) (by decide) c hc).1
  | morph =>
    exact fun c hc => (within_of_forall h.2 (fun _ => isTagChar_of_isBlank) (by decide) c hc).1

theorem isSign_enclosed {k : TagKind} {body : List Char} (h : k.Allows body) :
    IsSign (k.enclosed body) := by
  refine ⟨k.opening, body ++ [k.closing], rfl, by cases k <;> decide, fun d hd => ?_⟩
  rcases List.mem_append.mp hd with hd | hd
  · exact isDull_of_allows h d hd
  · rw [List.mem_singleton.mp hd]
    cases k <;> decide

theorem isSign_opening (k : SpanKind) : IsSign k.opening := by
  refine ⟨'<', _, rfl, by decide, List.forall_mem_cons.mpr ⟨?_, List.forall_mem_singleton.mpr ?_⟩⟩
  · cases k <;> decide
  · decide

theorem isSign_closing (k : SpanKind) : IsSign k.closing := by
  refine ⟨'<', _, rfl, by decide, List.forall_mem_cons.mpr ⟨by decide, ?_⟩⟩
  refine List.forall_mem_cons.mpr ⟨?_, List.forall_mem_singleton.mpr ?_⟩
  · cases k <;> decide
  · decide

namespace Quiet

variable (h : Quiet f)

include h

theorem isSilent_run (w : Run) (rest : List Char) : IsSilent f w.chars rest :=
  isSilent_of_forall (fun c hc => isDull_of_isFreeChar (w.isFree c hc)) (fun _ cs hc => h.dull cs hc)
    rest

/-- A sign that is skipped is passed over, and so is the space before it. -/
theorem isSilent_sign {sign : List Char} (hsign : IsSign sign) (hskip : Skips f sign)
    (spaced : Bool) (rest : List Char) : IsSilent f (space spaced ++ sign) rest := by
  obtain ⟨c, cs, rfl, hc, hdull⟩ := hsign
  have hfirst : f false (c :: (cs ++ rest)) = none := hskip rest
  have hsilent : IsSilent f (c :: cs) rest :=
    ⟨hfirst, isSilent_of_forall hdull (fun _ cs hc => h.dull cs hc) rest⟩
  cases spaced with
  | false => exact hsilent
  | true => exact ⟨h.spaced hc hfirst, hsilent⟩

/-- Words and marks are passed over, and tags that are skipped. -/
theorem isSilent_bit {b : Bit} (hskip : ∀ k body hbody, b = .tag k body hbody → Skips f (k.enclosed body))
    (rest : List Char) : IsSilent f b.chars rest := by
  cases b with
  | word w hne =>
    obtain ⟨c, cs, hcs⟩ := List.exists_cons_of_ne_nil hne
    have hc : IsDull c := isDull_of_isFreeChar (w.isFree c (by simp [hcs]))
    refine ⟨?_, h.isSilent_run w rest⟩
    rw [hcs, List.cons_append]
    exact h.spaced hc.1 (h.dull _ hc)
  | mark w => exact h.isSilent_run w rest
  | tag k body hbody => exact h.isSilent_sign (isSign_enclosed hbody) (hskip k body hbody rfl) true rest

/-- Elements are passed over if all tags are skipped. -/
theorem isSilent_bits (hskip : ∀ k body, k.Allows body → Skips f (TagKind.enclosed k body))
    (bs : List Bit) (rest : List Char) : IsSilent f (Bit.write bs) rest := by
  induction bs with
  | nil => exact trivial
  | cons b bs ih =>
    exact IsSilent.append (h.isSilent_bit (fun k body hbody _ => hskip k body hbody) _) ih

end Quiet

/-! ### Recognizers of tags -/

/-- Reads a tag of a kind. -/
def tagAt? : TagKind → List Char → Option (List Char × List Char)
  | .strongs => strongs? isLanguage
  | .morph => morph?

theorem tagAt?_eq_some_iff {k : TagKind} {cs body rest : List Char} :
    tagAt? k cs = some (body, rest) ↔ k.Allows body ∧ cs = k.enclosed body ++ rest := by
  cases k with
  | strongs => simp [tagAt?, strongs?_eq_some_iff, TagKind.Allows, TagKind.enclosed, TagKind.opening,
      TagKind.closing]
  | morph => simp [tagAt?, morph?_eq_some_iff, TagKind.Allows, TagKind.enclosed, TagKind.opening,
      TagKind.closing, and_assoc]

/-- Reads a tag of a kind with the blanks before it. -/
def spacedTagAt? (k : TagKind) : Recognizer (List Char) := fun _ cs => tagAt? k (trimStart cs)

theorem tagAt?_of_ne {k : TagKind} {c : Char} (hc : c ≠ k.opening) (cs : List Char) :
    tagAt? k (c :: cs) = none := by
  rw [Option.eq_none_iff_forall_ne_some]
  rintro ⟨body, rest⟩ hread
  exact hc (List.cons.inj (tagAt?_eq_some_iff.mp hread).2).1

theorem spacedTagAt?_of_not_blank {k : TagKind} {c : Char} (hc : isBlank c = false) (b : Bool)
    (cs : List Char) : spacedTagAt? k b (c :: cs) = tagAt? k (c :: cs) := by
  rw [spacedTagAt?, trimStart_of_not_blank hc]

theorem quiet_spacedTagAt? (k : TagKind) : Quiet (spacedTagAt? k) where
  steady := by
    refine ⟨fun _ _ => rfl, fun {cs body rest} hread => ?_⟩
    have htext := congrArg List.length (tagAt?_eq_some_iff.mp hread).2
    have htrim : (trimStart cs).length ≤ cs.length := (List.dropWhile_suffix _).length_le
    simp only [TagKind.enclosed, List.cons_append, List.length_cons, List.length_append] at htext
    omega
  dull cs hc := by
    rw [spacedTagAt?_of_not_blank hc.1]
    exact tagAt?_of_ne (by cases k; exacts [hc.2.1, hc.2.2]) cs
  spaced hc hread := by
    rwa [spacedTagAt?, trimStart_space hc, ← trimStart_of_not_blank hc]

/-- Tags of another kind are skipped. -/
theorem skips_spacedTagAt?_tag {k k' : TagKind} (hk : k' ≠ k) (body : List Char) :
    Skips (spacedTagAt? k) (k'.enclosed body) := by
  have hopening : k'.opening ≠ k.opening := by
    cases k <;> cases k' <;> first | exact absurd rfl hk | decide
  intro rest
  rw [TagKind.enclosed, List.cons_append, List.cons_append,
    spacedTagAt?_of_not_blank (by cases k' <;> decide)]
  exact tagAt?_of_ne hopening _

/-- The marks of spans are skipped. -/
theorem skips_spacedTagAt?_mark (k : TagKind) {c : Char} (hc : isLanguage c = false)
    (cs : List Char) : Skips (spacedTagAt? k) ('<' :: c :: cs) := by
  intro rest
  rw [List.cons_append, spacedTagAt?_of_not_blank (by decide), Option.eq_none_iff_forall_ne_some]
  rintro ⟨body, rest'⟩ hread
  obtain ⟨hbody, htext⟩ := tagAt?_eq_some_iff.mp hread
  cases k with
  | morph => exact absurd (List.cons.inj htext).1 (by decide)
  | strongs =>
    obtain ⟨l, ds, rfl, hl, -⟩ := hbody
    obtain ⟨rfl, -⟩ := List.cons.inj (List.cons.inj htext).2
    rw [hc] at hl
    cases hl

theorem skips_spacedTagAt?_opening (k : TagKind) (k' : SpanKind) :
    Skips (spacedTagAt? k) k'.opening :=
  skips_spacedTagAt?_mark k (by cases k' <;> decide) _

theorem skips_spacedTagAt?_closing (k : TagKind) (k' : SpanKind) :
    Skips (spacedTagAt? k) k'.closing :=
  skips_spacedTagAt?_mark k (by decide) _

/-! ### Recognizers of spans -/

/-- Reads the closing mark of a kind. -/
def closingAt? (k : SpanKind) : Recognizer Unit :=
  fun _ cs => after? k.closing cs |>.map fun rest => ((), rest)

/-- No mark of a kind starts a text. -/
def Unmarked (k : SpanKind) (cs : List Char) : Prop :=
  after? k.opening cs = none ∧ after? k.closing cs = none

theorem unmarked_cons (k : SpanKind) {c : Char} (hc : c ≠ '<') (cs : List Char) :
    Unmarked k (c :: cs) := by
  simp [Unmarked, SpanKind.opening, SpanKind.closing, after?, hc.symm]

theorem unmarked_enclosed (k : SpanKind) {k' : TagKind} {body : List Char} (h : k'.Allows body)
    (rest : List Char) : Unmarked k (k'.enclosed body ++ rest) := by
  cases k' with
  | morph => exact unmarked_cons k (by decide) _
  | strongs =>
    obtain ⟨l, ds, rfl, hl, -⟩ := h
    have hne : ∀ c, isLanguage c = false → c ≠ l := by
      rintro c hc rfl
      rw [hl] at hc
      cases hc
    simp [Unmarked, TagKind.enclosed, TagKind.opening, SpanKind.opening, SpanKind.closing, after?,
      hne k.letter (by cases k <;> decide), hne '/' (by decide)]

theorem unmarked_opening {k k' : SpanKind} (hk : k' ≠ k) (rest : List Char) :
    Unmarked k (k'.opening ++ rest) := by
  cases k <;> cases k' <;> first | exact absurd rfl hk | exact ⟨rfl, rfl⟩

theorem unmarked_closing {k k' : SpanKind} (hk : k' ≠ k) (rest : List Char) :
    Unmarked k (k'.closing ++ rest) := by
  cases k <;> cases k' <;> first | exact absurd rfl hk | exact ⟨rfl, rfl⟩

theorem skipBlank_of_not_blank {c : Char} (hc : isBlank c = false) (cs : List Char) :
    skipBlank (c :: cs) = c :: cs := by
  simp [skipBlank, hc]

@[simp] theorem skipBlank_space (cs : List Char) : skipBlank (' ' :: cs) = cs := rfl

/-- A recognizer of marks of a kind reads nothing where no mark of the kind stands. -/
structure ReadsMarks (k : SpanKind) (f : Recognizer α) : Prop where
  quiet : Quiet f
  unmarked : ∀ {c : Char} {cs : List Char}, isBlank c = false → Unmarked k (c :: cs) →
    f false (c :: cs) = none
  /-- A blank is read with a mark right after it only. -/
  gap : ∀ {cs : List Char}, (∀ c ∈ cs.head?, c ≠ '<') → f false (' ' :: cs) = none

theorem unmarked_of_head? (k : SpanKind) {cs : List Char} (h : ∀ c ∈ cs.head?, c ≠ '<') :
    Unmarked k cs := by
  cases cs with
  | nil => exact ⟨rfl, rfl⟩
  | cons c cs => exact unmarked_cons k (h c rfl) cs

/-- Whatever starts with no mark of the kind is skipped. -/
theorem ReadsMarks.skips {k : SpanKind} (h : ReadsMarks k f) {sign : List Char} (hsign : IsSign sign)
    (hunmarked : ∀ rest, Unmarked k (sign ++ rest)) : Skips f sign := by
  obtain ⟨c, cs, rfl, hc, -⟩ := hsign
  exact fun rest => h.unmarked hc (hunmarked rest)

theorem after?_closing_of_ne (k : SpanKind) {c : Char} (hc : c ≠ '<') (cs : List Char) :
    after? k.closing (c :: cs) = none :=
  (unmarked_cons k hc cs).2

theorem length_lt_of_after? {mark cs rest : List Char} (hne : mark ≠ [])
    (h : after? mark cs = some rest) : rest.length < cs.length := by
  have hlength := List.length_pos_of_ne_nil hne
  rw [after?_eq_some_iff.mp h, List.length_append]
  omega

theorem length_skipBlank_le (cs : List Char) : (skipBlank cs).length ≤ cs.length := by
  cases cs with
  | nil => exact Nat.le_refl _
  | cons c cs =>
    rw [skipBlank]
    split <;> simp

theorem readsMarks_closingAt? (k : SpanKind) : ReadsMarks k (closingAt? k) where
  quiet := by
    refine ⟨⟨fun _ _ => rfl, fun hread => ?_⟩, fun cs hc => ?_, fun _ _ => ?_⟩
    · obtain ⟨rest, hafter, heq⟩ := Option.map_eq_some_iff.mp hread
      obtain ⟨-, rfl⟩ := Prod.mk.inj heq
      exact length_lt_of_after? (List.cons_ne_nil _ _) hafter
    · rw [closingAt?, after?_closing_of_ne k hc.2.1, Option.map_none]
    · rw [closingAt?, after?_closing_of_ne k (by decide), Option.map_none]
  unmarked _ h := by rw [closingAt?, h.2, Option.map_none]
  gap _ := by rw [closingAt?, after?_closing_of_ne k (by decide), Option.map_none]

theorem span?_eq_some {k : SpanKind} {cs content rest : List Char}
    (h : span? k cs = some (content, rest)) : ∃ inner, after? k.opening (skipBlank cs) = some inner ∧
      ∃ before, breakAt? k.closing (skipBlank inner) = some (before, rest) := by
  simp only [span?, Option.bind_eq_bind, Option.bind_eq_some_iff, Option.pure_def,
    Option.some.injEq] at h
  obtain ⟨inner, hopen, ⟨before, rest'⟩, hbreak, heq⟩ := h
  obtain ⟨-, rfl⟩ := Prod.mk.inj heq
  exact ⟨inner, hopen, before, hbreak⟩

theorem span?_of_after? {k : SpanKind} {cs : List Char} (h : after? k.opening (skipBlank cs) = none) :
    span? k cs = none := by
  rw [span?, h]
  rfl

theorem readsMarks_span? (k : SpanKind) : ReadsMarks k (fun _ cs => span? k cs) where
  quiet := by
    refine ⟨⟨fun _ _ => rfl, fun {cs content rest} hread => ?_⟩, fun cs hc => ?_, fun hc hread => ?_⟩
    · obtain ⟨inner, hopen, before, hbreak⟩ := span?_eq_some hread
      have hinner := length_lt_of_after? (List.cons_ne_nil _ _) hopen
      have hrest := congrArg List.length (eq_of_breakAt? hbreak)
      have hskip := length_skipBlank_le cs
      have hskip' := length_skipBlank_le inner
      simp only [List.length_append] at hrest
      omega
    · refine span?_of_after? ?_
      rw [skipBlank_of_not_blank hc.1]
      exact (unmarked_cons k hc.2.1 cs).1
    · rwa [span?, skipBlank_space, ← skipBlank_of_not_blank hc]
  unmarked hc h := span?_of_after? (by rw [skipBlank_of_not_blank hc]; exact h.1)
  gap hcs := span?_of_after? (unmarked_of_head? k hcs).1

theorem readsMarks_marker? (k : SpanKind) : ReadsMarks k (fun _ cs => marker? k cs) where
  quiet := by
    refine ⟨⟨fun _ _ => rfl, fun {cs u rest} hread => ?_⟩, fun cs hc => ?_, fun hc hread => ?_⟩
    · rw [marker?] at hread
      split at hread
      · rename_i inner hopen
        obtain ⟨-, rfl⟩ := Prod.mk.inj (Option.some.inj hread)
        have hinner := length_lt_of_after? (List.cons_ne_nil _ _) hopen
        have hskip := length_skipBlank_le inner
        omega
      · obtain ⟨rest', hclose, heq⟩ := Option.map_eq_some_iff.mp hread
        obtain ⟨-, rfl⟩ := Prod.mk.inj heq
        have hrest := length_lt_of_after? (List.cons_ne_nil _ _) hclose
        have hskip := length_skipBlank_le cs
        omega
    · rw [marker?, (unmarked_cons k hc.2.1 cs).1, skipBlank_of_not_blank hc.1,
        (unmarked_cons k hc.2.1 cs).2, Option.map_none]
    · rw [marker?] at hread
      split at hread
      · cases hread
      · rwa [marker?, (unmarked_cons k (by decide) _).1, skipBlank_space, ← skipBlank_of_not_blank hc]
  unmarked hc h := by rw [marker?, h.1, skipBlank_of_not_blank hc, h.2, Option.map_none]
  gap hcs := by
    rw [marker?, (unmarked_cons k (by decide) _).1, skipBlank_space, (unmarked_of_head? k hcs).2,
      Option.map_none]

/-- Elements are passed over by recognizers of marks. -/
theorem ReadsMarks.isSilent_bits {k : SpanKind} (h : ReadsMarks k f) (bs : List Bit)
    (rest : List Char) : IsSilent f (Bit.write bs) rest :=
  h.quiet.isSilent_bits (fun _ _ hbody =>
    h.skips (isSign_enclosed hbody) fun rest => unmarked_enclosed k hbody rest) bs rest

/-! ### Rows of blocks -/

/-- The content of a span starts with characters, if there are any. -/
def Bit.IsTight (bs : List Bit) : Prop := bs = [] ∨ ∃ w rest, w.chars ≠ [] ∧ bs = .mark w :: rest

/-- The content of a block that is a span is tight. -/
def Block.IsTight : Block → Prop
  | span _ _ content => Bit.IsTight content
  | _ => True

/-- No mark of a span stands where the block starts. -/
def Block.isCalm : Block → Bool
  | span _ spaced _ => spaced
  | _ => true

/-- A row of blocks as the passes leave it: the spans are tight, and those after the first block have a
space before them. -/
structure Fits (ps : List Block) : Prop where
  tight : ∀ p ∈ ps, p.IsTight
  calm : ∀ p ∈ ps.tail, p.isCalm = true

theorem Bit.head?_write {bs : List Bit} (h : Bit.IsTight bs) :
    ∀ c ∈ (Bit.write bs).head?, isBlank c = false := by
  obtain rfl | ⟨w, rest, hne, rfl⟩ := h
  · simp
  · obtain ⟨c, cs, hcs⟩ := List.exists_cons_of_ne_nil hne
    have hc := isDull_of_isFreeChar (w.isFree c (by simp [hcs]))
    simpa [Bit.chars, hcs] using hc.1

theorem Run.getLast? (w : Run) : ∀ c ∈ w.chars.getLast?, isBlank c = false := fun c hc =>
  (isDull_of_isFreeChar (w.isFree c (List.mem_of_getLast? hc))).1

theorem Bit.getLast?_chars (b : Bit) : ∀ c ∈ b.chars.getLast?, isBlank c = false := by
  cases b with
  | word w hne =>
    obtain ⟨d, ds, hds⟩ := List.exists_cons_of_ne_nil hne
    have hlast := w.getLast?
    rw [hds] at hlast
    rwa [Bit.chars, hds, List.getLast?_cons_cons]
  | mark w => exact w.getLast?
  | tag k body hbody =>
    have hclosing : isBlank k.closing = false := by cases k <;> decide
    simpa [Bit.chars, TagKind.enclosed, List.getLast?_cons] using hclosing

/-- Bits never end with a blank. -/
theorem Bit.getLast?_write (bs : List Bit) : ∀ c ∈ (Bit.write bs).getLast?, isBlank c = false := by
  induction bs with
  | nil => simp
  | cons b bs ih =>
    intro c hc
    rw [Bit.write_cons, List.getLast?_append, Option.mem_def, Option.or_eq_some_iff] at hc
    obtain hc | ⟨-, hc⟩ := hc
    · exact ih c hc
    · exact b.getLast?_chars c hc

theorem dropLastBlank_of_not_blank {cs : List Char} (h : ∀ c ∈ cs.getLast?, isBlank c = false) :
    dropLastBlank cs = cs := by
  rw [dropLastBlank]
  split
  · rename_i c hc
    rw [if_neg (by simp [h c hc])]
  · rfl

/-- Calm blocks start with no sign of a span. -/
theorem head?_write_of_isCalm {ps : List Block} (h : ∀ p ∈ ps, p.isCalm = true) :
    ∀ c ∈ (Block.write ps).head?, c ≠ '<' := by
  induction ps with
  | nil => simp
  | cons p ps ih =>
    obtain ⟨hp, hps⟩ := List.forall_mem_cons.mp h
    have hrest := ih hps
    have hspace : ' ' ≠ '<' := by decide
    rw [Block.write_cons]
    cases p with
    | gap => simp [Block.chars]
    | span k spaced content =>
      obtain rfl : spaced = true := hp
      simp [Block.chars, space]
    | bit b =>
      cases b with
      | word w hne => simp [Block.chars, Bit.chars]
      | tag k body hbody => simp [Block.chars, Bit.chars]
      | mark w =>
        cases hw : w.chars with
        | nil => simpa [Block.chars, Bit.chars, hw] using hrest
        | cons c cs =>
          have hc := isDull_of_isFreeChar (w.isFree c (by simp [hw]))
          simpa [Block.chars, Bit.chars, hw] using hc.2.1

/-- **A pass takes a row apart block by block**, if it does so with a single block whatever follows. -/
theorem replaceItems_write {replacement : α → List Char} {ok : Block → Prop} {out : Block → List Char}
    (hout : ∀ p, ok p → ∀ rest : List Char, (∀ c ∈ rest.head?, c ≠ '<') →
      replaceItems f replacement (p.chars ++ rest) = out p ++ replaceItems f replacement rest)
    {ps : List Block} (hok : ∀ p ∈ ps, ok p) (hcalm : ∀ p ∈ ps.tail, p.isCalm = true) :
    replaceItems f replacement (Block.write ps) = ps.flatMap out := by
  induction ps with
  | nil => simp [replaceItems]
  | cons p ps ih =>
    obtain ⟨hp, hps⟩ := List.forall_mem_cons.mp hok
    have hrest := hout p hp (Block.write ps) (head?_write_of_isCalm hcalm)
    rw [Block.write_cons, hrest, List.flatMap_cons]
    exact congrArg _ (ih hps fun q hq => hcalm q (List.mem_of_mem_tail hq))

/-! ### Passes for tags -/

/-- Whether a bit is a tag of a kind. -/
def Bit.isTagOf (k : TagKind) : Bit → Bool
  | tag k' _ _ => k' = k
  | _ => false

/-- What is left of a block if only some bits are kept. -/
def Block.keep (p : Bit → Bool) : Block → List Block
  | bit b => if p b then [bit b] else []
  | gap => [gap]
  | span k spaced content => [span k spaced (content.filter p)]

/-- Leaves out the tags of a kind, each with the blanks before it. -/
def dropTags (k : TagKind) : List Char → List Char := dropItems (spacedTagAt? k)

/-- A tag of the kind is dropped from the bits. -/
theorem dropTags_bits (k : TagKind) (bs : List Bit) (rest : List Char) :
    dropTags k (Bit.write bs ++ rest)
      = Bit.write (bs.filter fun b => !b.isTagOf k) ++ dropTags k rest := by
  have hquiet := quiet_spacedTagAt? k
  induction bs with
  | nil => rfl
  | cons b bs ih =>
    rw [Bit.write_cons, List.append_assoc]
    cases htag : b.isTagOf k with
    | true =>
      rw [List.filter_cons_of_neg (by simp [htag]), ← ih]
      cases b with
      | word _ _ | mark _ => cases htag
      | tag k' body hbody =>
        obtain rfl : k' = k := by simpa [Bit.isTagOf] using htag
        refine hquiet.steady.dropItems_item (tagAt?_eq_some_iff.mpr ⟨hbody, ?_⟩)
        rw [Bit.chars, List.cons_append, TagKind.enclosed, List.cons_append, List.cons_append]
        exact trimStart_space (by cases k' <;> decide) _
    | false =>
      rw [List.filter_cons_of_pos (by simp [htag]), dropTags, dropItems,
        hquiet.steady.replaceItems_append (hquiet.isSilent_bit (fun k' body _ heq => ?_) _)]
      · exact (congrArg _ ih).trans (List.append_assoc ..).symm
      · rw [heq, Bit.isTagOf, decide_eq_false_iff_not] at htag
        exact skips_spacedTagAt?_tag htag body

/-- **A pass for tags drops them from the blocks**, as long as no marks of spans have gone. -/
theorem dropTags_write (k : TagKind) {ps : List Block} (hgap : Block.gap ∉ ps) (hps : Fits ps) :
    dropTags k (Block.write ps)
      = Block.write (ps.flatMap (Block.keep fun b => !b.isTagOf k)) := by
  have hquiet := quiet_spacedTagAt? k
  have hpass : ∀ {xs ys}, IsSilent (spacedTagAt? k) xs ys →
      dropTags k (xs ++ ys) = xs ++ dropTags k ys := fun h => hquiet.steady.replaceItems_append h
  have hblock : ∀ p, p ≠ Block.gap → ∀ rest, dropTags k (p.chars ++ rest)
      = Block.write (p.keep fun b => !b.isTagOf k) ++ dropTags k rest := by
    intro p hp rest
    cases p with
    | gap => exact absurd rfl hp
    | bit b =>
      have hbit := dropTags_bits k [b] rest
      cases htag : b.isTagOf k <;> simpa [Block.chars, Block.keep, htag] using hbit
    | span k' spaced content =>
      have hopening := hquiet.isSilent_sign (isSign_opening k') (skips_spacedTagAt?_opening k k') spaced
      have hclosing := hquiet.isSilent_sign (isSign_closing k') (skips_spacedTagAt?_closing k k') false
      have hwrite : (Block.span k' spaced content).chars ++ rest
          = (space spaced ++ k'.opening) ++ (Bit.write content ++ (k'.closing ++ rest)) := by
        simp [Block.chars]
      have hrest : dropTags k (k'.closing ++ rest) = k'.closing ++ dropTags k rest :=
        hpass (hclosing rest)
      rw [hwrite, hpass (hopening _), dropTags_bits, hrest]
      simp [Block.keep, Block.chars]
  rw [Block.write_flatMap]
  exact replaceItems_write (fun p hp rest _ => hblock p hp rest) (fun p hp heq => hgap (heq ▸ hp))
    hps.calm

/-! ### Passes for spans -/

/-- Whether a block is a span of a kind. -/
def Block.IsSpan (k : SpanKind) (p : Block) : Prop := ∃ spaced content, p = .span k spaced content

/-- **Blocks that are no spans of the kind are passed over.** -/
theorem ReadsMarks.isSilent_block {k : SpanKind} (h : ReadsMarks k f) {p : Block} (hp : ¬ p.IsSpan k)
    {rest : List Char} (hrest : ∀ c ∈ rest.head?, c ≠ '<') : IsSilent f p.chars rest := by
  cases p with
  | bit b => simpa [Block.chars] using h.isSilent_bits [b] rest
  | gap => exact ⟨h.gap hrest, trivial⟩
  | span k' spaced content =>
    have hk : k' ≠ k := by
      rintro rfl
      exact hp ⟨spaced, content, rfl⟩
    have hopening := h.quiet.isSilent_sign (isSign_opening k')
      (h.skips (isSign_opening k') (unmarked_opening hk)) spaced
    have hclosing := h.quiet.isSilent_sign (isSign_closing k')
      (h.skips (isSign_closing k') (unmarked_closing hk)) false
    exact ((hopening _).append (h.isSilent_bits content _)).append (hclosing rest)

/-- No blank stands right after an opening mark. -/
theorem skipBlank_content (k : SpanKind) {content : List Bit} (h : Bit.IsTight content)
    (rest : List Char) : skipBlank (Bit.write content ++ (k.closing ++ rest))
      = Bit.write content ++ (k.closing ++ rest) := by
  have hhead := Bit.head?_write h
  cases hcontent : Bit.write content with
  | nil => rfl
  | cons c cs =>
    rw [hcontent] at hhead
    exact skipBlank_of_not_blank (hhead c rfl) _

/-- A span is read with the space before it. -/
theorem span?_chars (k : SpanKind) (spaced : Bool) {content : List Bit} (h : Bit.IsTight content)
    (rest : List Char) :
    span? k ((Block.span k spaced content).chars ++ rest) = some (Bit.write content, rest) := by
  have hwrite : (Block.span k spaced content).chars ++ rest
      = space spaced ++ (k.opening ++ (Bit.write content ++ (k.closing ++ rest))) := by
    simp [Block.chars]
  have hskip : ∀ cs, skipBlank (space spaced ++ (k.opening ++ cs)) = k.opening ++ cs := by
    intro cs
    cases spaced <;> rfl
  have hopening : ∀ cs, after? k.opening (k.opening ++ cs) = some cs :=
    fun cs => after?_eq_some_iff.mpr rfl
  have hclosing : breakAt? k.closing (Bit.write content ++ (k.closing ++ rest))
      = some (Bit.write content, rest) :=
    breakAt?_of_isSilent ((readsMarks_closingAt? k).isSilent_bits content _)
  rw [hwrite, span?, hskip, hopening]
  simp [skipBlank_content k h, hclosing, dropLastBlank_of_not_blank (Bit.getLast?_write content)]

/-- The characters of a block if the spans of a kind are replaced. -/
def Block.replaced (k : SpanKind) (replacement : List Char → List Char) : Block → List Char
  | span k' spaced content =>
    if k' = k then replacement (Bit.write content) else (Block.span k' spaced content).chars
  | p => p.chars

theorem Block.replaced_of_not_isSpan {k : SpanKind} {p : Block} (h : ¬ p.IsSpan k)
    (replacement : List Char → List Char) : p.replaced k replacement = p.chars := by
  cases p with
  | span k' spaced content =>
    refine if_neg ?_
    rintro rfl
    exact h ⟨spaced, content, rfl⟩
  | bit b => rfl
  | gap => rfl

/-- **Spans are replaced together with the space before them.** -/
theorem replaceSpans_write (k : SpanKind) (replacement : List Char → List Char) {ps : List Block}
    (hps : Fits ps) :
    replaceItems (fun _ cs => span? k cs) replacement (Block.write ps)
      = ps.flatMap (Block.replaced k replacement) := by
  have hreads := readsMarks_span? k
  refine replaceItems_write (fun p hp rest hrest => ?_) hps.tight hps.calm
  by_cases hspan : p.IsSpan k
  · obtain ⟨spaced, content, rfl⟩ := hspan
    rw [hreads.quiet.steady.replaceItems_item (span?_chars k spaced hp rest), Block.replaced, if_pos rfl]
  · rw [hreads.quiet.steady.replaceItems_append (hreads.isSilent_block hspan hrest),
      Block.replaced_of_not_isSpan hspan]

/-- What is left of a block if the spans of a kind are dropped. -/
def Block.dropSpan (k : SpanKind) : Block → List Block
  | span k' spaced content => if k' = k then [] else [span k' spaced content]
  | p => [p]

/-- **A pass for spans drops them from the blocks.** -/
theorem dropSpans_write (k : SpanKind) {ps : List Block} (hps : Fits ps) :
    Rendering.dropSpans k (Block.write ps) = Block.write (ps.flatMap (Block.dropSpan k)) := by
  have hblock : Block.replaced k (fun _ => []) = fun p => Block.write (p.dropSpan k) := by
    funext p
    cases p with
    | bit b => simp [Block.replaced, Block.dropSpan]
    | gap => simp [Block.replaced, Block.dropSpan]
    | span k' spaced content =>
      rw [Block.replaced, Block.dropSpan]
      split <;> simp
  rw [Block.write_flatMap, ← hblock]
  exact replaceSpans_write k _ hps

/-- The space before a span and its content, without its marks. -/
def Block.opened (spaced : Bool) (content : List Bit) : List Block :=
  (if spaced then [gap] else []) ++ content.map bit

@[simp] theorem Block.write_opened (spaced : Bool) (content : List Bit) :
    Block.write (opened spaced content) = space spaced ++ Bit.write content := by
  cases spaced <;> simp [opened, space, Block.chars]

/-- What is left of a block if the marks of a kind are dropped. -/
def Block.openSpan (k : SpanKind) : Block → List Block
  | span k' spaced content => if k' = k then opened spaced content else [span k' spaced content]
  | p => [p]

/-- **A pass for marks drops them from the blocks**, and nothing else. -/
theorem dropMarkers_write (k : SpanKind) {ps : List Block} (hps : Fits ps) :
    Rendering.dropMarkers k (Block.write ps) = Block.write (ps.flatMap (Block.openSpan k)) := by
  have hreads := readsMarks_marker? k
  have hpass : ∀ {xs ys}, IsSilent (fun _ cs => marker? k cs) xs ys →
      Rendering.dropMarkers k (xs ++ ys) = xs ++ Rendering.dropMarkers k ys :=
    fun h => hreads.quiet.steady.replaceItems_append h
  rw [Block.write_flatMap]
  refine replaceItems_write (fun p hp rest hrest => ?_) hps.tight hps.calm
  change Rendering.dropMarkers k _ = _ ++ Rendering.dropMarkers k rest
  by_cases hspan : p.IsSpan k
  · obtain ⟨spaced, content, rfl⟩ := hspan
    have hwrite : (Block.span k spaced content).chars ++ rest
        = space spaced ++ (k.opening ++ (Bit.write content ++ (k.closing ++ rest))) := by
      simp [Block.chars]
    have hspace : ∀ cs, IsSilent (fun _ cs => marker? k cs) (space spaced) (k.opening ++ cs) := by
      intro cs
      cases spaced with
      | false => exact trivial
      | true => exact ⟨by cases k <;> rfl, trivial⟩
    have hopening : marker? k (k.opening ++ (Bit.write content ++ (k.closing ++ rest)))
        = some ((), Bit.write content ++ (k.closing ++ rest)) := by
      have hafter : ∀ cs, after? k.opening (k.opening ++ cs) = some cs :=
        fun cs => after?_eq_some_iff.mpr rfl
      rw [marker?, hafter]
      exact congrArg (fun cs => some ((), cs)) (skipBlank_content k hp rest)
    have hclosing : marker? k (k.closing ++ rest) = some ((), rest) := by
      have hskip : skipBlank (k.closing ++ rest) = k.closing ++ rest := rfl
      have hnone : after? k.opening (k.closing ++ rest) = none := by cases k <;> rfl
      rw [marker?, hnone, hskip, after?_eq_some_iff.mpr rfl, Option.map_some]
    rw [hwrite, hpass (hspace _), Rendering.dropMarkers, hreads.quiet.steady.dropItems_item hopening,
      ← Rendering.dropMarkers, hpass (hreads.isSilent_bits content _), Rendering.dropMarkers,
      hreads.quiet.steady.dropItems_item hclosing, ← Rendering.dropMarkers, Block.openSpan, if_pos rfl,
      Block.write_opened, List.append_assoc]
  · rw [hpass (hreads.isSilent_block hspan hrest)]
    cases p with
    | span k' spaced content =>
      have hk : k' ≠ k := by
        rintro rfl
        exact hspan ⟨spaced, content, rfl⟩
      simp [Block.openSpan, hk]
    | bit b => simp [Block.openSpan]
    | gap => simp [Block.openSpan]

/-! ### Rows that the passes leave -/

/-- What a pass makes of a block fits into a row in its place. -/
structure Keeps (g : Block → List Block) : Prop where
  fits : ∀ p, p.IsTight → Fits (g p)
  calm : ∀ p, p.isCalm = true → ∀ q ∈ g p, q.isCalm = true

theorem Fits.append {ps qs : List Block} (hps : Fits ps) (htight : ∀ q ∈ qs, q.IsTight)
    (hcalm : ∀ q ∈ qs, q.isCalm = true) : Fits (ps ++ qs) := by
  refine ⟨List.forall_mem_append.mpr ⟨hps.tight, htight⟩, ?_⟩
  cases ps with
  | nil => exact fun q hq => hcalm q (List.mem_of_mem_tail hq)
  | cons p ps => exact List.forall_mem_append.mpr ⟨hps.calm, hcalm⟩

theorem Fits.flatMap {ps : List Block} (h : Fits ps) {g : Block → List Block} (hg : Keeps g) :
    Fits (ps.flatMap g) := by
  cases ps with
  | nil => exact ⟨by simp, by simp⟩
  | cons p ps =>
    rw [List.flatMap_cons]
    refine (hg.fits p (h.tight p List.mem_cons_self)).append (fun q hq => ?_) fun q hq => ?_ <;>
      obtain ⟨p', hp', hq⟩ := List.mem_flatMap.mp hq
    · exact (hg.fits p' (h.tight p' (List.mem_cons_of_mem p hp'))).tight q hq
    · exact hg.calm p' (h.calm p' hp') q hq

/-- A single block in the place of another. -/
theorem fits_singleton {p : Block} (hp : p.IsTight) : Fits [p] :=
  ⟨fun q hq => List.mem_singleton.mp hq ▸ hp, by simp⟩

theorem fits_nil : Fits [] := ⟨by simp, by simp⟩

/-- Blocks without spans fit anywhere. -/
theorem fits_of_no_span {ps : List Block} (h : ∀ p ∈ ps, ∀ k, ¬ p.IsSpan k) :
    Fits ps ∧ ∀ p ∈ ps, p.isCalm = true := by
  have hblock : ∀ p ∈ ps, p.IsTight ∧ p.isCalm = true := by
    intro p hp
    cases p with
    | span k spaced content => exact absurd ⟨spaced, content, rfl⟩ (h _ hp k)
    | bit b => exact ⟨trivial, rfl⟩
    | gap => exact ⟨trivial, rfl⟩
  exact ⟨⟨fun p hp => (hblock p hp).1, fun p hp => (hblock p (List.mem_of_mem_tail hp)).2⟩,
    fun p hp => (hblock p hp).2⟩

theorem keeps_keep {g : Bit → Bool} (hg : ∀ w, g (.mark w) = true) : Keeps (Block.keep g) where
  fits p hp := by
    cases p with
    | bit b =>
      rw [Block.keep]
      split
      · exact fits_singleton trivial
      · exact fits_nil
    | gap => exact fits_singleton trivial
    | span k spaced content =>
      refine fits_singleton ?_
      obtain rfl | ⟨w, rest, hne, rfl⟩ := hp
      · exact .inl rfl
      · exact .inr ⟨w, rest.filter g, hne, List.filter_cons_of_pos (hg w)⟩
  calm p hp q hq := by
    cases p with
    | bit b =>
      obtain rfl : q = .bit b := by
        rw [Block.keep] at hq
        split at hq
        · exact List.mem_singleton.mp hq
        · cases hq
      rfl
    | gap => exact List.mem_singleton.mp hq ▸ rfl
    | span k spaced content => exact List.mem_singleton.mp hq ▸ hp

theorem keeps_dropSpan (k : SpanKind) : Keeps (Block.dropSpan k) where
  fits p hp := by
    cases p with
    | bit b => exact fits_singleton trivial
    | gap => exact fits_singleton trivial
    | span k' spaced content =>
      rw [Block.dropSpan]
      split
      · exact fits_nil
      · exact fits_singleton hp
  calm p hp q hq := by
    cases p with
    | bit b => exact List.mem_singleton.mp hq ▸ rfl
    | gap => exact List.mem_singleton.mp hq ▸ rfl
    | span k' spaced content =>
      rw [Block.dropSpan] at hq
      split at hq
      · cases hq
      · exact List.mem_singleton.mp hq ▸ hp

/-- No span is left of a span whose marks are dropped. -/
theorem no_span_of_opened {spaced : Bool} {content : List Bit} :
    ∀ p ∈ Block.opened spaced content, ∀ k, ¬ p.IsSpan k := by
  rintro p hp k ⟨spaced', content', rfl⟩
  cases spaced <;> simp [Block.opened] at hp

theorem keeps_openSpan (k : SpanKind) : Keeps (Block.openSpan k) where
  fits p hp := by
    cases p with
    | bit b => exact fits_singleton trivial
    | gap => exact fits_singleton trivial
    | span k' spaced content =>
      rw [Block.openSpan]
      split
      · exact (fits_of_no_span no_span_of_opened).1
      · exact fits_singleton hp
  calm p hp q hq := by
    cases p with
    | bit b => exact List.mem_singleton.mp hq ▸ rfl
    | gap => exact List.mem_singleton.mp hq ▸ rfl
    | span k' spaced content =>
      rw [Block.openSpan] at hq
      split at hq
      · exact (fits_of_no_span no_span_of_opened).2 q hq
      · exact List.mem_singleton.mp hq ▸ hp

/-- What is made of a block by a pass that is made only if it is wanted. -/
def stage (wanted : Bool) (g : Block → List Block) (p : Block) : List Block :=
  if wanted then g p else [p]

theorem keeps_stage {g : Block → List Block} (hg : Keeps g) (wanted : Bool) :
    Keeps (stage wanted g) := by
  cases wanted with
  | true => exact hg
  | false =>
    exact ⟨fun p hp => fits_singleton hp, fun p hp q hq => List.mem_singleton.mp hq ▸ hp⟩

theorem passIf_write {pass : List Char → List Char} {g : Block → List Block} {ps : List Block}
    (h : pass (Block.write ps) = Block.write (ps.flatMap g)) (wanted : Bool) :
    Rendering.passIf wanted pass (Block.write ps) = Block.write (ps.flatMap (stage wanted g)) := by
  cases wanted with
  | true => exact h
  | false => exact congrArg Block.write (List.flatMap_singleton' ps).symm

/-! ### The blocks of a layout -/

theorem isTight_row_bits {es : List Element} (hfirst : ∀ e ∈ es.head?, e.isTag = false) :
    Bit.IsTight (row Element.bits es) := by
  cases es with
  | nil => exact .inl rfl
  | cons e es =>
    cases e with
    | word w hne => exact .inr ⟨w, _, hne, rfl⟩
    | tag k body hbody after => exact nomatch (hfirst _ rfl : true = false)

/-- The blocks of an item fit into a row, and after the first one they may stand anywhere. -/
theorem fits_itemBlocks (spaced : Bool) (i : Item) :
    Fits (i.blocks spaced) ∧ (spaced = true → ∀ p ∈ i.blocks spaced, p.isCalm = true) := by
  cases i with
  | element e =>
    have hspan : ∀ p ∈ (e.bits spaced).map Block.bit, ∀ k, ¬ p.IsSpan k := by
      rintro p hp k ⟨spaced', content, rfl⟩
      simp at hp
    exact ⟨(fits_of_no_span hspan).1, fun _ => (fits_of_no_span hspan).2⟩
  | span k content hfirst after =>
    refine ⟨⟨fun p hp => ?_, fun p hp => ?_⟩, fun hspaced p hp => ?_⟩
    · rcases List.mem_cons.mp hp with rfl | hp
      · exact isTight_row_bits hfirst
      · exact List.mem_singleton.mp hp ▸ trivial
    · exact List.mem_singleton.mp hp ▸ rfl
    · rcases List.mem_cons.mp hp with rfl | hp
      · exact hspaced
      · exact List.mem_singleton.mp hp ▸ rfl

theorem fits_blocks (t : Layout) : Fits t.blocks := by
  rw [blocks]
  cases t.items with
  | nil => exact fits_nil
  | cons i is =>
    refine (fits_itemBlocks false i).1.append (fun q hq => ?_) fun q hq => ?_ <;>
      obtain ⟨i', -, hq⟩ := List.mem_flatMap.mp hq
    · exact (fits_itemBlocks true i').1.tight q hq
    · exact (fits_itemBlocks true i').2 rfl q hq

theorem gap_notMem_blocks (t : Layout) : Block.gap ∉ t.blocks := by
  have hitem : ∀ spaced (i : Item), Block.gap ∉ i.blocks spaced := by
    intro spaced i
    cases i <;> simp [Item.blocks]
  rw [blocks]
  cases t.items with
  | nil => simp [row]
  | cons i is => simp [row, hitem]

/-! ### What is kept of blocks -/

theorem stage_keep (wanted : Bool) (g : Bit → Bool) :
    stage wanted (Block.keep g) = Block.keep fun b => !wanted || g b := by
  cases wanted with
  | true => rfl
  | false =>
    funext p
    cases p <;> simp [stage, Block.keep]

theorem flatMap_keep (g g' : Bit → Bool) (p : Block) :
    (p.keep g).flatMap (Block.keep g') = p.keep fun b => g b && g' b := by
  cases p with
  | gap => rfl
  | span k spaced content => simp [Block.keep, Bool.and_comm]
  | bit b => cases hb : g b <;> simp [Block.keep, hb]

theorem gap_notMem_flatMap_keep {ps : List Block} (h : Block.gap ∉ ps) (g : Bit → Bool) :
    Block.gap ∉ ps.flatMap (Block.keep g) := by
  intro hgap
  obtain ⟨p, hp, hkept⟩ := List.mem_flatMap.mp hgap
  cases p with
  | gap => exact h hp
  | span k spaced content => simp [Block.keep] at hkept
  | bit b => cases hb : g b <;> simp [Block.keep, hb] at hkept

/-- Whether a rendering shows a bit. -/
def Bit.isShown (r : Rendering) (b : Bit) : Bool :=
  (!!r.strongs || !b.isTagOf .strongs) && (!!r.morph || !b.isTagOf .morph)

theorem Bit.shown_eq (r : Rendering) (b : Bit) : b.shown r = if b.isShown r then b.chars else [] := by
  cases b with
  | word _ _ => simp [shown, isShown, isTagOf]
  | mark _ => simp [shown, isShown, isTagOf]
  | tag k body hbody =>
    have hshown : isShown r (.tag k body hbody) = k.shows r := by
      cases k <;> simp [isShown, isTagOf, TagKind.shows]
    rw [hshown, shown]

theorem Bit.write_filter_isShown (r : Rendering) (bs : List Bit) :
    Bit.write (bs.filter (Bit.isShown r)) = bs.flatMap (Bit.shown r) := by
  induction bs with
  | nil => rfl
  | cons b bs ih =>
    rw [List.flatMap_cons, ← ih, Bit.shown_eq]
    cases hb : b.isShown r <;> simp [hb]

/-- What is left of a block once all passes but the one for notes have been made. -/
def Block.left (r : Rendering) (p : Block) : List Block :=
  (((p.keep (Bit.isShown r)).flatMap (stage (!r.added) (Block.dropSpan .added))).flatMap
    (stage (!r.italicMarkers) (Block.openSpan .added))).flatMap
      (if r.paragraph then Block.openSpan .paragraph else Block.dropSpan .paragraph)

/-- Where no marks are left, passes for spans find nothing more. -/
theorem Block.flatMap_opened {g : Block → List Block} (hbit : ∀ b, g (bit b) = [bit b])
    (hgap : g gap = [gap]) (spaced : Bool) (content : List Bit) :
    (opened spaced content).flatMap g = opened spaced content := by
  have hbits : (content.map bit).flatMap g = content.map bit := by
    rw [List.flatMap_map, funext hbit, ← List.map_eq_flatMap]
  cases spaced <;> simp [opened, hbits, hgap]

theorem Block.flatMap_replaced_opened (k : SpanKind) (replacement : List Char → List Char)
    (spaced : Bool) (content : List Bit) :
    (opened spaced content).flatMap (replaced k replacement) = space spaced ++ Bit.write content := by
  rw [← write_opened]
  refine List.flatMap_congr fun p hp => ?_
  exact replaced_of_not_isSpan (no_span_of_opened p hp k) replacement

/-- **What the passes make of a block is what is shown of it.** -/
theorem Block.flatMap_left (r : Rendering) (p : Block) :
    (p.left r).flatMap (Block.replaced .note (if r.notes then Rendering.showNote else fun _ => []))
      = p.shown r := by
  cases p with
  | gap => cases hp : r.paragraph <;>
      simp [left, keep, stage, dropSpan, openSpan, replaced, shown, chars, hp]
  | bit b =>
    rw [shown, Bit.shown_eq]
    cases hb : b.isShown r <;> cases hp : r.paragraph <;>
      simp [left, keep, stage, dropSpan, openSpan, replaced, chars, hb, hp]
  | span k spaced content =>
    have hkeep : (span k spaced content).keep (Bit.isShown r)
        = [span k spaced (content.filter (Bit.isShown r))] := rfl
    rw [left, hkeep, shown, ← Bit.write_filter_isShown]
    generalize content.filter (Bit.isShown r) = bs
    cases k with
    | added =>
      have hopened : (opened spaced bs).flatMap
          (if r.paragraph then openSpan .paragraph else dropSpan .paragraph) = opened spaced bs := by
        cases r.paragraph <;> exact flatMap_opened (fun _ => rfl) rfl spaced bs
      cases hadded : r.added with
      | false => simp [stage, dropSpan, shownSpan, hadded]
      | true =>
        cases hmarkers : r.italicMarkers with
        | false =>
          simp [stage, openSpan, shownSpan, hadded, hmarkers, hopened, flatMap_replaced_opened]
        | true =>
          cases r.paragraph <;>
            simp [stage, openSpan, dropSpan, replaced, shownSpan, chars, hadded, hmarkers]
    | paragraph =>
      have hadded : ([span .paragraph spaced bs].flatMap (stage (!r.added) (dropSpan .added))).flatMap
          (stage (!r.italicMarkers) (openSpan .added)) = [span .paragraph spaced bs] := by
        cases r.added <;> cases r.italicMarkers <;> rfl
      rw [hadded]
      cases hp : r.paragraph with
      | false => simp [dropSpan, shownSpan, hp]
      | true => simp [openSpan, shownSpan, hp, flatMap_replaced_opened]
    | note =>
      have hothers : (([span .note spaced bs].flatMap (stage (!r.added) (dropSpan .added))).flatMap
          (stage (!r.italicMarkers) (openSpan .added))).flatMap
            (if r.paragraph then openSpan .paragraph else dropSpan .paragraph)
          = [span .note spaced bs] := by
        cases r.added <;> cases r.italicMarkers <;> cases r.paragraph <;> rfl
      rw [hothers, List.flatMap_singleton, replaced, if_pos rfl, shownSpan]
      split <;> rfl

end Layout

end Markup

namespace Rendering

open Markup Text

open Layout

/-- The passes for tags leave what a rendering shows of them. -/
theorem passIf_tags (t : Layout) (r : Rendering) :
    passIf (!r.morph) dropMorph (passIf (!r.strongs) dropStrongs t.chars)
      = Block.write (t.blocks.flatMap (Block.keep (Bit.isShown r))) := by
  have hstrongs : dropStrongs (Block.write t.blocks) = _ :=
    Layout.dropTags_write .strongs (gap_notMem_blocks t) (fits_blocks t)
  have hkeeps : Keeps (Block.keep fun b => !!r.strongs || !b.isTagOf .strongs) :=
    keeps_keep fun _ => by simp [Bit.isTagOf]
  have hmorph : dropMorph (Block.write _) = _ :=
    Layout.dropTags_write .morph (gap_notMem_flatMap_keep (gap_notMem_blocks t) _)
      ((fits_blocks t).flatMap hkeeps)
  rw [← write_blocks, passIf_write hstrongs, stage_keep, passIf_write hmorph, stage_keep,
    List.flatMap_assoc]
  exact congrArg Block.write (List.flatMap_congr fun p _ => flatMap_keep _ _ p)

/-- **Rendering is item by item**: it shows the text that the items are expected to show, with the blanks
at the ends trimmed. -/
theorem render_layout (t : Layout) (r : Rendering) : r.render t.chars = trim (t.shown r) := by
  have hkept : Fits (t.blocks.flatMap (Block.keep (Bit.isShown r))) :=
    (fits_blocks t).flatMap (keeps_keep fun _ => by simp [Bit.isShown, Bit.isTagOf])
  have hadded := hkept.flatMap (keeps_stage (keeps_dropSpan .added) (!r.added))
  have hmarkers := hadded.flatMap (keeps_stage (keeps_openSpan .added) (!r.italicMarkers))
  have hparagraph : ∀ {ps : List Block}, Fits ps →
      (if r.paragraph then dropMarkers .paragraph (Block.write ps)
        else dropSpans .paragraph (Block.write ps))
      = Block.write (ps.flatMap
          (if r.paragraph then Block.openSpan .paragraph else Block.dropSpan .paragraph)) := by
    intro ps hps
    cases r.paragraph with
    | true => exact Layout.dropMarkers_write .paragraph hps
    | false => exact Layout.dropSpans_write .paragraph hps
  have hnotes : ∀ {ps : List Block}, Fits ps →
      (if r.notes then showNotes (Block.write ps) else dropSpans .note (Block.write ps))
      = ps.flatMap (Block.replaced .note (if r.notes then showNote else fun _ => [])) := by
    intro ps hps
    cases r.notes with
    | true => exact replaceSpans_write .note _ hps
    | false => exact replaceSpans_write .note _ hps
  have hlast : Keeps (if r.paragraph then Block.openSpan .paragraph else Block.dropSpan .paragraph) := by
    cases r.paragraph with
    | true => exact keeps_openSpan .paragraph
    | false => exact keeps_dropSpan .paragraph
  refine congrArg trim ?_
  rw [passIf_tags, passIf_write (Layout.dropSpans_write .added hkept),
    passIf_write (Layout.dropMarkers_write .added hadded), hparagraph hmarkers,
    hnotes (hmarkers.flatMap hlast), ← flatMap_blocks]
  have hblock := funext (Block.flatMap_left r)
  simp only [← hblock, Block.left, List.flatMap_assoc]

end Rendering

end Concordance
