import Concordance.Index.Extract
import Concordance.Proofs.Markup.Tag
import Concordance.Proofs.Text.Ascii
import Concordance.Proofs.Text.Scanning

/-!
# Annotated texts

An annotated text is a row of tokens with one space between them: plain ones, and tags that may be
followed by a mark of punctuation. It begins with a plain token, so that every tag comes after a
space. Cut into segments, each with the space before it, such a text is scanned segment by segment:
whether anything is read at a place depends on the segment alone. A scan that drops tags leaves
segments of the same kind, so that one pass may follow another.

## Main definitions

* `Markup.AnnotatedText` — an annotated text, with its tokens
* `Markup.Segment` — a stretch of such a text that is read as a whole
* `Markup.Reads` — what a recognizer does with the segments of a text

## Main results

* `Markup.Reads.items_write`, `Markup.Reads.dropItems_write` — the items of a row of segments, and
  what stays when they are dropped
* `Markup.AnnotatedText.runs_plainChars` — the words that stay are those of the plain tokens
-/

namespace Concordance

namespace Markup

open Text

/-! ### Tokens -/

/-- A character of a plain token: of ASCII, no blank, and no sign that encloses tags. -/
def isPlainChar (c : Char) : Bool :=
  c.toNat < 0x80 && !isBlank c && !(c ∈ ['<', '>', '\x7b', '\x7d'])

/-- A character that the braces of a morphology tag hold: a capital, a digit or a hyphen. -/
def isCapitalTagChar (c : Char) : Bool := c.isUpper || c.isDigit || c == '-'

/-- A plain token. -/
structure PlainToken where
  /-- The characters. -/
  chars : List Char
  ne_nil : chars ≠ []
  isPlain : ∀ c ∈ chars, isPlainChar c = true

/-- A tag of an annotated text, of ASCII. -/
inductive Tag where
  /-- A Strong's number, given by the letter of its language and its digits. -/
  | strongs (letter : Char) (digits : List Char) (hletter : isLanguage letter = true)
      (hne : digits ≠ []) (hdigits : ∀ d ∈ digits, d.isDigit = true)
  /-- A morphology tag, given by what its braces hold. -/
  | morph (body : List Char) (hne : body ≠ [])
      (hbody : ∀ c ∈ body, isCapitalTagChar c = true)

/-- A mark of punctuation that may follow a tag. -/
structure Mark where
  /-- The mark. -/
  char : Char
  isMark : char ∈ ['.', ',', ';', ':', '?', '!']

/-- A token after the first one. -/
inductive Token where
  /-- A plain token. -/
  | plain (p : PlainToken)
  /-- A tag, perhaps with a mark. -/
  | tag (t : Tag) (mark? : Option Mark)

/-- An annotated text. -/
structure AnnotatedText where
  /-- The first token. -/
  first : PlainToken
  /-- The other tokens. -/
  rest : List Token

namespace Tag

/-- What the brackets of a tag hold. -/
def body : Tag → List Char
  | strongs letter digits _ _ _ => letter :: digits
  | morph body _ _ => body

/-- The number, of a Strong's number. -/
def number? : Tag → Option (List Char)
  | strongs letter digits _ _ _ => some (letter :: digits)
  | morph _ _ _ => none

/-- What the braces hold, of a morphology tag. -/
def morph? : Tag → Option (List Char)
  | strongs _ _ _ _ _ => none
  | morph body _ _ => some body

/-- The tag in its brackets. -/
def chars : Tag → List Char
  | strongs letter digits _ _ _ => '<' :: (letter :: digits) ++ ['>']
  | morph body _ _ => '\x7b' :: body ++ ['\x7d']

end Tag

namespace Token

/-- The characters of a token. -/
def chars : Token → List Char
  | plain p => p.chars
  | tag t mark? => t.chars ++ (mark?.map Mark.char).toList

/-- The plain token, of a plain one. -/
def plain? : Token → Option PlainToken
  | plain p => some p
  | tag _ _ => none

/-- The tag, of any other. -/
def tag? : Token → Option Tag
  | plain _ => none
  | tag t _ => some t

end Token

namespace AnnotatedText

/-- The text. -/
def chars (t : AnnotatedText) : List Char :=
  [' '].intercalate (t.first.chars :: t.rest.map Token.chars)

/-- The plain tokens. -/
def plainTokens (t : AnnotatedText) : List PlainToken := t.first :: t.rest.filterMap Token.plain?

/-- The tags. -/
def tags (t : AnnotatedText) : List Tag := t.rest.filterMap Token.tag?

end AnnotatedText

/-! ### Segments -/

/-- What holds of all marks holds of one. -/
theorem Mark.holds {p : Char → Bool} (m : Mark) (h : ['.', ',', ';', ':', '?', '!'].all p = true) :
    p m.char = true :=
  List.all_eq_true.mp h _ m.isMark

theorem Mark.isWordChar_eq_false (m : Mark) : Text.isWordChar m.char = false := by
  simpa using m.holds (p := fun c => !Text.isWordChar c) (by decide)

/-- A mark as a plain token. -/
def Mark.token (m : Mark) : PlainToken where
  chars := [m.char]
  ne_nil := by simp
  isPlain := by simpa using m.holds (p := isPlainChar) (by decide)

/-- A stretch of an annotated text that is read as a whole. -/
inductive Segment where
  /-- Plain characters, perhaps with a space before them. -/
  | plain (spaced : Bool) (p : PlainToken)
  /-- A tag with a space before it. -/
  | tag (t : Tag)

namespace Segment

/-- The characters of a segment. -/
def chars : Segment → List Char
  | plain spaced p => (if spaced then [' '] else []) ++ p.chars
  | tag t => ' ' :: t.chars

/-- The characters of a row of segments. -/
def write (segs : List Segment) : List Char := segs.flatMap chars

@[simp] theorem write_nil : write [] = [] := rfl

@[simp] theorem write_cons (s : Segment) (segs : List Segment) :
    write (s :: segs) = s.chars ++ write segs := rfl

@[simp] theorem write_append (segs segs' : List Segment) :
    write (segs ++ segs') = write segs ++ write segs' := by
  simp [write]

/-- What a tag is read as, if the segment is one. -/
def value? {α : Type} (tagValue? : Tag → Option α) : Segment → Option α
  | plain _ _ => none
  | tag t => tagValue? t

end Segment

/-- The segments of a token with the space before it. -/
def Token.segments : Token → List Segment
  | plain p => [.plain true p]
  | tag t mark? => .tag t :: (mark?.map fun m => .plain false m.token).toList

/-- The segments of an annotated text. -/
def AnnotatedText.segments (t : AnnotatedText) : List Segment :=
  .plain false t.first :: t.rest.flatMap Token.segments

theorem Token.write_segments (τ : Token) : Segment.write τ.segments = ' ' :: τ.chars := by
  cases τ with
  | plain p => simp [segments, chars, Segment.chars]
  | tag t mark? =>
    cases mark? <;> simp [segments, chars, Segment.chars, Mark.token]

/-- A text is written by its segments. -/
theorem AnnotatedText.write_segments (t : AnnotatedText) : Segment.write t.segments = t.chars := by
  have hrest : ∀ (p : List Char) (rest : List Token),
      p ++ Segment.write (rest.flatMap Token.segments)
        = [' '].intercalate (p :: rest.map Token.chars) := by
    intro p rest
    induction rest generalizing p with
    | nil => simp [List.intercalate]
    | cons τ rest ih =>
      rw [List.map_cons, List.intercalate_cons_cons, ← ih, List.flatMap_cons, Segment.write_append,
        Token.write_segments]
      simp
  simpa [segments, Segment.chars, chars] using hrest t.first.chars t.rest

/-! ### Reading segments -/

/-- A character at which nothing starts: neither a blank nor an opening sign. -/
def IsDull (c : Char) : Prop := isBlank c = false ∧ c ≠ '<' ∧ c ≠ '\x7b'

instance (c : Char) : Decidable (IsDull c) :=
  inferInstanceAs (Decidable (isBlank c = false ∧ c ≠ '<' ∧ c ≠ '\x7b'))

theorem isDull_of_isPlainChar {c : Char} (h : isPlainChar c = true) : IsDull c := by
  simp only [isPlainChar, Bool.and_eq_true, Bool.not_eq_true', decide_eq_false_iff_not] at h
  refine ⟨h.1.2, ?_, ?_⟩ <;> rintro rfl <;> exact h.2 (by decide)

theorem toNat_of_isCapitalTagChar {c : Char} (h : isCapitalTagChar c = true) : c.toNat < 0x80 := by
  simp only [isCapitalTagChar, Bool.or_eq_true, beq_iff_eq] at h
  rcases h with (h | h) | rfl
  · exact toNat_of_isAlpha (Bool.or_eq_true_iff.mpr (.inl h))
  · exact toNat_of_isDigit h
  · decide

theorem isDull_of_isCapitalTagChar {c : Char} (h : isCapitalTagChar c = true) : IsDull c :=
  forall_ascii (P := fun c => isCapitalTagChar c = true → isBlank c = false ∧ c ≠ '<' ∧ c ≠ '\x7b')
    (by decide) (toNat_of_isCapitalTagChar h) h

theorem isCapitalTagChar_of_isDigit {c : Char} (h : c.isDigit = true) :
    isCapitalTagChar c = true := by
  simp [isCapitalTagChar, h]

theorem isCapitalTagChar_of_isLanguage {c : Char} (h : isLanguage c = true) :
    isCapitalTagChar c = true := by
  simp only [isLanguage, Bool.or_eq_true, beq_iff_eq] at h
  rcases h with rfl | rfl <;> decide

/-- What the brackets hold consists of capitals, digits and hyphens. -/
theorem Tag.isCapitalTagChar_of_mem_body (t : Tag) : ∀ c ∈ t.body, isCapitalTagChar c = true := by
  cases t with
  | strongs letter digits hletter _ hdigits =>
    intro c hc
    rcases List.mem_cons.mp hc with rfl | hc
    · exact isCapitalTagChar_of_isLanguage hletter
    · exact isCapitalTagChar_of_isDigit (hdigits c hc)
  | morph body _ hbody => exact hbody

/-- After its opening sign a tag is dull. -/
theorem Tag.exists_chars (t : Tag) :
    ∃ c cs, t.chars = c :: cs ∧ ∀ d ∈ cs, IsDull d := by
  have hbody := fun c hc => isDull_of_isCapitalTagChar (t.isCapitalTagChar_of_mem_body c hc)
  have hangle : IsDull '>' := by decide
  have hbrace : IsDull '\x7d' := by decide
  cases t with
  | strongs letter digits _ _ _ =>
    refine ⟨'<', letter :: digits ++ ['>'], rfl, fun d hd => ?_⟩
    rcases List.mem_append.mp hd with hd | hd
    · exact hbody d hd
    · exact List.mem_singleton.mp hd ▸ hangle
  | morph body _ _ =>
    refine ⟨'\x7b', body ++ ['\x7d'], rfl, fun d hd => ?_⟩
    rcases List.mem_append.mp hd with hd | hd
    · exact hbody d hd
    · exact List.mem_singleton.mp hd ▸ hbrace

/-- What a recognizer does with the segments of a text: it reads the tags that have a value, each
with the space before it, and nothing else. -/
structure Reads {α : Type} (f : Recognizer α) (value? : Tag → Option α) : Prop where
  /-- Nothing starts at a dull character. -/
  dull : ∀ {b : Bool} {c : Char} {cs : List Char}, IsDull c → f b (c :: cs) = none
  /-- Nothing starts at a space before a dull character. -/
  space : ∀ {b : Bool} {c : Char} {cs : List Char}, IsDull c → f b (' ' :: c :: cs) = none
  /-- A tag with a value is read from the space on. -/
  item : ∀ {b : Bool} {t : Tag} {a : α} {rest : List Char}, value? t = some a →
    f b (' ' :: t.chars ++ rest) = some (a, rest)
  /-- Any other tag is not read. -/
  skip : ∀ {b : Bool} {t : Tag} {rest : List Char}, value? t = none →
    f b (' ' :: t.chars ++ rest) = none ∧ f b (t.chars ++ rest) = none

namespace Reads

variable {α : Type} {f : Recognizer α} {value? : Tag → Option α} (h : Reads f value?)

/-- The pieces of a segment. -/
def pieces (value? : Tag → Option α) : Segment → List (Piece α)
  | .plain spaced p => (Segment.plain spaced p).chars.map .other
  | .tag t =>
    match value? t with
    | some a => [.item a]
    | none => (Segment.tag t).chars.map .other

include h

theorem scanFrom_dull {b : Bool} {cs rest : List Char} (hdull : ∀ c ∈ cs, IsDull c) :
    scanFrom f b (cs ++ rest) = cs.map .other ++ scanFrom f (endsInWord b cs) rest :=
  scanFrom_append fun before c after hcs => h.dull (hdull c (by simp [hcs]))

/-- One segment is read on its own. -/
theorem exists_scanFrom_segment (b : Bool) (s : Segment) (rest : List Char) :
    ∃ b', scanFrom f b (s.chars ++ rest) = pieces value? s ++ scanFrom f b' rest := by
  cases s with
  | plain spaced p =>
    have hdull : ∀ c ∈ p.chars, IsDull c := fun c hc => isDull_of_isPlainChar (p.isPlain c hc)
    cases spaced with
    | false => exact ⟨_, by simpa [Segment.chars, pieces] using h.scanFrom_dull hdull⟩
    | true =>
      obtain ⟨c, cs, hcs⟩ := List.exists_cons_of_ne_nil p.ne_nil
      have hspace : f b (' ' :: (p.chars ++ rest)) = none := by
        rw [hcs, List.cons_append]
        exact h.space (hdull c (by simp [hcs]))
      refine ⟨endsInWord (isWordChar ' ') p.chars, ?_⟩
      simp only [Segment.chars, pieces, if_true, List.cons_append, List.nil_append, List.map_cons]
      rw [scanFrom_other hspace, h.scanFrom_dull hdull]
  | tag t =>
    obtain ⟨c, cs, hcs, hdull⟩ := t.exists_chars
    cases hvalue : value? t with
    | some a =>
      refine ⟨false, ?_⟩
      have hitem : f b (' ' :: t.chars ++ rest) = some (a, rest) := h.item hvalue
      simp only [Segment.chars, pieces, hvalue, List.cons_append] at hitem ⊢
      rw [scanFrom_item hitem (by simp)]
      rfl
    | none =>
      refine ⟨endsInWord (isWordChar c) cs, ?_⟩
      have hspace : f b (' ' :: t.chars ++ rest) = none := (h.skip hvalue).1
      have hopen : f (isWordChar ' ') (t.chars ++ rest) = none := (h.skip hvalue).2
      simp only [Segment.chars, pieces, hvalue, hcs, List.cons_append] at hspace hopen ⊢
      rw [scanFrom_other hspace, scanFrom_other hopen, h.scanFrom_dull hdull]
      simp

/-- **A row of segments is read segment by segment.** -/
theorem scanFrom_write (b : Bool) (segs : List Segment) :
    scanFrom f b (Segment.write segs) = segs.flatMap (pieces value?) := by
  induction segs generalizing b with
  | nil => simp
  | cons s segs ih =>
    obtain ⟨b', hs⟩ := h.exists_scanFrom_segment b s (Segment.write segs)
    rw [Segment.write_cons, hs, ih, List.flatMap_cons]

/-- The items of a row of segments are the values of its tags. -/
theorem items_write (segs : List Segment) :
    items f (Segment.write segs) = segs.filterMap (Segment.value? value?) := by
  rw [items, scan, h.scanFrom_write]
  induction segs with
  | nil => rfl
  | cons s segs ih =>
    rw [List.flatMap_cons, List.filterMap_append, ih, List.filterMap_cons]
    cases s with
    | plain spaced p => simp [pieces, Segment.value?, List.filterMap_map]
    | tag t =>
      cases hvalue : value? t <;>
        simp [pieces, Segment.value?, hvalue, List.filterMap_map]

/-- **Dropping items leaves the segments that have no value.** -/
theorem dropItems_write (segs : List Segment) :
    dropItems f (Segment.write segs)
      = Segment.write (segs.filter fun s => (s.value? value?).isNone) := by
  rw [dropItems, replaceItems, scan, h.scanFrom_write]
  induction segs with
  | nil => rfl
  | cons s segs ih =>
    rw [List.flatMap_cons, List.flatMap_append, ih]
    cases s with
    | plain spaced p => simp [pieces, Segment.value?, List.flatMap_map]
    | tag t =>
      cases hvalue : value? t <;> simp [pieces, Segment.value?, hvalue, List.flatMap_map]

end Reads

/-! ### Recognizers -/

theorem Tag.isNumber (t : Tag) {number : List Char} (h : t.number? = some number) :
    IsNumber isLanguage number ∧ t.chars = '<' :: number ++ ['>'] := by
  cases t with
  | strongs letter digits hletter hne hdigits =>
    obtain rfl := Option.some.inj h
    refine ⟨⟨letter, digits, rfl, hletter, hne, fun d hd => ?_⟩, rfl⟩
    rw [isDigit_of_ascii (toNat_of_isDigit (hdigits d hd))]
    exact hdigits d hd
  | morph _ _ _ => cases h

theorem Tag.exists_morph (t : Tag) (h : t.number? = none) :
    ∃ body, t.morph? = some body ∧ t.chars = '\x7b' :: body ++ ['\x7d'] ∧ body ≠ [] ∧
      ∀ c ∈ body, isCapitalTagChar c = true := by
  cases t with
  | strongs _ _ _ _ _ => cases h
  | morph body hne hbody => exact ⟨body, rfl, rfl, hne, hbody⟩

theorem isTagChar_of_isCapitalTagChar {c : Char} (h : isCapitalTagChar c = true) :
    isTagChar c = true :=
  forall_ascii (P := fun c => isCapitalTagChar c = true → isTagChar c = true)
    (by decide) (toNat_of_isCapitalTagChar h) h

end Markup

end Concordance
