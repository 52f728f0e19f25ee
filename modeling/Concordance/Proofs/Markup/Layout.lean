import Concordance.Proofs.Markup.Brackets
import Concordance.Proofs.Markup.TagKind

/-!
# Texts laid out in items

A text is laid out in items with one space between them: words, tags, and spans with words and tags of
their own. A tag or span may have more characters right after it. Neither the text nor a span starts with
a tag, so that every tag has a space before it. Such a text is cut into blocks, each with the space before
it; an item with characters right after it is cut between the two.

What a rendering shows of a layout goes item by item. It is what a reader of the options expects, and says
nothing of the passes that rendering consists of.

## Main definitions

* `Markup.Layout` — a text laid out in items
* `Markup.Layout.shown` — what a rendering shows of it
* `Markup.Layout.Block` — a stretch of such a text that a pass reads or leaves as a whole

## Main results

* `Markup.Layout.write_blocks` — a layout is written by its blocks
* `Markup.Layout.flatMap_blocks` — what is shown of the blocks is shown of the items
-/

namespace Concordance

namespace Markup

open Text

/-- A character of a word or mark: no blank, and no sign that encloses tags. -/
def isFreeChar (c : Char) : Bool := !isBlank c && !(c ∈ ['<', '>', '\x7b', '\x7d'])

theorem isDull_of_isFreeChar {c : Char} (h : isFreeChar c = true) : IsDull c := by
  simp only [isFreeChar, Bool.and_eq_true, Bool.not_eq_true', decide_eq_false_iff_not] at h
  refine ⟨h.1, ?_, ?_⟩ <;> rintro rfl <;> exact h.2 (by decide)

/-- What a tag of a kind may hold: a letter for the language and digits, or characters of tags. -/
def TagKind.Allows : TagKind → List Char → Prop
  | strongs, body => IsNumber isLanguage body
  | morph, body => body ≠ [] ∧ ∀ c ∈ body, isTagChar c = true

namespace Layout

/-! ### Items -/

/-- Characters of words and marks in a row, possibly none. -/
structure Run where
  /-- The characters. -/
  chars : List Char
  isFree : ∀ c ∈ chars, isFreeChar c = true

/-- A word, or a tag with what stands right after it. -/
inductive Element where
  /-- A word. -/
  | word (w : Run) (hne : w.chars ≠ [])
  /-- A tag. -/
  | tag (k : TagKind) (body : List Char) (hbody : k.Allows body) (after : Run)

/-- Whether an element is a tag. -/
def Element.isTag : Element → Bool
  | word _ _ => false
  | tag _ _ _ _ => true

/-- An item of a text: an element, or a span of elements with what stands right after it. -/
inductive Item where
  /-- An element. -/
  | element (e : Element)
  /-- A span. It does not start with a tag. -/
  | span (k : SpanKind) (content : List Element) (hfirst : ∀ e ∈ content.head?, e.isTag = false)
      (after : Run)

/-- Whether an item is a tag. -/
def Item.isTag : Item → Bool
  | element e => e.isTag
  | span _ _ _ _ => false

/-- The characters of an element. -/
def Element.chars : Element → List Char
  | word w _ => w.chars
  | tag k body _ after => k.enclosed body ++ after.chars

/-- Elements with one space between them. -/
def joined (es : List Element) : List Char := [' '].intercalate (es.map Element.chars)

/-- The characters of an item. -/
def Item.chars : Item → List Char
  | element e => e.chars
  | span k content _ after => k.opening ++ joined content ++ k.closing ++ after.chars

end Layout

/-- A text laid out in items. It does not start with a tag. -/
structure Layout where
  /-- The items. -/
  items : List Layout.Item
  hfirst : ∀ i ∈ items.head?, i.isTag = false

namespace Layout

/-- The text. -/
def chars (t : Layout) : List Char := [' '].intercalate (t.items.map Item.chars)

/-! ### What is shown -/

/-- The space before an item, if there is one. -/
def space (spaced : Bool) : List Char := if spaced then [' '] else []

/-- What is made of several in a row, the first without a space before it. -/
def row {α β : Type} (f : (spaced : Bool) → α → List β) : List α → List β
  | [] => []
  | x :: xs => f false x ++ xs.flatMap (f true)

/-- What is shown of an element: a tag goes with the space before it, and what stands right after it
stays. -/
def Element.shown (r : Rendering) (spaced : Bool) : Element → List Char
  | word w _ => space spaced ++ w.chars
  | tag k body _ after => (if k.shows r then space spaced ++ k.enclosed body else []) ++ after.chars

/-- What is shown of a span with its space, given what is shown of its content. -/
def shownSpan (r : Rendering) (spaced : Bool) (content : List Char) : SpanKind → List Char
  | .added =>
    if !r.added then []
    else if r.italicMarkers then
      space spaced ++ SpanKind.added.opening ++ content ++ SpanKind.added.closing
    else space spaced ++ content
  | .paragraph => if r.paragraph then space spaced ++ content else []
  | .note => if r.notes then " (Notes: ".toList ++ content ++ [')'] else []

/-- What is shown of an item. -/
def Item.shown (r : Rendering) (spaced : Bool) : Item → List Char
  | element e => e.shown r spaced
  | span k content _ after => shownSpan r spaced (row (Element.shown r) content) k ++ after.chars

/-- What a rendering shows of a layout, item by item. -/
def shown (r : Rendering) (t : Layout) : List Char := row (Item.shown r) t.items

/-! ### Blocks -/

/-- A stretch of elements that is read or left as a whole. -/
inductive Bit where
  /-- A word with a space before it. -/
  | word (w : Run) (hne : w.chars ≠ [])
  /-- Characters without a space before them. -/
  | mark (w : Run)
  /-- A tag with a space before it. -/
  | tag (k : TagKind) (body : List Char) (hbody : k.Allows body)

/-- A stretch of a text that is read or left as a whole. -/
inductive Block where
  /-- A stretch of elements. -/
  | bit (b : Bit)
  /-- The space before a span whose marks have gone. -/
  | gap
  /-- A span, perhaps with a space before it. -/
  | span (k : SpanKind) (spaced : Bool) (content : List Bit)

/-- The characters of a bit. -/
def Bit.chars : Bit → List Char
  | word w _ => ' ' :: w.chars
  | mark w => w.chars
  | tag k body _ => ' ' :: k.enclosed body

/-- The characters of bits. -/
def Bit.write (bs : List Bit) : List Char := bs.flatMap Bit.chars

/-- The characters of a block. -/
def Block.chars : Block → List Char
  | bit b => b.chars
  | gap => [' ']
  | span k spaced content => space spaced ++ k.opening ++ Bit.write content ++ k.closing

/-- The characters of blocks. -/
def Block.write (ps : List Block) : List Char := ps.flatMap Block.chars

@[simp] theorem Bit.write_nil : Bit.write [] = [] := rfl

@[simp] theorem Bit.write_cons (b : Bit) (bs : List Bit) :
    Bit.write (b :: bs) = b.chars ++ Bit.write bs := rfl

@[simp] theorem Block.write_nil : Block.write [] = [] := rfl

@[simp] theorem Block.write_cons (p : Block) (ps : List Block) :
    Block.write (p :: ps) = p.chars ++ Block.write ps := rfl

@[simp] theorem Block.write_append (ps qs : List Block) :
    Block.write (ps ++ qs) = Block.write ps ++ Block.write qs :=
  List.flatMap_append

theorem Block.write_flatMap {α : Type} (f : α → List Block) (xs : List α) :
    Block.write (xs.flatMap f) = xs.flatMap fun x => Block.write (f x) :=
  List.flatMap_assoc

@[simp] theorem Block.write_map_bit (bs : List Bit) : Block.write (bs.map .bit) = Bit.write bs :=
  List.flatMap_map ..

/-- What is shown of a bit. -/
def Bit.shown (r : Rendering) : Bit → List Char
  | tag k body hbody => if k.shows r then (Bit.tag k body hbody).chars else []
  | b => b.chars

/-- What is shown of a block. -/
def Block.shown (r : Rendering) : Block → List Char
  | bit b => b.shown r
  | gap => [' ']
  | span k spaced content => shownSpan r spaced (content.flatMap (Bit.shown r)) k

/-- The bits of an element with the space before it. -/
def Element.bits (spaced : Bool) : Element → List Bit
  | word w hne => [if spaced then .word w hne else .mark w]
  | tag k body hbody after => [.tag k body hbody, .mark after]

/-- The blocks of an item with the space before it. -/
def Item.blocks (spaced : Bool) : Item → List Block
  | element e => (e.bits spaced).map .bit
  | span k content _ after => [.span k spaced (row Element.bits content), .bit (.mark after)]

/-- The blocks of a layout. -/
def blocks (t : Layout) : List Block := row Item.blocks t.items

/-! ### Rows -/

section

variable {α β γ : Type} {xs : List α}

theorem flatMap_row (f : Bool → α → List β) (g : β → List γ) (xs : List α) :
    (row f xs).flatMap g = row (fun spaced x => (f spaced x).flatMap g) xs := by
  cases xs with
  | nil => rfl
  | cons x xs => rw [row, row, List.flatMap_append, List.flatMap_assoc]

/-- Only of the first it matters what is made without a space. -/
theorem row_congr {f g : Bool → α → List β} (hfirst : ∀ x ∈ xs.head?, f false x = g false x)
    (hrest : ∀ x, f true x = g true x) : row f xs = row g xs := by
  cases xs with
  | nil => rfl
  | cons x xs => rw [row, row, hfirst x rfl, funext hrest]

/-- What stands between spaces is a row. -/
theorem intercalate_eq_row (f : α → List Char) (xs : List α) :
    [' '].intercalate (xs.map f) = row (fun spaced x => space spaced ++ f x) xs := by
  cases xs with
  | nil => rfl
  | cons x xs =>
    rw [List.map_cons, row]
    induction xs generalizing x with
    | nil => simp [space]
    | cons y xs ih =>
      rw [List.map_cons, List.intercalate_cons_cons, ih, List.flatMap_cons]
      simp [space]

end

/-! ### Blocks and items -/

/-- What is made of the bits of an element is made of the element, with the space before it. -/
theorem Element.flatMap_bits {e : Element} {g : Bit → List Char} {f : Bool → Element → List Char}
    (hword : ∀ spaced w hne, f spaced (.word w hne) = g (if spaced then .word w hne else .mark w))
    (htag : ∀ k body hbody after,
      f true (.tag k body hbody after) = g (.tag k body hbody) ++ g (.mark after))
    {spaced : Bool} (h : spaced = false → e.isTag = false) :
    (e.bits spaced).flatMap g = f spaced e := by
  cases e with
  | word w hne => simp [bits, hword]
  | tag k body hbody after =>
    obtain rfl : spaced = true := by simpa [isTag] using h
    simp [bits, htag]

/-- What is made of the bits of elements is made of the elements. -/
theorem flatMap_row_bits {es : List Element} (hfirst : ∀ e ∈ es.head?, e.isTag = false)
    {g : Bit → List Char} {f : Bool → Element → List Char}
    (hword : ∀ spaced w hne, f spaced (.word w hne) = g (if spaced then .word w hne else .mark w))
    (htag : ∀ k body hbody after,
      f true (.tag k body hbody after) = g (.tag k body hbody) ++ g (.mark after)) :
    (row Element.bits es).flatMap g = row f es := by
  rw [flatMap_row]
  exact row_congr (fun e he => Element.flatMap_bits hword htag fun _ => hfirst e he)
    fun e => Element.flatMap_bits hword htag fun h => nomatch h

/-- The elements of a span are written by their bits. -/
theorem write_row_bits {es : List Element} (hfirst : ∀ e ∈ es.head?, e.isTag = false) :
    Bit.write (row Element.bits es) = joined es := by
  rw [joined, intercalate_eq_row]
  refine flatMap_row_bits hfirst (fun spaced w hne => ?_) fun k body hbody after => ?_
  · cases spaced <;> rfl
  · simp [space, Element.chars, Bit.chars]

/-- **A layout is written by its blocks.** -/
theorem write_blocks (t : Layout) : Block.write t.blocks = t.chars := by
  have hitem : ∀ (spaced : Bool) (i : Item), (spaced = false → i.isTag = false) →
      (i.blocks spaced).flatMap Block.chars = space spaced ++ i.chars := by
    intro spaced i h
    cases i with
    | element e =>
      rw [Item.blocks, List.flatMap_map]
      refine Element.flatMap_bits (f := fun spaced e => space spaced ++ e.chars)
        (fun spaced w hne => ?_) (fun k body hbody after => ?_) h
      · cases spaced <;> rfl
      · simp [space, Element.chars, Block.chars, Bit.chars]
    | span k content hfirst after =>
      simp [Item.blocks, Block.chars, Item.chars, write_row_bits hfirst, Bit.chars]
  rw [chars, intercalate_eq_row, Block.write, blocks, flatMap_row]
  exact row_congr (fun i hi => hitem false i fun _ => t.hfirst i hi)
    fun i => hitem true i fun h => nomatch h

/-- **What is shown of the blocks is shown of the items.** -/
theorem flatMap_blocks (t : Layout) (r : Rendering) : t.blocks.flatMap (Block.shown r) = t.shown r := by
  have hword : ∀ spaced w hne, Element.shown r spaced (.word w hne)
      = Bit.shown r (if spaced then .word w hne else .mark w) := by
    intro spaced w hne
    cases spaced <;> rfl
  have htag : ∀ k body hbody after, Element.shown r true (.tag k body hbody after)
      = Bit.shown r (.tag k body hbody) ++ Bit.shown r (.mark after) := by
    intro k body hbody after
    simp [Element.shown, Bit.shown, Bit.chars, space]
  have hitem : ∀ (spaced : Bool) (i : Item), (spaced = false → i.isTag = false) →
      (i.blocks spaced).flatMap (Block.shown r) = i.shown r spaced := by
    intro spaced i h
    cases i with
    | element e =>
      rw [Item.blocks, List.flatMap_map]
      exact Element.flatMap_bits hword htag h
    | span k content hfirst after =>
      simp [Item.blocks, Block.shown, Item.shown, flatMap_row_bits hfirst hword htag, Bit.shown,
        Bit.chars]
  rw [blocks, flatMap_row]
  exact row_congr (fun i hi => hitem false i fun _ => t.hfirst i hi)
    fun i => hitem true i fun h => nomatch h

end Layout

end Markup

end Concordance
