import Concordance.Passage
import Concordance.Verse.Mention

/-!
# Passage expressions

Passages are asked for by expressions such as `Gen 1:1-5, 9; Exo 3; Matt-John`. Commas and semicolons
separate fragments. A fragment that names no book goes on in the book of the fragment before it and,
unless it has a colon, in its chapter.

## Main definitions

* `Extent`: a mention and the end it is drawn out to, as written
* `PassageItem`: a verse or a longer passage
* `PassageItem.parseAll`: the items of an expression
* `VerseSet.parse`: the verses that an expression covers
-/

namespace Concordance

/-- The end that a mention is drawn out to, as written after the dash. -/
structure ExtentEnd where
  /-- The name of another book. -/
  book? : Option (List Char)
  /-- The digits before a colon. -/
  chapter? : Option (List Char)
  /-- The last digits: a verse, or a chapter if no other number says which. -/
  number? : Option (List Char)
deriving Repr, DecidableEq

/-- A mention, and the end it is drawn out to if there is a dash. -/
structure Extent where
  /-- Where it starts. -/
  start : Mention
  /-- Where it ends. -/
  stop? : Option ExtentEnd
deriving Repr, DecidableEq

/-- An item of a passage expression. -/
inductive PassageItem where
  /-- A single verse. -/
  | verse (v : Verse)
  /-- A passage that does not end where it starts. -/
  | passage (p : Passage)
deriving DecidableEq

namespace Extent

/-! ### Reading -/

/-- What follows a dash: a name, a chapter and a number, each if it is there. -/
def readEnd (cs : List Char) : ExtentEnd × List Char :=
  let (book?, rest) :=
    match Mention.readName? cs with
    | some (name, rest) => (some name, rest)
    | none => (none, cs)
  let rest := Text.trimStart (Mention.skipDot rest)
  let (digits, after) := Mention.readDigits rest
  if digits.isEmpty then (⟨book?, none, none⟩, rest)
  else match Mention.readColon? after with
    | none => (⟨book?, none, some digits⟩, after)
    | some after =>
      let (number, rest) := Mention.readDigits after
      (⟨book?, some digits, if number.isEmpty then none else some number⟩, rest)

/-- A dash at the head of a text, with the blanks around it, and the end after it. -/
def readDash? (cs : List Char) : Option (ExtentEnd × List Char) :=
  match Text.trimStart cs with
  | '-' :: rest => some (readEnd (Text.trimStart rest))
  | _ => none

/-- The first extent in a text that stands after `before?`, and what follows it. -/
def find? (before? : Option Char) (cs : List Char) : Option (Extent × List Char) :=
  match Mention.find? before? cs with
  | none => none
  | some (start, rest) =>
    match readDash? rest with
    | some (stop, rest) => some (⟨start, some stop⟩, rest)
    | none => some (⟨start, none⟩, rest)

/-- The extents in a text that stands after `before?`, one after another. Each takes at least one
character, so that `fuel` is never short if it starts as the length of the text. -/
def findFrom : (fuel : Nat) → (before? : Option Char) → List Char → List Extent
  | 0, _, _ => []
  | fuel + 1, before?, cs =>
    match find? before? cs with
    | none => []
    | some (extent, rest) =>
      extent :: findFrom fuel (cs.take (cs.length - rest.length)).getLast? rest

/-- The extents in a text, one after another. -/
def findAll (cs : List Char) : List Extent := findFrom cs.length none cs

/-! ### Meaning -/

/-- The number that digits write, if they are there and have a value. -/
def value? (digits? : Option (List Char)) : Option Nat := digits?.bind Text.number?

/-- The book that a name after a dash means, unless there is only blank space. -/
def book? (name? : Option (List Char)) : Option Nat :=
  (name?.filter fun name => !(Text.trim name).isEmpty).map resolveBook

/-- The last verse of a chapter, the chapter being clamped into its book. -/
def endOfChapter (book chapter : Nat) : Verse := .ofParts book chapter (lastVerse book chapter)

/-- The last verse of a book. -/
def endOfBook (book : Nat) : Verse := endOfChapter book (bookAt book).chapterCount

/-- Where an extent ends: by the numbers given, a lone number being read as what the start makes it;
with no number, at the end of the book or chapter that was named last. -/
def last (e : Extent) : Verse :=
  let book := resolveBook e.start.book
  let chapter? := Text.number? e.start.chapter
  let verse? := value? e.start.verse?
  let endBook? := e.stop?.bind fun s => book? s.book?
  let endChapter? := e.stop?.bind fun s => value? s.chapter?
  let number? := e.stop?.bind fun s => value? s.number?
  match endChapter?, number? with
  -- `3:4-4:2` and `3:4-Exo 5:6` give both numbers
  | some chapter, _ => .ofParts (endBook?.getD book) chapter (number?.getD 1 : Nat)
  | none, some n =>
    match verse?, endBook? with
    -- `3:4-10` stays in its chapter
    | some _, none => .ofParts book (chapter?.getD 1 : Nat) n
    -- `3:4-Exo 5`, `Gen 1-4` and `Gen-Exo 4` end with a chapter
    | _, _ => endOfChapter (endBook?.getD book) n
  | none, none =>
    match verse?, endBook? with
    -- `3:4` is one verse
    | some _, none => .ofParts book 1 1
    -- `3:4-Exo` ends with a book
    | some _, some endBook => endOfBook endBook
    -- `Gen 3` is one chapter and `Gen` the whole book, also where `Gen` is named twice
    | none, endBook? =>
      if endBook?.all (· == book) then
        endOfChapter book (chapter?.getD (bookAt book).chapterCount)
      else endOfBook (endBook?.getD book)

/-- The item that an extent means. -/
def item (e : Extent) : PassageItem :=
  let first := e.start.verse
  let last := e.last
  if first < last then .passage (.ofEnds first last) else .verse first

end Extent

namespace PassageItem

/-- The last verse of an item. -/
def last : PassageItem → Verse
  | verse v => v
  | passage p => p.upper

/-- The verses of an item. -/
def toSet : PassageItem → VerseSet
  | verse v => {v}
  | passage p => p.toSet

/-- The items of one fragment on its own. -/
def parseFragment (cs : List Char) : List PassageItem := (Extent.findAll cs).map Extent.item

/-- A fragment that names no book, put after the book and, unless it has a colon, the chapter that
went before. -/
def qualify (context : Verse) (fragment : List Char) : List Char :=
  if fragment.contains ':' then context.book.name.toList ++ ' ' :: fragment
  else
    context.book.name.toList ++ ' ' :: (toString context.location.chapter).toList
      ++ ':' :: fragment

/-- The items of one fragment that stands after a verse. -/
def parseAfter (context : Verse) (fragment : List Char) : List PassageItem :=
  match parseFragment fragment with
  | [] => parseFragment (qualify context fragment)
  | items => items

/-- The items of the fragments that stand after a verse. -/
def parseFragments (context : Verse) : List (List Char) → List PassageItem
  | [] => []
  | fragment :: rest =>
    let items := parseAfter context fragment
    items ++ parseFragments ((items.getLast?.map last).getD context) rest

/-- The fragments of an expression, trimmed, without empty ones. -/
def fragments (text : List Char) : List (List Char) :=
  ((Text.runs (fun c => c != ',' && c != ';') text).map Text.trim).filter fun f => !f.isEmpty

/-- The items of an expression. -/
def parseAll (text : String) : List PassageItem :=
  parseFragments .first (fragments text.toList)

end PassageItem

/-- The verses that an expression covers. -/
def VerseSet.parse (text : String) : VerseSet :=
  .unionOf PassageItem.toSet (PassageItem.parseAll text)

end Concordance
