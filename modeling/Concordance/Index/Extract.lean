import Concordance.Markup.Span

/-!
# What a text is found by

A verse is found by the words, the Strong's numbers and the morphology tags of its text. Notes are left
out, and so are the marks of spans. Tags count where a blank comes before them.

A tag may stand inside a word. So there are two readings of the words: in one, tags go together with
the blanks before them, and what they stood between is one word; in the other, the same holds of tags
in any case, but only one blank goes, and characters beyond ASCII go as well.

## Main definitions

* `Extract`: the words, numbers and tags of a text
* `Extract.ofText`: extraction
-/

namespace Concordance

/-- What a text is found by. -/
structure Extract where
  /-- The words, each once. -/
  words : List (List Char)
  /-- The Strong's numbers. -/
  strongs : List (List Char)
  /-- The morphology tags. -/
  morph : List (List Char)
deriving Repr, DecidableEq

namespace Extract

open Markup Text

/-- Reads a blank and what a recognizer reads after it. -/
def afterBlank {α : Type} (f : List Char → Option (α × List Char)) : Recognizer α := fun _ cs =>
  match cs with
  | [] => none
  | c :: cs => if isBlank c then f cs else none

/-- Reads a Strong's number in any case, after a blank. -/
def spacedStrongs? : Recognizer (List Char) := afterBlank (strongs? isLanguageAnyCase)

/-- Reads a morphology tag after a blank. -/
def spacedMorph? : Recognizer (List Char) := afterBlank morph?

/-- The characters of morphology tags in upper case. -/
def isUpperTagChar (c : Char) : Bool := c.isUpper || isDigit c || c == '-'

/-- Reads a tag in upper case, perhaps one without digits or empty, with the blanks before it. -/
def upperTag? (cs : List Char) : Option (Unit × List Char) :=
  let cs := trimStart cs
  let number? : Option (List Char) := do
    let cs ← sign? '<' cs
    match cs with
    | c :: cs => if isLanguage c then sign? '>' (cs.dropWhile isDigit) else none
    | [] => none
  let tag? : Option (List Char) := do
    let cs ← sign? '\x7b' cs
    sign? '\x7d' (cs.dropWhile isUpperTagChar)
  (number?.or tag?).map fun rest => ((), rest)

/-- A text without notes and without the marks of spans. -/
def withoutSpans (raw : List Char) : List Char :=
  dropItems (fun _ => anyMark?) (dropItems (fun _ => span? .note) raw)

/-- A text without tags in upper case and the blanks before them. -/
def joined (cs : List Char) : List Char := dropItems (fun _ => upperTag?) cs

/-- The ASCII characters of a text without tags after blanks. -/
def separated (cs : List Char) : List Char :=
  (dropItems spacedMorph? (dropItems spacedStrongs? cs)).filter fun c => c.toNat < 0x80

/-- What a text is found by. -/
def ofText (raw : List Char) : Extract :=
  let cs := withoutSpans raw
  { words := (runs isWordChar (separated cs) ++ runs isWordChar (joined cs)).eraseDups
    strongs := items spacedStrongs? cs
    morph := items spacedMorph? cs }

/-- Everything that a text is found by. -/
def keys (e : Extract) : List (List Char) := e.strongs ++ e.morph ++ e.words

end Extract

end Concordance
