import Concordance.Canon.Resolve
import Concordance.Text.Digit
import Concordance.Text.WordChar
import Concordance.Verse

/-!
# Mentions of verses

A verse is mentioned by the name of its book and, where they are given, a chapter and a verse number:
`Gen 1:1`, `1 John 3`, `psalms`. A mention may stand anywhere in a text; it begins at a word boundary.
Reading never looks back: the name ends at the first digit or punctuation mark, and each later part is
taken if it is there.

## Main definitions

* `Mention`: the parts of a mention, as written
* `Mention.read?`, `Mention.find?`: a mention at the head of a text, and the first one in it
* `Verse.parse`: the verse that a text mentions
-/

namespace Concordance

/-- A mention of a verse: the parts as they are written. -/
structure Mention where
  /-- The name of the book. -/
  book : List Char
  /-- The digits of the chapter, possibly none. -/
  chapter : List Char
  /-- The digits of the verse, if there is a verse. -/
  verse? : Option (List Char)
deriving Repr, DecidableEq

namespace Mention

/-! ### Parts -/

/-- A character that names of books are made of: no digit, and none of the marks that end a name. -/
def isNameChar (c : Char) : Bool :=
  !Text.isDigit c && !(c ∈ [',', '-', '.', '/', ':', ';'])

/-- An Arabic numeral that a name of a book may begin with. -/
def isBookNumeral (c : Char) : Bool := c == '1' || c == '2' || c == '3'

/-- A name at the head of a text, as long as possible. It may begin with a numeral, but has at least
one other character. -/
def readName? (cs : List Char) : Option (List Char × List Char) :=
  let (numeral, rest) :=
    match cs with
    | d :: rest => if isBookNumeral d then ([d], rest) else ([], cs)
    | [] => ([], [])
  let name := rest.takeWhile isNameChar
  if name.isEmpty then none else some (numeral ++ name, rest.dropWhile isNameChar)

/-- Passes over one dot. -/
def skipDot : List Char → List Char
  | '.' :: rest => rest
  | cs => cs

/-- Up to three digits at the head of a text. -/
def readDigits (cs : List Char) : List Char × List Char :=
  let digits := (cs.take 3).takeWhile Text.isDigit
  (digits, cs.drop digits.length)

/-- A colon at the head of a text, with the blanks around it. -/
def readColon? (cs : List Char) : Option (List Char) :=
  match Text.trimStart cs with
  | ':' :: rest => some (Text.trimStart rest)
  | _ => none

/-- A colon and a number after it. -/
def readVerse? (cs : List Char) : Option (List Char × List Char) :=
  match readColon? cs with
  | none => none
  | some rest =>
    let (digits, rest) := readDigits rest
    if digits.isEmpty then none else some (digits, rest)

/-! ### Whole mentions -/

/-- A mention at the head of a text, and what follows it. -/
def read? (cs : List Char) : Option (Mention × List Char) :=
  match readName? cs with
  | none => none
  | some (book, rest) =>
    let (chapter, rest) := readDigits (Text.trimStart (skipDot rest))
    match readVerse? rest with
    | some (verse, rest) => some (⟨book, chapter, some verse⟩, rest)
    | none => some (⟨book, chapter, none⟩, rest)

/-- Whether a word begins or ends between two neighbours. -/
def atBoundary (before? : Option Char) (c : Char) : Bool :=
  before?.any Text.isWordChar != Text.isWordChar c

/-- The first mention in a text that stands after `before?`, and what follows it. -/
def find? (before? : Option Char) : List Char → Option (Mention × List Char)
  | [] => none
  | c :: cs =>
    if atBoundary before? c then
      match read? (c :: cs) with
      | some found => some found
      | none => find? (some c) cs
    else find? (some c) cs

/-- The verse that is mentioned: a missing number is one, and numbers are clamped to what exists. -/
def verse (m : Mention) : Verse :=
  .ofParts (resolveBook m.book) ((Text.number? m.chapter).getD 1 : Nat)
    (((m.verse?.bind Text.number?).getD 1 : Nat))

end Mention

/-- The verse that a text mentions first, or the first verse of the corpus if it mentions none. -/
def Verse.parse (text : String) : Verse :=
  match Mention.find? none text.toList with
  | some (m, _) => m.verse
  | none => .first

end Concordance
