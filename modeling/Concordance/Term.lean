import Concordance.Markup.Tag
import Concordance.Text.LetterCase

/-!
# Terms

A query is made of words, in which `*` stands for any run of word characters, and of tags. Tags may be
written in lower case, a Strong's number without its brackets, and a morphology tag in parentheses; a
term holds them in one form.

## Main definitions

* `Term`: a word, a Strong's number or a morphology tag
* `Term.ofToken`: the term that a token writes
* `Term.text`, `Term.key`: the written form, and the key of a term in an index
* `Term.canonicalTags`: a text with all its tags in their one form
* `Term.cleanText`: a text reduced to what terms are made of
-/

namespace Concordance

/-- A term of a query. -/
inductive Term where
  /-- A word, perhaps with wildcards. -/
  | word (spelling : List Char)
  /-- A Strong's number, without brackets. -/
  | strongs (number : List Char)
  /-- A morphology tag, without braces. -/
  | morph (tag : List Char)
deriving Repr, DecidableEq, Inhabited

namespace Term

open Markup Text

/-! ### Keys -/

/-- The signs that enclose tags. -/
def isBracket (c : Char) : Bool :=
  c == '<' || c == '>' || c == '\x7b' || c == '\x7d' || c == '(' || c == ')'

/-- The key under which a term is found in an index: the term without the signs that enclose tags, and
without blanks at its ends. -/
def normalizeKey (cs : List Char) : List Char := trim (cs.filter (!isBracket ·))

/-! ### Tags in queries -/

/-- A text after a character that may stand there. -/
def skipSign (c : Char) (cs : List Char) : List Char := (sign? c cs).getD cs

/-- Whether a text starts with a word character. -/
def startsInWord : List Char → Bool
  | [] => false
  | c :: _ => isWordChar c

/-- Reads a Strong's number in any case, with or without either bracket, and gives the number. It must
not be a part of a longer word. -/
def looseStrongs? : Recognizer (List Char) := fun afterWord cs =>
  let body? (cs : List Char) : Option (List Char × List Char) := do
    let (number, cs) ← number? isLanguageAnyCase cs
    if startsInWord cs then none else some (number, skipSign '>' cs)
  match (sign? '<' cs).bind body? with
  | some found => some found
  | none => if afterWord then none else body? cs

/-- Reads a sign that opens a morphology tag. -/
def tagOpening? (cs : List Char) : Option (List Char) := (sign? '(' cs).or (sign? '\x7b' cs)

/-- Reads a sign that closes a morphology tag. -/
def tagClosing? (cs : List Char) : Option (List Char) := (sign? ')' cs).or (sign? '\x7d' cs)

/-- Reads a morphology tag in braces or parentheses, and gives what they hold. -/
def looseMorph? (cs : List Char) : Option (List Char × List Char) := do
  let cs ← tagOpening? cs
  let (tag, cs) ← takeSome? isTagChar cs
  let cs ← tagClosing? cs
  return (tag, cs)

/-- Reads a morphology tag that starts and ends with word characters. -/
def boundedMorph? : Recognizer (List Char) := fun _ cs => do
  let (tag, cs) ← looseMorph? cs
  if startsInWord tag && startsInWord tag.reverse then some (tag, cs) else none

/-- A Strong's number in its brackets. -/
def inAngles (number : List Char) : List Char := '<' :: number ++ ['>']

/-- A morphology tag in its braces. -/
def inBraces (tag : List Char) : List Char := '\x7b' :: tag ++ ['\x7d']

/-- A text with every tag in upper case and in its own kind of brackets. -/
def canonicalTags (cs : List Char) : List Char :=
  replaceItems boundedMorph? (fun tag => inBraces (upper tag))
    (replaceItems looseStrongs? (fun number => inAngles (upper number)) cs)

/-- Whether a text mentions a Strong's number. -/
def mentionsStrongs (cs : List Char) : Bool := hasItem looseStrongs? cs

/-- Whether a text mentions a morphology tag. -/
def mentionsMorph (cs : List Char) : Bool := hasItem boundedMorph? cs

/-! ### Terms of a text -/

/-- Whether a token is a Strong's number, in any case and with or without either bracket. -/
def isStrongsToken (cs : List Char) : Bool :=
  match number? isLanguageAnyCase (skipSign '<' cs) with
  | some (_, rest) => (skipSign '>' rest).isEmpty
  | none => false

/-- Whether a token is a morphology tag in braces or parentheses. -/
def isMorphToken (cs : List Char) : Bool :=
  match looseMorph? cs with
  | some (_, rest) => rest.isEmpty
  | none => false

/-- The term that a token writes. -/
def ofToken (token : List Char) : Term :=
  if isStrongsToken token then strongs (upper (normalizeKey token))
  else if isMorphToken token then morph (upper (normalizeKey token))
  else word token

/-- The terms of a text, between its blanks. -/
def parseAll (cs : List Char) : List Term := (words cs).map ofToken

/-- The characters that words, wildcards and tags are made of. -/
def isTermChar (c : Char) : Bool := isTagChar c || c == '*' || isBracket c

/-- Characters that terms are not made of give way to spaces. -/
def blankOut (cs : List Char) : List Char := cs.map fun c => if isTermChar c then c else ' '

/-- A text reduced to what terms are made of, with one space between its parts. -/
def cleanText (cs : List Char) : List Char := collapse (blankOut cs)

/-! ### What a term is -/

/-- The written form. -/
def text : Term → List Char
  | word spelling => spelling
  | strongs number => inAngles number
  | morph tag => inBraces tag

/-- The key in an index. -/
def key (t : Term) : List Char := normalizeKey t.text

/-- Whether the term is a word. -/
def isWord : Term → Bool
  | word _ => true
  | _ => false

/-- Whether the term is a Strong's number. -/
def isStrongs : Term → Bool
  | strongs _ => true
  | _ => false

/-- Whether the term is a morphology tag. -/
def isMorph : Term → Bool
  | morph _ => true
  | _ => false

/-- The term for a search that may ignore case: words go to lower case then, and tags do not. -/
def foldCase (caseSensitive : Bool) : Term → Term
  | word spelling => word (if caseSensitive then spelling else lower spelling)
  | t => t

end Term

end Concordance
