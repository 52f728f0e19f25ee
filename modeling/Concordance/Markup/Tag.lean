import Concordance.Text.Digit
import Concordance.Text.Scan

/-!
# Tags

Annotated texts carry two kinds of tags after their words. A Strong's number stands in angle brackets,
as in `<H430>`: a letter for the language, Hebrew or Greek, and the digits of a dictionary entry. A
morphology tag stands in braces, as in `{N-NSM}`: word characters and hyphens that parse the word.

Queries write tags more freely, so that readers of the parts of a tag are shared by all.

## Main definitions

* `Markup.number?`: a Strong's number without brackets
* `Markup.strongs?`, `Markup.morph?`: tags in their brackets
* `Markup.isTagChar`: the characters that morphology tags are made of
-/

namespace Concordance

namespace Markup

/-- The letters of the two languages. -/
def isLanguage (c : Char) : Bool := c == 'G' || c == 'H'

/-- The letters of the two languages, in either case. -/
def isLanguageAnyCase (c : Char) : Bool := isLanguage c || c == 'g' || c == 'h'

/-- The characters that morphology tags are made of. -/
def isTagChar (c : Char) : Bool := Text.isWordChar c || c == '-'

/-- Reads a Strong's number without brackets: a language letter and digits. -/
def number? (language : Char → Bool) : List Char → Option (List Char × List Char)
  | [] => none
  | c :: cs =>
    if language c then (Text.takeSome? Text.isDigit cs).map fun (ds, rest) => (c :: ds, rest)
    else none

/-- Reads a character. -/
def sign? (c : Char) (cs : List Char) : Option (List Char) := Text.after? [c] cs

/-- Reads a Strong's number in angle brackets, and gives the number. -/
def strongs? (language : Char → Bool) (cs : List Char) : Option (List Char × List Char) := do
  let cs ← sign? '<' cs
  let (number, cs) ← number? language cs
  let cs ← sign? '>' cs
  return (number, cs)

/-- Reads a morphology tag in braces, and gives what the braces hold. -/
def morph? (cs : List Char) : Option (List Char × List Char) := do
  let cs ← sign? '\x7b' cs
  let (tag, cs) ← Text.takeSome? isTagChar cs
  let cs ← sign? '\x7d' cs
  return (tag, cs)

end Markup

end Concordance
