import Concordance.Json.Fields
import Concordance.Pattern.Match
import Concordance.PhraseStyle

/-!
# Highlighting

The words that a search has found are marked in the text by enclosing them. Every term of the search
has a pattern of its own, and each pattern is applied to the text that those before it have marked.
Marks may be escape sequences that set colours: the patterns take such a sequence next to a word as a
part of its edge.

## Main definitions

* `Highlight`: what is put before and after a word
* `Highlight.matchers`: the patterns for the terms of a search
* `Highlight.mark`: a text with what the patterns match marked
* `Highlight.stripColor`: a text without escape sequences that set colours
-/

namespace Concordance

/-- What is put before and after a highlighted word. -/
structure Highlight where
  /-- What comes before. -/
  before : List Char
  /-- What comes after. -/
  after : List Char
deriving Repr, DecidableEq

namespace Highlight

/-- Reverse video: an escape sequence that turns it on, and one that turns it off. -/
def reverseVideo : Highlight := ⟨"\x1b[7m".toList, "\x1b[m".toList⟩

instance : Inhabited Highlight := ⟨reverseVideo⟩

/-- A text between the marks. -/
def wrap (h : Highlight) (cs : List Char) : List Char := h.before ++ cs ++ h.after

/-- The marks as a JSON value. -/
def toJson (h : Highlight) : Json :=
  .ofMembers [("prefix", .ofString (String.ofList h.before)),
    ("suffix", .ofString (String.ofList h.after))]

/-- The marks that a JSON value gives. -/
def ofJson? (j : Json) : Option Highlight := do
  let fields ← j.fields? ["prefix", "suffix"]
  let before ← fields.required? "prefix" Json.text?
  let after ← fields.required? "suffix" Json.text?
  return ⟨before.toList, after.toList⟩

/-! ### Patterns of terms -/

/-- The signs that may stand before a term to say how it takes part in a search. -/
def isOperator (c : Char) : Bool := c == '!' || c == '^' || c == '+' || c == '|'

/-- The pattern of a word with wildcards. -/
def wildcardSource (cs : List Char) : List Char :=
  let word := PhraseStyle.expandWildcards (cs.dropWhile isOperator)
  PhraseStyle.colorBound ++ '(' :: word ++ ')' :: PhraseStyle.colorBound

/-- The matcher of a term. A term after `&` is a pattern, one with a wildcard and without spaces is a
word, and all else is a phrase, which may be interrupted if it has a `~`. -/
def matcherOf (engine : Engine) (caseSensitive sloppy : Bool) (term : List Char) : Matcher :=
  let style : PhraseStyle :=
    { caseSensitive
      wordBound := PhraseStyle.colorBound
      fillerExtra := '|' :: PhraseStyle.color ++ "|\\x1b".toList
      sloppy := sloppy || term.contains '~' }
  match term with
  | '&' :: source => { style with isPattern := true }.matcher engine source
  | term =>
    if term.contains '*' && !term.contains ' ' then
      .compile engine (!caseSensitive) (wildcardSource term)
    else style.matcher engine term

/-- The matchers of the terms of a search. -/
def matchers (engine : Engine) (terms : List (List Char)) (caseSensitive sloppy : Bool) : List Matcher :=
  ((terms.map Text.trim).filter (!·.isEmpty)).map (matcherOf engine caseSensitive sloppy)

/-! ### Marking -/

/-- The stretches of a match that are marked: what its groups hold, each once and none without
characters, or else all of it. -/
def targets (p : Pattern) (t : Array Char) (m : Match) : List (List Char) :=
  let held := (List.range' 1 (p.groupCount - 1)).filterMap (m.group? t)
  let held := held.filter (!·.isEmpty)
  if held.isEmpty then [m.text t] else held.eraseDups

/-- The pattern of a word as it is, with the colours at its edges. -/
def wordSource (word : List Char) : List Char :=
  '(' :: PhraseStyle.colorBound ++ Pattern.escape word ++ PhraseStyle.colorBound ++ [')']

/-- The matcher of a word and the colours at its edges. -/
def wordMatcher (engine : Engine) (word : List Char) : Matcher := .compile engine false (wordSource word)

/-- A text with every place marked where a word stands. -/
def markWord (h : Highlight) (engine : Engine) (cs word : List Char) : List Char :=
  let t := cs.toArray
  (wordMatcher engine word).pattern.replaceAll t fun m => h.wrap ((m.group? t 1).getD [])

/-- A text with its match marked. -/
def markMatch (h : Highlight) (engine : Engine) (p : Pattern) (t : Array Char) (m : Match) : List Char :=
  (targets p t m).foldl (h.markWord engine) (m.text t)

/-- A text with all matches of a pattern marked. -/
def markAll (h : Highlight) (engine : Engine) (cs : List Char) (p : Pattern) : List Char :=
  let t := cs.toArray
  p.replaceAll t (h.markMatch engine p t)

/-- A text with all matches of all patterns marked, one pattern after another, and without blanks at
its ends. -/
def mark (h : Highlight) (engine : Engine) (ms : List Matcher) (cs : List Char) : List Char :=
  (ms.map (·.pattern)).foldl (h.markAll engine) (Text.trim cs)

/-! ### Colours -/

/-- Reads an escape sequence that sets colours. -/
def color? (cs : List Char) : Option (Unit × List Char) := do
  let cs ← Text.after? ['\x1b', '['] cs
  let cs ← Text.after? ['m'] (cs.dropWhile fun c => Text.isDigit c || c == ';')
  return ((), cs)

/-- A text without escape sequences that set colours. -/
def stripColor (cs : List Char) : List Char := Text.dropItems (fun _ => color?) cs

end Highlight

end Concordance
