import Concordance.Pattern.Reader
import Concordance.Term

/-!
# Patterns of phrases

The words and tags of a phrase become one pattern. Each of them is kept in two groups, with edges of
words on both sides. Between two of them a filler passes over punctuation and colours, over tags of a
kind that the phrase has none of, and over whole words if the phrase has tags, has no words, or may be
interrupted.

## Main definitions

* `PhraseStyle`: how strictly a phrase is matched
* `PhraseStyle.source`: the text of the pattern
* `PhraseStyle.matcher`: the pattern itself
-/

namespace Concordance

/-- How the pattern of a phrase is made. -/
structure PhraseStyle where
  /-- Whether case counts. -/
  caseSensitive : Bool := false
  /-- The pattern for either side of a word. -/
  wordBound : List Char := "\\b".toList
  /-- More alternatives that the filler may pass over, each with a bar before it. -/
  fillerExtra : List Char := []
  /-- Whether other words may stand between those of the phrase. -/
  sloppy : Bool := false
  /-- Whether the phrase is a pattern already. -/
  isPattern : Bool := false
deriving Repr, DecidableEq

namespace PhraseStyle

/-! ### Parts of patterns -/

/-- Matches a colour: an escape sequence that sets how characters are shown. -/
def color : List Char := "\\x1b\\[[\\d;]*m".toList

/-- Matches the edge of a word, or the colours there. -/
def colorBound : List Char := "(?:(?:".toList ++ color ++ ")+|\\b)".toList

/-- Matches a sign of punctuation or a blank. -/
def punctuation : List Char := "[\\s,\\?\\!\\.;:\\\\/_\\(\\)\\[\\]\"\x27-]".toList

/-- Matches a word. -/
def anyWord : List Char := "\\b\\w+\\b".toList

/-- Matches what stands in angle brackets. -/
def anyAngles : List Char := "<[^>]*>".toList

/-- Matches what stands in braces. -/
def anyBraces : List Char := "\\\x7b[^\\\x7d]*\\\x7d".toList

/-- Matches any run of word characters. -/
def anyRun : List Char := "\\w*".toList

/-- A text in which every `*` matches any run of word characters. -/
def expandWildcards (cs : List Char) : List Char :=
  cs.flatMap fun c => if c = '*' then anyRun else [c]

/-! ### Elements of a phrase -/

/-- The characters of words and wildcards in a phrase. -/
def isPhraseChar (c : Char) : Bool := Markup.isTagChar c || c == '*'

/-- Reads a Strong's number, a morphology tag, or a word with wildcards. -/
def term? : Text.Recognizer Term := fun afterWord cs =>
  match Term.looseStrongs? afterWord cs with
  | some (number, rest) => some (.strongs (Text.upper number), rest)
  | none =>
    match Term.looseMorph? cs with
    | some (tag, rest) => some (.morph (Text.upper tag), rest)
    | none => (Text.takeSome? isPhraseChar cs).map fun (w, rest) => (.word w, rest)

/-- The elements of a phrase: its parts between blanks, each with the terms that it is made of. -/
def elements (cs : List Char) : List (List Term) :=
  ((Text.words (Term.blankOut cs)).map (Text.items term?)).filter (!·.isEmpty)

/-- The pattern for one side or the other of a body that is kept in two groups. -/
def bounded (s : PhraseStyle) (body : List Char) : List Char :=
  '(' :: s.wordBound ++ '(' :: body ++ ')' :: s.wordBound ++ [')']

/-- The text of the pattern of a term. -/
def termSource (s : PhraseStyle) : Term → List Char
  | .strongs number => '<' :: s.bounded number ++ ['>']
  | .morph tag => '\\' :: '\x7b' :: s.bounded (Pattern.escape tag) ++ ['\\', '\x7d']
  | .word w => s.bounded (expandWildcards w)

/-- The text of the pattern that passes over what may stand between the terms of a phrase. -/
def filler (s : PhraseStyle) (terms : List Term) : List Char :=
  let orElse (wanted : Bool) (p : List Char) : List Char := if wanted then '|' :: p else []
  let hasStrongs := terms.any Term.isStrongs
  let hasMorph := terms.any Term.isMorph
  let hasWords := terms.any Term.isWord
  "(?:".toList ++ punctuation ++ '|' :: color ++ s.fillerExtra
    ++ orElse (!hasStrongs || s.sloppy) anyAngles
    ++ orElse (!hasMorph || s.sloppy) anyBraces
    ++ orElse (!hasWords || hasStrongs || hasMorph || s.sloppy) anyWord
    ++ ")*?".toList

/-- The text of the pattern of a phrase. -/
def source (s : PhraseStyle) (phrase : List Char) : List Char :=
  if s.isPattern then phrase
  else
    let es := elements phrase
    (s.filler es.flatten).intercalate (es.map fun e => e.flatMap s.termSource)

/-- The matcher of a phrase. Case counts only if the style says so. -/
def matcher (s : PhraseStyle) (engine : Engine) (phrase : List Char) : Matcher :=
  .compile engine (!s.caseSensitive) (s.source phrase)

end PhraseStyle

end Concordance
