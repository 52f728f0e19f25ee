import Concordance.PhraseStyle

/-!
# Wildcards

A word with wildcards is matched against all of a word. In it `*` stands for any run of word characters,
and every other character for itself. The word must begin and end with word characters. An engine is given
the text of a pattern that says so; what the pattern matches is told from a table.

## Main definitions

* `Wildcard.source`: the text of the pattern of a word with wildcards
* `Wildcard.matchesWord`: whether a pattern matches a word
-/

namespace Concordance

namespace Wildcard

/-- The text of the pattern of a word with wildcards. -/
def source (caseSensitive : Bool) (pattern : List Char) : List Char :=
  (if caseSensitive then [] else "(?i)".toList) ++ "^\\b".toList
    ++ PhraseStyle.anyRun.intercalate ((pattern.splitOn '*').map Pattern.escape) ++ "\\b$".toList

/-- Given where the rest of a pattern matches, tells where it matches after any run of word characters.
Both are told for every tail of a word, the longest first. -/
def runRow : List Char → List Bool → List Bool
  | c :: cs, b :: bs =>
    let later := runRow cs bs
    (b || (Text.isWordChar c && later.head?.getD false)) :: later
  | _, bs => bs

/-- Given where the rest of a pattern matches, tells where it matches after one character. -/
def charRow (same : Char → Bool) : List Char → List Bool → List Bool
  | c :: cs, _ :: bs => (same c && bs.head?.getD false) :: charRow same cs bs
  | _, bs => bs.map fun _ => false

/-- For every tail of a word, the longest first, whether the pattern matches all of it. -/
def rows (same : Char → Char → Bool) (word : List Char) : List Char → List Bool
  | [] => word.map (fun _ => false) ++ [true]
  | p :: ps =>
    if p = '*' then runRow word (rows same word ps) else charRow (same p) word (rows same word ps)

/-- Whether a pattern matches a word. -/
def matchesWord (caseSensitive : Bool) (pattern word : List Char) : Bool :=
  let same (p c : Char) : Bool := if caseSensitive then p == c else Text.alike p c
  word.head?.any Text.isWordChar && word.getLast?.any Text.isWordChar
    && (rows same word pattern).head?.getD false

end Wildcard

end Concordance
