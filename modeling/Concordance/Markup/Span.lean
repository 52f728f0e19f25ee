import Concordance.Markup.Tag

/-!
# Spans

A stretch of an annotated text that stands between an opening mark such as `<i>` and a closing mark
such as `</i>` is a span. There are spans of words that translators have added (`i`), of paragraph signs
(`p`) and of notes (`n`). Spans of one kind do not nest: a span ends at the first closing mark of its
kind. One blank before a span, and one blank next to each mark inside it, belong to the marks.

## Main definitions

* `Markup.SpanKind`: the kinds of spans
* `Markup.span?`: a span, with its content
* `Markup.marker?`: a mark of one kind, with its blank
* `Markup.anyMark?`: a mark of any kind
-/

namespace Concordance

namespace Markup

/-- The kinds of spans. -/
inductive SpanKind where
  /-- Words added by translators. -/
  | added
  /-- Paragraph signs. -/
  | paragraph
  /-- Notes. -/
  | note
deriving Repr, DecidableEq

namespace SpanKind

/-- The letter of the marks. -/
def letter : SpanKind → Char
  | added => 'i'
  | paragraph => 'p'
  | note => 'n'

/-- All kinds. -/
def all : List SpanKind := [paragraph, added, note]

/-- The opening mark. -/
def opening (k : SpanKind) : List Char := ['<', k.letter, '>']

/-- The closing mark. -/
def closing (k : SpanKind) : List Char := ['<', '/', k.letter, '>']

end SpanKind

/-- Reads a span with the blank before it, and gives its content. -/
def span? (k : SpanKind) (cs : List Char) : Option (List Char × List Char) := do
  let cs ← Text.after? k.opening (Text.skipBlank cs)
  let (content, rest) ← Text.breakAt? k.closing (Text.skipBlank cs)
  return (Text.dropLastBlank content, rest)

/-- Reads an opening mark with the blank after it, or a closing mark with the blank before it. -/
def marker? (k : SpanKind) (cs : List Char) : Option (Unit × List Char) :=
  match Text.after? k.opening cs with
  | some rest => some ((), Text.skipBlank rest)
  | none => (Text.after? k.closing (Text.skipBlank cs)).map fun rest => ((), rest)

/-- Reads a mark of any kind. -/
def anyMark? (cs : List Char) : Option (Unit × List Char) :=
  (SpanKind.all.findSome? fun k =>
    (Text.after? k.opening cs).or (Text.after? k.closing cs)).map fun rest => ((), rest)

end Markup

end Concordance
