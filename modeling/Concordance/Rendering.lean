import Concordance.Markup.Span

/-!
# Rendering

An annotated text is rendered by leaving out the annotations that are not wanted. A rendering says
which ones are kept; the passes over the text come in a fixed order, and the blanks at the ends go last.

## Main definitions

* `Rendering`: which annotations are kept
* `Rendering.render`: the rendered text
-/

namespace Concordance

/-- Which annotations of a text are kept. -/
structure Rendering where
  /-- Strong's numbers. -/
  strongs : Bool := false
  /-- Morphology tags. -/
  morph : Bool := false
  /-- Words added by translators. -/
  added : Bool := true
  /-- The marks around added words. -/
  italicMarkers : Bool := false
  /-- Paragraph signs. The marks around them always go. -/
  paragraph : Bool := true
  /-- Notes. -/
  notes : Bool := false
deriving Repr, DecidableEq, Inhabited

namespace Rendering

open Markup Text

/-- A pass over a text that is made only if it is wanted. -/
def passIf (wanted : Bool) (pass : List Char → List Char) (cs : List Char) : List Char :=
  if wanted then pass cs else cs

/-- Leaves out the Strong's numbers, each with the blanks before it. -/
def dropStrongs : List Char → List Char :=
  dropItems fun _ cs => strongs? isLanguage (trimStart cs)

/-- Leaves out the morphology tags, each with the blanks before it. -/
def dropMorph : List Char → List Char :=
  dropItems fun _ cs => morph? (trimStart cs)

/-- Leaves out the spans of one kind. -/
def dropSpans (k : SpanKind) : List Char → List Char :=
  dropItems fun _ cs => span? k cs

/-- Leaves out the marks of one kind, not what they enclose. -/
def dropMarkers (k : SpanKind) : List Char → List Char :=
  dropItems fun _ cs => marker? k cs

/-- What a kept note looks like. -/
def showNote (content : List Char) : List Char :=
  " (Notes: ".toList ++ content ++ [')']

/-- Replaces the notes by what they look like. -/
def showNotes : List Char → List Char :=
  replaceItems (fun _ cs => span? .note cs) showNote

/-- The rendered form of an annotated text. -/
def render (r : Rendering) (raw : List Char) : List Char :=
  let cs := passIf (!r.strongs) dropStrongs raw
  let cs := passIf (!r.morph) dropMorph cs
  let cs := passIf (!r.added) (dropSpans .added) cs
  let cs := passIf (!r.italicMarkers) (dropMarkers .added) cs
  let cs := if r.paragraph then dropMarkers .paragraph cs else dropSpans .paragraph cs
  let cs := if r.notes then showNotes cs else dropSpans .note cs
  trim cs

end Rendering

end Concordance
