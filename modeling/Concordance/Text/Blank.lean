import Concordance.Text.CodeRanges

/-!
# Blanks

The blank characters, and what texts do with them: trimming, splitting into words, and collapsing
runs of blanks.

## Main definitions

* `Text.isBlank`: white space of any script
* `Text.runs`: the maximal runs of characters of a class
* `Text.words`, `Text.collapse`: the blank-separated parts of a text, and those parts joined by one
  space each
* `Text.trim`: a text without the blanks at its ends
-/

namespace Concordance

namespace Text

/-- White space: the ASCII blanks, and the separators of other scripts. -/
def isBlank (c : Char) : Bool :=
  let n := c.toNat
  (0x09 ≤ n && n ≤ 0x0D) || n == 0x20 || n == 0x85 || n == 0xA0 || n == 0x1680
    || (0x2000 ≤ n && n ≤ 0x200A) || n == 0x2028 || n == 0x2029 || n == 0x202F || n == 0x205F
    || n == 0x3000

/-! ### Maximal runs -/

/-- The run of `p` at the head of a text, and the runs that follow it. -/
def headRun (p : Char → Bool) : List Char → List Char × List (List Char)
  | [] => ([], [])
  | c :: cs =>
    let (run, later) := headRun p cs
    if p c then (c :: run, later) else ([], if run.isEmpty then later else run :: later)

/-- The maximal runs of characters that satisfy `p`, in order. -/
def runs (p : Char → Bool) (cs : List Char) : List (List Char) :=
  let (run, later) := headRun p cs
  if run.isEmpty then later else run :: later

@[simp] theorem runs_nil (p : Char → Bool) : runs p [] = [] := rfl

/-- The parts of a text between its blanks. -/
def words (cs : List Char) : List (List Char) :=
  runs (fun c => !isBlank c) cs

/-- A text with one space between its parts and none at its ends. -/
def collapse (cs : List Char) : List Char :=
  [' '].intercalate (words cs)

/-! ### Trimming -/

/-- A text without the blanks at its start. -/
def trimStart (cs : List Char) : List Char :=
  cs.dropWhile isBlank

/-- A text without the blanks at its end. -/
def trimEnd (cs : List Char) : List Char :=
  (cs.reverse.dropWhile isBlank).reverse

/-- A text without the blanks at its ends. -/
def trim (cs : List Char) : List Char :=
  trimEnd (trimStart cs)

@[simp] theorem trim_nil : trim [] = [] := rfl

end Text

end Concordance
