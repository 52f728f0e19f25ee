import Concordance.Text.Blank
import Concordance.Text.WordChar

/-!
# Scanning texts

A text is scanned from left to right for items such as tags. At each place a recognizer either reads
an item, and scanning goes on after it, or the character there belongs to no item. What is done with a
text (collecting its items, replacing them, asking whether there are any) is done with the pieces.

## Main definitions

* `Text.Recognizer`: reads an item at the start of a text
* `Text.scan`: the pieces of a text
* `Text.items`, `Text.hasItem`, `Text.replaceItems`: what is done with them
* `Text.skipBlank`, `Text.after?`, `Text.breakAt?`: steps that recognizers are made of
-/

namespace Concordance

namespace Text

/-- Reads an item at the start of a text, if there is one: the item, and the text after it. The first
argument tells whether a word character that belongs to no item stands right before. -/
abbrev Recognizer (α : Type) := Bool → List Char → Option (α × List Char)

/-- A piece of a scanned text. -/
inductive Piece (α : Type) where
  /-- An item. -/
  | item (a : α)
  /-- A character that belongs to no item. -/
  | other (c : Char)
deriving Repr, DecidableEq

/-- The pieces of a text. Items take up at least one character. -/
def scanFrom {α : Type} (f : Recognizer α) (afterWord : Bool) : List Char → List (Piece α)
  | [] => []
  | c :: cs =>
    match f afterWord (c :: cs) with
    | some (a, rest) =>
      if rest.length ≤ cs.length then .item a :: scanFrom f false rest
      else .other c :: scanFrom f (isWordChar c) cs
    | none => .other c :: scanFrom f (isWordChar c) cs
termination_by cs => cs.length

/-- The pieces of a whole text. -/
def scan {α : Type} (f : Recognizer α) (cs : List Char) : List (Piece α) := scanFrom f false cs

/-- The items of a text, in order. -/
def items {α : Type} (f : Recognizer α) (cs : List Char) : List α :=
  (scan f cs).filterMap fun
    | .item a => some a
    | .other _ => none

/-- Whether a text has an item. -/
def hasItem {α : Type} (f : Recognizer α) (cs : List Char) : Bool := !(items f cs).isEmpty

/-- A text with every item replaced. -/
def replaceItems {α : Type} (f : Recognizer α) (replacement : α → List Char) (cs : List Char) :
    List Char :=
  (scan f cs).flatMap fun
    | .item a => replacement a
    | .other c => [c]

/-- A text without its items. -/
def dropItems {α : Type} (f : Recognizer α) (cs : List Char) : List Char :=
  replaceItems f (fun _ => []) cs

@[simp] theorem scanFrom_nil {α : Type} (f : Recognizer α) (afterWord : Bool) :
    scanFrom f afterWord [] = [] := by
  simp [scanFrom]

@[simp] theorem scan_nil {α : Type} (f : Recognizer α) : scan f [] = [] := scanFrom_nil f false

/-! ### Steps of recognizers -/

/-- A text without the blank at its start, if it starts with one. -/
def skipBlank : List Char → List Char
  | [] => []
  | c :: cs => if isBlank c then cs else c :: cs

/-- A text without the blank at its end, if it ends with one. -/
def dropLastBlank (cs : List Char) : List Char :=
  match cs.getLast? with
  | some c => if isBlank c then cs.dropLast else cs
  | none => cs

/-- The text after a mark at its start. -/
def after? : (mark cs : List Char) → Option (List Char)
  | [], cs => some cs
  | _ :: _, [] => none
  | m :: mark, c :: cs => if m = c then after? mark cs else none

theorem after?_eq_some_iff {mark cs rest : List Char} :
    after? mark cs = some rest ↔ cs = mark ++ rest := by
  fun_induction after? mark cs with
  | case1 cs => simp
  | case2 => simp
  | case3 m mark cs ih => simpa using ih
  | case4 m mark c cs h => simp [Ne.symm h]

/-- The text before the first place where a mark stands, and the text after the mark. -/
def breakAt? (mark : List Char) : List Char → Option (List Char × List Char)
  | [] => if mark.isEmpty then some ([], []) else none
  | c :: cs =>
    match after? mark (c :: cs) with
    | some rest => some ([], rest)
    | none => (breakAt? mark cs).map fun (before, rest) => (c :: before, rest)

/-- The characters of a class at the start of a text, of which there must be some, and the text after
them. -/
def takeSome? (p : Char → Bool) (cs : List Char) : Option (List Char × List Char) :=
  let run := cs.takeWhile p
  if run.isEmpty then none else some (run, cs.dropWhile p)

end Text

end Concordance
