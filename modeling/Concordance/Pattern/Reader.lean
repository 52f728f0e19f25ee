import Concordance.Pattern.Bracket
import Concordance.Pattern.Engine

/-!
# Reading patterns

Patterns are written as regular expressions. The text is read from left to right, with the groups that
are open kept on a stack; a text that is no pattern is refused as a whole. There are no conditions on
what surrounds a match, other than places, and no references back to groups.

## Main definitions

* `Pattern.read?`: the pattern that a text writes
* `Matcher.compile`: a pattern with its text; a text that writes none, or one that the engine refuses,
  matches nothing
* `Pattern.escape`: the text that matches given characters and nothing else
-/

namespace Concordance

namespace Pattern

/-! ### What has been read -/

/-- A sequence that is being read, as far as its group goes: the alternatives before it, and its items
so far. An item without a pattern is a switch of modes, which cannot be repeated. -/
structure Branches where
  /-- The alternatives that are complete, last first. -/
  done : List Pattern
  /-- The items of the alternative at hand, last first. -/
  items : List (Option Pattern)

namespace Branches

/-- Nothing. -/
def none : Branches := ⟨[], []⟩

/-- One more item. -/
def push (b : Branches) (p : Pattern) : Branches := { b with items := some p :: b.items }

/-- The alternative at hand. -/
def current (b : Branches) : Pattern := .ofSeq (b.items.reverse.filterMap id)

/-- The start of one more alternative. -/
def next (b : Branches) : Branches := ⟨b.current :: b.done, []⟩

/-- All alternatives. -/
def pattern (b : Branches) : Pattern := .ofAlt (b.current :: b.done).reverse

/-- The last item repeated. -/
def repeatLast? (b : Branches) (low : Nat) (high? : Option Nat) (greedy : Bool) : Option Branches :=
  match b.items with
  | some p :: items => some { b with items := some (.ofRepeat p low high? greedy) :: items }
  | _ => Option.none

end Branches

/-- A group that is still open, with what surrounds it. -/
structure OpenGroup where
  /-- The number under which its stretch is kept. -/
  index? : Option Nat
  /-- The modes around it. -/
  mode : Mode
  /-- What was read around it. -/
  around : Branches

/-- What has been read of a pattern. -/
structure Reading where
  /-- The modes in force. -/
  mode : Mode
  /-- What was read of the group at hand. -/
  branches : Branches
  /-- The groups that are open, innermost first. -/
  groups : List OpenGroup
  /-- How many numbers of groups have been given out. -/
  count : Nat
  /-- The names of groups. -/
  names : List (List Char)

namespace Reading

/-- Before anything has been read. -/
def start (m : Mode) : Reading := ⟨m, .none, [], 0, []⟩

/-- One more item. -/
def push (r : Reading) (p : Pattern) : Reading := { r with branches := r.branches.push p }

/-- A switch of modes. -/
def switch (r : Reading) (m : Mode) : Reading :=
  { r with mode := m, branches := { r.branches with items := none :: r.branches.items } }

/-- How many groups may be open at once. -/
def maxDepth : Nat := 250

/-- A group is opened, with modes of its own. -/
def openGroup? (r : Reading) (index? : Option Nat) (m : Mode) : Option Reading :=
  if r.groups.length < maxDepth then
    some { r with mode := m, branches := .none, groups := ⟨index?, r.mode, r.branches⟩ :: r.groups }
  else none

/-- A group is opened whose stretch is kept under the next number. -/
def openCapture? (r : Reading) : Option Reading :=
  { r with count := r.count + 1 }.openGroup? (some (r.count + 1)) r.mode

/-- A group is opened that has a name. No two groups have the same one. -/
def openNamed? (r : Reading) (name : List Char) : Option Reading :=
  if r.names.contains name then none else { r with names := name :: r.names }.openCapture?

/-- The innermost group is closed. -/
def closeGroup? (r : Reading) : Option Reading :=
  match r.groups with
  | [] => none
  | g :: groups =>
    let p := r.branches.pattern
    let p := match g.index? with
      | some index => .group index p
      | none => p
    some { r with mode := g.mode, branches := g.around.push p, groups }

/-- The last item is repeated; a mark makes the repetition lazy, or greedy where lazy ones come
first. -/
def repeatLast? (r : Reading) (low : Nat) (high? : Option Nat) (marked : Bool) : Option Reading :=
  (r.branches.repeatLast? low high? (marked == r.mode.lazyFirst)).map fun b =>
    { r with branches := b }

end Reading

/-! ### Groups -/

/-- A character of the name of a group. -/
def isGroupNameChar (first : Bool) (c : Char) : Bool :=
  c == '_' || Text.isAlphabetic c
    || (!first && (c == '.' || c == '[' || c == ']' || Text.isNumeric c))

/-- The name of a group up to the closing bracket. -/
def readGroupName? (cs : List Char) : Option (List Char × List Char) :=
  let name := cs.takeWhile (· != '>')
  match name, cs.drop name.length with
  | c :: cs, '>' :: rest =>
    if isGroupNameChar true c && cs.all (isGroupNameChar false) then some (name, rest) else none
  | _, _ => none

/-- The letters that switch modes, up to the sign after them: those after a hyphen switch modes off.
No letter occurs twice, and a hyphen is followed by one. -/
def readSwitches? (m : Mode) (seen : List Char) (off afterHyphen : Bool) :
    List Char → Option (Mode × Char × List Char)
  | [] => none
  | c :: rest =>
    if c == ':' || c == ')' then
      if afterHyphen || (c == ')' && seen.isEmpty && !off) then none else some (m, c, rest)
    else if c == '-' then
      if off then none else readSwitches? m seen true true rest
    else if seen.contains c then none
    else match m.switch? (!off) c with
      | some m => readSwitches? m (c :: seen) off false rest
      | none => none

/-- The start of a group after its parenthesis, or a switch of modes for the rest of the group at
hand. -/
def readGroup? (r : Reading) (cs : List Char) : Option (Reading × List Char) :=
  match r.mode.skip cs with
  | '?' :: 'P' :: '<' :: rest
  | '?' :: '<' :: rest =>
    match readGroupName? rest with
    | some (name, rest) => (r.openNamed? name).map fun r => (r, rest)
    | none => none
  | '?' :: rest =>
    match readSwitches? r.mode [] false false rest with
    | none => none
    | some (m, sign, rest) =>
      if sign == ')' then some (r.switch m, rest) else (r.openGroup? none m).map fun r => (r, rest)
  | rest => r.openCapture?.map fun r => (r, rest)

/-! ### Repetition -/

/-- The largest count of a repetition. -/
def maxCount : Nat := 0xFFFFFFFF

/-- A count, with the blanks around it. -/
def readCount? (m : Mode) (cs : List Char) : Option (Nat × List Char) :=
  let cs := Text.trimStart cs
  let digits := cs.takeWhile Char.isDigit
  match Text.number? digits with
  | some n =>
    if n ≤ maxCount then some (n, m.skip (Text.trimStart (cs.drop digits.length))) else none
  | none => none

/-- The bounds of a repetition after the opening brace, up to the closing one. -/
def readBounds? (m : Mode) (cs : List Char) : Option (Nat × Option Nat × List Char) :=
  match readCount? m cs with
  | none => none
  | some (low, '\x7d' :: rest) => some (low, some low, rest)
  | some (low, ',' :: rest) =>
    match m.skip rest with
    | '\x7d' :: rest => some (low, none, rest)
    | rest =>
      match readCount? m rest with
      | some (high, '\x7d' :: rest) => if low ≤ high then some (low, some high, rest) else none
      | _ => none
  | some _ => none

/-- A repetition of the last item, given the mark that may follow its sign. -/
def repeatWith? (r : Reading) (low : Nat) (high? : Option Nat) (cs : List Char) :
    Option (Reading × List Char) :=
  match cs with
  | '?' :: rest => (r.repeatLast? low high? true).map fun r => (r, rest)
  | _ => (r.repeatLast? low high? false).map fun r => (r, cs)

/-! ### The text of a pattern -/

/-- What an escape adds. -/
def pushEscape? (r : Reading) : Escape → Option Reading
  | .char c byte => (r.mode.character? c byte).map r.push
  | .set s => some (r.push (.set s))
  | .anchor a => some (r.push (.anchor a))

/-- The next sign of a pattern, and what follows it. -/
def readSign? (r : Reading) (cs : List Char) : Option (Reading × List Char) :=
  match cs with
  | [] => none
  | '(' :: rest => readGroup? r rest
  | ')' :: rest => r.closeGroup?.map fun r => (r, rest)
  | '|' :: rest => some ({ r with branches := r.branches.next }, rest)
  | '[' :: rest => (readBracket? r.mode rest).map fun (s, rest) => (r.push (.set s), rest)
  | '?' :: rest => repeatWith? r 0 (some 1) rest
  | '*' :: rest => repeatWith? r 0 none rest
  | '+' :: rest => repeatWith? r 1 none rest
  | '\x7b' :: rest =>
    match readBounds? r.mode rest with
    | some (low, high?, rest) => repeatWith? r low high? (r.mode.skip rest)
    | none => none
  | '\\' :: rest =>
    match readEscape? r.mode rest with
    | some (e, rest) => (pushEscape? r e).map fun r => (r, rest)
    | none => none
  | '.' :: rest => r.mode.dot?.map fun p => (r.push p, rest)
  | '^' :: rest => some (r.push r.mode.caret, rest)
  | '$' :: rest => some (r.push r.mode.dollar, rest)
  | c :: rest => (r.mode.character? c false).map fun p => (r.push p, rest)

/-- The rest of a pattern. Each step takes a character, so that `fuel` is never short if it starts above
the length of the text. -/
def readFrom : (fuel : Nat) → Reading → List Char → Option Pattern
  | 0, _, _ => none
  | fuel + 1, r, cs =>
    match r.mode.skip cs with
    | [] => if r.groups.isEmpty then some r.branches.pattern else none
    | cs =>
      match readSign? r cs with
      | some (r, rest) => readFrom fuel r rest
      | none => none

/-- The pattern that a text writes. -/
def read? (ignoreCase : Bool) (cs : List Char) : Option Pattern :=
  readFrom (cs.length + 1) (.start { ignoreCase }) cs

/-- Matches nowhere: a place cannot be an edge of a word and none. -/
def never : Pattern := .seq (.anchor (.word .either false)) (.anchor (.word .neither false))

/-- A text in which every character stands for itself. -/
def escape (cs : List Char) : List Char :=
  cs.flatMap fun c => if isMeta c then ['\\', c] else [c]

end Pattern

/-- A pattern together with its text. -/
structure Matcher where
  /-- The text of the pattern. -/
  source : List Char
  /-- The pattern. -/
  pattern : Pattern
deriving Repr, DecidableEq

namespace Matcher

/-- The matcher that matches nowhere. -/
def never : Matcher := ⟨['\\', 'b', '\\', 'B'], .never⟩

/-- The matcher of a text. A text without characters matches nowhere, and neither does one that writes
no pattern or one that the engine refuses. -/
def compile (engine : Engine) (ignoreCase : Bool) (source : List Char) : Matcher :=
  if source.isEmpty then never
  else match Pattern.read? ignoreCase source with
    | some p => if engine.fits ignoreCase source then ⟨source, p⟩ else never
    | none => never

end Matcher

end Concordance
