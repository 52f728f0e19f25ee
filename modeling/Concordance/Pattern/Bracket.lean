import Concordance.Pattern.Escape

/-!
# Sets in brackets

The sets that patterns write out in brackets: characters, ranges, classes and further brackets side
by side, negated by a leading `^`, and combined by the signs for intersection, difference and
symmetric difference.

## Main definitions

* `Pattern.readBracket?`: the set after an opening bracket
-/

namespace Concordance

namespace Pattern

/-- An operation on two sets. -/
inductive SetOp where
  /-- What is in both. -/
  | inter
  /-- What is in the first only. -/
  | diff
  /-- What is in exactly one. -/
  | symmDiff
deriving Repr, DecidableEq

/-- The set that an operation makes. -/
def SetOp.apply : SetOp → CharSet → CharSet → CharSet
  | inter, s, t => .inter s t
  | diff, s, t => .diff s t
  | symmDiff, s, t => .symmDiff s t

/-- A bracket that is still open. -/
structure OpenBracket where
  /-- Whether it began with `^`. -/
  negated : Bool
  /-- The operation under way, with its first operand. -/
  pending? : Option (SetOp × CharSet)
  /-- The items since the start or the last sign of an operation. -/
  items : CharSet

namespace OpenBracket

/-- One more item. -/
def push (b : OpenBracket) (s : CharSet) : OpenBracket := { b with items := .union b.items s }

/-- Everything so far, the operation under way being carried out. -/
def content (m : Mode) (b : OpenBracket) : CharSet :=
  match b.pending? with
  | none => b.items
  | some (op, s) => op.apply (m.foldCase s) (m.foldCase b.items)

/-- The start of an operation on everything so far. -/
def operate (m : Mode) (b : OpenBracket) (op : SetOp) : OpenBracket :=
  { b with pending? := some (op, b.content m), items := .empty }

end OpenBracket

/-! ### Items -/

/-- The classes of ASCII characters that have names. -/
def asciiClass? (name : List Char) : Option CharSet :=
  match String.ofList name with
  | "alnum" => some (.unionAll [.range '0' '9', .range 'A' 'Z', .range 'a' 'z'])
  | "alpha" => some (.unionAll [.range 'A' 'Z', .range 'a' 'z'])
  | "ascii" => some .ascii
  | "blank" => some (.union (.single '\t') (.single ' '))
  | "cntrl" => some (.union (.range '\x00' '\x1f') (.single '\x7f'))
  | "digit" => some (.range '0' '9')
  | "graph" => some (.range '!' '~')
  | "lower" => some (.range 'a' 'z')
  | "print" => some (.range ' ' '~')
  | "punct" =>
    some (.unionAll [.range '!' '/', .range ':' '@', .range '[' '\x60', .range '\x7b' '~'])
  | "space" => some (.union (.range '\t' '\r') (.single ' '))
  | "upper" => some (.range 'A' 'Z')
  | "word" => some (.unionAll [.range '0' '9', .range 'A' 'Z', .range 'a' 'z', .single '_'])
  | "xdigit" => some (.unionAll [.range '0' '9', .range 'A' 'F', .range 'a' 'f'])
  | _ => none

/-- A class between `[:` and `:]`, given what follows the bracket. Anything else is no class. -/
def readAsciiClass? (cs : List Char) : Option (CharSet × Bool × List Char) :=
  match cs with
  | ':' :: rest =>
    let (negated, rest) :=
      match rest with
      | '^' :: rest => (true, rest)
      | _ => (false, rest)
    let name := rest.takeWhile (· != ':')
    match rest.drop name.length with
    | ':' :: ']' :: rest => (asciiClass? name).map fun s => (s, negated, rest)
    | _ => none
  | _ => none

/-- A character of a set; beyond ASCII it has a meaning only if the pattern speaks of characters, or
if it was written as the value of a byte. -/
def bracketChar? (m : Mode) (c : Char) (byte : Bool) : Option Char :=
  if m.unicode || byte || c.toNat < 0x80 then some c else none

/-- A single item: a character or an escape. -/
def readItem? (m : Mode) (cs : List Char) : Option (Escape × List Char) :=
  match cs with
  | [] => none
  | '\\' :: rest => readEscape? m rest
  | c :: rest => some (.char c false, rest)

/-- The set of a single item. Places are no sets. -/
def itemSet? (m : Mode) : Escape → Option CharSet
  | .char c byte => (bracketChar? m c byte).map .single
  | .set s => some s
  | .anchor _ => none

/-- The end of a range. Only characters can be one. -/
def itemEnd? (m : Mode) : Escape → Option Char
  | .char c byte => bracketChar? m c byte
  | _ => none

/-- Whether a text goes on with the dash of a range: one that is followed by neither the closing
bracket nor a second dash. -/
def readRangeDash? (m : Mode) (cs : List Char) : Option (List Char) :=
  match cs with
  | '-' :: rest =>
    match m.skip rest with
    | ']' :: _ => none
    | '-' :: _ => none
    | rest => some rest
  | _ => none

/-- A single item or a range. -/
def readRange? (m : Mode) (cs : List Char) : Option (CharSet × List Char) :=
  match readItem? m cs with
  | none => none
  | some (first, rest) =>
    let rest := m.skip rest
    match readRangeDash? m rest with
    | none => (itemSet? m first).map fun s => (s, rest)
    | some rest =>
      match readItem? m rest with
      | none => none
      | some (last, rest) =>
        match itemEnd? m first, itemEnd? m last with
        | some low, some high => if low ≤ high then some (.range low high, rest) else none
        | _, _ => none

/-! ### Brackets -/

/-- Dashes at the start of a bracket, which stand for themselves. `fuel` is the length of the text. -/
def readDashes (m : Mode) : (fuel : Nat) → OpenBracket → List Char → OpenBracket × List Char
  | 0, b, cs => (b, cs)
  | fuel + 1, b, cs =>
    match cs with
    | '-' :: rest => readDashes m fuel (b.push (.single '-')) (m.skip rest)
    | _ => (b, cs)

/-- The start of a bracket, given what follows its sign: a `^`, dashes, and a closing bracket that
stands for itself because nothing comes before it. -/
def openBracket (m : Mode) (cs : List Char) : OpenBracket × List Char :=
  let cs := m.skip cs
  let (negated, cs) :=
    match cs with
    | '^' :: rest => (true, m.skip rest)
    | _ => (false, cs)
  let b : OpenBracket := ⟨negated, none, .empty⟩
  match cs with
  | ']' :: rest => (b.push (.single ']'), m.skip rest)
  | _ => readDashes m cs.length b cs

/-- The rest of a bracket, given the brackets around it. Each step takes a character, so that `fuel` is
never short if it starts as the length of the text. -/
def readBracketFrom (m : Mode) : (fuel : Nat) → OpenBracket → List OpenBracket → List Char →
    Option (CharSet × List Char)
  | 0, _, _, _ => none
  | fuel + 1, b, outer, cs =>
    match m.skip cs with
    | [] => none
    | '[' :: rest =>
      match readAsciiClass? rest with
      | some (s, negated, rest) =>
        match m.close? negated s with
        | some s => readBracketFrom m fuel (b.push s) outer rest
        | none => none
      | none =>
        let (inner, rest) := openBracket m rest
        readBracketFrom m fuel inner (b :: outer) rest
    | ']' :: rest =>
      match m.close? b.negated (b.content m), outer with
      | none, _ => none
      | some s, [] => some (s, rest)
      | some s, b :: outer => readBracketFrom m fuel (b.push s) outer rest
    | '&' :: '&' :: rest => readBracketFrom m fuel (b.operate m .inter) outer rest
    | '-' :: '-' :: rest => readBracketFrom m fuel (b.operate m .diff) outer rest
    | '~' :: '~' :: rest => readBracketFrom m fuel (b.operate m .symmDiff) outer rest
    | cs =>
      match readRange? m cs with
      | some (s, rest) => readBracketFrom m fuel (b.push s) outer rest
      | none => none

/-- The set after an opening bracket, and what follows it. -/
def readBracket? (m : Mode) (cs : List Char) : Option (CharSet × List Char) :=
  let (b, rest) := openBracket m cs
  readBracketFrom m (rest.length + 1) b [] rest

end Pattern

end Concordance
