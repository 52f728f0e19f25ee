import Concordance.Pattern.Mode

/-!
# Escapes

What a backslash and the characters after it mean in a pattern: a character that would mean something
else by itself, a character given by its code, a class, or a place.

## Main definitions

* `Pattern.Escape`: the meaning of an escape
* `Pattern.readEscape?`: the escape after a backslash
-/

namespace Concordance

namespace Pattern

/-- The meaning of an escape. -/
inductive Escape where
  /-- A character, possibly written as the value of a byte. -/
  | char (c : Char) (byte : Bool)
  /-- A class. -/
  | set (s : CharSet)
  /-- A place. -/
  | anchor (a : Anchor)
deriving Repr, DecidableEq

/-- Characters with a meaning of their own somewhere in a pattern. -/
def isMeta (c : Char) : Bool :=
  c ∈ ['\\', '.', '+', '*', '?', '(', ')', '|', '[', ']', '\x7b', '\x7d', '^', '$', '#', '&', '-', '~']

/-- Characters that stand for themselves after a backslash: all of ASCII but letters, digits, and the
two signs for edges of words. -/
def isSelfEscape (c : Char) : Bool :=
  c.toNat < 0x80 && !c.isAlphanum && c != '<' && c != '>'

/-- The character with a code, if there is one. -/
def charOfCode? (n : Nat) : Option Char := if n.isValidChar then some (Char.ofNat n) else none

/-! ### Characters given by their codes -/

/-- The value of exactly `count` hexadecimal digits. -/
def readHexDigits? (m : Mode) : (count acc : Nat) → List Char → Option (Nat × List Char)
  | 0, acc, cs => some (acc, cs)
  | count + 1, acc, cs =>
    match m.skip cs with
    | [] => none
    | c :: rest =>
      match Text.hexValue? c with
      | some d => readHexDigits? m count (acc * 16 + d) rest
      | none => none

/-- The content of braces up to the closing one, without blanks that do not count. `fuel` is the
length of the text. -/
def readBraced? (m : Mode) : (fuel : Nat) → List Char → Option (List Char × List Char)
  | 0, _ => none
  | fuel + 1, cs =>
    match m.skip cs with
    | [] => none
    | '\x7d' :: rest => some ([], rest)
    | c :: rest => (readBraced? m fuel rest).map fun (content, rest) => (c :: content, rest)

/-- The value of hexadecimal digits. -/
def hexNumber? (cs : List Char) : Option Nat :=
  if cs.isEmpty then none
  else cs.foldlM (fun n c => (Text.hexValue? c).map fun d => n * 16 + d) 0

/-- A character given by `count` hexadecimal digits, or by any number of them in braces. -/
def readCode? (m : Mode) (count : Nat) (cs : List Char) : Option (Escape × List Char) :=
  match m.skip cs with
  | '\x7b' :: rest =>
    match readBraced? m rest.length rest with
    | none => none
    | some (digits, rest) =>
      ((hexNumber? digits).bind charOfCode?).map fun c => (.char c false, rest)
  | cs =>
    match readHexDigits? m count 0 cs with
    | none => none
    | some (n, rest) => (charOfCode? n).map fun c => (.char c (count == 2), rest)

/-! ### Classes -/

/-- The digits, blanks or word characters, by their letter. -/
def letterClass (m : Mode) (c : Char) : CharSet :=
  if m.unicode then
    match c with
    | 'd' => .digit
    | 's' => .blank
    | _ => .word
  else
    match c with
    | 'd' => .range '0' '9'
    | 's' => .union (.range '\t' '\r') (.single ' ')
    | _ => .unionAll [.range '0' '9', .range 'A' 'Z', .range 'a' 'z', .single '_']

/-- A class by its letter; a capital stands for everything else. Case is not added to it. -/
def letterEscape? (m : Mode) (c : Char) : Option Escape :=
  ({ m with ignoreCase := false }.close? c.isUpper (letterClass m c.toLower)).map .set

/-- The class that is named in braces: a name, or a property and one of its values. -/
def bracedClass? (name : List Char) : Option (Text.NamedClass) :=
  let before := name.takeWhile fun c => c != ':' && c != '='
  match name.drop before.length with
  | [] => Text.property? name
  | _ :: value =>
    if before.getLast? == some '!' then
      (Text.propertyValue? before.dropLast value).map fun k => { k with negated := !k.negated }
    else Text.propertyValue? before value

/-- A named class; the name is one letter, or stands in braces. -/
def readNamedClass? (m : Mode) (negated : Bool) (cs : List Char) : Option (Escape × List Char) :=
  let named? :=
    match m.skip cs with
    | [] => none
    | '\x7b' :: rest =>
      match readBraced? m rest.length rest with
      | none => none
      | some (name, rest) => (bracedClass? name).map fun k => (k, rest)
    | '\\' :: _ => none
    | c :: rest => (Text.property? [c]).map fun k => (k, rest)
  match named? with
  | some (k, rest) =>
    if m.unicode then (m.close? negated (.named k)).map fun s => (.set s, rest) else none
  | none => none

/-! ### Places -/

/-- The name of an edge of a word. -/
def wordEdge? (name : List Char) : Option WordEdge :=
  match String.ofList name with
  | "start" => some .start
  | "end" => some .stop
  | "start-half" => some .startHalf
  | "end-half" => some .stopHalf
  | _ => none

/-- A letter or hyphen, as the names of edges of words have. -/
def isEdgeNameChar (c : Char) : Bool := c.isAlpha || c == '-'

/-- The place meant by a word-edge sign: what follows it may name the kind of edge in braces. Braces
that hold no name belong to a repetition. -/
def readWordEdge? (m : Mode) (cs : List Char) : Option (Escape × List Char) :=
  let plain := (.anchor (.word .either !m.unicode), cs)
  match cs with
  | '\x7b' :: rest =>
    match m.skip rest with
    | [] => none
    | c :: rest' =>
      if !isEdgeNameChar c then some plain
      else
        let cs := c :: rest'
        let name := cs.takeWhile isEdgeNameChar
        match m.skip (cs.drop name.length), wordEdge? name with
        | '\x7d' :: rest, some edge => some (.anchor (.word edge !m.unicode), rest)
        | _, _ => none
  | _ => some plain

/-- The characters that have letters for themselves. -/
def control? (c : Char) : Option Char :=
  match c with
  | 'a' => some '\x07'
  | 'f' => some '\x0c'
  | 't' => some '\t'
  | 'n' => some '\n'
  | 'r' => some '\r'
  | 'v' => some '\x0b'
  | _ => none

/-- The places that have a letter or sign. -/
def placeEscape? (m : Mode) (c : Char) : Option Anchor :=
  match c with
  | 'A' => some .textStart
  | 'z' => some .textEnd
  | 'B' => some (.word .neither !m.unicode)
  | '<' => some (.word .start !m.unicode)
  | '>' => some (.word .stop !m.unicode)
  | _ => none

/-- The escape after a backslash, and what follows it. -/
def readEscape? (m : Mode) (cs : List Char) : Option (Escape × List Char) :=
  match cs with
  | [] => none
  | 'x' :: rest => readCode? m 2 rest
  | 'u' :: rest => readCode? m 4 rest
  | 'U' :: rest => readCode? m 8 rest
  | 'p' :: rest => readNamedClass? m false rest
  | 'P' :: rest => readNamedClass? m true rest
  | 'b' :: rest => readWordEdge? m rest
  | c :: rest =>
    if c.toLower ∈ ['d', 's', 'w'] then (letterEscape? m c).map fun e => (e, rest)
    else if isMeta c || isSelfEscape c then some (.char c false, rest)
    else match control? c with
      | some c => some (.char c false, rest)
      | none => (placeEscape? m c).map fun a => (.anchor a, rest)

end Pattern

end Concordance
