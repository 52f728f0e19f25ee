import Concordance.Pattern

/-!
# Modes of reading a pattern

What the letters of a pattern mean depends on modes, which a pattern can switch for the rest of a
group: whether case is ignored, what a dot and a line are, whether blanks count, and whether the
pattern speaks of characters or of ASCII alone.

## Main definitions

* `Pattern.Mode`: the modes in force
* `Pattern.Mode.skip`: a text without the blanks and remarks that do not count
* `Pattern.Mode.character?`, `Pattern.Mode.close?`: a character and a set as the modes have them
-/

namespace Concordance

namespace Pattern

/-- The modes in force at a place of a pattern. -/
structure Mode where
  /-- Letters match both cases. -/
  ignoreCase : Bool := false
  /-- `^` and `$` match at lines. -/
  multiLine : Bool := false
  /-- A dot matches the end of a line. -/
  dotAll : Bool := false
  /-- Repetitions are lazy unless marked, and marked ones are not. -/
  lazyFirst : Bool := false
  /-- Classes hold characters of all scripts, and not only ASCII. -/
  unicode : Bool := true
  /-- Lines end with carriage returns too. -/
  carriageReturns : Bool := false
  /-- Blanks do not count, and remarks start with `#`. -/
  verbose : Bool := false
deriving Repr, DecidableEq, Inhabited

namespace Mode

/-- A text without leading blanks and remarks; `inRemark` says whether a remark is under way. -/
def skipFrom (inRemark : Bool) : List Char → List Char
  | [] => []
  | c :: cs =>
    if inRemark then skipFrom (c != '\n') cs
    else if Text.isBlank c then skipFrom false cs
    else if c == '#' then skipFrom true cs
    else c :: cs

/-- A text without the leading blanks and remarks that do not count. -/
def skip (m : Mode) (cs : List Char) : List Char := if m.verbose then skipFrom false cs else cs

/-- A set together with the other cases of its members, if case is ignored. -/
def foldCase (m : Mode) (s : CharSet) : CharSet :=
  if !m.ignoreCase then s else if m.unicode then .folded s else .asciiFolded s

/-- A set that has been written out: the other cases are added, and then the set is negated if that is
asked for. A pattern that speaks of ASCII alone has no sets beyond it. -/
def close? (m : Mode) (negated : Bool) (s : CharSet) : Option CharSet :=
  let s := m.foldCase s
  let s := if negated then .compl s else s
  if m.unicode then some s else if s.isAscii then some (.inter s .ascii) else none

/-- A character that stands for itself; `byte` says that it was written as the value of a byte, which
has no meaning beyond ASCII unless the pattern speaks of characters. -/
def character? (m : Mode) (c : Char) (byte : Bool) : Option Pattern :=
  if m.unicode then some (.set (if m.ignoreCase then .like c else .single c))
  else if c.toNat < 0x80 then some (.set (m.foldCase (.single c)))
  else if byte then none else some (.char c)

/-- A dot. -/
def dot? (m : Mode) : Option Pattern :=
  if !m.unicode then none
  else if m.dotAll then some (.set .full)
  else if m.carriageReturns then some (.set (.compl (.union (.single '\n') (.single '\r'))))
  else some (.set (.compl (.single '\n')))

/-- The sign for the start of a text or line. -/
def caret (m : Mode) : Pattern :=
  .anchor (if m.multiLine then .lineStart m.carriageReturns else .textStart)

/-- The sign for the end of a text or line. -/
def dollar (m : Mode) : Pattern :=
  .anchor (if m.multiLine then .lineEnd m.carriageReturns else .textEnd)

/-- One mode switched on or off, by its letter. -/
def switch? (m : Mode) (on : Bool) (c : Char) : Option Mode :=
  match c with
  | 'i' => some { m with ignoreCase := on }
  | 'm' => some { m with multiLine := on }
  | 's' => some { m with dotAll := on }
  | 'U' => some { m with lazyFirst := on }
  | 'u' => some { m with unicode := on }
  | 'R' => some { m with carriageReturns := on }
  | 'x' => some { m with verbose := on }
  | _ => none

end Mode

end Pattern

end Concordance
