import Concordance.Text.Blank

/-!
# The structure of a query

A combined query is a row of words and groups. Blanks separate words, and parentheses enclose groups,
which may hold further groups. Every text has such a structure: a group that is left open ends with the
text, and a closing parenthesis where no group is open is a part of a word.

## Main definitions

* `Query.Node`: a word or a group
* `Query.Node.parseAll`: the nodes of a text
-/

namespace Concordance

namespace Query

/-- A part of a query. -/
inductive Node where
  /-- A word. -/
  | word (w : List Char)
  /-- What stands in parentheses. -/
  | group (nodes : List Node)
deriving Repr, Inhabited

namespace Node

/-- A text that has been read up to some place. -/
structure Reading where
  /-- The nodes around the groups that are open, the innermost first, and the last node first. -/
  outer : List (List Node)
  /-- The nodes of the group at hand, last first. -/
  nodes : List Node
  /-- The characters of the word at hand, last first. -/
  word : List Char

namespace Reading

/-- Nothing has been read. -/
def start : Reading := ⟨[], [], []⟩

/-- The word at hand ends, if there is one. -/
def endWord (r : Reading) : Reading :=
  if r.word.isEmpty then r else { r with nodes := .word r.word.reverse :: r.nodes, word := [] }

/-- A group starts. -/
def openGroup (r : Reading) : Reading := ⟨r.endWord.nodes :: r.outer, [], []⟩

/-- The innermost group ends. -/
def closeGroup (r : Reading) : Reading :=
  match r.outer with
  | [] => r.endWord
  | nodes :: outer => ⟨outer, .group r.endWord.nodes.reverse :: nodes, []⟩

/-- One more character is read. -/
def read (r : Reading) (c : Char) : Reading :=
  if Text.isBlank c then r.endWord
  else if c = '(' then r.openGroup
  else if c = ')' ∧ r.outer ≠ [] then r.closeGroup
  else { r with word := c :: r.word }

/-- The nodes of the whole query, given those of the innermost open group: all groups end. -/
def closeAll : (outer : List (List Node)) → (nodes : List Node) → List Node
  | [], nodes => nodes.reverse
  | around :: outer, nodes => closeAll outer (.group nodes.reverse :: around)

/-- The nodes of the whole query. -/
def finish (r : Reading) : List Node := closeAll r.outer r.endWord.nodes

end Reading

/-- The nodes of a text. -/
def parseAll (cs : List Char) : List Node := (cs.foldl Reading.read .start).finish

end Node

end Query

end Concordance
