import Concordance.Query.Node

/-!
# Combined queries

A combined query is reduced to two lists of phrases: those to include and those to exclude. From left
to right, a word or group joins the included phrases as one more choice. After `AND` it lengthens every
phrase there is so far, in all combinations, and after `NOT` it is excluded. `OR` says nothing.

An operator waits for its operand as a phrase of its own at the end of the list. So a word `NOT` right
after `AND` is an operand like any other, and an `AND` after another operator makes that one a word.

## Main definitions

* `Query`: the phrases to include and to exclude
* `Query.reduce`: the reduction of a row of nodes
* `Query.parse`: the reduction of a text
-/

namespace Concordance

/-- Words that stand together. -/
abbrev Query.Phrase := List (List Char)

/-- A reduced query. -/
structure Query where
  /-- The phrases to include. -/
  included : List Query.Phrase
  /-- The phrases to exclude. -/
  excluded : List Query.Phrase
deriving Repr, DecidableEq, Inhabited

namespace Query

/-- The written form of a phrase. -/
def Phrase.text (p : Phrase) : List Char := [' '].intercalate p

/-- The words of the operators. -/
def andWord : List Char := ['A', 'N', 'D']

@[inherit_doc andWord] def orWord : List Char := ['O', 'R']

@[inherit_doc andWord] def notWord : List Char := ['N', 'O', 'T']

/-- No phrases. -/
def empty : Query := ⟨[], []⟩

/-- Whether there are no phrases at all. -/
def isEmpty (q : Query) : Bool := q.included.isEmpty && q.excluded.isEmpty

/-- One more included phrase. -/
def push (q : Query) (p : Phrase) : Query := { q with included := q.included ++ [p] }

/-- The operator that waits for its operand. -/
inductive Pending where
  /-- No operator. -/
  | nothing
  /-- The operand lengthens the phrases. -/
  | and
  /-- The operand is excluded. -/
  | not
deriving Repr, DecidableEq

/-- The operator that waits at the end of the included phrases. -/
def pending (q : Query) : Pending :=
  match q.included.getLast? with
  | some p => if p = [andWord] then .and else if p = [notWord] then .not else .nothing
  | none => .nothing

/-- The included phrases without the operator at their end. -/
def settled (q : Query) : List Phrase := q.included.dropLast

/-- All phrases of `ps`, each lengthened by each of `qs`. -/
def lengthen (ps qs : List Phrase) : List Phrase := ps.flatMap fun p => qs.map (p ++ ·)

/-- An operand with the given phrases. -/
def operand (q : Query) (ps : List Phrase) : Query :=
  match q.pending with
  | .and => ⟨lengthen q.settled ps, q.excluded⟩
  | .not => ⟨q.settled, q.excluded ++ ps⟩
  | .nothing => ⟨q.included ++ ps, q.excluded⟩

/-- A word: an operator or an operand. -/
def word (q : Query) (w : List Char) : Query :=
  if w = orWord then q
  else if w = andWord then q.push [w]
  else q.operand [[w]]

/-- A group, given its reduction. -/
def group (q : Query) (inner : Query) : Query :=
  { q with excluded := q.excluded ++ inner.excluded }.operand inner.included

/-- Phrases without the operators at their end. -/
def dropOperators : List Phrase → List Phrase
  | [] => []
  | p :: ps =>
    match dropOperators ps with
    | [] => if p = [andWord] ∨ p = [notWord] then [] else [p]
    | ps => p :: ps

/-- The query without operators that have no operand. -/
def finish (q : Query) : Query := { q with included := dropOperators q.included }

mutual

/-- The reduction of one more node. -/
def node (q : Query) : Node → Query
  | .word w => q.word w
  | .group nodes => q.group (nodesFrom empty nodes).finish

/-- The reduction of more nodes. -/
def nodesFrom (q : Query) : List Node → Query
  | [] => q
  | n :: ns => nodesFrom (q.node n) ns

end

/-- The reduction of a row of nodes. -/
def reduce (nodes : List Node) : Query := (nodesFrom empty nodes).finish

/-- The reduction of a text. -/
def parse (cs : List Char) : Query := reduce (Node.parseAll cs)

end Query

end Concordance
