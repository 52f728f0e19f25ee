import Mathlib.Data.List.Basic
import Concordance.Proofs.Query.Operators

/-!
# The value of a combined query

A combined query is written with operands, operators and groups. What it comes to is said here without
phrases that wait for others: an evaluation goes through a row of parts, with the phrases it has so
far, the phrases to exclude, and the operator that waits. An operand brings itself as a phrase, and a
group brings all that its own row has come to.

The reduction of a text keeps operators among the phrases, where they can be mistaken for words if one
follows another. In rows where operators keep apart this never happens, and every text that writes such
a row is reduced to the value of the row.

## Main definitions

* `Query.Part`: an operand, an operator or a group
* `Query.Writes`: a text writes a row of parts
* `Query.Evaluation`: what a row of parts has come to, and how one more part changes it

## Main results

* `Query.parseAll_of_writes` — the nodes of a text that writes a row of parts
* `Query.Evaluation.Describes.parts` — an evaluation follows the reduction of a row
* `Query.parse_eq_evaluation` — a text is reduced to the value of the row that it writes
-/

namespace Concordance

namespace Query

open Text (isBlank)

/-! ### Parts of queries -/

/-- A word that is searched for: without blanks and parentheses, and no operator. -/
structure Operand where
  /-- The characters. -/
  chars : List Char
  /-- There is a character. -/
  ne_nil : chars ≠ []
  /-- No character ends the word. -/
  inWord : ∀ c ∈ chars, isBlank c = false ∧ c ≠ '(' ∧ c ≠ ')'
  /-- The word is no operator. -/
  notOperator : ¬ IsOperator chars

/-- An operator. -/
inductive Operator where
  /-- The next operand lengthens the phrases. -/
  | and
  /-- Nothing changes. -/
  | or
  /-- The next operand is excluded. -/
  | not
deriving Repr, DecidableEq

/-- The word of an operator. -/
def Operator.word : Operator → List Char
  | and => andWord
  | or => orWord
  | not => notWord

/-- A part of a query. -/
inductive Part where
  /-- A word that is searched for. -/
  | operand (o : Operand)
  /-- An operator. -/
  | operator (o : Operator)
  /-- What stands in parentheses. -/
  | group (parts : List Part)

namespace Part

mutual

/-- The node that a part is read as. -/
def node : Part → Node
  | operand o => .word o.chars
  | operator o => .word o.word
  | group parts => .group (nodes parts)

/-- The nodes of a row of parts. -/
def nodes : List Part → List Node
  | [] => []
  | p :: ps => p.node :: nodes ps

end

/-- The words of operands and operators are read as words. -/
theorem forall_of_node_eq_word {p : Part} {w : List Char} (h : p.node = .word w) :
    w ≠ [] ∧ ∀ c ∈ w, isBlank c = false ∧ c ≠ '(' ∧ c ≠ ')' := by
  cases p with
  | operand o =>
    obtain rfl : o.chars = w := by simpa [node] using h
    exact ⟨o.ne_nil, o.inWord⟩
  | operator o =>
    obtain rfl : o.word = w := by simpa [node] using h
    have hchars : (o.word.all fun c => !isBlank c && c != '(' && c != ')') = true := by
      cases o <;> rfl
    exact ⟨by cases o <;> exact List.cons_ne_nil _ _, by simpa [and_assoc] using hchars⟩
  | group parts => simp [node] at h

end Part

/-! ### Rows in which operators keep apart -/

section

variable {afterOperator : Bool} {ns : List Node}

theorem Operand.spacedFrom_eq (o : Operand) :
    spacedFrom afterOperator (.word o.chars :: ns) = spacedFrom false ns := by
  obtain ⟨hand, hor, hnot⟩ : o.chars ≠ andWord ∧ o.chars ≠ orWord ∧ o.chars ≠ notWord := by
    simpa [IsOperator] using o.notOperator
  rw [spacedFrom, if_neg hor, if_neg (by simp [hand, hnot])]

theorem Operator.spacedFrom_iff (o : Operator) :
    spacedFrom afterOperator (.word o.word :: ns) = true ↔
      (o ≠ .or → afterOperator = false) ∧ spacedFrom (o ≠ .or || afterOperator) ns = true := by
  cases o <;> simp [spacedFrom, word, andWord, orWord, notWord]

end

/-! ### Texts of queries -/

/-- A text writes a row of parts. Blanks may stand anywhere between parts, and have to stand between
two words; groups are enclosed in parentheses. -/
inductive Writes : List Part → List Char → Prop
  /-- Nothing more is written. -/
  | nil : Writes [] []
  /-- A blank. -/
  | blank {ps : List Part} {cs : List Char} {c : Char} (hc : isBlank c = true) (h : Writes ps cs) :
    Writes ps (c :: cs)
  /-- A word, which does not run into the next one. -/
  | word {p : Part} {ps : List Part} {w cs : List Char} (hp : p.node = .word w)
    (hnext : ∀ c ∈ cs.head?, isBlank c = true ∨ c = '(') (h : Writes ps cs) :
    Writes (p :: ps) (w ++ cs)
  /-- A group. -/
  | group {inner ps : List Part} {ds cs : List Char} (hinner : Writes inner ds) (h : Writes ps cs) :
    Writes (.group inner :: ps) ('(' :: ds ++ ')' :: cs)

mutual

/-- The plain form of a part. -/
def Part.text : Part → List Char
  | .operand o => o.chars
  | .operator o => o.word
  | .group parts => '(' :: Part.rowText parts ++ [')']

/-- The plain form of a row of parts, which has one space between two parts. -/
def Part.rowText : List Part → List Char
  | [] => []
  | p :: ps => p.text ++ if ps.isEmpty then [] else ' ' :: Part.rowText ps

end

/-- **Every row of parts can be written.** -/
theorem writes_rowText : (ps : List Part) → Writes ps (Part.rowText ps)
  | [] => .nil
  | p :: ps => by
    have hrest : Writes ps (if ps.isEmpty then [] else ' ' :: Part.rowText ps) := by
      cases ps with
      | nil => exact .nil
      | cons p' ps => exact .blank (by decide) (writes_rowText (p' :: ps))
    have hnext : ∀ c ∈ (if ps.isEmpty then [] else ' ' :: Part.rowText ps).head?,
        isBlank c = true ∨ c = '(' := by
      cases ps with
      | nil => simp
      | cons p' ps => simp [show isBlank ' ' = true by decide]
    rw [Part.rowText]
    cases p with
    | operand o => exact .word (by rw [Part.node, Part.text]) hnext hrest
    | operator o => exact .word (by rw [Part.node, Part.text]) hnext hrest
    | group inner =>
      rw [Part.text, List.append_assoc]
      exact .group (writes_rowText inner) hrest

namespace Node.Reading

variable {outer : List (List Node)} {nodes : List Node} {w cs : List Char}

theorem endWord_endWord (r : Reading) : r.endWord.endWord = r.endWord := by
  by_cases hw : r.word = [] <;> simp [endWord, hw]

theorem outer_endWord (r : Reading) : r.endWord.outer = r.outer := by
  rw [endWord]
  split <;> rfl

theorem read_of_isBlank (r : Reading) {c : Char} (hc : isBlank c = true) :
    r.read c = r.endWord := if_pos hc

theorem read_openParen (r : Reading) : r.read '(' = r.openGroup := rfl

theorem read_closeParen {r : Reading} (h : r.outer = nodes :: outer) :
    r.read ')' = ⟨outer, .group r.endWord.nodes.reverse :: nodes, []⟩ := by
  simp [read, closeGroup, h, Text.isBlank]

/-- A word is read character by character. -/
theorem foldl_read_word (hw : ∀ c ∈ w, isBlank c = false ∧ c ≠ '(' ∧ c ≠ ')') (r : Reading) :
    w.foldl read r = { r with word := w.reverse ++ r.word } := by
  induction w generalizing r with
  | nil => rfl
  | cons c w ih =>
    obtain ⟨⟨hblank, hopen, hclose⟩, hw⟩ := List.forall_mem_cons.mp hw
    have hread : r.read c = { r with word := c :: r.word } := by simp [read, hblank, hopen, hclose]
    rw [List.foldl_cons, hread, ih hw]
    simp

/-- Where no character of a word follows, the word at hand ends. -/
theorem foldl_read_endWord (hnext : ∀ c ∈ cs.head?, isBlank c = true ∨ c = '(') (r : Reading) :
    (cs.foldl read r).endWord = (cs.foldl read r.endWord).endWord := by
  cases cs with
  | nil => exact (endWord_endWord r).symm
  | cons c cs =>
    have hread : r.endWord.read c = r.read c := by
      rcases hnext c rfl with hc | rfl
      · rw [read_of_isBlank _ hc, read_of_isBlank _ hc, endWord_endWord]
      · rw [read_openParen, read_openParen, openGroup, openGroup, endWord_endWord, outer_endWord]
    rw [List.foldl_cons, List.foldl_cons, hread]

/-- **A written row is read.** -/
theorem foldl_read_of_writes {ps : List Part} (h : Writes ps cs) (outer : List (List Node))
    (nodes : List Node) :
    (cs.foldl read ⟨outer, nodes, []⟩).endWord = ⟨outer, (Part.nodes ps).reverse ++ nodes, []⟩ := by
  induction h generalizing outer nodes with
  | nil => rfl
  | blank hc _ ih =>
    rw [List.foldl_cons, read_of_isBlank _ hc]
    exact ih outer nodes
  | @word p ps w cs hp hnext _ ih =>
    obtain ⟨hne, hw⟩ := Part.forall_of_node_eq_word hp
    have hend : (⟨outer, nodes, w.reverse⟩ : Reading).endWord = ⟨outer, .word w :: nodes, []⟩ := by
      simp [endWord, hne]
    rw [List.foldl_append, foldl_read_word hw, foldl_read_endWord hnext, List.append_nil, hend, ih,
      Part.nodes, hp]
    simp
  | @group inner ps ds cs _ _ ihInner ih =>
    have hinner := ihInner (nodes :: outer) []
    have houter := congrArg Reading.outer hinner
    rw [outer_endWord] at houter
    have hopen : (⟨outer, nodes, []⟩ : Reading).read '(' = ⟨nodes :: outer, [], []⟩ := rfl
    rw [List.cons_append, List.foldl_cons, List.foldl_append, List.foldl_cons, hopen,
      read_closeParen houter, hinner, ih, Part.nodes, Part.node]
    simp

end Node.Reading

/-- **The nodes of a text** that writes a row of parts. -/
theorem parseAll_of_writes {ps : List Part} {cs : List Char} (h : Writes ps cs) :
    Node.parseAll cs = Part.nodes ps := by
  have hread := Node.Reading.foldl_read_of_writes h [] []
  have houter := congrArg Node.Reading.outer hread
  rw [Node.Reading.outer_endWord] at houter
  rw [Node.parseAll, Node.Reading.finish, Node.Reading.start, houter, hread]
  simp [Node.Reading.closeAll]

/-! ### Evaluation -/

/-- What a row of parts has come to. -/
structure Evaluation where
  /-- The phrases to include. -/
  words : List (List Char) := []
  /-- The operator that waits for its operand. -/
  pending : Pending := .nothing
  /-- The phrases to exclude. -/
  excluded : List (List Char) := []
deriving Repr, DecidableEq

namespace Evaluation

/-- An operand that brings phrases, and with them phrases to exclude. -/
def operand (e : Evaluation) (words excluded : List (List Char)) : Evaluation :=
  match e.pending with
  | .nothing => ⟨e.words ++ words, .nothing, e.excluded ++ excluded⟩
  | .and => ⟨e.words.flatMap fun w => words.map fun s => w ++ ' ' :: s, .nothing,
      e.excluded ++ excluded⟩
  | .not => ⟨e.words, .nothing, e.excluded ++ excluded ++ words⟩

/-- An operator. -/
def operator (e : Evaluation) : Operator → Evaluation
  | .and => { e with pending := .and }
  | .or => e
  | .not => { e with pending := .not }

@[simp] theorem pending_operand (e : Evaluation) (words excluded : List (List Char)) :
    (e.operand words excluded).pending = .nothing := by
  rw [operand]
  split <;> rfl

mutual

/-- One more part. -/
def part (e : Evaluation) : Part → Evaluation
  | .operand o => e.operand [o.chars] []
  | .operator o => e.operator o
  | .group inner => e.operand (parts {} inner).words (parts {} inner).excluded

/-- More parts. -/
def parts (e : Evaluation) : List Part → Evaluation
  | [] => e
  | p :: ps => parts (e.part p) ps

end

end Evaluation

/-! ### The reduction behind an evaluation -/

/-- The phrase in which an operator waits. -/
def Pending.waiting : Pending → List Phrase
  | nothing => []
  | and => [[andWord]]
  | not => [[notWord]]

theorem Phrase.text_append {p r : Phrase} (hp : p ≠ []) (hr : r ≠ []) :
    Phrase.text (p ++ r) = p.text ++ ' ' :: r.text := by
  induction p with
  | nil => exact absurd rfl hp
  | cons w p ih =>
    cases p with
    | nil =>
      obtain ⟨v, r, rfl⟩ := List.exists_cons_of_ne_nil hr
      simp [text, List.intercalate_cons_cons]
    | cons v p =>
      have ih := ih (by simp)
      simp only [text, List.cons_append, List.intercalate_cons_cons, List.append_assoc] at ih ⊢
      rw [ih]

theorem map_text_lengthen {ps os : List Phrase} (hps : ∀ p ∈ ps, p ≠ []) (hos : ∀ o ∈ os, o ≠ []) :
    (lengthen ps os).map Phrase.text =
      (ps.map Phrase.text).flatMap fun w => (os.map Phrase.text).map fun s => w ++ ' ' :: s := by
  rw [lengthen, List.map_flatMap, List.flatMap_map]
  refine List.flatMap_congr fun p hp => ?_
  rw [List.map_map, List.map_map]
  exact List.map_congr_left fun o ho => Phrase.text_append (hps p hp) (hos o ho)

/-- An evaluation tells the truth about a query whose included phrases, apart from the operator that
waits, are `ps`. -/
structure Evaluation.Describes (e : Evaluation) (q : Query) (ps : List Phrase) : Prop where
  /-- The included phrases, and the operator that waits. -/
  included : q.included = ps ++ e.pending.waiting
  /-- The phrases are none that waits. -/
  settled : ∀ p ∈ ps, p.IsSettled
  /-- The texts of the included phrases. -/
  words : ps.map Phrase.text = e.words
  /-- The texts of the excluded phrases. -/
  excluded : q.excluded.map Phrase.text = e.excluded

namespace Evaluation.Describes

variable {e : Evaluation} {q : Query} {ps os ns : List Phrase}

theorem start : Describes {} empty [] := ⟨rfl, by simp, rfl, rfl⟩

theorem pending_eq (h : e.Describes q ps) : q.pending = e.pending := by
  have hinc := h.included
  cases hp : e.pending with
  | nothing =>
    rw [hp, Pending.waiting, List.append_nil] at hinc
    exact pending_eq_nothing (hinc ▸ h.settled)
  | and => simp [Query.pending, hinc, hp, Pending.waiting]
  | not => simp [Query.pending, hinc, hp, Pending.waiting]; decide

/-- **An operand.** -/
theorem operand (h : e.Describes q ps) (hos : ∀ o ∈ os, Phrase.IsSettled o) (ns : List Phrase) :
    ∃ ps', (e.operand (os.map Phrase.text) (ns.map Phrase.text)).Describes
      ({ q with excluded := q.excluded ++ ns }.operand os) ps' := by
  have hpend : ({ q with excluded := q.excluded ++ ns } : Query).pending = e.pending := h.pending_eq
  rw [Query.operand, Evaluation.operand, hpend]
  cases hp : e.pending with
  | nothing =>
    refine ⟨ps ++ os, ?_, ?_, ?_, ?_⟩
    · simp [h.included, hp, Pending.waiting]
    · exact List.forall_mem_append.mpr ⟨h.settled, hos⟩
    · simp [h.words]
    · simp [h.excluded]
  | and =>
    have hps : ∀ p ∈ ps, p ≠ [] := fun p hp => (h.settled p hp).1
    have hos : ∀ o ∈ os, o ≠ [] := fun o ho => (hos o ho).1
    refine ⟨lengthen ps os, ?_, ?_, ?_, ?_⟩
    · simp [Query.settled, h.included, hp, Pending.waiting]
    · intro p hp
      obtain ⟨r, hr, o, ho, rfl⟩ := mem_lengthen.mp hp
      exact Phrase.isSettled_append (hps r hr) (hos o ho)
    · rw [map_text_lengthen hps hos, h.words]
    · simp [h.excluded]
  | not =>
    refine ⟨ps, ?_, h.settled, h.words, ?_⟩
    · simp [Query.settled, h.included, hp, Pending.waiting]
    · simp [h.excluded]

/-- **An operator**, where none waits unless it is `OR`. -/
theorem operator (h : e.Describes q ps) (o : Operator) (ho : o ≠ .or → e.pending = .nothing) :
    (e.operator o).Describes (q.word o.word) ps := by
  have hinc : o ≠ .or → q.included = ps := fun hor => by
    rw [h.included, ho hor, Pending.waiting, List.append_nil]
  cases o with
  | or => exact h
  | and =>
    refine ⟨?_, h.settled, h.words, h.excluded⟩
    exact congrArg (· ++ [[andWord]]) (hinc (by decide))
  | not =>
    have hword : q.word notWord = q.push [notWord] := by
      have hpend : q.pending = .nothing := h.pending_eq.trans (ho (by decide))
      rw [Query.word, if_neg (by decide), if_neg (by decide), Query.operand, hpend]
      rfl
    rw [Operator.word, hword]
    exact ⟨congrArg (· ++ [[notWord]]) (hinc (by decide)), h.settled, h.words, h.excluded⟩

/-- The value of a row of its own. -/
theorem finish (h : e.Describes q ps) : q.finish = ⟨ps, q.excluded⟩ := by
  have hwaiting : ∀ p ∈ e.pending.waiting, p = [andWord] ∨ p = [notWord] := by
    cases e.pending <;> simp [Pending.waiting]
  rw [Query.finish, h.included, dropOperators_append h.settled hwaiting]

/-- **A group**, given the evaluation of its own row. -/
theorem group (h : e.Describes q ps) {inner : Evaluation} {r : Query} {rs : List Phrase}
    (hi : inner.Describes r rs) :
    ∃ ps', (e.operand inner.words inner.excluded).Describes (q.group r.finish) ps' := by
  rw [Query.group, hi.finish, ← hi.words, ← hi.excluded]
  exact h.operand hi.settled r.excluded

/-- A word that is searched for. -/
theorem word (h : e.Describes q ps) (o : Operand) :
    ∃ ps', (e.operand [o.chars] []).Describes (q.word o.chars) ps' := by
  obtain ⟨hand, hor, hnot⟩ : o.chars ≠ andWord ∧ o.chars ≠ orWord ∧ o.chars ≠ notWord := by
    simpa [IsOperator] using o.notOperator
  have hsettled : Phrase.IsSettled [o.chars] := by simp [Phrase.IsSettled, hand, hnot]
  have hword : q.word o.chars = { q with excluded := q.excluded ++ [] }.operand [[o.chars]] := by
    rw [Query.word, if_neg hor, if_neg hand, List.append_nil]
  rw [hword]
  simpa [Phrase.text] using h.operand (List.forall_mem_singleton.mpr hsettled) []

/-- **An evaluation follows the reduction of a row** in which operators keep apart. -/
theorem parts : (parts : List Part) → {e : Evaluation} → {q : Query} → {ps : List Phrase} →
    {afterOperator : Bool} → e.Describes q ps → (afterOperator = false → e.pending = .nothing) →
    spacedFrom afterOperator (Part.nodes parts) = true →
    ∃ ps', (e.parts parts).Describes (q.nodesFrom (Part.nodes parts)) ps'
  | [], _, _, ps, _, h, _, _ => by
    rw [Evaluation.parts, Part.nodes, Query.nodesFrom]
    exact ⟨ps, h⟩
  | .operand o :: ps, _, _, _, _, h, _, hspaced => by
    rw [Part.nodes, Part.node, o.spacedFrom_eq] at hspaced
    obtain ⟨ps', hword⟩ := h.word o
    rw [Evaluation.parts, Evaluation.part, Part.nodes, Part.node, Query.nodesFrom, Query.node]
    exact parts ps hword (fun _ => pending_operand _ _ _) hspaced
  | .operator o :: ps, e, _, _, afterOperator, h, hpending, hspaced => by
    rw [Part.nodes, Part.node, o.spacedFrom_iff] at hspaced
    have hop := h.operator o fun ho => hpending (hspaced.1 ho)
    have hpending' : (decide (o ≠ .or) || afterOperator) = false →
        (e.operator o).pending = .nothing := by
      cases o with
      | or => simpa [Evaluation.operator] using hpending
      | and | not => simp
    rw [Evaluation.parts, Evaluation.part, Part.nodes, Part.node, Query.nodesFrom, Query.node]
    exact parts ps hop hpending' hspaced.2
  | .group inner :: ps, _, _, _, _, h, _, hspaced => by
    rw [Part.nodes, Part.node, spacedFrom, Node.spaced, Bool.and_eq_true] at hspaced
    obtain ⟨rs, hinner⟩ := parts inner start (fun _ => rfl) hspaced.1
    obtain ⟨ps', hgroup⟩ := h.group hinner
    rw [Evaluation.parts, Evaluation.part, Part.nodes, Part.node, Query.nodesFrom, Query.node]
    exact parts ps hgroup (fun _ => pending_operand _ _ _) hspaced.2

end Evaluation.Describes

/-! ### Texts that are evaluated -/

/-- **A text is reduced to the value of the row that it writes.** The parts are evaluated from left to
right: an operand has itself as its one phrase, a group has the phrases of its own value. The phrases
that a group excludes are excluded in any case. After `AND` the phrases so far are each lengthened by
each of the operand's, after `NOT` those are excluded, and else they are added. In no row and in no
group may `AND` or `NOT` follow another, with or without `OR` between them. -/
theorem parse_eq_evaluation {ps : List Part} {cs : List Char} (hwrites : Writes ps cs)
    (hspaced : spacedFrom false (Part.nodes ps) = true) :
    (parse cs).included.map Phrase.text = (Evaluation.parts {} ps).words ∧
      (parse cs).excluded.map Phrase.text = (Evaluation.parts {} ps).excluded := by
  obtain ⟨rs, h⟩ := Evaluation.Describes.parts ps .start (fun _ => rfl) hspaced
  rw [parse, reduce, parseAll_of_writes hwrites, h.finish]
  exact ⟨h.words, h.excluded⟩

/-- An operand whose characters have been checked. -/
def Part.checked (chars : List Char) (hne : chars ≠ [])
    (hchars : (chars.all fun c => !isBlank c && c != '(' && c != ')') = true)
    (hnot : ¬ IsOperator chars) : Part :=
  .operand ⟨chars, hne, by simpa [and_assoc] using hchars, hnot⟩

/-- Two groups, one of which excludes something and the other of which ends with an operator, and an
operand that is excluded. -/
def inOrOn : List Part :=
  [.group [.checked ['i', 'n'] (by decide) (by decide) (by decide), .operator .or,
      .checked ['o', 'n'] (by decide) (by decide) (by decide), .operator .not,
      .group [.checked ['a'] (by decide) (by decide) (by decide)]],
    .operator .and, .operator .or,
    .group [.checked ['h', 'e', 'r'] (by decide) (by decide) (by decide),
      .checked ['h', 'i', 's'] (by decide) (by decide) (by decide), .operator .and],
    .operator .not, .checked ['m', 'y'] (by decide) (by decide) (by decide)]

theorem parse_eq_evaluation_inOrOn :
    Writes inOrOn "(in OR on NOT (a)) AND OR (her his AND) NOT my".toList ∧
      spacedFrom false (Part.nodes inOrOn) = true ∧
      (parse "(in OR on NOT (a)) AND OR (her his AND) NOT my".toList).included.map Phrase.text =
        ["in her".toList, "in his".toList, "on her".toList, "on his".toList] ∧
      (parse "(in OR on NOT (a)) AND OR (her his AND) NOT my".toList).excluded.map Phrase.text =
        ["a".toList, "my".toList] := by
  have htext : Part.rowText inOrOn = "(in OR on NOT (a)) AND OR (her his AND) NOT my".toList := by
    decide +kernel
  have hwrites := writes_rowText inOrOn
  rw [htext] at hwrites
  have hspaced : spacedFrom false (Part.nodes inOrOn) = true := by decide +kernel
  obtain ⟨hincluded, hexcluded⟩ := parse_eq_evaluation hwrites hspaced
  exact ⟨hwrites, hspaced, hincluded.trans (by decide +kernel), hexcluded.trans (by decide +kernel)⟩

end Query

end Concordance
