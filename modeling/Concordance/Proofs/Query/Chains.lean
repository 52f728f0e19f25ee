import Concordance.Proofs.Query.Evaluation

/-!
# Words with one operator between them

The plainest combined queries are words that are all joined by `AND`, or all by `OR`. The first are
reduced to one phrase of all the words, the second to as many phrases as there are words.

## Main results

* `Query.Node.parseAll_intercalate` — words joined by spaces are read as they are
* `Query.parse_chain_and`, `Query.parse_chain_or` — the phrases of words joined by one operator
-/

namespace Concordance

namespace Query

open Text (isBlank)

/-! ### Reading -/

namespace Node

/-- A word that reading does not break up. -/
def IsWhole (w : List Char) : Prop := w ≠ [] ∧ ∀ c ∈ w, isBlank c = false ∧ c ≠ '(' ∧ c ≠ ')'

instance (w : List Char) : Decidable (IsWhole w) :=
  decidable_of_iff (w ≠ [] ∧ w.all (fun c => !isBlank c && c != '(' && c != ')') = true)
    (by simp [IsWhole, and_assoc])

variable {ws : List (List Char)}

theorem Reading.foldl_read_intercalate (hws : ∀ w ∈ ws, IsWhole w) (nodes : List Node) :
    (([' '].intercalate ws).foldl read ⟨[], nodes, []⟩).endWord
      = ⟨[], (ws.map .word).reverse ++ nodes, []⟩ := by
  induction ws generalizing nodes with
  | nil => rfl
  | cons w ws ih =>
    obtain ⟨⟨hne, hw⟩, hws⟩ := List.forall_mem_cons.mp hws
    have hend : (⟨[], nodes, w.reverse ++ []⟩ : Reading).endWord = ⟨[], .word w :: nodes, []⟩ := by
      simp [endWord, hne]
    cases ws with
    | nil =>
      rw [List.intercalate_singleton, foldl_read_word hw, hend]
      rfl
    | cons v ws =>
      have hblank : isBlank ' ' = true := by decide
      rw [List.intercalate_cons_cons, List.append_assoc, List.foldl_append, foldl_read_word hw,
        List.singleton_append, List.foldl_cons, read_of_isBlank _ hblank, hend, ih hws]
      simp

/-- **Words joined by spaces are read as they are.** -/
theorem parseAll_intercalate (hws : ∀ w ∈ ws, IsWhole w) :
    parseAll ([' '].intercalate ws) = ws.map .word := by
  have hread := Reading.foldl_read_intercalate hws []
  have houter := congrArg Reading.outer hread
  rw [Reading.outer_endWord] at houter
  rw [parseAll, Reading.finish, Reading.start, houter, hread]
  simp [Reading.closeAll]

end Node

/-! ### Reducing -/

variable {w : List Char} {ws : List (List Char)} {p : Phrase} {ps : List Phrase}

/-- A word that is no operator is a settled phrase. -/
theorem isSettled_singleton (hw : ¬ IsOperator w) : Phrase.IsSettled [w] := by
  simp only [IsOperator, not_or] at hw
  simp [Phrase.IsSettled, hw]

theorem word_eq_operand (q : Query) (hw : ¬ IsOperator w) : q.word w = q.operand [[w]] := by
  simp only [IsOperator, not_or] at hw
  rw [word, if_neg hw.2.1, if_neg hw.1]

/-- A word after settled phrases is one more phrase. -/
theorem word_of_isSettled (hps : ∀ p ∈ ps, p.IsSettled) (hw : ¬ IsOperator w) :
    (⟨ps, []⟩ : Query).word w = ⟨ps ++ [[w]], []⟩ := by
  have hpending : (⟨ps, []⟩ : Query).pending = .nothing := pending_eq_nothing hps
  rw [word_eq_operand _ hw, operand, hpending]

/-- A word after `AND` lengthens the one phrase there is. -/
theorem word_of_and (hw : ¬ IsOperator w) :
    (⟨[p, [andWord]], []⟩ : Query).word w = ⟨[p ++ [w]], []⟩ := by
  have hpending : (⟨[p, [andWord]], []⟩ : Query).pending = .and := by simp [pending]
  rw [word_eq_operand _ hw, operand, hpending]
  simp [settled, lengthen]

theorem nodesFrom_and (hne : ws ≠ []) (hws : ∀ w ∈ ws, ¬ IsOperator w) :
    (⟨[p, [andWord]], []⟩ : Query).nodesFrom ((ws.intersperse andWord).map .word)
      = ⟨[p ++ ws], []⟩ := by
  induction ws generalizing p with
  | nil => exact absurd rfl hne
  | cons w ws ih =>
    obtain ⟨hw, hws⟩ := List.forall_mem_cons.mp hws
    cases ws with
    | nil => simp [nodesFrom, node, word_of_and hw]
    | cons v ws =>
      have hand : (⟨[p ++ [w]], []⟩ : Query).word andWord = ⟨[p ++ [w], [andWord]], []⟩ := rfl
      rw [List.intersperse_cons_cons, List.map_cons, List.map_cons, nodesFrom, nodesFrom, node, node,
        word_of_and hw, hand, ih (by simp) hws]
      simp

theorem nodesFrom_or (hps : ∀ p ∈ ps, p.IsSettled) (hws : ∀ w ∈ ws, ¬ IsOperator w) :
    (⟨ps, []⟩ : Query).nodesFrom ((ws.intersperse orWord).map .word)
      = ⟨ps ++ ws.map ([·]), []⟩ := by
  induction ws generalizing ps with
  | nil => simp [nodesFrom]
  | cons w ws ih =>
    obtain ⟨hw, hws⟩ := List.forall_mem_cons.mp hws
    cases ws with
    | nil => simp [nodesFrom, node, word_of_isSettled hps hw]
    | cons v ws =>
      have hsettled : ∀ p ∈ ps ++ [[w]], p.IsSettled :=
        List.forall_mem_append.mpr ⟨hps, List.forall_mem_singleton.mpr (isSettled_singleton hw)⟩
      have hor : ∀ q : Query, q.word orWord = q := fun q => if_pos rfl
      rw [List.intersperse_cons_cons, List.map_cons, List.map_cons, nodesFrom, nodesFrom, node, node,
        word_of_isSettled hps hw, hor, ih hsettled hws]
      simp

/-- Settled phrases stay when a reduction ends. -/
theorem finish_of_isSettled (hps : ∀ p ∈ ps, p.IsSettled) :
    (⟨ps, []⟩ : Query).finish = ⟨ps, []⟩ := by
  have hdrop : dropOperators ps = ps := by
    simpa using dropOperators_append hps (List.forall_mem_nil _)
  rw [finish, hdrop]

/-! ### Texts -/

/-- Words with an operator between any two of them. -/
def chain (operator : List Char) (ws : List (List Char)) : List Char :=
  [' '].intercalate (ws.intersperse operator)

theorem intercalate_eq_chain (operator : List Char) (ws : List (List Char)) :
    (' ' :: operator ++ [' ']).intercalate ws = chain operator ws := by
  induction ws with
  | nil => rfl
  | cons w ws ih =>
    cases ws with
    | nil => simp [chain]
    | cons v ws =>
      have hrest : (v :: ws).intersperse operator ≠ [] := by
        cases ws <;> simp
      obtain ⟨u, us, hus⟩ := List.exists_cons_of_ne_nil hrest
      rw [List.intercalate_cons_cons, ih, chain, chain, List.intersperse_cons_cons, hus,
        List.intercalate_cons_cons, List.intercalate_cons_cons]
      simp

/-- What holds of words and of the operator holds of all that is between blanks. -/
theorem forall_mem_intersperse {P : List Char → Prop} {operator : List Char} (hop : P operator)
    (hws : ∀ w ∈ ws, P w) : ∀ w ∈ ws.intersperse operator, P w := by
  induction ws with
  | nil => simp
  | cons w ws ih =>
    obtain ⟨hw, hws⟩ := List.forall_mem_cons.mp hws
    cases ws with
    | nil => simpa using hw
    | cons v ws =>
      rw [List.intersperse_cons_cons]
      exact List.forall_mem_cons.mpr ⟨hw, List.forall_mem_cons.mpr ⟨hop, ih hws⟩⟩

section

variable (hwhole : ∀ w ∈ ws, Node.IsWhole w) (hws : ∀ w ∈ ws, ¬ IsOperator w)

include hwhole hws

/-- **Words joined by `AND` are one phrase.** -/
theorem parse_chain_and (hne : ws ≠ []) : parse (chain andWord ws) = ⟨[ws], []⟩ := by
  have hop : Node.IsWhole andWord := by decide
  obtain ⟨w, ws, rfl⟩ := List.exists_cons_of_ne_nil hne
  obtain ⟨hw, hrest⟩ := List.forall_mem_cons.mp hws
  have hstart : empty.word w = ⟨[[w]], []⟩ := word_of_isSettled (by simp) hw
  have hsettled : Phrase.IsSettled (w :: ws) := by
    cases ws with
    | nil => exact isSettled_singleton hw
    | cons v ws => simp [Phrase.IsSettled]
  have hnodes : empty.nodesFrom (((w :: ws).intersperse andWord).map .word) = ⟨[w :: ws], []⟩ := by
    cases ws with
    | nil => simp [nodesFrom, node, hstart]
    | cons v ws =>
      have hand : (⟨[[w]], []⟩ : Query).word andWord = ⟨[[w], [andWord]], []⟩ := rfl
      rw [List.intersperse_cons_cons, List.map_cons, List.map_cons, nodesFrom, nodesFrom, node, node,
        hstart, hand, nodesFrom_and (by simp) hrest]
      simp
  rw [parse, chain, Node.parseAll_intercalate (forall_mem_intersperse hop hwhole), reduce, hnodes]
  exact finish_of_isSettled (List.forall_mem_singleton.mpr hsettled)

/-- **Words joined by `OR` are a phrase each.** -/
theorem parse_chain_or : parse (chain orWord ws) = ⟨ws.map ([·]), []⟩ := by
  have hop : Node.IsWhole orWord := by decide
  have hsettled : ∀ p ∈ ws.map ([·]), Phrase.IsSettled p :=
    List.forall_mem_map.mpr fun w hw => isSettled_singleton (hws w hw)
  rw [parse, chain, Node.parseAll_intercalate (forall_mem_intersperse hop hwhole), reduce, empty,
    nodesFrom_or (by simp) hws]
  exact finish_of_isSettled hsettled

end

end Query

end Concordance
