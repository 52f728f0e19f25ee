import Concordance.Proofs.Text.Runs
import Concordance.Query

/-!
# The words of a query

Reading a query finds its words between blanks and parentheses, and the reduction puts phrases
together from these words and no others. So the words of a phrase are found again in its written
form.

## Main definitions

* `Query.Node.leaves`: the words of a node, those of its groups included

## Main results

* `Query.Node.isPart_of_mem_leaves_parseAll` — the words of a text are parts between blanks
* `Query.mem_leaves_of_mem_reduce` — the words of phrases are words of the query
* `Query.words_text_of_mem_parse` — a phrase is found again in its written form
-/

namespace Concordance

namespace Query

namespace Node

mutual

/-- The words of a node, those of its groups included. -/
def leaves : Node → List (List Char)
  | .word w => [w]
  | .group nodes => leavesAll nodes

/-- The words of a row of nodes. -/
def leavesAll : List Node → List (List Char)
  | [] => []
  | n :: ns => n.leaves ++ leavesAll ns

end

@[simp] theorem leavesAll_nil : leavesAll [] = [] := rfl

@[simp] theorem leavesAll_cons (n : Node) (ns : List Node) :
    leavesAll (n :: ns) = n.leaves ++ leavesAll ns := rfl

@[simp] theorem leavesAll_append (ns ms : List Node) :
    leavesAll (ns ++ ms) = leavesAll ns ++ leavesAll ms := by
  induction ns with
  | nil => rfl
  | cons n ns ih => simp [ih]

theorem mem_leavesAll_reverse {w : List Char} {ns : List Node} :
    w ∈ leavesAll ns.reverse ↔ w ∈ leavesAll ns := by
  induction ns with
  | nil => rfl
  | cons n ns ih => simp [ih, or_comm, leavesAll_nil]

/-! ### Reading -/

open Text (IsPart isBlank)

namespace Reading

/-- All words that have been read are parts between blanks. -/
structure Sound (r : Reading) : Prop where
  /-- Those of the group at hand. -/
  nodes : ∀ w ∈ leavesAll r.nodes, IsPart w
  /-- Those around it. -/
  outer : ∀ ns ∈ r.outer, ∀ w ∈ leavesAll ns, IsPart w
  /-- The word at hand, which may not have begun. -/
  word : ∀ c ∈ r.word, isBlank c = false

variable {r : Reading}

theorem Sound.endWord (h : r.Sound) : r.endWord.Sound := by
  by_cases hw : r.word = []
  · simpa [Reading.endWord, hw] using h
  · have hpart : IsPart r.word.reverse :=
      ⟨by simpa using hw, fun c hc => h.word c (by simpa using hc)⟩
    refine ⟨?_, by simpa [Reading.endWord, hw] using h.outer, by simp [Reading.endWord, hw]⟩
    simpa [Reading.endWord, hw, leaves, hpart] using h.nodes

theorem Sound.openGroup (h : r.Sound) : r.openGroup.Sound := by
  have he := h.endWord
  refine ⟨by simp [Reading.openGroup], ?_, by simp [Reading.openGroup]⟩
  intro ns hns
  rcases List.mem_cons.mp hns with rfl | hns
  · exact he.nodes
  · exact h.outer ns hns

theorem Sound.closeGroup (h : r.Sound) : r.closeGroup.Sound := by
  have he := h.endWord
  cases ho : r.outer with
  | nil => simpa [Reading.closeGroup, ho] using he
  | cons around outer =>
    have hall : ∀ ns ∈ around :: outer, ∀ w ∈ leavesAll ns, IsPart w := ho ▸ h.outer
    refine ⟨?_, ?_, by simp [Reading.closeGroup, ho]⟩
    · simp only [Reading.closeGroup, ho, leavesAll_cons, leaves, List.mem_append]
      rintro w (hw | hw)
      · exact he.nodes w (mem_leavesAll_reverse.mp hw)
      · exact hall around (by simp) w hw
    · simp only [Reading.closeGroup, ho]
      exact fun ns hns => hall ns (by simp [hns])

/-- **One more character.** -/
theorem Sound.read (h : r.Sound) (c : Char) : (r.read c).Sound := by
  rw [Reading.read]
  split
  · exact h.endWord
  · split
    · exact h.openGroup
    · split
      · exact h.closeGroup
      · rename_i hblank _ _
        refine ⟨h.nodes, h.outer, ?_⟩
        simpa [or_imp, forall_and, hblank] using h.word

theorem Sound.closeAll {outer : List (List Node)} {nodes : List Node}
    (hnodes : ∀ w ∈ leavesAll nodes, IsPart w)
    (houter : ∀ ns ∈ outer, ∀ w ∈ leavesAll ns, IsPart w) :
    ∀ w ∈ leavesAll (Reading.closeAll outer nodes), IsPart w := by
  induction outer generalizing nodes with
  | nil => exact fun w hw => hnodes w (mem_leavesAll_reverse.mp hw)
  | cons around outer ih =>
    refine ih ?_ fun ns hns => houter ns (by simp [hns])
    simp only [leavesAll_cons, leaves, List.mem_append]
    rintro w (hw | hw)
    · exact hnodes w (mem_leavesAll_reverse.mp hw)
    · exact houter around (by simp) w hw

theorem Sound.foldl (h : r.Sound) (cs : List Char) : (cs.foldl Reading.read r).Sound := by
  induction cs generalizing r with
  | nil => exact h
  | cons c cs ih => exact ih (h.read c)

end Reading

/-- The words of a text are parts of it between blanks. -/
theorem isPart_of_mem_leaves_parseAll {cs w : List Char} (h : w ∈ leavesAll (parseAll cs)) :
    IsPart w := by
  have hs : (cs.foldl Reading.read .start).endWord.Sound :=
    (Reading.Sound.foldl ⟨by simp [Reading.start], by simp [Reading.start], by simp [Reading.start]⟩
      cs).endWord
  have ho : (cs.foldl Reading.read .start).endWord.outer
      = (cs.foldl Reading.read .start).outer := by
    rw [Reading.endWord]
    split <;> rfl
  exact Reading.Sound.closeAll hs.nodes (ho ▸ hs.outer) w h

end Node

/-! ### Reducing -/

/-- All words of the phrases of a query are among the given ones. -/
def WordsAmong (ws : List (List Char)) (q : Query) : Prop :=
  ∀ p ∈ q.included ++ q.excluded, ∀ w ∈ p, w ∈ ws

namespace WordsAmong

variable {ws : List (List Char)} {q : Query}

theorem operand (h : WordsAmong ws q) {ps : List Phrase} (hps : ∀ p ∈ ps, ∀ w ∈ p, w ∈ ws) :
    WordsAmong ws (q.operand ps) := by
  have hinc : ∀ p ∈ q.included, ∀ w ∈ p, w ∈ ws := fun p hp => h p (by simp [hp])
  have hexc : ∀ p ∈ q.excluded, ∀ w ∈ p, w ∈ ws := fun p hp => h p (by simp [hp])
  have hset : ∀ p ∈ q.settled, ∀ w ∈ p, w ∈ ws := fun p hp => hinc p ((List.dropLast_subset _) hp)
  rw [Query.operand]
  split
  · intro p hp w hw
    rcases List.mem_append.mp hp with hp | hp
    · obtain ⟨r, hr, o, ho, rfl⟩ : ∃ r ∈ q.settled, ∃ o ∈ ps, r ++ o = p := by
        simpa [lengthen] using hp
      rcases List.mem_append.mp hw with hw | hw
      · exact hset r hr w hw
      · exact hps o ho w hw
    · exact hexc p hp w hw
  · intro p hp
    simp only [List.mem_append] at hp
    rcases hp with hp | hp | hp
    · exact hset p hp
    · exact hexc p hp
    · exact hps p hp
  · intro p hp
    simp only [List.mem_append] at hp
    rcases hp with (hp | hp) | hp
    · exact hinc p hp
    · exact hps p hp
    · exact hexc p hp

theorem word (h : WordsAmong ws q) {w : List Char} (hw : w ∈ ws) : WordsAmong ws (q.word w) := by
  rw [Query.word]
  split
  · exact h
  · split
    · intro p hp
      simp only [push, List.mem_append, List.mem_singleton] at hp
      rcases hp with (hp | rfl) | hp
      · exact h p (by simp [hp])
      · simpa using hw
      · exact h p (by simp [hp])
    · exact h.operand (by simpa using hw)

theorem mem_of_mem_dropOperators {p : Phrase} {ps : List Phrase} (h : p ∈ dropOperators ps) :
    p ∈ ps := by
  induction ps with
  | nil => exact h
  | cons r ps ih =>
    rw [dropOperators] at h
    split at h
    · split at h
      · simp at h
      · simp_all
    · rcases List.mem_cons.mp h with rfl | h
      · simp
      · exact List.mem_cons_of_mem _ (ih h)

theorem finish (h : WordsAmong ws q) : WordsAmong ws q.finish := by
  intro p hp
  rcases List.mem_append.mp hp with hp | hp
  · exact h p (by simp [mem_of_mem_dropOperators hp])
  · exact h p (List.mem_append_right _ hp)

theorem group (h : WordsAmong ws q) {inner : Query} (hi : WordsAmong ws inner) :
    WordsAmong ws (q.group inner) := by
  refine operand ?_ fun p hp => hi p (by simp [hp])
  intro p hp
  simp only [List.mem_append] at hp
  rcases hp with hp | hp | hp
  · exact h p (by simp [hp])
  · exact h p (by simp [hp])
  · exact hi p (by simp [hp])

theorem empty : WordsAmong ws Query.empty := by simp [WordsAmong, Query.empty]

mutual

theorem node : (n : Node) → {q : Query} → WordsAmong ws q → (∀ w ∈ n.leaves, w ∈ ws) →
    WordsAmong ws (q.node n)
  | .word w, _, h, hn => by
    rw [Query.node]
    exact h.word (hn w (by simp [Node.leaves]))
  | .group nodes, _, h, hn => by
    rw [Query.node]
    exact h.group (nodesFrom nodes empty (by simpa [Node.leaves] using hn)).finish

theorem nodesFrom : (ns : List Node) → {q : Query} → WordsAmong ws q →
    (∀ w ∈ Node.leavesAll ns, w ∈ ws) → WordsAmong ws (q.nodesFrom ns)
  | [], _, h, _ => by
    rw [Query.nodesFrom]
    exact h
  | n :: ns, _, h, hns => by
    rw [Query.nodesFrom]
    exact nodesFrom ns (node n h fun w hw => hns w (by simp [hw])) fun w hw => hns w (by simp [hw])

end

end WordsAmong

/-- The words of phrases are words of the query. -/
theorem mem_leaves_of_mem_reduce {nodes : List Node} {p : Phrase}
    (hp : p ∈ (reduce nodes).included ++ (reduce nodes).excluded) {w : List Char} (hw : w ∈ p) :
    w ∈ Node.leavesAll nodes :=
  (WordsAmong.nodesFrom nodes .empty fun _ h => h).finish p hp w hw

/-- **A phrase is found again in its written form.** -/
theorem words_text_of_mem_parse {cs : List Char} {p : Phrase}
    (hp : p ∈ (parse cs).included ++ (parse cs).excluded) : Text.words p.text = p :=
  Text.words_intercalate fun _ hw =>
    Node.isPart_of_mem_leaves_parseAll (mem_leaves_of_mem_reduce hp hw)

end Query

end Concordance
