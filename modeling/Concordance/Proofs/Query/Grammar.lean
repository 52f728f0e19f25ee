import Concordance.Proofs.Markup.Tag
import Concordance.Proofs.Query.Chains

/-!
# The grammar of queries

Reading goes through a query once, character by character, with a stack of open groups. The grammar says
what is to come out: a row is made of words and groups with blanks between them, a group may do without
its closing parenthesis, and a closing parenthesis ends words in groups only. Reading follows the
grammar, and there is no text that the grammar does not derive in exactly one way. So whatever a forest of
words and groups is laid out as is read as that forest, and groups that a text leaves open may as well be
closed.

## Main definitions

* `Query.Node.Derives` — the grammar: the row at the start of a text, and what is left of the text
* `Query.Node.Written` — a text that a forest of words and groups is laid out as
* `Query.Node.openGroups` — how many groups a text leaves open

## Main results

* `Query.Node.exists_derives`, `Query.Node.Derives.parseAll_eq` — a text is derived, and read as derived
* `Query.Node.Written.parseAll_eq` — a forest is read whichever way it is laid out
* `Query.Node.parseAll_append_replicate` — groups that are left open may be closed
* `Query.parse_structure` — all of it, of whole queries
-/

namespace Concordance

namespace Query

open Text (isBlank trimStart takeSome? takeSome?_eq_some_iff)

namespace Node

/-! ### The grammar -/

/-- A character of words. In groups a closing parenthesis is none. -/
def isWordSign (inGroup : Bool) (c : Char) : Bool :=
  !isBlank c && c != '(' && !(inGroup && c == ')')

/-- Passes over a closing parenthesis, if there is one. -/
def skipClosing : List Char → List Char
  | ')' :: rest => rest
  | cs => cs

/-- **The grammar.** The row at the start of a text, in a group or outside of all groups, goes on as long
as words or groups follow, with blanks before them. What is left starts with what ends the row. -/
inductive Derives : (inGroup : Bool) → (cs : List Char) → List Node → (rest : List Char) → Prop
  /-- Neither a word nor a group follows. -/
  | stop {inGroup : Bool} {cs : List Char}
    (hword : takeSome? (isWordSign inGroup) (trimStart cs) = none)
    (hgroup : (trimStart cs).head? ≠ some '(') : Derives inGroup cs [] (trimStart cs)
  /-- A word follows, which goes as far as it can. -/
  | word {inGroup : Bool} {cs w later rest : List Char} {ns : List Node}
    (hword : takeSome? (isWordSign inGroup) (trimStart cs) = some (w, later))
    (hlater : Derives inGroup later ns rest) : Derives inGroup cs (.word w :: ns) rest
  /-- A group follows, with a row of its own and perhaps a closing parenthesis. -/
  | group {inGroup : Bool} {cs inner later rest : List Char} {ms ns : List Node}
    (hgroup : trimStart cs = '(' :: inner) (hinner : Derives true inner ms later)
    (hlater : Derives inGroup (skipClosing later) ns rest) : Derives inGroup cs (.group ms :: ns) rest

theorem length_skipClosing_le (cs : List Char) : (skipClosing cs).length ≤ cs.length := by
  unfold skipClosing
  split
  · exact Nat.le_succ _
  · exact Nat.le_refl _

theorem length_trimStart_le (cs : List Char) : (trimStart cs).length ≤ cs.length :=
  (List.dropWhile_suffix isBlank).length_le

/-- Where no word starts there is a blank, a parenthesis or nothing. -/
theorem takeSome?_isWordSign_eq_none_iff {inGroup : Bool} {cs : List Char} :
    takeSome? (isWordSign inGroup) cs = none ↔ ∀ c ∈ cs.head?, isWordSign inGroup c = false := by
  cases cs with
  | nil => simp [takeSome?]
  | cons c cs => cases h : isWordSign inGroup c <;> simp [takeSome?, h]

/-- After the blanks no blank follows. -/
theorem isBlank_of_mem_head?_trimStart {cs : List Char} {c : Char}
    (h : c ∈ (trimStart cs).head?) : isBlank c = false :=
  Text.head?_dropWhile c h

/-- **A row ends with the text**, or, in a group, before a closing parenthesis. -/
theorem Derives.rest_eq {inGroup : Bool} {cs rest : List Char} {ns : List Node}
    (h : Derives inGroup cs ns rest) : rest = [] ∨ inGroup = true ∧ ∃ rest', rest = ')' :: rest' := by
  induction h with
  | @stop inGroup cs hword hgroup =>
    cases hcs : trimStart cs with
    | nil => exact .inl rfl
    | cons c cs' =>
      have hblank : isBlank c = false := isBlank_of_mem_head?_trimStart (by rw [hcs]; rfl)
      have hsign : isWordSign inGroup c = false :=
        takeSome?_isWordSign_eq_none_iff.mp hword c (by rw [hcs]; rfl)
      have hopen : c ≠ '(' := by simpa [hcs] using hgroup
      obtain ⟨rfl, rfl⟩ : inGroup = true ∧ c = ')' := by
        simpa [isWordSign, hblank, hopen] using hsign
      exact .inr ⟨rfl, cs', rfl⟩
  | word _ _ ih => exact ih
  | group _ _ _ _ ih => exact ih

/-- **Every text has a row at its start.** -/
theorem exists_derives_of_inGroup (inGroup : Bool) (cs : List Char) :
    ∃ ns rest, Derives inGroup cs ns rest ∧ rest.length ≤ cs.length := by
  induction hn : cs.length using Nat.strongRecOn generalizing inGroup cs with
  | ind n ih =>
    subst hn
    have htrim := length_trimStart_le cs
    cases hword : takeSome? (isWordSign inGroup) (trimStart cs) with
    | some found =>
      obtain ⟨w, later⟩ := found
      obtain ⟨hne, -, -, hcs⟩ := takeSome?_eq_some_iff.mp hword
      have hless : later.length < cs.length := by
        have hpos := List.length_pos_of_ne_nil hne
        rw [hcs, List.length_append] at htrim
        omega
      obtain ⟨ns, rest, hlater, hle⟩ := ih _ hless inGroup later rfl
      exact ⟨_, rest, .word hword hlater, by omega⟩
    | none =>
      by_cases hgroup : (trimStart cs).head? = some '('
      · obtain ⟨inner, hcs⟩ := List.head?_eq_some_iff.mp hgroup
        rw [hcs, List.length_cons] at htrim
        obtain ⟨ms, later, hinner, hle⟩ := ih _ (by omega) true inner rfl
        have hskip := length_skipClosing_le later
        obtain ⟨ns, rest, hlater, hle'⟩ := ih _ (by omega) inGroup (skipClosing later) rfl
        exact ⟨_, rest, .group hcs hinner hlater, by omega⟩
      · exact ⟨[], _, .stop hword hgroup, htrim⟩

/-- **The grammar accepts every text.** -/
theorem exists_derives (cs : List Char) : ∃ ns, Derives false cs ns [] := by
  obtain ⟨ns, rest, h, -⟩ := exists_derives_of_inGroup false cs
  obtain rfl | ⟨hgroup, -⟩ := h.rest_eq
  · exact ⟨ns, h⟩
  · cases hgroup

/-! ### Reading follows the grammar -/

namespace Reading

variable {r : Reading} {outer : List (List Node)} {nodes : List Node} {cs w : List Char}

theorem finish_endWord (r : Reading) : r.endWord.finish = r.finish := by
  rw [finish, finish, endWord_endWord, outer_endWord]

/-- Blanks between words and groups are passed over. -/
theorem foldl_read_trimStart (cs : List Char) :
    (trimStart cs).foldl read ⟨outer, nodes, []⟩ = cs.foldl read ⟨outer, nodes, []⟩ := by
  induction cs with
  | nil => rfl
  | cons c cs ih =>
    by_cases hc : isBlank c = true
    · rw [List.foldl_cons, read_of_isBlank _ hc]
      simpa [trimStart, hc, endWord] using ih
    · simp [trimStart, hc]

/-- A word is read character by character, in a group or outside of all groups. -/
theorem foldl_read_sign (hw : ∀ c ∈ w, isWordSign (!r.outer.isEmpty) c = true) :
    w.foldl read r = { r with word := w.reverse ++ r.word } := by
  induction w generalizing r with
  | nil => rfl
  | cons c w ih =>
    obtain ⟨hc, hw⟩ := List.forall_mem_cons.mp hw
    simp only [isWordSign, Bool.and_eq_true, Bool.not_eq_true', bne_iff_ne, Bool.and_eq_false_iff,
      beq_eq_false_iff_ne, Bool.not_eq_false', List.isEmpty_iff] at hc
    obtain ⟨⟨hblank, hopen⟩, hclose⟩ := hc
    have hread : r.read c = { r with word := c :: r.word } := by
      have hshut : ¬ (c = ')' ∧ r.outer ≠ []) := fun h => hclose.elim h.2 (· h.1)
      rw [read, if_neg (by simp [hblank]), if_neg hopen, if_neg hshut]
    rw [List.foldl_cons, hread, ih (r := { r with word := c :: r.word }) hw]
    simp

/-- Where no character of a word follows, the word at hand ends. -/
theorem finish_foldl_endWord (hnext : ∀ c ∈ cs.head?, isWordSign (!r.outer.isEmpty) c = false) :
    (cs.foldl read r.endWord).finish = (cs.foldl read r).finish := by
  cases cs with
  | nil => exact finish_endWord r
  | cons c cs =>
    have hread : r.endWord.read c = r.read c := by
      by_cases hblank : isBlank c = true
      · rw [read_of_isBlank _ hblank, read_of_isBlank _ hblank, endWord_endWord]
      · by_cases hopen : c = '('
        · subst hopen
          rw [read_openParen, read_openParen, openGroup, openGroup, endWord_endWord, outer_endWord]
        · obtain ⟨hne, rfl⟩ : r.outer ≠ [] ∧ c = ')' := by
            simpa [isWordSign, hblank, hopen] using hnext c rfl
          obtain ⟨nodes, outer, houter⟩ := List.exists_cons_of_ne_nil hne
          rw [read_closeParen houter, read_closeParen (r.outer_endWord.trans houter),
            endWord_endWord]
    rw [List.foldl_cons, List.foldl_cons, hread]

end Reading

open Reading

/-- **A row that the grammar derives is read**, whatever groups it stands in. -/
theorem Derives.finish_eq {inGroup : Bool} {cs rest : List Char} {ns : List Node}
    (h : Derives inGroup cs ns rest) {outer : List (List Node)} (hin : inGroup = !outer.isEmpty)
    (nodes : List Node) :
    (cs.foldl read ⟨outer, nodes, []⟩).finish
      = (rest.foldl read ⟨outer, ns.reverse ++ nodes, []⟩).finish := by
  induction h generalizing outer nodes with
  | stop _ _ =>
    rw [foldl_read_trimStart]
    rfl
  | @word inGroup cs w later rest ns hword _ ih =>
    subst hin
    obtain ⟨hne, hw, hnext, hcs⟩ := takeSome?_eq_some_iff.mp hword
    have hend : (⟨outer, nodes, w.reverse ++ []⟩ : Reading).endWord
        = ⟨outer, .word w :: nodes, []⟩ := by
      simp [endWord, hne]
    rw [← foldl_read_trimStart, hcs, List.foldl_append, foldl_read_sign (r := ⟨outer, nodes, []⟩) hw,
      ← finish_foldl_endWord hnext, hend, ih rfl]
    simp
  | @group inGroup cs inner later rest ms ns hgroup hinner _ ihInner ih =>
    have hopen : (⟨outer, nodes, []⟩ : Reading).read '(' = ⟨nodes :: outer, [], []⟩ := rfl
    have hclosed : (later.foldl read ⟨nodes :: outer, ms.reverse ++ [], []⟩).finish
        = ((skipClosing later).foldl read ⟨outer, .group ms :: nodes, []⟩).finish := by
      obtain rfl | ⟨-, rest', rfl⟩ := hinner.rest_eq
      · simp [skipClosing, Reading.finish, endWord, closeAll]
      · rw [List.foldl_cons, read_closeParen rfl]
        simp [skipClosing, endWord]
    rw [← foldl_read_trimStart, hgroup, List.foldl_cons, hopen, ihInner rfl, hclosed, ih hin]
    simp

/-- **A text is read as the grammar derives it.** -/
theorem Derives.parseAll_eq {cs : List Char} {ns : List Node} (h : Derives false cs ns []) :
    parseAll cs = ns := by
  rw [parseAll, start, h.finish_eq rfl []]
  simp [Reading.finish, endWord, closeAll]

/-! ### Layouts of a forest -/

/-- A text that a forest of words and groups is laid out as. Blanks may stand anywhere but within words,
and have to stand between two words; groups are enclosed in parentheses. -/
inductive Written : List Node → List Char → Prop
  /-- Nothing more is written. -/
  | nil : Written [] []
  /-- A blank. -/
  | blank {ns : List Node} {cs : List Char} {c : Char} (hc : isBlank c = true) (h : Written ns cs) :
    Written ns (c :: cs)
  /-- A word, which does not run into the next one. -/
  | word {ns : List Node} {w cs : List Char} (hw : IsWhole w)
    (hnext : ∀ c ∈ cs.head?, isBlank c = true ∨ c = '(') (h : Written ns cs) :
    Written (.word w :: ns) (w ++ cs)
  /-- A group. -/
  | group {inner ns : List Node} {ds cs : List Char} (hinner : Written inner ds) (h : Written ns cs) :
    Written (.group inner :: ns) ('(' :: ds ++ ')' :: cs)

/-- A word is written as an operator or as an operand. -/
theorem exists_part {w : List Char} (hw : IsWhole w) : ∃ p : Part, p.node = .word w := by
  by_cases hop : IsOperator w
  · obtain rfl | rfl | rfl := hop
    · exact ⟨.operator .and, by rw [Part.node, Operator.word]⟩
    · exact ⟨.operator .or, by rw [Part.node, Operator.word]⟩
    · exact ⟨.operator .not, by rw [Part.node, Operator.word]⟩
  · exact ⟨.operand ⟨w, hw.1, hw.2, hop⟩, by rw [Part.node]⟩

/-- What lays out a forest writes a row of operands, operators and groups. -/
theorem Written.exists_writes {ns : List Node} {cs : List Char} (h : Written ns cs) :
    ∃ ps, Part.nodes ps = ns ∧ Writes ps cs := by
  induction h with
  | nil => exact ⟨[], by rw [Part.nodes], .nil⟩
  | blank hc _ ih =>
    obtain ⟨ps, rfl, hps⟩ := ih
    exact ⟨ps, rfl, .blank hc hps⟩
  | word hw hnext _ ih =>
    obtain ⟨ps, rfl, hps⟩ := ih
    obtain ⟨p, hp⟩ := exists_part hw
    exact ⟨p :: ps, by rw [Part.nodes, hp], .word hp hnext hps⟩
  | group _ _ ihInner ih =>
    obtain ⟨qs, rfl, hqs⟩ := ihInner
    obtain ⟨ps, rfl, hps⟩ := ih
    exact ⟨.group qs :: ps, by rw [Part.nodes, Part.node], .group hqs hps⟩

/-- **A forest is read whichever way it is laid out.** -/
theorem Written.parseAll_eq {ns : List Node} {cs : List Char} (h : Written ns cs) :
    parseAll cs = ns := by
  obtain ⟨ps, rfl, hps⟩ := h.exists_writes
  exact parseAll_of_writes hps

/-! ### Open groups -/

/-- How many groups are open after one more character. -/
def openAfter (count : Nat) (c : Char) : Nat :=
  if c = '(' then count + 1 else if c = ')' then count - 1 else count

/-- How many groups a text leaves open. A closing parenthesis closes a group if there is one to close. -/
def openGroups (cs : List Char) : Nat := cs.foldl openAfter 0

theorem Reading.length_outer_read (r : Reading) (c : Char) :
    (r.read c).outer.length = openAfter r.outer.length c := by
  rw [read, openAfter]
  by_cases hblank : isBlank c = true
  · have hparens : c ≠ '(' ∧ c ≠ ')' := by
      constructor <;> rintro rfl <;> exact absurd hblank (by decide)
    simp [hblank, hparens, outer_endWord]
  · by_cases hopen : c = '('
    · simp [hopen, openGroup, isBlank]
    · by_cases hclose : c = ')'
      · subst hclose
        cases houter : r.outer <;> simp [closeGroup, houter, isBlank]
      · simp [hblank, hopen, hclose]

theorem Reading.length_outer_foldl (r : Reading) (cs : List Char) :
    (cs.foldl read r).outer.length = cs.foldl openAfter r.outer.length := by
  induction cs generalizing r with
  | nil => rfl
  | cons c cs ih => rw [List.foldl_cons, List.foldl_cons, ih, length_outer_read]

/-- To close an open group changes nothing if nothing follows. -/
theorem Reading.finish_read_closeParen {r : Reading} (h : r.outer ≠ []) :
    (r.read ')').finish = r.finish := by
  obtain ⟨nodes, outer, houter⟩ := List.exists_cons_of_ne_nil h
  rw [read_closeParen houter, finish, finish, houter]
  rfl

theorem Reading.finish_foldl_replicate {k : Nat} {r : Reading} (h : k ≤ r.outer.length) :
    ((List.replicate k ')').foldl read r).finish = r.finish := by
  induction k generalizing r with
  | zero => rfl
  | succ k ih =>
    have hne : r.outer ≠ [] := List.ne_nil_of_length_pos (by omega)
    have hlength : (r.read ')').outer.length = r.outer.length - 1 := length_outer_read r ')'
    rw [List.replicate_succ, List.foldl_cons, ih (by omega), finish_read_closeParen hne]

/-- **Groups that are left open may be closed.** -/
theorem parseAll_append_replicate {k : Nat} {cs : List Char} (h : k ≤ openGroups cs) :
    parseAll (cs ++ List.replicate k ')') = parseAll cs := by
  rw [parseAll, parseAll, List.foldl_append, Reading.finish_foldl_replicate]
  rwa [Reading.length_outer_foldl]

end Node

/-! ### Whole queries -/

open Node

/-- **The structure of queries.** The grammar derives every text as exactly one forest, and the text is
reduced as that forest is; a forest of words and groups is reduced alike whichever way it is laid out;
and groups that a text leaves open are closed at its end, so that any number of them may be closed. -/
theorem parse_structure :
    (∀ cs, ∃ nodes, Derives false cs nodes [] ∧ (∀ nodes', Derives false cs nodes' [] → nodes' = nodes) ∧
      parse cs = reduce nodes) ∧
    (∀ nodes cs, Written nodes cs → parse cs = reduce nodes) ∧
    ∀ cs k, k ≤ openGroups cs → parse (cs ++ List.replicate k ')') = parse cs := by
  refine ⟨fun cs => ?derived, fun nodes cs h => ?written, fun cs k h => ?closed⟩
  case derived =>
    obtain ⟨nodes, h⟩ := exists_derives cs
    refine ⟨nodes, h, fun nodes' h' => ?_, by rw [parse, h.parseAll_eq]⟩
    rw [← h'.parseAll_eq, h.parseAll_eq]
  case written => rw [parse, h.parseAll_eq]
  case closed => rw [parse, parse, parseAll_append_replicate h]

/-- A group in a group, laid out with as few and with more blanks than there have to be, and left open. -/
theorem parse_structure_nested :
    Written [.word ['a'], .word andWord, .group [.word ['b'], .group [.word ['c', '!']]]]
      "a\tAND( b(c!)) ".toList ∧
    parse "a\tAND( b(c!)) ".toList
      = reduce [.word ['a'], .word andWord, .group [.word ['b'], .group [.word ['c', '!']]]] ∧
    2 ≤ openGroups "a) AND( b(c!".toList ∧
    parse "a) AND( b(c!))".toList = parse "a) AND( b(c!".toList := by
  have hnext : ∀ (c : Char) (cs : List Char), isBlank c = true ∨ c = '(' →
      ∀ d ∈ (c :: cs).head?, isBlank d = true ∨ d = '(' := by
    rintro c cs h d hd
    obtain rfl := Option.some.inj hd
    exact h
  have hwritten : Written [.word ['a'], .word andWord, .group [.word ['b'], .group [.word ['c', '!']]]]
      (['a'] ++ '\t' :: (andWord ++ ('(' :: (' ' :: (['b'] ++ ('(' :: (['c', '!'] ++ []) ++ ')' :: [])))
        ++ ')' :: [' ']))) :=
    .word (by decide) (hnext '\t' _ (by decide)) (.blank (by decide) (.word (by decide)
      (hnext '(' _ (by decide)) (.group (.blank (by decide) (.word (by decide) (hnext '(' _ (by decide))
        (.group (.word (by decide) (by simp) .nil) .nil))) (.blank (by decide) .nil))))
  have hopen : 2 ≤ openGroups "a) AND( b(c!".toList := by decide
  have hclosed : "a) AND( b(c!))".toList = "a) AND( b(c!".toList ++ List.replicate 2 ')' := by decide
  refine ⟨hwritten, parse_structure.2.1 _ _ hwritten, hopen, ?_⟩
  rw [hclosed]
  exact parse_structure.2.2 _ 2 hopen

end Query

end Concordance
