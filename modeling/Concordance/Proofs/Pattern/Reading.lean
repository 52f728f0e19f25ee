import Mathlib.Tactic.Tauto
import Concordance.PhraseStyle

/-!
# Reading patterns piece by piece

The text of a synthesised pattern is put together from a few pieces, and it is read piece by piece: each
piece leads from what was read before it to what was read after it, whatever follows. Only after a
repetition no `?` may follow, and after the edge of a word no brace, since either would belong to it.

## Main definitions

* `Pattern.Reading.Leads` — a piece of text leads from one reading to another
* `Pattern.Writes` — a piece of text writes items, wherever it stands
* `Pattern.IsBound` — a text writes an edge around a body that is kept in two groups

## Main results

* `Pattern.writes_char`, `Pattern.writes_escape` — characters that stand for themselves
* `Pattern.writesOn_word` — a word with wildcards
* `Pattern.IsBound.leads` — a body in its groups is one item
-/

namespace Concordance

namespace Pattern

/-! ### Reading piece by piece -/

/-- A piece of text leads from one reading to another, whatever follows it. -/
def Reading.Leads (r : Reading) (cs : List Char) (r' : Reading) : Prop :=
  ∃ steps ≤ cs.length, ∀ fuel rest, readFrom (fuel + steps) r (cs ++ rest) = readFrom fuel r' rest

namespace Reading

variable {r r' r'' : Reading} {cs ds : List Char}

theorem leads_nil (r : Reading) : r.Leads [] r := ⟨0, Nat.le_refl 0, fun _ _ => rfl⟩

theorem Leads.append (h : r.Leads cs r') (h' : r'.Leads ds r'') : r.Leads (cs ++ ds) r'' := by
  obtain ⟨m, hm, hread⟩ := h
  obtain ⟨n, hn, hread'⟩ := h'
  refine ⟨n + m, by rw [List.length_append]; omega, fun fuel rest => ?_⟩
  rw [List.append_assoc, ← Nat.add_assoc, hread, hread']

/-- What may follow a repetition or an edge without changing what it means. -/
def Closes (rest : List Char) : Prop := ∀ c ∈ rest.head?, c ≠ '?' ∧ c ≠ '\x7b'

theorem closes_nil : Closes [] := by rintro _ ⟨⟩

theorem closes_cons {c : Char} {rest : List Char} (hc : c ≠ '?' ∧ c ≠ '\x7b') :
    Closes (c :: rest) := by
  rintro d hd
  rwa [← Option.some.inj hd]

theorem Closes.append {rest : List Char} (hds : Closes ds) (hrest : Closes rest) :
    Closes (ds ++ rest) := by
  cases ds with
  | nil => exact hrest
  | cons d ds => exact hds

/-- A piece of text leads from one reading to another, unless it is followed by what may change its
meaning. -/
def LeadsOn (r : Reading) (cs : List Char) (r' : Reading) : Prop :=
  ∃ steps ≤ cs.length, ∀ fuel rest, Closes rest →
    readFrom (fuel + steps) r (cs ++ rest) = readFrom fuel r' rest

theorem Leads.leadsOn (h : r.Leads cs r') : r.LeadsOn cs r' := by
  obtain ⟨steps, hsteps, hread⟩ := h
  exact ⟨steps, hsteps, fun fuel rest _ => hread fuel rest⟩

theorem LeadsOn.append (h : r.LeadsOn cs r') (h' : r'.LeadsOn ds r'') (hds : Closes ds) :
    r.LeadsOn (cs ++ ds) r'' := by
  obtain ⟨m, hm, hread⟩ := h
  obtain ⟨n, hn, hread'⟩ := h'
  refine ⟨n + m, by rw [List.length_append]; omega, fun fuel rest hrest => ?_⟩
  rw [List.append_assoc, ← Nat.add_assoc, hread _ _ (hds.append hrest), hread' _ _ hrest]

/-- A piece that is read whatever follows it is followed by another one. -/
theorem Leads.append_leadsOn (h : r.Leads cs r') (h' : r'.LeadsOn ds r'') :
    r.LeadsOn (cs ++ ds) r'' := by
  obtain ⟨m, hm, hread⟩ := h
  obtain ⟨n, hn, hread'⟩ := h'
  refine ⟨n + m, by rw [List.length_append]; omega, fun fuel rest hrest => ?_⟩
  rw [List.append_assoc, ← Nat.add_assoc, hread, hread' _ _ hrest]

/-- A piece that starts with another sign closes off what it follows. -/
theorem LeadsOn.append_cons {d : Char} (h : r.LeadsOn cs r') (h' : r'.Leads (d :: ds) r'')
    (hd : d ≠ '?' ∧ d ≠ '\x7b') : r.Leads (cs ++ d :: ds) r'' := by
  obtain ⟨m, hm, hread⟩ := h
  obtain ⟨n, hn, hread'⟩ := h'
  refine ⟨n + m, by rw [List.length_append]; omega, fun fuel rest => ?_⟩
  rw [List.append_assoc, ← Nat.add_assoc, List.cons_append, hread _ _ (closes_cons hd),
    ← List.cons_append, hread']

/-- What all groups having been closed leads to is the pattern. -/
theorem Leads.read? {ignoreCase : Bool} (h : (start { ignoreCase }).Leads cs r)
    (hgroups : r.groups = []) (hverbose : r.mode.verbose = false) :
    read? ignoreCase cs = some r.branches.pattern := by
  obtain ⟨steps, hsteps, hread⟩ := h
  have hfuel : cs.length + 1 = (cs.length - steps + 1) + steps := by omega
  rw [Pattern.read?, hfuel, ← List.append_nil cs, hread, readFrom, Mode.skip,
    if_neg (by simp [hverbose])]
  simp [hgroups]

end Reading

/-! ### Patterns of words, tags and fillers -/

section

variable (ignoreCase : Bool)

/-- The set of a character, with its other cases if case is ignored. -/
def setOf (c : Char) : CharSet := if ignoreCase then .like c else .single c

/-- The set of some characters and classes in brackets. -/
def bracketSet (sets : List CharSet) : CharSet :=
  ({ ignoreCase } : Mode).foldCase (.unionAll sets)

/-- The edge of a word. -/
def wordEdge : Pattern := .anchor (.word .either false)

/-- A character of a word, where `*` stands for any run of word characters. -/
def ofChar (c : Char) : Pattern :=
  if c = '*' then .repeated (.set .word) 0 none true else .set (setOf ignoreCase c)

/-- Characters that stand for themselves. -/
def ofLiteral (cs : List Char) : List Pattern := cs.map fun c => .set (setOf ignoreCase c)

/-- The signs of punctuation and the blanks. -/
def punctuationSet : CharSet :=
  bracketSet ignoreCase [.blank, .single ',', .single '?', .single '!', .single '.', .single ';',
    .single ':', .single '\\', .single '/', .single '_', .single '(', .single ')', .single '[',
    .single ']', .single '"', .single '\'', .single '-']

/-- A sign of punctuation or a blank. -/
def ofPunctuation : Pattern := .set (punctuationSet ignoreCase)

/-- The items of a colour. -/
def colorItems : List Pattern :=
  [.set (setOf ignoreCase '\x1b'), .set (setOf ignoreCase '['),
    .repeated (.set (bracketSet ignoreCase [.digit, .single ';'])) 0 none true,
    .set (setOf ignoreCase 'm')]

/-- The items of what stands between two signs. -/
def enclosedItems (opening closing : Char) : List Pattern :=
  [.set (setOf ignoreCase opening),
    .repeated (.set (.compl (bracketSet ignoreCase [.single closing]))) 0 none true,
    .set (setOf ignoreCase closing)]

/-- The items of any word. -/
def anyWordItems : List Pattern := [wordEdge, .repeated (.set .word) 1 none true, wordEdge]

/-- A colour. -/
def ofColor : Pattern := .ofSeq (colorItems ignoreCase)

/-- What stands between two signs. -/
def ofEnclosed (opening closing : Char) : Pattern :=
  .ofSeq (enclosedItems ignoreCase opening closing)

/-- Any word. -/
def ofAnyWord : Pattern := .ofSeq anyWordItems

/-- A body in two groups, with edges on both sides. -/
def ofBody (edge : Pattern) (count : Nat) (body : List Pattern) : Pattern :=
  .group (count + 1) (.ofSeq [edge, .group (count + 2) (.ofSeq body), edge])

end

/-! ### Pieces that write items -/

section

open Text PhraseStyle

variable {ignoreCase : Bool} {cs ds : List Char} {ps qs : List Pattern}

/-- A piece of text writes items, wherever in a group it stands. -/
def Writes (ignoreCase : Bool) (cs : List Char) (ps : List Pattern) : Prop :=
  ∀ done items groups count,
    Reading.Leads ⟨{ ignoreCase }, ⟨done, items⟩, groups, count, []⟩ cs
      ⟨{ ignoreCase }, ⟨done, (ps.map some).reverse ++ items⟩, groups, count, []⟩

/-- A piece of text writes items, wherever in a group it stands, unless it is followed by what may
change its meaning. -/
def WritesOn (ignoreCase : Bool) (cs : List Char) (ps : List Pattern) : Prop :=
  ∀ done items groups count,
    Reading.LeadsOn ⟨{ ignoreCase }, ⟨done, items⟩, groups, count, []⟩ cs
      ⟨{ ignoreCase }, ⟨done, (ps.map some).reverse ++ items⟩, groups, count, []⟩

theorem Writes.writesOn (h : Writes ignoreCase cs ps) : WritesOn ignoreCase cs ps :=
  fun done items groups count => (h done items groups count).leadsOn

theorem writes_nil : Writes ignoreCase [] [] := fun _ _ _ _ => Reading.leads_nil _

theorem Writes.append (h : Writes ignoreCase cs ps) (h' : Writes ignoreCase ds qs) :
    Writes ignoreCase (cs ++ ds) (ps ++ qs) := by
  intro done items groups count
  simpa using (h done items groups count).append (h' done _ groups count)

theorem WritesOn.append (h : WritesOn ignoreCase cs ps) (h' : WritesOn ignoreCase ds qs)
    (hds : Reading.Closes ds) : WritesOn ignoreCase (cs ++ ds) (ps ++ qs) := by
  intro done items groups count
  simpa using (h done items groups count).append (h' done _ groups count) hds

/-- The signs that have a meaning of their own outside of brackets. -/
def signs : List Char := ['(', ')', '|', '[', '?', '*', '+', '\x7b', '\\', '.', '^', '$']

/-- Whether a character is such a sign. -/
def isSign (c : Char) : Bool := c ∈ signs

/-- What is checked of every sign holds of signs. -/
theorem of_isSign (p : Char → Bool) (h : signs.all p = true) {c : Char} (hc : isSign c = true) :
    p c = true :=
  List.all_eq_true.mp h c (by simpa [isSign] using hc)

/-- A character that is no sign stands for itself. -/
theorem writes_char {c : Char} (hc : isSign c = false) :
    Writes ignoreCase [c] [.set (setOf ignoreCase c)] := by
  have hsign : ∀ (r : Reading) (rest : List Char), readSign? r (c :: rest)
      = (r.mode.character? c false).map fun p => (r.push p, rest) := by
    intro r rest
    unfold readSign?
    split <;> rename_i heq <;> cases heq
    -- each of the other cases is about a sign
    all_goals first
      | rfl
      | exact absurd hc (by decide)
  refine fun done items groups count => ⟨1, Nat.le_refl 1, fun fuel rest => ?_⟩
  rw [List.singleton_append, readFrom]
  simp only [Mode.skip, Bool.false_eq_true, if_false, hsign]
  rfl

/-- A text that writes items is read as these. -/
theorem Writes.read? (h : Writes ignoreCase cs ps) : read? ignoreCase cs = some (ofSeq ps) := by
  rw [Reading.Leads.read? (h [] [] [] 0) rfl rfl]
  simp [Branches.pattern, Branches.current, ofAlt, List.filterMap_map]

/-- A piece that starts with another sign closes off what it follows. -/
theorem WritesOn.append_cons {d : Char} (h : WritesOn ignoreCase cs ps)
    (h' : Writes ignoreCase (d :: ds) qs) (hd : d ≠ '?' ∧ d ≠ '\x7b') :
    Writes ignoreCase (cs ++ d :: ds) (ps ++ qs) := by
  intro done items groups count
  simpa using (h done items groups count).append_cons (h' done _ groups count) hd

/-- Characters none of which is a sign stand for themselves. -/
theorem writes_chars (h : ∀ c ∈ cs, isSign c = false) :
    Writes ignoreCase cs (ofLiteral ignoreCase cs) := by
  induction cs with
  | nil => exact writes_nil
  | cons c cs ih =>
    obtain ⟨hc, hcs⟩ := List.forall_mem_cons.mp h
    exact (writes_char hc).append (ih hcs)

/-- A sign after a backslash stands for itself. -/
theorem writes_escaped {c : Char} (hc : isMeta c = true) :
    Writes ignoreCase ['\\', c] [.set (setOf ignoreCase c)] := by
  refine fun done items groups count => ⟨1, by simp, fun fuel rest => ?_⟩
  simp only [isMeta, decide_eq_true_eq, List.mem_cons, List.not_mem_nil, or_false] at hc
  rcases hc with rfl | rfl | rfl | rfl | rfl | rfl | rfl | rfl | rfl | rfl | rfl | rfl | rfl | rfl |
    rfl | rfl | rfl | rfl <;> rfl

/-- Escaped characters stand for themselves. -/
theorem writes_escape (cs : List Char) : Writes ignoreCase (escape cs) (ofLiteral ignoreCase cs) := by
  induction cs with
  | nil => exact writes_nil
  | cons c cs ih =>
    have hc : Writes ignoreCase (if isMeta c then ['\\', c] else [c]) [.set (setOf ignoreCase c)] := by
      split
      · rename_i hmeta
        exact writes_escaped hmeta
      · rename_i hmeta
        refine writes_char ?_
        revert hmeta
        simp only [isMeta, isSign, signs, decide_eq_true_eq, decide_eq_false_iff_not, List.mem_cons,
          List.not_mem_nil, or_false]
        tauto
    exact hc.append ih

/-- An escaped text does not change the meaning of what it follows. -/
theorem closes_escape (cs : List Char) : Reading.Closes (escape cs) := by
  cases cs with
  | nil => exact Reading.closes_nil
  | cons c cs =>
    rw [escape, List.flatMap_cons]
    split
    · exact Reading.closes_cons (by decide)
    · rename_i hmeta
      refine Reading.closes_cons ⟨?_, ?_⟩ <;> rintro rfl <;> exact hmeta (by decide)

/-- A star repeats the set before it. -/
theorem Writes.writesOn_star {s : CharSet} (h : Writes ignoreCase cs [.set s]) :
    WritesOn ignoreCase (cs ++ ['*']) [.repeated (.set s) 0 none true] := by
  intro done items groups count
  have hstar : Reading.LeadsOn ⟨{ ignoreCase }, ⟨done, some (.set s) :: items⟩, groups, count, []⟩ ['*']
      ⟨{ ignoreCase }, ⟨done, some (.repeated (.set s) 0 none true) :: items⟩, groups, count, []⟩ := by
    refine ⟨1, Nat.le_refl 1, fun fuel rest hrest => ?_⟩
    have hrepeat : ∀ r : Reading, repeatWith? r 0 none rest
        = (r.repeatLast? 0 none false).map fun r => (r, rest) := by
      intro r
      unfold repeatWith?
      split
      · exact absurd rfl (hrest '?' rfl).1
      · rfl
    have hsign : ∀ r : Reading, readSign? r ('*' :: rest)
        = (r.repeatLast? 0 none false).map fun r => (r, rest) := fun r => hrepeat r
    rw [List.singleton_append, readFrom]
    simp only [Mode.skip, Bool.false_eq_true, if_false, hsign]
    rfl
  exact (h done items groups count).append_leadsOn hstar

/-- A wildcard repeats the set of word characters. -/
theorem writesOn_anyRun : WritesOn ignoreCase anyRun [ofChar ignoreCase '*'] := by
  have hword : Writes ignoreCase ['\\', 'w'] [.set .word] :=
    fun _ _ _ _ => ⟨1, by decide, fun _ _ => rfl⟩
  unfold anyRun
  simp only [String.reduceToList]
  exact hword.writesOn_star

/-- The sign for an edge of a word, after which no brace may follow. -/
theorem readFrom_wordEdge {rest : List Char} (hrest : Reading.Closes rest) (fuel : Nat)
    (b : Branches) (groups : List OpenGroup) (count : Nat) :
    readFrom (fuel + 1) ⟨{ ignoreCase }, b, groups, count, []⟩ ('\\' :: 'b' :: rest)
      = readFrom fuel ⟨{ ignoreCase }, b.push wordEdge, groups, count, []⟩ rest := by
  cases rest with
  | nil => rfl
  | cons c rest =>
    have hedge : ∀ m : Mode, readWordEdge? m (c :: rest)
        = some (.anchor (.word .either !m.unicode), c :: rest) := by
      intro m
      unfold readWordEdge?
      split
      · rename_i heq
        cases heq
        exact absurd rfl (hrest '\x7b' rfl).2
      · rfl
    rw [readFrom]
    simp only [Mode.skip, Bool.false_eq_true, if_false, readSign?, readEscape?, hedge]
    rfl

theorem expandWildcards_cons (c : Char) (w : List Char) :
    expandWildcards (c :: w) = expandWildcards [c] ++ expandWildcards w := by
  simp [expandWildcards]

variable {w : List Char} (hw : ∀ c ∈ w, c = '*' ∨ isSign c = false)

include hw

/-- No wildcard changes the meaning of what it follows, and no character does. -/
theorem closes_expandWildcards : Reading.Closes (expandWildcards w) := by
  cases w with
  | nil => exact Reading.closes_nil
  | cons c w =>
    rw [expandWildcards, List.flatMap_cons]
    split
    · unfold anyRun
      simp only [String.reduceToList]
      exact Reading.closes_cons (by decide)
    · refine Reading.closes_cons ⟨?_, ?_⟩ <;> rintro rfl <;>
        exact absurd (hw _ List.mem_cons_self) (by decide)

/-- The characters of a word are read one after another. -/
theorem writesOn_word : WritesOn ignoreCase (expandWildcards w) (w.map (ofChar ignoreCase)) := by
  induction w with
  | nil => exact writes_nil.writesOn
  | cons c w ih =>
    obtain ⟨hc, hrest⟩ := List.forall_mem_cons.mp hw
    have hfirst : WritesOn ignoreCase (expandWildcards [c]) [ofChar ignoreCase c] := by
      rw [expandWildcards, List.flatMap_singleton]
      by_cases hstar : c = '*'
      · subst hstar
        exact writesOn_anyRun
      · rw [ofChar, if_neg hstar, if_neg hstar]
        exact (writes_char (hc.resolve_left hstar)).writesOn
    rw [expandWildcards_cons]
    exact hfirst.append (ih hrest) (closes_expandWildcards hrest)

end

/-! ### Groups around a body -/

section

variable {ignoreCase : Bool} {bound : List Char} {edge : Pattern}

/-- What has been read outside of all groups. -/
def outermost (ignoreCase : Bool) (items : List (Option Pattern)) (count : Nat) : Reading :=
  ⟨{ ignoreCase }, ⟨[], items⟩, [], count, []⟩

/-- The two groups around a body, within the first of which an edge comes first. -/
def bodyGroups (ignoreCase : Bool) (edge : Pattern) (items : List (Option Pattern)) (count : Nat) :
    List OpenGroup :=
  [⟨some (count + 2), { ignoreCase }, ⟨[], [some edge]⟩⟩,
    ⟨some (count + 1), { ignoreCase }, ⟨[], items⟩⟩]

/-- A text writes an edge where it stands between the parentheses that open or close the two groups
around a body. -/
structure IsBound (ignoreCase : Bool) (bound : List Char) (edge : Pattern) : Prop where
  /-- The groups are opened where the body starts. -/
  opening : ∀ items count, (outermost ignoreCase items count).LeadsOn ('(' :: bound ++ ['('])
    ⟨{ ignoreCase }, .none, bodyGroups ignoreCase edge items count, count + 2, []⟩
  /-- The groups are closed where it ends. -/
  closing : ∀ inner items count,
    Reading.Leads ⟨{ ignoreCase }, ⟨[], inner⟩, bodyGroups ignoreCase edge items count, count + 2, []⟩
      (')' :: bound ++ [')'])
      (outermost ignoreCase (some (ofBody edge count (inner.reverse.filterMap id)) :: items)
        (count + 2))

/-- A parenthesis that no `?` follows opens a group with a number. -/
theorem readFrom_parenthesis {groups : List OpenGroup} (hgroups : groups.length < Reading.maxDepth)
    {rest : List Char} (hrest : rest.head? ≠ some '?') (fuel : Nat) (b : Branches) (count : Nat) :
    readFrom (fuel + 1) ⟨{ ignoreCase }, b, groups, count, []⟩ ('(' :: rest)
      = readFrom fuel ⟨{ ignoreCase }, .none, ⟨some (count + 1), { ignoreCase }, b⟩ :: groups,
        count + 1, []⟩ rest := by
  have hgroup : ∀ r : Reading, r.mode.verbose = false →
      readGroup? r rest = r.openCapture?.map fun r => (r, rest) := by
    intro r hverbose
    unfold readGroup?
    rw [Mode.skip, if_neg (by simp [hverbose])]
    split
    case h_4 => rfl
    all_goals exact absurd rfl hrest
  rw [readFrom]
  simp only [Mode.skip, Bool.false_eq_true, if_false, readSign?]
  rw [hgroup _ rfl]
  simp only [Reading.openCapture?, Reading.openGroup?, if_pos hgroups, Option.map_some]

/-- The sign for an edge of a word. -/
theorem isBound_wordEdge : IsBound ignoreCase "\\b".toList wordEdge where
  opening items count := by
    simp only [String.reduceToList]
    refine ⟨3, by decide, fun fuel rest hrest => ?_⟩
    change readFrom (fuel + 1) ⟨{ ignoreCase }, ⟨[], [some wordEdge]⟩,
      [⟨some (count + 1), { ignoreCase }, ⟨[], items⟩⟩], count + 1, []⟩ ('(' :: rest) = _
    exact readFrom_parenthesis (by simp [Reading.maxDepth]) (fun hhead => (hrest '?' hhead).1 rfl)
      fuel _ _
  closing inner items count := by
    simp only [String.reduceToList]
    exact ⟨3, by decide, fun _ _ => rfl⟩

/-- A body in its groups is one item. -/
theorem IsBound.leads (h : IsBound ignoreCase bound edge) {body : List Char} {ps : List Pattern}
    (hbody : WritesOn ignoreCase body ps) (hhead : Reading.Closes body)
    (items : List (Option Pattern)) (count : Nat) :
    (outermost ignoreCase items count).Leads ('(' :: bound ++ '(' :: body ++ ')' :: bound ++ [')'])
      (outermost ignoreCase (some (ofBody edge count ps) :: items) (count + 2)) := by
  have hopen := (h.opening items count).append (hbody [] [] _ _) hhead
  have hclose := h.closing ((ps.map some).reverse ++ []) items count
  have hleads := hopen.append_cons hclose (by decide)
  simpa [List.filterMap_map] using hleads

end

end Pattern

end Concordance
