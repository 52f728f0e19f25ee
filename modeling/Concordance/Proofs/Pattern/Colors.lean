import Concordance.Highlight
import Concordance.Proofs.Pattern.Order
import Concordance.Proofs.Pattern.Terms

/-!
# Patterns for marked texts

The patterns for the terms of a search are matched against texts in which words have been marked already.
So the edge of a word is either one or more colours in a row, or an edge between characters. But for
this edge, and for what the filler may pass over besides, the pattern of a phrase is what it is in
searches; a word with wildcards is put between two edges as it is written, and the characters of a word
that is to be marked are escaped.

## Main definitions

* `Pattern.colorEdge` — the edge of a word, or the colours there
* `Pattern.ofColoredGlob`, `Pattern.ofMarkedWord` — a word with wildcards, and a word to be marked
* `Highlight.style` — how strictly the phrase of a term is matched

## Main results

* `Highlight.readsAs_style` — what the edges and the other alternatives are read as
* `Pattern.read?_coloredGlob`, `Pattern.read?_markedWord` — the patterns that are read
* `Highlight.pattern_matcherOf_phrase`, `Highlight.pattern_matcherOf_wildcard` — the pattern of a term is
  that of a phrase or that of a word with wildcards
* `Highlight.pattern_wordMatcher` — the pattern of a word that is to be marked
-/

namespace Concordance

namespace Pattern

open PhraseStyle (color colorBound expandWildcards)

/-! ### Edges of words -/

section

variable (ignoreCase : Bool)

/-- The edge of a word, or the colours there. -/
def colorEdge : Pattern := .alt (.repeated (ofColor ignoreCase) 1 none true) wordEdge

/-- The items of a word with wildcards, between two edges. -/
def coloredGlobItems (w : List Char) : List Pattern :=
  [colorEdge ignoreCase, .group 1 (.ofSeq (w.map (ofChar ignoreCase))), colorEdge ignoreCase]

/-- A word with wildcards, between two edges. -/
def ofColoredGlob (w : List Char) : Pattern := .ofSeq (coloredGlobItems ignoreCase w)

end

/-- The items of a word that is to be marked, with the edges around it. -/
def markedWordItems (word : List Char) : List Pattern :=
  colorEdge false :: (ofLiteral false word ++ [colorEdge false])

/-- A word that is to be marked, with the edges around it. -/
def ofMarkedWord (word : List Char) : Pattern := .group 1 (.ofSeq (markedWordItems word))

/-! ### Reading edges -/

variable {ignoreCase : Bool} {w word : List Char}

/-- An edge is one item, outside of all groups and within one. -/
theorem leads_colorBound (ignoreCase : Bool) (groups : List OpenGroup) (hgroups : groups.length ≤ 1)
    (done : List Pattern) (items : List (Option Pattern)) (count : Nat) :
    Reading.Leads ⟨{ ignoreCase }, ⟨done, items⟩, groups, count, []⟩ colorBound
      ⟨{ ignoreCase }, ⟨done, some (colorEdge ignoreCase) :: items⟩, groups, count, []⟩ := by
  unfold colorBound color
  simp only [String.reduceToList]
  match groups with
  | [] => exact ⟨12, by decide, fun _ _ => rfl⟩
  | [_] => exact ⟨12, by decide, fun _ _ => rfl⟩
  | _ :: _ :: _ => simp at hgroups

/-- A parenthesis that no `?` follows opens a group with a number. -/
theorem leadsOn_parenthesis (ignoreCase : Bool) (groups : List OpenGroup) (hgroups : groups.length ≤ 1)
    (b : Branches) (count : Nat) :
    Reading.LeadsOn ⟨{ ignoreCase }, b, groups, count, []⟩ ['(']
      ⟨{ ignoreCase }, .none, ⟨some (count + 1), { ignoreCase }, b⟩ :: groups, count + 1, []⟩ :=
  ⟨1, Nat.le_refl 1, fun fuel _ hrest => readFrom_parenthesis (by rw [Reading.maxDepth]; omega)
    (fun hhead => (hrest '?' hhead).1 rfl) fuel b count⟩

/-- A group is closed and becomes one item. -/
theorem leads_close (ignoreCase : Bool) (index : Nat) (items : List (Option Pattern))
    (done : List Pattern) (items' : List (Option Pattern)) (groups : List OpenGroup) (count : Nat) :
    Reading.Leads ⟨{ ignoreCase }, ⟨[], items⟩, ⟨some index, { ignoreCase }, ⟨done, items'⟩⟩ :: groups,
        count, []⟩ [')']
      ⟨{ ignoreCase }, ⟨done, some (.group index (.ofSeq (items.reverse.filterMap id))) :: items'⟩,
        groups, count, []⟩ :=
  ⟨1, Nat.le_refl 1, fun _ _ => rfl⟩

theorem closes_colorBound : Reading.Closes colorBound := by
  unfold colorBound
  exact Reading.closes_cons (by decide)

/-- The edges around the two groups of a body. -/
theorem isBound_colorBound : IsBound ignoreCase colorBound (colorEdge ignoreCase) where
  opening items count := by
    have hfirst := leadsOn_parenthesis ignoreCase [] (by simp) ⟨[], items⟩ count
    have hedge := leads_colorBound ignoreCase [⟨some (count + 1), { ignoreCase }, ⟨[], items⟩⟩]
      (by simp) [] [] (count + 1)
    exact (hfirst.append hedge.leadsOn closes_colorBound).append
      (leadsOn_parenthesis ignoreCase _ (by simp) _ _) (Reading.closes_cons (by decide))
  closing inner items count := by
    have hfirst := leads_close ignoreCase (count + 2) inner [] [some (colorEdge ignoreCase)]
      [⟨some (count + 1), { ignoreCase }, ⟨[], items⟩⟩] (count + 2)
    have hedge := leads_colorBound ignoreCase [⟨some (count + 1), { ignoreCase }, ⟨[], items⟩⟩]
      (by simp) []
      [some (.group (count + 2) (.ofSeq (inner.reverse.filterMap id))), some (colorEdge ignoreCase)]
      (count + 2)
    exact (hfirst.append hedge).append (leads_close ignoreCase (count + 1) _ _ _ _ _)

/-! ### Words with wildcards, and words to be marked -/

/-- **A word with wildcards is read as it is written**, if nothing in it has a meaning of its own. -/
theorem read?_coloredGlob (hw : ∀ c ∈ w, c = '*' ∨ isSign c = false) :
    read? ignoreCase (colorBound ++ '(' :: expandWildcards w ++ ')' :: colorBound)
      = some (ofColoredGlob ignoreCase w) := by
  have hfirst := leads_colorBound ignoreCase [] (by simp) [] [] 0
  have hopen := hfirst.append_leadsOn (leadsOn_parenthesis ignoreCase [] (by simp) _ 0)
  have hbody := hopen.append (writesOn_word hw [] [] _ 1) (closes_expandWildcards hw)
  have hclose := hbody.append_cons (leads_close ignoreCase 1 _ _ _ [] 1) (by decide)
  have hall := hclose.append (leads_colorBound ignoreCase [] (by simp) [] _ 1)
  have htext : colorBound ++ '(' :: expandWildcards w ++ ')' :: colorBound
      = colorBound ++ ['('] ++ expandWildcards w ++ [')'] ++ colorBound := by simp
  rw [htext, hall.read? rfl rfl]
  simp [Branches.pattern, Branches.current, ofAlt, ofColoredGlob, coloredGlobItems, List.filterMap_map]

/-- **The characters of a word to be marked stand for themselves.** -/
theorem read?_markedWord (word : List Char) :
    read? false ('(' :: colorBound ++ escape word ++ colorBound ++ [')'])
      = some (ofMarkedWord word) := by
  have hopen := leadsOn_parenthesis false [] (by simp) .none 0
  have hedge := hopen.append (leads_colorBound false _ (by simp) [] [] 1).leadsOn closes_colorBound
  have hbody := hedge.append (writes_escape word [] _ _ 1).leadsOn (closes_escape word)
  have hlast := hbody.append (leads_colorBound false _ (by simp) [] _ 1).leadsOn closes_colorBound
  have hall := hlast.append_cons (leads_close false 1 _ _ _ [] 1) (by decide)
  have htext : '(' :: colorBound ++ escape word ++ colorBound ++ [')']
      = ['('] ++ colorBound ++ escape word ++ colorBound ++ [')'] := by simp
  rw [htext, hall.read? rfl rfl]
  simp [Branches.pattern, Branches.current, ofAlt, ofSeq, ofMarkedWord, markedWordItems,
    List.filterMap_map]

end Pattern

/-! ### Matchers of terms -/

namespace Highlight

open Pattern PhraseStyle

/-- How strictly the phrase of a term is matched. -/
def style (caseSensitive sloppy : Bool) (term : List Char) : PhraseStyle :=
  { caseSensitive
    wordBound := colorBound
    fillerExtra := '|' :: color ++ "|\\x1b".toList
    sloppy := sloppy || term.contains '~' }

/-- What the filler may pass over besides: colours, and the sign that starts them. -/
def extraChoices (ignoreCase : Bool) : List (List Char × List Pattern) :=
  [(color, colorItems ignoreCase), ("\\x1b".toList, [.set (setOf ignoreCase '\x1b')])]

variable {engine : Engine} {caseSensitive sloppy : Bool} {term word : List Char}

/-- **What the edges and the other alternatives are read as.** -/
theorem readsAs_style (ignoreCase caseSensitive sloppy : Bool) (term : List Char) :
    (style caseSensitive sloppy term).ReadsAs ignoreCase (colorEdge ignoreCase)
      (extraChoices ignoreCase) where
  bound := isBound_colorBound
  fillerExtra := by simp [style, extraChoices]
  choices := by
    have hsign : WritesOn ignoreCase "\\x1b".toList [.set (setOf ignoreCase '\x1b')] := by
      simp only [String.reduceToList]
      exact Writes.writesOn fun _ _ _ _ => ⟨1, by decide, fun _ _ => rfl⟩
    simp only [extraChoices, List.forall_mem_cons]
    exact ⟨writesOn_color, hsign, List.forall_mem_nil _⟩

/-- The pattern of a word with wildcards is read, without the signs before it. -/
theorem read?_wildcardSource {ignoreCase : Bool}
    (hterm : ∀ c ∈ term.dropWhile isOperator, c = '*' ∨ isSign c = false) :
    read? ignoreCase (wildcardSource term)
      = some (ofColoredGlob ignoreCase (term.dropWhile isOperator)) :=
  read?_coloredGlob hterm

/-- The pattern of a word to be marked. -/
theorem pattern_wordMatcher (word : List Char) : (wordMatcher engine word).pattern =
    if engine.fits false (wordSource word) then ofMarkedWord word else .never :=
  Matcher.pattern_compile engine (List.cons_ne_nil _ _) (read?_markedWord word)

/-- A term without wildcards, or with a space, is a phrase. -/
theorem matcherOf_phrase (hraw : term.head? ≠ some '&')
    (hphrase : (term.contains '*' && !term.contains ' ') = false) :
    matcherOf engine caseSensitive sloppy term
      = (style caseSensitive sloppy term).matcher engine term := by
  unfold matcherOf
  split
  · exact absurd rfl hraw
  · rw [hphrase]
    rfl

/-- A term with wildcards and without spaces is a word. -/
theorem matcherOf_wildcard (hraw : term.head? ≠ some '&')
    (hwildcard : (term.contains '*' && !term.contains ' ') = true) :
    matcherOf engine caseSensitive sloppy term
      = .compile engine (!caseSensitive) (wildcardSource term) := by
  unfold matcherOf
  split
  · exact absurd rfl hraw
  · rw [hwildcard]
    rfl

/-- **The pattern of a term with wildcards and without spaces.** -/
theorem pattern_matcherOf_wildcard {p : Pattern} (hraw : term.head? ≠ some '&')
    (hwildcard : (term.contains '*' && !term.contains ' ') = true)
    (hread : read? (!caseSensitive) (wildcardSource term) = some p) :
    (matcherOf engine caseSensitive sloppy term).pattern =
      if engine.fits (!caseSensitive) (wildcardSource term) then p else .never := by
  have hsource : wildcardSource term ≠ [] := by
    intro hnil
    have hlength := congrArg List.length hnil
    simp [wildcardSource] at hlength
  rw [matcherOf_wildcard hraw hwildcard, Matcher.pattern_compile engine hsource hread]

/-- **The pattern of a phrase.** -/
theorem pattern_matcherOf_phrase (hraw : term.head? ≠ some '&')
    (hphrase : (term.contains '*' && !term.contains ' ') = false) (hne : elements term ≠ []) :
    (matcherOf engine caseSensitive sloppy term).pattern =
      if (style caseSensitive sloppy term).Fits engine term then
        ofElements (!caseSensitive) (colorEdge !caseSensitive) (extraChoices !caseSensitive)
          (sloppy || term.contains '~') (elements term)
      else .never := by
  rw [matcherOf_phrase hraw hphrase,
    pattern_matcher_eq engine (readsAs_style (!caseSensitive) caseSensitive sloppy term) rfl hne]
  rfl

end Highlight

end Concordance
