import Concordance.Proofs.Pattern.Terms
import Concordance.Proofs.Term.Words

/-!
# The pattern of a phrase of words

For a phrase of words, perhaps with wildcards, the pattern of the phrase is the patterns of the words,
with one and the same filler between any two of them. The filler passes over tags of either kind, since
the phrase has none, and over whole words only if it may.

## Main definitions

* `Pattern.IsGlob` — a word of letters, perhaps with wildcards
* `Pattern.ofWord`, `Pattern.fillerOfWords` — the patterns of a word and of the filler
* `Pattern.ofWords` — the pattern of a phrase of words

## Main results

* `PhraseStyle.read?_source` — the pattern that the text of a phrase of words writes
* `PhraseStyle.pattern_matcher` — it is the pattern of the matcher, if the engine takes it
-/

namespace Concordance

namespace Pattern

/-! ### Words with wildcards -/

/-- A word of letters, perhaps with wildcards. -/
structure IsGlob (w : List Char) : Prop where
  /-- There are only letters and wildcards. -/
  isAlpha_or_star : ∀ c ∈ w, c.isAlpha = true ∨ c = '*'
  /-- There is a letter. -/
  exists_isAlpha : ∃ c ∈ w, c.isAlpha = true

instance (w : List Char) : Decidable (IsGlob w) :=
  decidable_of_iff ((w.all fun c => c.isAlpha || c == '*') = true ∧ w.any Char.isAlpha = true)
    ⟨fun h => ⟨by simpa using h.1, List.any_eq_true.mp h.2⟩,
      fun h => ⟨by simpa using h.isAlpha_or_star, List.any_eq_true.mpr h.exists_isAlpha⟩⟩

theorem IsGlob.ne_nil {w : List Char} (hw : IsGlob w) : w ≠ [] := by
  obtain ⟨c, hc, -⟩ := hw.exists_isAlpha
  exact List.ne_nil_of_mem hc

theorem IsGlob.isAscii {w : List Char} (hw : IsGlob w) : Text.IsAscii w := fun c hc =>
  (hw.isAlpha_or_star c hc).elim Text.toNat_of_isAlpha fun hstar => by rw [hstar]; decide

/-- What is checked of every ASCII letter and of `*` holds of the characters of a word. -/
theorem IsGlob.forall {P : Char → Prop} {w : List Char} (hw : IsGlob w)
    (h : ∀ n < 0x80, (Char.ofNat n).isAlpha = true → P (Char.ofNat n)) (hstar : P '*') :
    ∀ c ∈ w, P c := by
  intro c hc
  rcases hw.isAlpha_or_star c hc with hc | rfl
  · exact Text.of_isAlpha h hc
  · exact hstar

/-- Words of letters have no need of wildcards. -/
theorem isGlob_of_isLetters {w : List Char} (hw : Text.IsLetters w) : IsGlob w := by
  obtain ⟨c, cs, rfl⟩ := List.exists_cons_of_ne_nil hw.ne_nil
  exact ⟨fun d hd => .inl (hw.isAlpha d hd), c, List.mem_cons_self, hw.isAlpha c List.mem_cons_self⟩

/-! ### Patterns of words and fillers -/

section

variable (ignoreCase sloppy : Bool)

/-- A word, in two groups with edges between them. -/
def ofWord (count : Nat) (w : List Char) : Pattern :=
  .group (count + 1) (.ofSeq [wordEdge,
    .group (count + 2) (.ofSeq (w.map (ofChar ignoreCase))), wordEdge])

/-- What the filler passes over at a time. -/
def fillerPart : Pattern :=
  .ofAlt ([ofPunctuation ignoreCase, ofColor ignoreCase, ofEnclosed ignoreCase '<' '>',
    ofEnclosed ignoreCase '\x7b' '\x7d'] ++ if sloppy then [ofAnyWord] else [])

/-- What may stand between two words of a phrase. -/
def fillerOfWords : Pattern := .repeated (fillerPart ignoreCase sloppy) 0 none false

/-- The patterns of words with fillers between them, after some groups. -/
def wordItems : (count : Nat) → List (List Char) → List Pattern
  | _, [] => []
  | count, [w] => [ofWord ignoreCase count w]
  | count, w :: ws =>
    ofWord ignoreCase count w :: fillerOfWords ignoreCase sloppy :: wordItems (count + 2) ws

theorem wordItems_cons_cons (count : Nat) (w w' : List Char) (ws : List (List Char)) :
    wordItems ignoreCase sloppy count (w :: w' :: ws) =
      ofWord ignoreCase count w :: fillerOfWords ignoreCase sloppy ::
        wordItems ignoreCase sloppy (count + 2) (w' :: ws) := rfl

/-- The pattern of a phrase of words. -/
def ofWords (ws : List (List Char)) : Pattern := .ofSeq (wordItems ignoreCase sloppy 0 ws)

/-- A phrase of words has one item for each of its words. -/
theorem phraseItems_words (count : Nat) (ws : List (List Char)) :
    phraseItems ignoreCase wordEdge (fillerOfWords ignoreCase sloppy) count
      (ws.map fun w => [.word w]) = wordItems ignoreCase sloppy count ws := by
  induction ws generalizing count with
  | nil => rfl
  | cons w ws ih =>
    cases ws with
    | nil => rfl
    | cons w' ws =>
      exact congrArg (fun ps => ofWord ignoreCase count w :: fillerOfWords ignoreCase sloppy :: ps)
        (ih (count + 2))

/-- Between words any word is passed over only if the filler is sloppy. -/
theorem ofFiller_words {ws : List (List Char)} (hne : ws ≠ []) :
    ofFiller ignoreCase [] sloppy (ws.map .word) = fillerOfWords ignoreCase sloppy := by
  have hstrongs : (ws.map Term.word).any Term.isStrongs = false := by
    simp [Term.isStrongs]
  have hmorph : (ws.map Term.word).any Term.isMorph = false := by
    simp [Term.isMorph]
  have hwords : (ws.map Term.word).any Term.isWord = true := by
    obtain ⟨w, ws, rfl⟩ := List.exists_cons_of_ne_nil hne
    simp [Term.isWord]
  simp only [ofFiller, fillerChoices, hstrongs, hmorph, hwords]
  cases sloppy <;> rfl

end

end Pattern

/-! ### Matchers -/

namespace PhraseStyle

open Pattern Text

variable {ws : List (List Char)} {caseSensitive sloppy : Bool}

/-- A word is one term. -/
theorem items_term? {w : List Char} (hw : IsGlob w) : items term? w = [.word w] := by
  have hread : term? false w = some (.word w, []) := by
    have hphrase : ∀ c ∈ w, isPhraseChar c = true :=
      hw.forall (P := fun c => isPhraseChar c = true) (by decide) rfl
    have hdigit : ∀ c ∈ w, isDigit c = false :=
      hw.forall (P := fun c => isDigit c = false) (by decide) rfl
    have hbracket : ∀ c ∈ w, Term.isBracket c = false :=
      hw.forall (P := fun c => Term.isBracket c = false) (by decide) rfl
    have htake : takeSome? isPhraseChar w = some (w, []) :=
      takeSome?_eq_some_iff.mpr ⟨hw.ne_nil, hphrase, by simp, by simp⟩
    rw [term?, Term.looseStrongs?_eq_none hdigit, Term.looseMorph?_eq_none fun c hc =>
      Term.opensNoTag_of_isBracket (hbracket c hc), htake]
    rfl
  obtain ⟨c, cs, rfl⟩ := List.exists_cons_of_ne_nil hw.ne_nil
  rw [items, scan, scanFrom_item hread (by simp), scanFrom_nil]
  rfl

/-- The elements of a phrase of words are the words. -/
theorem elements_intercalate (hws : ∀ w ∈ ws, IsGlob w) :
    elements ([' '].intercalate ws) = ws.map fun w => [.word w] := by
  have hitems : ws.map (items term?) = ws.map fun w => [.word w] :=
    List.map_congr_left fun w hw => items_term? (hws w hw)
  have hchars : ∀ w ∈ ws, ∀ c ∈ w, Term.isTermChar c = true := fun w hw =>
    (hws w hw).forall (P := fun c => Term.isTermChar c = true) (by decide) rfl
  have hparts : ∀ w ∈ ws, IsPart w := fun w hw => ⟨(hws w hw).ne_nil,
    (hws w hw).forall (P := fun c => isBlank c = false) (by decide) rfl⟩
  rw [elements, Term.blankOut_intercalate hchars, words_intercalate hparts, hitems,
    List.filter_eq_self]
  simp

/-- The pattern of a phrase of words is the patterns of the words. -/
theorem ofElements_words (ignoreCase : Bool) (hne : ws ≠ []) (hws : ∀ w ∈ ws, IsGlob w) :
    ofElements ignoreCase wordEdge [] sloppy (elements ([' '].intercalate ws))
      = ofWords ignoreCase sloppy ws := by
  have hflatten : (ws.map fun w => [Term.word w]).flatten = ws.map .word :=
    List.map_eq_flatMap.symm
  rw [elements_intercalate hws, ofElements, hflatten, ofFiller_words _ _ hne, ofPhrase,
    phraseItems_words, ofWords]

/-- The text of a phrase of words writes its pattern. -/
theorem read?_source (hne : ws ≠ []) (hws : ∀ w ∈ ws, IsGlob w) :
    read? (!caseSensitive) (({ caseSensitive, sloppy } : PhraseStyle).source ([' '].intercalate ws))
      = some (ofWords (!caseSensitive) sloppy ws) := by
  rw [read?_phrase (readsAs_plain _ caseSensitive sloppy) rfl, ofElements_words _ hne hws]

/-- **The pattern of the matcher of a phrase of words**, if the engine takes it. -/
theorem pattern_matcher (engine : Engine) (hne : ws ≠ []) (hws : ∀ w ∈ ws, IsGlob w) :
    (({ caseSensitive, sloppy } : PhraseStyle).matcher engine ([' '].intercalate ws)).pattern =
      if ({ caseSensitive, sloppy } : PhraseStyle).Fits engine ([' '].intercalate ws) then
        ofWords (!caseSensitive) sloppy ws
      else never := by
  have helements : elements ([' '].intercalate ws) ≠ [] := by
    simpa [elements_intercalate hws] using hne
  rw [pattern_matcher_eq engine (readsAs_plain _ caseSensitive sloppy) rfl helements,
    ofElements_words _ hne hws]

end PhraseStyle

end Concordance
