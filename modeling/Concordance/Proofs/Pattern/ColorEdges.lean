import Concordance.Proofs.Pattern.Colors
import Concordance.Proofs.Pattern.Preferred
import Concordance.Proofs.Pattern.Words

/-!
# Edges of words in marked texts

An edge of a word in a marked text is a place between characters, or it is made of colours. A colour
starts with a sign that has no other case, so that in a stretch without that sign there are no colours
and an edge is what it is in texts that are not marked.

## Main results

* `Pattern.eq_of_mem_setOf` — a sign without case is alike nothing else
* `Pattern.covers_colorEdge_of_free`, `Pattern.takes_colorEdge` — edges in stretches without colours
* `Pattern.covers_between_colorEdges`, `Pattern.takes_between_colorEdges` — what stands between them
-/

namespace Concordance

namespace Pattern

open Text (isWordChar IsRun)

variable {ignoreCase : Bool} {p : Pattern} {c d : Char} {xs r s ys w : List Char}

/-! ### Characters that are alike -/

/-- What is in the set of a character is alike the character. -/
theorem alike_of_mem_setOf (h : (setOf ignoreCase c).mem d = true) : Text.alike c d = true := by
  cases ignoreCase with
  | true => exact h
  | false =>
    obtain rfl : d = c := by simpa [setOf] using h
    exact Text.alike_self d

/-- A sign without case is alike nothing else. -/
theorem eq_of_mem_setOf (hc : c.toNat < 0x80) (hcase : c.isAlpha = false) (hzero : c ≠ '\x00')
    (h : (setOf ignoreCase c).mem d = true) : d = c := by
  have hsame : ∀ {e : Char}, e.toNat < 0x80 → e.isAlpha = false → e.toLower = e := fun he =>
    Text.forall_ascii (P := fun e => e.isAlpha = false → e.toLower = e) (by decide) he
  have hfold : Text.fold d = c := by
    rw [← hsame hc hcase, ← Text.fold_of_ascii hc]
    exact (eq_of_beq (alike_of_mem_setOf h)).symm
  rcases Text.eq_of_fold_eq hc hzero hfold with ⟨hd, hlower⟩ | ⟨-, rfl⟩ | ⟨-, rfl⟩
  · have hcase' : d.isAlpha = false := Bool.eq_false_iff.mpr fun hd =>
      Bool.false_ne_true (hcase.symm.trans (hlower ▸ Text.isAlpha_toLower hd))
    rw [← hlower, hsame hd hcase']
  · exact absurd hcase (by decide)
  · exact absurd hcase (by decide)

/-- What matches a word is made of word characters and of what is alike characters of the word. -/
theorem isWordChar_or_mem_of_covers (h : (ofSeq (w.map (ofChar ignoreCase))).Covers xs r ys) :
    ∀ d ∈ r, isWordChar d = true ∨ ∃ c ∈ w, (setOf ignoreCase c).mem d = true := by
  induction w generalizing xs r with
  | nil =>
    obtain rfl := covers_ofSeq_nil.mp h
    exact List.forall_mem_nil _
  | cons c w ih =>
    obtain ⟨r₁, r₂, rfl, hfirst, hrest⟩ := covers_ofSeq_cons.mp h
    refine List.forall_mem_append.mpr ⟨fun d hd => ?_, fun d hd => ?_⟩
    · rw [ofChar] at hfirst
      split at hfirst
      · exact .inl (coversAll_set.mp (covers_repeated.mp hfirst) d hd)
      · obtain ⟨e, rfl, he⟩ := covers_set.mp hfirst
        obtain rfl := List.mem_singleton.mp hd
        exact .inr ⟨c, List.mem_cons_self, he⟩
    · exact (ih hrest d hd).imp_right fun h =>
        h.imp fun _ he => ⟨List.mem_cons_of_mem _ he.1, he.2⟩

theorem inOrder_ofChars (w : List Char) : (ofSeq (w.map (ofChar ignoreCase))).InOrder := by
  refine inOrder_ofSeq (List.forall_mem_map.mpr fun c _ => ?_)
  rw [ofChar]
  split
  · exact ⟨trivial, by rintro _ ⟨⟩⟩
  · trivial

/-! ### Edges -/

theorem inOrder_colorEdge : (colorEdge ignoreCase).InOrder := by
  refine ⟨⟨⟨trivial, trivial, ⟨trivial, ?_⟩, trivial⟩, ?_⟩, trivial⟩ <;> rintro _ ⟨⟩

/-- A colour starts with its sign. -/
theorem exists_cons_of_covers_ofColor (h : (ofColor ignoreCase).Covers xs r ys) :
    ∃ r', r = '\x1b' :: r' := by
  obtain ⟨_, r', rfl, hfirst, -⟩ := covers_ofSeq_cons.mp h
  obtain ⟨c, rfl, hc⟩ := covers_set.mp hfirst
  obtain rfl := eq_of_mem_setOf (by decide) (by decide) (by decide) hc
  exact ⟨r', rfl⟩

/-- **An edge in a stretch without colours** is a place between characters. -/
theorem covers_colorEdge_of_free (hr : '\x1b' ∉ r) :
    (colorEdge ignoreCase).Covers xs r ys ↔ wordEdge.Covers xs r ys := by
  constructor
  · rintro (hcolors | hedge)
    · obtain ⟨r₁, r₂, rfl, hfirst, -⟩ := covers_repeated_one.mp hcolors
      obtain ⟨r', rfl⟩ := exists_cons_of_covers_ofColor hfirst
      exact absurd (by simp) hr
    · exact hedge
  · exact .inr

/-- An edge in a text without colours is taken. -/
theorem takes_colorEdge (hys : '\x1b' ∉ ys)
    (h : xs.getLast?.any isWordChar ≠ ys.head?.any isWordChar) :
    (colorEdge ignoreCase).Takes xs [] ys [] := by
  refine takes_alt_right inOrder_colorEdge.1 ?_ (takes_wordEdge h)
  rintro ⟨r, s, rfl, hcolors⟩
  obtain ⟨r₁, r₂, rfl, hfirst, -⟩ := covers_repeated_one.mp hcolors
  obtain ⟨r', rfl⟩ := exists_cons_of_covers_ofColor hfirst
  exact hys (by simp)

/-- **Between edges in a stretch without colours** stands what stands between edges of words. -/
theorem covers_between_colorEdges (hr : '\x1b' ∉ r) :
    (ofSeq [colorEdge ignoreCase, p, colorEdge ignoreCase]).Covers xs r ys ↔
      (ofSeq [wordEdge, p, wordEdge]).Covers xs r ys := by
  simp only [covers_ofSeq_cons]
  constructor
  · rintro ⟨a, _, rfl, ha, b, _, rfl, hb, d, e, rfl, hd, he⟩
    simp only [List.mem_append, not_or] at hr
    exact ⟨a, _, rfl, (covers_colorEdge_of_free hr.1).mp ha, b, _, rfl, hb, d, e, rfl,
      (covers_colorEdge_of_free hr.2.2.1).mp hd, he⟩
  · rintro ⟨a, _, rfl, ha, b, _, rfl, hb, d, e, rfl, hd, he⟩
    simp only [List.mem_append, not_or] at hr
    exact ⟨a, _, rfl, (covers_colorEdge_of_free hr.1).mpr ha, b, _, rfl, hb, d, e, rfl,
      (covers_colorEdge_of_free hr.2.2.1).mpr hd, he⟩

/-- A run is taken between edges in a text without colours, if what is between them takes it. -/
theorem takes_between_colorEdges {ps : List Pattern} {gs : List (Nat × List Char)}
    (hrun : IsRun isWordChar xs r ys) (hesc : '\x1b' ∉ r ++ ys)
    (hps : (ofSeq [colorEdge ignoreCase]).Takes (xs ++ r) [] ys [] →
      (ofSeq (ps ++ [colorEdge ignoreCase])).Takes xs r ys gs) :
    (ofSeq (colorEdge ignoreCase :: (ps ++ [colorEdge ignoreCase]))).Takes xs r ys gs := by
  obtain ⟨hfirst, hlast⟩ := any_of_word hrun.ne_nil hrun.mem xs ys
  have hstart : (colorEdge ignoreCase).Takes xs [] (r ++ ys) [] := by
    refine takes_colorEdge hesc ?_
    rw [hfirst, any_eq_false_iff.mpr hrun.before]
    exact Bool.false_ne_true
  have hstop : (colorEdge ignoreCase).Takes (xs ++ r) [] ys [] := by
    refine takes_colorEdge (fun h => hesc (List.mem_append_right _ h)) ?_
    rw [hlast, any_eq_false_iff.mpr hrun.after]
    exact Bool.false_ne_true.symm
  have hall := takes_ofSeq_cons hstart (by simpa using hps hstop) rfl
  simpa using hall

/-! ### Words to be marked -/

/-- Characters that stand for themselves match nothing else. -/
theorem covers_ofLiteral : (ofSeq (ofLiteral false w)).Covers xs r ys ↔ r = w := by
  rw [ofLiteral]
  induction w generalizing xs r with
  | nil => exact covers_ofSeq_nil
  | cons c w ih =>
    rw [List.map_cons, covers_ofSeq_cons]
    simp only [covers_set, ih]
    constructor
    · rintro ⟨_, r, rfl, ⟨d, rfl, hd⟩, rfl⟩
      obtain rfl : d = c := by simpa [setOf] using hd
      rfl
    · rintro rfl
      exact ⟨[c], w, rfl, ⟨c, rfl, by simp [setOf]⟩, rfl⟩

/-- **A word to be marked is found with the edges around it.** -/
theorem covers_ofMarkedWord : (ofMarkedWord w).Covers xs r ys ↔
    ∃ a b, r = a ++ (w ++ b) ∧ (colorEdge false).Covers xs a (w ++ b ++ ys) ∧
      (colorEdge false).Covers (xs ++ a ++ w) b ys := by
  have hbody : (ofMarkedWord w).Covers xs r ys ↔ (ofSeq (colorEdge false ::
      (ofLiteral false w ++ [colorEdge false]))).Covers xs r ys := Iff.rfl
  rw [hbody]
  simp only [covers_ofSeq_cons, covers_ofSeq_append, covers_ofLiteral, covers_ofSeq_nil]
  constructor
  · rintro ⟨a, _, rfl, ha, _, _, rfl, rfl, b, _, rfl, hb, rfl⟩
    exact ⟨a, b, by simp, by simpa using ha, by simpa using hb⟩
  · rintro ⟨a, b, rfl, ha, hb⟩
    exact ⟨a, w ++ b, rfl, ha, w, b, rfl, rfl, b, [], by simp, by simpa using hb, rfl⟩

end Pattern

end Concordance
