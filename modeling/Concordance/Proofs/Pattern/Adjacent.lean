import Concordance.Proofs.Pattern.Blocks
import Concordance.Proofs.Text.Adjacent

/-!
# Phrases of words next to each other

The pattern of a phrase matches where the words of the phrase stand next to each other, whatever the
text is besides. Only between the words are the separators limited to those that the filler passes
over: white space of any script, and the signs of punctuation that it lists.

## Main results

* `Pattern.isMatch_ofWords_of_adjacent` — a phrase matches where its words stand next to each other
-/

namespace Concordance

namespace Pattern

open Text (Adjacent IsLetters IsRun IsWordOf Joined isSeparator isWordChar)

variable {ignoreCase sloppy : Bool} {xs ys w : List Char} {ws : List (List Char)}

/-- A word of letters matches itself. -/
theorem globMatches_self {caseSensitive : Bool} (hw : ∀ c ∈ w, c.isAlpha = true) :
    GlobMatches caseSensitive w w := by
  induction w with
  | nil => exact .nil
  | cons c w ih =>
    obtain ⟨hc, hw⟩ := List.forall_mem_cons.mp hw
    have hstar : c ≠ '*' := by
      rintro rfl
      exact absurd hc (by decide)
    exact .char hstar (by cases caseSensitive <;> rfl) (ih hw)

/-- The pattern of a word of letters matches the word where it is a run. -/
theorem covers_ofWord_self {count : Nat} (hw : IsLetters w) (hrun : IsRun isWordChar xs w ys) :
    (ofWord ignoreCase count w).Covers xs w ys := by
  refine (covers_ofWord (isGlob_of_isLetters hw) fun c hc => ?_).mpr
    ⟨globMatches_self hw.isAlpha, hrun⟩
  exact Text.fold_of_ascii (hw.isAscii c hc)

/-- **A phrase matches where its words are joined by separators.** -/
theorem opens_wordItems_of_joined {count : Nat} {block : List Char} (hws : ∀ w ∈ ws, IsLetters w)
    (h : Joined isSeparator ws block) (hbefore : ∀ c ∈ xs.getLast?, isWordChar c = false)
    (hafter : ∀ c ∈ ys.head?, isWordChar c = false) :
    (ofSeq (wordItems ignoreCase sloppy count ws)).Opens xs (block ++ ys) := by
  induction h generalizing count xs with
  | word w =>
    have hw := hws w (by simp)
    exact ⟨w, ys, rfl, covers_ofWord_self hw ⟨hw.ne_nil, hw.isWordOf.2, hbefore, hafter⟩⟩
  | @cons w gap ws block hgap hsep rest ih =>
    obtain ⟨hw, hws⟩ := List.forall_mem_cons.mp hws
    have hother : ∀ c ∈ gap, isWordChar c = false := fun c hc =>
      Text.isWordChar_of_isSeparator (hsep c hc)
    have hword : (ofWord ignoreCase count w).Covers xs w (gap ++ (block ++ ys)) :=
      covers_ofWord_self hw ⟨hw.ne_nil, hw.isWordOf.2, hbefore, Text.forall_head?_append hgap hother⟩
    have hfiller : (fillerOfWords ignoreCase sloppy).Covers (xs ++ w) gap (block ++ ys) :=
      (covers_fillerOfWords (fun c hc => .inr (hsep c hc))
        (fun c hc => hother c (List.mem_of_mem_head? hc))
        fun c hc => hother c (List.mem_of_mem_getLast? hc)).mpr (.inr (Text.runs_eq_nil hother))
    obtain ⟨w', ws, rfl⟩ : ∃ w' ws', ws = w' :: ws' := by cases rest <;> exact ⟨_, _, rfl⟩
    rw [wordItems_cons_cons, opens_ofSeq_cons]
    refine ⟨w, gap ++ (block ++ ys), by simp, hword, opens_ofSeq_cons.mpr ?_⟩
    exact ⟨gap, block ++ ys, rfl, hfiller, ih hws (Text.forall_getLast?_append hgap hother)⟩

/-- **A phrase matches where its words stand next to each other.** -/
theorem isMatch_ofWords_of_adjacent {cs : List Char} (hws : ∀ w ∈ ws, IsLetters w)
    (h : Adjacent isWordChar isSeparator ws cs) :
    (ofWords ignoreCase sloppy ws).isMatch cs.toArray = true := by
  obtain ⟨before, block, after, rfl, hblock, hbefore, hafter⟩ := h
  rw [isMatch_iff_opens (inOrder_ofWords fun w hw => isGlob_of_isLetters (hws w hw))]
  exact ⟨before, block ++ after, by simp, opens_wordItems_of_joined hws hblock hbefore hafter⟩

end Pattern

end Concordance
