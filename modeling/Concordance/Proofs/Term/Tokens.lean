import Concordance.Proofs.Term.Settled

/-!
# Terms and the tokens that write them

A term is read from a token, and written as one. A token that is a tag stands for the tag in its one form,
whichever signs enclose it and in any case. So the written form of a term is read as the term.

## Main results

* `Term.ofToken_inAngles`, `Term.ofToken_inBraces` — tags in their own brackets are read as such
* `Term.ofToken_text_foldCase` — the text of a term is read as the term
-/

namespace Concordance

namespace Term

open Markup Text

variable {cs token number tag : List Char}

/-! ### Tags -/

theorem isBracket_of_isTagChar {c : Char} (h : isTagChar c = true) : isBracket c = false := by
  refine Bool.eq_false_iff.mpr fun hbracket => ?_
  simp only [isBracket, Bool.or_eq_true, beq_iff_eq] at hbracket
  rcases hbracket with ((((rfl | rfl) | rfl) | rfl) | rfl) | rfl <;> exact absurd h (by decide)

/-- The key of what stands between brackets. -/
theorem normalizeKey_between (opening closing : List Char) {body : List Char}
    (h : IsSolid (opening ++ body ++ closing)) (hopening : ∀ c ∈ opening, isBracket c = true)
    (hbody : ∀ c ∈ body, isTagChar c = true) (hclosing : ∀ c ∈ closing, isBracket c = true) :
    normalizeKey (opening ++ body ++ closing) = body := by
  have hnil : ∀ {cs : List Char}, (∀ c ∈ cs, isBracket c = true) → cs.filter (!isBracket ·) = [] :=
    fun hcs => List.filter_eq_nil_iff.mpr fun c hc => by simp [hcs c hc]
  have hself : body.filter (!isBracket ·) = body :=
    List.filter_eq_self.mpr fun c hc => by simp [isBracket_of_isTagChar (hbody c hc)]
  rw [normalizeKey_of_isSolid h, List.filter_append, List.filter_append, hnil hopening, hnil hclosing,
    hself, List.nil_append, List.append_nil]

/-- What may be a bracket is one. -/
theorem isBracket_of_eq {sign : List Char} {c : Char} (h : sign = [] ∨ sign = [c])
    (hc : isBracket c = true) : ∀ d ∈ sign, isBracket d = true := by
  rcases h with rfl | rfl
  · exact fun _ h => nomatch h
  · exact List.forall_mem_singleton.mpr hc

theorem isNumber_upper (h : IsNumber isLanguageAnyCase number) :
    IsNumber isLanguageAnyCase (upper number) := by
  obtain ⟨c, ds, rfl, hc, hne, hds⟩ := h
  have hletter : c.toNat < 0x80 ∧ isLanguageAnyCase c.toUpper = true := by
    simp only [isLanguageAnyCase, isLanguage, Bool.or_eq_true, beq_iff_eq] at hc
    rcases hc with ((rfl | rfl) | rfl) | rfl <;> decide
  refine ⟨c.toUpper, ds, ?_, hletter.2, hne, hds⟩
  rw [upper_cons, upperChar_of_ascii hletter.1, upper_eq_self fun d hd => upperChar_of_isDigit (hds d hd)]
  rfl

theorem isTagChar_of_isNumber (h : IsNumber isLanguageAnyCase number) :
    ∀ c ∈ number, isTagChar c = true :=
  fun c hc => isTagChar_of_isWordChar (isWordChar_of_isNumber h c hc)

/-- **A Strong's number in its brackets is read as such.** -/
theorem ofToken_inAngles (hsolid : IsSolid number) (h : IsNumber isLanguageAnyCase number) :
    ofToken (inAngles number) = strongs (upper number) := by
  have hstrongs : isStrongsToken (inAngles number) = true :=
    isStrongsToken_iff.mpr ⟨['<'], _, ['>'], rfl, .inr rfl, h, .inr rfl⟩
  have hkey : normalizeKey (inAngles number) = number :=
    normalizeKey_between ['<'] ['>'] (isSolid_inAngles hsolid) (isBracket_of_eq (.inr rfl) (by decide))
      (isTagChar_of_isNumber h) (isBracket_of_eq (.inr rfl) (by decide))
  rw [ofToken, if_pos hstrongs, hkey]

/-- No Strong's number starts like a morphology tag. -/
theorem isStrongsToken_of_isOpening {c : Char} (h : IsOpening c) (cs : List Char) :
    isStrongsToken (c :: cs) = false := by
  rw [Bool.eq_false_iff, ne_eq, isStrongsToken_iff]
  rintro ⟨opening, number, closing, heq, rfl | rfl, hnumber, -⟩
  · obtain ⟨d, ds, rfl, hd, -⟩ := hnumber
    obtain rfl : c = d := (List.cons.inj heq).1
    rcases h with rfl | rfl <;> exact absurd hd (by decide)
  · obtain rfl : c = '<' := (List.cons.inj heq).1
    rcases h with h | h <;> cases h

/-- A token is a word if it is no tag. -/
theorem isWord_ofToken (token : List Char) :
    (ofToken token).isWord = !(isStrongsToken token || isMorphToken token) := by
  rw [ofToken]
  cases isStrongsToken token <;> cases isMorphToken token <;> rfl

/-- **A morphology tag in its braces is read as such.** -/
theorem ofToken_inBraces (hsolid : IsSolid tag) (hne : tag ≠ []) (h : ∀ c ∈ tag, isTagChar c = true) :
    ofToken (inBraces tag) = morph (upper tag) := by
  have hmorph : isMorphToken (inBraces tag) = true :=
    isMorphToken_iff.mpr ⟨'\x7b', _, '\x7d', rfl, .inr rfl, .inr rfl, hne, h⟩
  have hstrongs : isStrongsToken (inBraces tag) = false := isStrongsToken_of_isOpening (.inr rfl) _
  have hkey : normalizeKey (inBraces tag) = tag :=
    normalizeKey_between ['\x7b'] ['\x7d'] (isSolid_inBraces hsolid)
      (isBracket_of_eq (.inr rfl) (by decide)) h (isBracket_of_eq (.inr rfl) (by decide))
  rw [ofToken, hstrongs, if_neg Bool.false_ne_true, if_pos hmorph, hkey]

/-- Brackets have no case. -/
theorem map_toLower_eq_self_of_isBracket (h : IsAscii cs)
    (hbracket : ∀ c ∈ cs.map Char.toLower, isBracket c = true) : cs.map Char.toLower = cs := by
  refine (List.map_congr_left fun c hc => ?_).trans (List.map_id _)
  exact forall_ascii (P := fun c => isBracket c.toLower = true → c.toLower = c) (by decide) (h c hc)
    (hbracket _ (List.mem_map_of_mem hc))

/-- A word in lower case is a Strong's number only if it was one before. -/
theorem isStrongsToken_of_lower (h : IsAscii token) (hlower : isStrongsToken (lower token) = true) :
    isStrongsToken token = true := by
  rw [lower_of_ascii h, isStrongsToken_iff] at hlower
  obtain ⟨opening, number, closing, heq, hopening, ⟨c, ds, rfl, hc, hne, hds⟩, hclosing⟩ := hlower
  obtain ⟨before, closing, rfl, hbefore, rfl⟩ := List.map_eq_append_iff.mp heq
  obtain ⟨opening, number, rfl, rfl, hnumber⟩ := List.map_eq_append_iff.mp hbefore
  obtain ⟨c, ds, rfl, rfl, rfl⟩ := List.map_eq_cons_iff.mp hnumber
  have hopening' : opening.map Char.toLower = opening :=
    map_toLower_eq_self_of_isBracket (fun c hc => h c (by simp [hc]))
      (isBracket_of_eq hopening (by decide))
  have hclosing' : closing.map Char.toLower = closing :=
    map_toLower_eq_self_of_isBracket (fun c hc => h c (by simp [hc]))
      (isBracket_of_eq hclosing (by decide))
  rw [hopening'] at hopening
  rw [hclosing'] at hclosing
  refine isStrongsToken_iff.mpr ⟨opening, c :: ds, closing, rfl, hopening, ⟨c, ds, rfl, ?_, ?_, ?_⟩,
    hclosing⟩
  · exact forall_ascii (P := fun c => isLanguageAnyCase c.toLower = true → isLanguageAnyCase c = true)
      (by decide) (h c (by simp)) hc
  · rintro rfl
    exact hne rfl
  · intro d hd
    exact forall_ascii (P := fun d => isDigit d.toLower = true → isDigit d = true) (by decide)
      (h d (by simp [hd])) (hds _ (List.mem_map_of_mem hd))

/-- A word in lower case is a morphology tag only if it was one before. -/
theorem isMorphToken_of_lower (h : IsAscii token) (hlower : isMorphToken (lower token) = true) :
    isMorphToken token = true := by
  rw [lower_of_ascii h, isMorphToken_iff] at hlower
  obtain ⟨opening, tag, closing, heq, hopening, hclosing, hne, htag⟩ := hlower
  obtain ⟨opening, rest, rfl, rfl, hrest⟩ := List.map_eq_cons_iff.mp heq
  obtain ⟨tag, last, rfl, rfl, hlast⟩ := List.map_eq_append_iff.mp hrest
  obtain ⟨closing, _, rfl, rfl, hend⟩ := List.map_eq_cons_iff.mp hlast
  obtain rfl := List.map_eq_nil_iff.mp hend
  have hsign : ∀ {c : Char}, c.toNat < 0x80 → isBracket c.toLower = true → c.toLower = c := fun hc =>
    forall_ascii (P := fun c => isBracket c.toLower = true → c.toLower = c) (by decide) hc
  rw [hsign (h opening (by simp)) hopening.isBracket] at hopening
  rw [hsign (h closing (by simp)) hclosing.isBracket] at hclosing
  refine isMorphToken_iff.mpr ⟨opening, tag, closing, rfl, hopening, hclosing, ?_, fun c hc => ?_⟩
  · rintro rfl
    exact hne rfl
  · exact forall_ascii (P := fun c => isTagChar c.toLower = true → isTagChar c = true) (by decide)
      (h c (by simp [hc])) (htag _ (List.mem_map_of_mem hc))

/-- **The text of a term is read as the term**, in a search that may ignore case. -/
theorem ofToken_text_foldCase (h : IsSolid token) (caseSensitive : Bool) :
    ofToken (foldCase caseSensitive (ofToken token)).text = foldCase caseSensitive (ofToken token) := by
  by_cases hstrongs : isStrongsToken token = true
  · obtain ⟨opening, number, closing, rfl, hopening, hnumber, hclosing⟩ := isStrongsToken_iff.mp hstrongs
    have hkey : normalizeKey (opening ++ number ++ closing) = number :=
      normalizeKey_between _ _ h (isBracket_of_eq hopening (by decide))
        (isTagChar_of_isNumber hnumber)
        (isBracket_of_eq hclosing (by decide))
    have hterm : ofToken (opening ++ number ++ closing) = strongs (upper number) := by
      rw [ofToken, if_pos hstrongs, hkey]
    have hsolid : IsSolid number := h.of_subset fun c hc => by simp [hc]
    rw [hterm]
    exact (ofToken_inAngles hsolid.upper (isNumber_upper hnumber)).trans
      (congrArg strongs (upper_upper number))
  · by_cases hmorph : isMorphToken token = true
    · obtain ⟨opening, tag, closing, rfl, hopening, hclosing, hne, htag⟩ := isMorphToken_iff.mp hmorph
      have hkey : normalizeKey (opening :: (tag ++ [closing])) = tag :=
        normalizeKey_between [opening] [closing] h (List.forall_mem_singleton.mpr hopening.isBracket) htag
          (List.forall_mem_singleton.mpr hclosing.isBracket)
      have hterm : ofToken (opening :: (tag ++ [closing])) = morph (upper tag) := by
        rw [ofToken, if_neg hstrongs, if_pos hmorph, hkey]
      have hsolid : IsSolid tag := h.of_subset fun c hc => by simp [hc]
      rw [hterm]
      exact (ofToken_inBraces hsolid.upper (upper_ne_nil hne) (isTagChar_of_mem_upper htag)).trans
        (congrArg morph (upper_upper tag))
    · have hterm : ofToken token = word token := by rw [ofToken, if_neg hstrongs, if_neg hmorph]
      rw [hterm]
      cases caseSensitive with
      | true => exact hterm
      | false =>
        change ofToken (lower token) = word (lower token)
        rw [ofToken, if_neg (mt (isStrongsToken_of_lower h.isAscii) hstrongs),
          if_neg (mt (isMorphToken_of_lower h.isAscii) hmorph)]

end Term

end Concordance
