import Concordance.Proofs.Term.Keys
import Concordance.Proofs.Term.Parts

/-!
# Tags in the parts of a query

The tags of a query are put into their one form part by part. In that form a part is still one part,
written with other brackets and in another case only. So the terms of a query are those of its
parts, and the key of each is known up to case.

## Main definitions

* `Term.IsTermText` — a text of characters that terms are made of
* `Term.WrittenAnew` — a text is written in another way, up to case and brackets the same
* `Term.keyOf`, `Term.lookedUp` — the key of a part, and what a search passes to an index

## Main results

* `Term.writtenAnew_canonicalTags` — a part with its tags in their one form
* `Term.runs_canonicalTags`, `Term.parseAll_cleanText` — the parts of a query, and their terms
* `Term.sameWord_normalizeKey_iff` — an index finds a part under its key
-/

namespace Concordance

namespace Term

open Markup Text

/-! ### Parts written anew -/

/-- A text of ASCII characters that terms are made of. -/
def IsTermText (cs : List Char) : Prop := ∀ c ∈ cs, c.toNat < 0x80 ∧ isTermChar c = true

namespace IsTermText

variable {cs cs' : List Char}

theorem isSolid (h : IsTermText cs) : IsSolid cs := by
  intro c hc
  obtain ⟨hascii, hterm⟩ := h c hc
  exact ⟨hascii, forall_ascii (P := fun c => isTermChar c = true → isBlank c = false) (by decide)
    hascii hterm⟩

theorem append (h : IsTermText cs) (h' : IsTermText cs') : IsTermText (cs ++ cs') := by
  intro c hc
  rcases List.mem_append.mp hc with hc | hc
  · exact h c hc
  · exact h' c hc

theorem of_subset (h : IsTermText cs) (hsub : ∀ c ∈ cs', c ∈ cs) : IsTermText cs' :=
  fun c hc => h c (hsub c hc)

protected theorem upper (h : IsTermText cs) : IsTermText (upper cs) := by
  rw [upper_of_ascii h.isSolid.isAscii]
  intro c hc
  obtain ⟨d, hd, rfl⟩ := List.mem_map.mp hc
  obtain ⟨hascii, hterm⟩ := h d hd
  exact ⟨toNat_toUpper hascii,
    forall_ascii (P := fun c => isTermChar c = true → isTermChar c.toUpper = true) (by decide)
      hascii hterm⟩

theorem enclosed (h : IsTermText cs) {opening closing : Char}
    (hopening : opening.toNat < 0x80 ∧ isTermChar opening = true)
    (hclosing : closing.toNat < 0x80 ∧ isTermChar closing = true) :
    IsTermText (opening :: cs ++ [closing]) := by
  intro c hc
  simp only [List.cons_append, List.mem_cons, List.mem_append, List.not_mem_nil, or_false] at hc
  rcases hc with rfl | hc | rfl
  · exact hopening
  · exact h c hc
  · exact hclosing

theorem inAngles (h : IsTermText cs) : IsTermText (inAngles cs) :=
  h.enclosed (by decide) (by decide)

theorem inBraces (h : IsTermText cs) : IsTermText (inBraces cs) :=
  h.enclosed (by decide) (by decide)

end IsTermText

/-- A text is written anew: as a text of the same kind, and in the same way up to case and
brackets. -/
structure WrittenAnew (cs out : List Char) : Prop where
  isTermText : IsTermText out
  bare_eq : bare out = bare cs
  ne_nil : cs ≠ [] → out ≠ []

theorem WrittenAnew.trans {cs cs' cs'' : List Char} (h : WrittenAnew cs cs')
    (h' : WrittenAnew cs' cs'') : WrittenAnew cs cs'' :=
  ⟨h'.isTermText, h'.bare_eq.trans h.bare_eq, fun hne => h'.ne_nil (h.ne_nil hne)⟩

/-- If every item is written anew, so is the whole text. -/
theorem writtenAnew_replaceItems {α : Type} {f : Recognizer α} {replacement : α → List Char}
    (hitem : ∀ b cs a rest, f b cs = some (a, rest) → IsTermText cs →
      ∃ x, cs = x ++ rest ∧ replacement a ≠ [] ∧ WrittenAnew x (replacement a))
    {cs : List Char} (hcs : IsTermText cs) : WrittenAnew cs (replaceItems f replacement cs) := by
  refine replaceItems_induction (motive := fun cs out => IsTermText cs → WrittenAnew cs out)
    (fun _ => ⟨by simp [IsTermText], rfl, id⟩) ?_ ?_ cs hcs
  · intro b cs a rest out hread ih hcs
    obtain ⟨x, rfl, hne, hx⟩ := hitem b cs a rest hread hcs
    have hrest := ih (hcs.of_subset fun c hc => List.mem_append_right _ hc)
    refine ⟨hx.isTermText.append hrest.isTermText, ?_, fun _ => by simp [hne]⟩
    rw [bare_append, bare_append, hx.bare_eq, hrest.bare_eq]
  · intro c cs out ih hcs
    have hrest := ih (hcs.of_subset fun d hd => List.mem_cons_of_mem _ hd)
    refine ⟨?_, ?_, fun _ => by simp⟩
    · exact List.forall_mem_cons.mpr ⟨hcs c (by simp), hrest.isTermText⟩
    · rw [← List.singleton_append, bare_append, hrest.bare_eq, ← bare_append, List.singleton_append]

/-! ### What tags are written like -/

theorem exists_skipSign (d : Char) (cs : List Char) :
    ∃ sign, cs = sign ++ skipSign d cs ∧ (sign = [] ∨ sign = [d]) := by
  cases h : sign? d cs with
  | none => exact ⟨[], by simp [skipSign, h], .inl rfl⟩
  | some rest => exact ⟨[d], by simp [skipSign, sign?_eq_some_iff.mp h], .inr rfl⟩

/-- A Strong's number that is read stands there as it is, before a bracket perhaps. -/
theorem exists_of_looseNumber? {cs number rest : List Char}
    (h : looseNumber? cs = some (number, rest)) :
    ∃ sign, cs = number ++ sign ++ rest ∧ bare sign = [] ∧ IsNumber isLanguageAnyCase number := by
  rw [looseNumber?, Option.bind_eq_some_iff] at h
  obtain ⟨⟨number', rest'⟩, hread, h⟩ := h
  obtain ⟨hnumber, -, rfl⟩ := number?_eq_some_iff.mp hread
  simp only at h
  split at h
  · cases h
  · obtain ⟨rfl, rfl⟩ := Prod.mk.inj (Option.some.inj h)
    obtain ⟨sign, hsign, hcases⟩ := exists_skipSign '>' rest'
    refine ⟨sign, by rw [List.append_assoc, ← hsign], ?_, hnumber⟩
    rcases hcases with rfl | rfl <;> decide

theorem exists_of_looseStrongs? {afterWord : Bool} {cs number rest : List Char}
    (h : looseStrongs? afterWord cs = some (number, rest)) :
    ∃ before after, cs = before ++ number ++ after ++ rest ∧ bare before = [] ∧
      bare after = [] := by
  rw [looseStrongs?_eq, Option.or_eq_some_iff] at h
  rcases h with h | ⟨-, h⟩
  · obtain ⟨cs', hsign, h⟩ := Option.bind_eq_some_iff.mp h
    obtain rfl := sign?_eq_some_iff.mp hsign
    obtain ⟨sign, rfl, hbare, -⟩ := exists_of_looseNumber? h
    exact ⟨['<'], sign, by simp, by decide, hbare⟩
  · cases afterWord with
    | true => cases h
    | false =>
      obtain ⟨sign, hcs, hbare, -⟩ := exists_of_looseNumber? h
      exact ⟨[], sign, by simpa using hcs, rfl, hbare⟩

theorem exists_of_boundedMorph? {afterWord : Bool} {cs tag rest : List Char}
    (h : boundedMorph? afterWord cs = some (tag, rest)) :
    ∃ before after, cs = before ++ tag ++ after ++ rest ∧ bare before = [] ∧ bare after = [] := by
  simp only [boundedMorph?, looseMorph?, Option.bind_eq_bind, Option.bind_eq_some_iff,
    Option.pure_def] at h
  obtain ⟨⟨tag', rest'⟩, ⟨cs₁, hopening, ⟨tag'', cs₂⟩, htag, cs₃, hclosing, heq⟩, h⟩ := h
  obtain ⟨rfl, rfl⟩ := Prod.mk.inj (Option.some.inj heq)
  split at h
  · obtain ⟨rfl, rfl⟩ := Prod.mk.inj (Option.some.inj h)
    obtain ⟨-, -, -, rfl⟩ := takeSome?_eq_some_iff.mp htag
    rw [tagOpening?, Option.or_eq_some_iff] at hopening
    rw [tagClosing?, Option.or_eq_some_iff] at hclosing
    simp only [sign?_eq_some_iff] at hopening hclosing
    have hbefore : ∃ before, cs = before ++ (tag'' ++ cs₂) ∧ bare before = [] := by
      rcases hopening with rfl | ⟨-, rfl⟩
      · exact ⟨['('], rfl, by decide⟩
      · exact ⟨['\x7b'], rfl, by decide⟩
    have hafter : ∃ after, cs₂ = after ++ cs₃ ∧ bare after = [] := by
      rcases hclosing with rfl | ⟨-, rfl⟩
      · exact ⟨[')'], rfl, by decide⟩
      · exact ⟨['\x7d'], rfl, by decide⟩
    obtain ⟨before, rfl, hbefore⟩ := hbefore
    obtain ⟨after, rfl, hafter⟩ := hafter
    exact ⟨before, after, by simp, hbefore, hafter⟩
  · cases h

/-- If what stands in every item is put in upper case and into brackets, the text is written
anew. -/
theorem writtenAnew_replaceItems_upper {f : Recognizer (List Char)} {wrap : List Char → List Char}
    (hread : ∀ b cs item rest, f b cs = some (item, rest) →
      ∃ before after, cs = before ++ item ++ after ++ rest ∧ bare before = [] ∧ bare after = [])
    (hne : ∀ cs, wrap cs ≠ []) (hterm : ∀ cs, IsTermText cs → IsTermText (wrap cs))
    (hbare : ∀ cs, bare (wrap cs) = bare cs) {cs : List Char} (hcs : IsTermText cs) :
    WrittenAnew cs (replaceItems f (fun item => wrap (upper item)) cs) := by
  refine writtenAnew_replaceItems (fun b cs item rest h hcs => ?_) hcs
  obtain ⟨before, after, rfl, hbefore, hafter⟩ := hread b cs item rest h
  have hitem : IsTermText item := hcs.of_subset fun c hc => by simp [hc]
  refine ⟨_, rfl, hne _, hterm _ hitem.upper, ?_, fun _ => hne _⟩
  rw [hbare, bare_upper hitem.isSolid.isAscii, bare_append, bare_append, hbefore, hafter,
    List.nil_append, List.append_nil]

/-- **The parts of a query are written anew**, with tags in their one form. -/
theorem writtenAnew_canonicalTags {cs : List Char} (h : IsTermText cs) :
    WrittenAnew cs (canonicalTags cs) := by
  have hstrongs :=
    writtenAnew_replaceItems_upper (f := looseStrongs?) (fun _ _ _ _ => exists_of_looseStrongs?)
    (fun number => by simp [inAngles]) (fun _ => IsTermText.inAngles) bare_inAngles h
  have hmorph :=
    writtenAnew_replaceItems_upper (f := boundedMorph?) (fun _ _ _ _ => exists_of_boundedMorph?)
    (fun tag => by simp [inBraces]) (fun _ => IsTermText.inBraces) bare_inBraces hstrongs.isTermText
  exact hstrongs.trans hmorph

/-! ### The parts of a query -/

theorem isTermText_of_mem_runs {cs part : List Char} (h : IsAscii cs)
    (hpart : part ∈ runs isTermChar cs) : IsTermText part :=
  fun c hc => ⟨h c (subset_of_mem_runs hpart c hc), forall_of_mem_runs hpart c hc⟩

theorem runs_canonicalTags_of_isTermText {part : List Char} (h : IsTermText part) :
    runs isTermChar (canonicalTags part) = (runs isTermChar part).map canonicalTags := by
  by_cases hne : part = []
  · subst hne
    simp [canonicalTags, replaceItems]
  · have hnew := writtenAnew_canonicalTags h
    rw [runs_of_forall hne fun c hc => (h c hc).2,
      runs_of_forall (hnew.ne_nil hne) fun c hc => (hnew.isTermText c hc).2]
    rfl

/-- **The parts of a query, with their tags in their one form.** -/
theorem runs_canonicalTags {cs : List Char} (h : IsAscii cs) :
    runs isTermChar (canonicalTags cs) = (runs isTermChar cs).map canonicalTags := by
  induction cs using runs_induction (p := isTermChar) with
  | run w hw => exact runs_canonicalTags_of_isTermText fun c hc => ⟨h c hc, hw c hc⟩
  | split w c cs hw hc ih =>
    have hapart : IsApart c := ⟨h c (by simp), hc⟩
    have hpart : IsTermText w := fun d hd => ⟨h d (by simp [hd]), hw d hd⟩
    rw [hapart.canonicalTags_append, runs_append_cons hc, runs_append_cons hc, List.map_append,
      runs_canonicalTags_of_isTermText hpart, ih fun d hd => h d (by simp [hd])]

theorem isAscii_canonicalTags {cs : List Char} (h : IsAscii cs) : IsAscii (canonicalTags cs) := by
  induction cs using runs_induction (p := isTermChar) with
  | run w hw =>
    exact (writtenAnew_canonicalTags fun c hc => ⟨h c hc, hw c hc⟩).isTermText.isSolid.isAscii
  | split w c cs hw hc ih =>
    have hapart : IsApart c := ⟨h c (by simp), hc⟩
    have hpart : IsTermText w := fun d hd => ⟨h d (by simp [hd]), hw d hd⟩
    have htail := ih fun d hd => h d (by simp [hd])
    rw [hapart.canonicalTags_append]
    intro d hd
    rcases List.mem_append.mp hd with hd | hd
    · exact (writtenAnew_canonicalTags hpart).isTermText.isSolid.isAscii d hd
    · rcases List.mem_cons.mp hd with rfl | hd
      · exact hapart.1
      · exact htail d hd

/-- The words of a text that is reduced to terms are its parts. -/
theorem words_blankOut {cs : List Char} (h : IsAscii cs) : words (blankOut cs) = runs isTermChar cs :=
  runs_map (fun c hc hterm => by
    have hblank : isBlank c = false :=
      forall_ascii (P := fun c => isTermChar c = true → isBlank c = false) (by decide) (h c hc)
        hterm
    simp [hterm, hblank]) fun c _ hterm => by
    rw [if_neg (by simp [hterm])]
    decide

/-- The terms of a query are those of its parts. -/
theorem parseAll_cleanText {cs : List Char} (h : IsAscii cs) :
    parseAll (cleanText cs) = (runs isTermChar cs).map ofToken := by
  rw [parseAll, cleanText, collapse, words_intercalate fun w hw => isPart_of_mem_words hw,
    words_blankOut h]

/-! ### What is looked up -/

/-- The key under which a part of a query is looked up. -/
def keyOf (part : List Char) : List Char := (ofToken (canonicalTags part)).key

/-- A part of a query, as a search passes it to an index. -/
def lookedUp (caseSensitive : Bool) (part : List Char) : List Char :=
  (foldCase caseSensitive (ofToken (canonicalTags part))).text

section

variable {part : List Char} (h : IsTermText part)

include h

theorem isSolid_lookedUp (caseSensitive : Bool) : IsSolid (lookedUp caseSensitive part) :=
  (text_foldCase (text_ofToken (writtenAnew_canonicalTags h).isTermText.isSolid).1 caseSensitive).1

theorem bare_lookedUp (caseSensitive : Bool) : bare (lookedUp caseSensitive part) = bare part := by
  have hnew := writtenAnew_canonicalTags h
  obtain ⟨hsolid, hbare⟩ := text_ofToken hnew.isTermText.isSolid
  rw [lookedUp, (text_foldCase hsolid caseSensitive).2, hbare, hnew.bare_eq]

/-- **Up to case, a part is looked up without its brackets.** -/
theorem map_toLower_keyOf : (keyOf part).map Char.toLower = bare part := by
  have hnew := writtenAnew_canonicalTags h
  obtain ⟨hsolid, hbare⟩ := text_ofToken hnew.isTermText.isSolid
  rw [keyOf, map_toLower_key hsolid, hbare, hnew.bare_eq]

/-- The key of a part is what an index makes of it. -/
theorem sameWord_normalizeKey_iff {caseSensitive : Bool} {w : List Char} :
    SameWord caseSensitive w (normalizeKey (lookedUp caseSensitive part)) ↔
      SameWord caseSensitive w (keyOf part) := by
  cases caseSensitive with
  | true =>
    rw [lookedUp, foldCase_true]
    exact Iff.rfl
  | false =>
    change w.map Char.toLower = _ ↔ w.map Char.toLower = _
    rw [map_toLower_normalizeKey (isSolid_lookedUp h false), bare_lookedUp h, map_toLower_keyOf h]

end

end Term

end Concordance
