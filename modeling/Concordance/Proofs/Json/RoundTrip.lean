import Concordance.Json.Fields
import Concordance.Json.Reader

/-!
# JSON values read back

The compact text of a value is read as the value. Records hold strings, lists of strings and objects
of such lists, so that numbers are left out here: what follows a value then does not matter, since
every such text shows where it ends.

## Main definitions

* `Json.IsTextual`: a value without numbers, all strings of which have texts

## Main results

* `Json.read?_chars` — the compact text of a value is read as the value
* `Json.texts?_ofStrings` — a list of strings is decoded as it was written
-/

namespace Concordance

namespace Json

/-! ### Strings -/

theorem hexValue?_hexDigit {n : Nat} : Text.hexValue? (hexDigit n) = some (n % 16) := by
  have hall : ∀ m < 16, Text.hexValue? (Nat.digitChar m) = some m := by decide
  exact hall (n % 16) (by omega)

/-- The code unit of an escaped control character. -/
theorem readUnit?_hexDigit {n : Nat} (h : n < 0x20) :
    readUnit? '0' '0' (hexDigit (n / 16)) (hexDigit n) = some n := by
  have h0 : Text.hexValue? '0' = some 0 := by decide
  simp only [readUnit?, h0, hexValue?_hexDigit, Option.some.injEq]
  omega

/-- A reading to which nothing has gone wrong, and that waits for no half of a character. -/
theorem StringReading.push_eq {cs : List Char} {c : Char} :
    StringReading.push ⟨cs, true, none⟩ c = ⟨c :: cs, true, none⟩ := rfl

theorem StringReading.pushUnit_eq {cs : List Char} {c : Char} (h : c.toNat < 0x20) :
    StringReading.pushUnit ⟨cs, true, none⟩ c.toNat = ⟨c :: cs, true, none⟩ := by
  have hhigh : isHighUnit c.toNat = false := by simp [isHighUnit]; omega
  have hlow : isLowUnit c.toNat = false := by simp [isLowUnit]; omega
  simp [StringReading.pushUnit, hhigh, hlow, StringReading.push_eq]

/-- **An escaped character is read as the character.** -/
theorem readStringFrom_escapeChar (cs : List Char) (c : Char) (rest : List Char) :
    readStringFrom ⟨cs, true, none⟩ (escapeChar c ++ rest)
      = readStringFrom ⟨c :: cs, true, none⟩ rest := by
  unfold escapeChar
  split
  iterate 7 simp [readStringFrom, escapedChar?, StringReading.push_eq]
  · rename_i hquote hslash _ _ _ _ _
    split
    · rename_i hc
      simp [readStringFrom, readUnit?_hexDigit hc, StringReading.pushUnit_eq hc]
    · rename_i hc
      rw [List.singleton_append, readStringFrom, if_neg hc, StringReading.push_eq]
      · exact hquote
      · rintro a b c d rest' rfl
        exact absurd rfl hslash
      · rintro e rest' rfl
        exact absurd rfl hslash

theorem readStringFrom_escaped (cs text rest : List Char) :
    readStringFrom ⟨cs, true, none⟩ (text.flatMap escapeChar ++ '"' :: rest)
      = some (some (String.ofList (cs.reverse ++ text)), rest) := by
  induction text generalizing cs with
  | nil => simp [readStringFrom, StringReading.text?]
  | cons c text ih =>
    rw [List.flatMap_cons, List.append_assoc, readStringFrom_escapeChar, ih]
    simp

theorem readString?_quoted (s : String) (rest : List Char) :
    readString? (s.toList.flatMap escapeChar ++ '"' :: rest) = some (some s, rest) := by
  rw [readString?, readStringFrom_escaped]
  simp

/-! ### Values -/

mutual

/-- A value without numbers, all strings of which have texts. -/
def IsTextual : Json → Prop
  | null => True
  | bool _ => True
  | number _ => False
  | string text? => text?.isSome
  | array elements => AreTextual elements
  | object members => AreTextualMembers members

/-- Values of this kind. -/
def AreTextual : List Json → Prop
  | [] => True
  | j :: js => IsTextual j ∧ AreTextual js

/-- Members with values of this kind, all keys of which have texts. -/
def AreTextualMembers : List (Option String × Json) → Prop
  | [] => True
  | (key?, j) :: ms => key?.isSome ∧ IsTextual j ∧ AreTextualMembers ms

end

theorem quoteText_some (s : String) (rest : List Char) :
    quoteText (some s) ++ rest = '"' :: (s.toList.flatMap escapeChar ++ '"' :: rest) := by
  simp [quoteText, quote]

/-- The text of a value starts with one of these signs. -/
theorem chars_eq_cons {j : Json} (h : j.IsTextual) :
    ∃ c cs, j.chars = c :: cs ∧ isSpace c = false ∧ c ≠ ']' ∧ c ≠ '\x7d' := by
  cases j with
  | null => exact ⟨'n', _, rfl, by decide, by decide, by decide⟩
  | bool b =>
    cases b
    · exact ⟨'f', _, rfl, by decide, by decide, by decide⟩
    · exact ⟨'t', _, rfl, by decide, by decide, by decide⟩
  | number text => exact h.elim
  | string text? => exact ⟨'"', _, rfl, by decide, by decide, by decide⟩
  | array elements => exact ⟨'[', _, rfl, by decide, by decide, by decide⟩
  | object members => exact ⟨'\x7b', _, rfl, by decide, by decide, by decide⟩

theorem skipSpace_cons {c : Char} (cs : List Char) (h : isSpace c = false) :
    skipSpace (c :: cs) = c :: cs := by
  simp [skipSpace, h]

theorem length_chars_pos {j : Json} (h : j.IsTextual) : 0 < j.chars.length := by
  obtain ⟨c, cs, hj, -⟩ := chars_eq_cons h
  simp [hj]

/-! ### Steps of the reader -/

section

variable {fuel : Nat} {c : Char} {cs rest : List Char} {v : Json}

theorem readValue_array (hspace : isSpace c = false) (hc : c ≠ ']') :
    readValue (fuel + 1) ('[' :: c :: cs)
      = (readElements fuel (c :: cs)).map fun (elements, rest) => (array elements, rest) := by
  rw [readValue, skipSpace_cons _ (by decide)]
  simp only [skipSpace_cons _ hspace]
  split
  · simp_all
  · rfl

theorem readValue_object (hspace : isSpace c = false) (hc : c ≠ '\x7d') :
    readValue (fuel + 1) ('\x7b' :: c :: cs)
      = (readMembers fuel (c :: cs)).map fun (members, rest) => (object members, rest) := by
  rw [readValue, skipSpace_cons _ (by decide)]
  simp only [skipSpace_cons _ hspace]
  split
  · simp_all
  · rfl

theorem readElements_last (h : readValue fuel cs = some (v, ']' :: rest)) :
    readElements (fuel + 1) cs = some ([v], rest) := by
  simp [readElements, h, skipSpace_cons _ (show isSpace ']' = false by decide)]

theorem readElements_comma (h : readValue fuel cs = some (v, ',' :: rest)) :
    readElements (fuel + 1) cs
      = (readElements fuel rest).map fun (vs, rest) => (v :: vs, rest) := by
  simp [readElements, h, skipSpace_cons _ (show isSpace ',' = false by decide)]

variable {key : String}

theorem readMembers_last (h : readValue fuel cs = some (v, '\x7d' :: rest)) :
    readMembers (fuel + 1) (quoteText (some key) ++ ':' :: cs) = some ([(some key, v)], rest) := by
  rw [readMembers, quoteText_some, skipSpace_cons _ (by decide)]
  simp [readString?_quoted, h, skipSpace_cons _ (show isSpace ':' = false by decide),
    skipSpace_cons _ (show isSpace '\x7d' = false by decide)]

theorem readMembers_comma (h : readValue fuel cs = some (v, ',' :: rest)) :
    readMembers (fuel + 1) (quoteText (some key) ++ ':' :: cs)
      = (readMembers fuel rest).map fun (ms, rest) => ((some key, v) :: ms, rest) := by
  rw [readMembers, quoteText_some, skipSpace_cons _ (by decide)]
  simp [readString?_quoted, h, skipSpace_cons _ (show isSpace ':' = false by decide),
    skipSpace_cons _ (show isSpace ',' = false by decide)]

end

theorem elementChars_cons_cons (j k : Json) (js : List Json) :
    elementChars (j :: k :: js) = j.chars ++ ',' :: elementChars (k :: js) := rfl

theorem memberChars_cons_cons (key : Option String) (j : Json) (m : Option String × Json)
    (ms : List (Option String × Json)) :
    memberChars ((key, j) :: m :: ms)
      = quoteText key ++ ':' :: (j.chars ++ ',' :: memberChars (m :: ms)) := rfl

theorem elementChars_eq_cons {j : Json} (js : List Json) (h : j.IsTextual) :
    ∃ c cs, elementChars (j :: js) = c :: cs ∧ isSpace c = false ∧ c ≠ ']' := by
  obtain ⟨c, cs, hj, hspace, hc, -⟩ := chars_eq_cons h
  cases js with
  | nil => exact ⟨c, cs, hj, hspace, hc⟩
  | cons k js => exact ⟨c, _, by rw [elementChars_cons_cons, hj, List.cons_append], hspace, hc⟩

theorem memberChars_eq_cons (key : Option String) (j : Json) (ms : List (Option String × Json)) :
    ∃ cs, memberChars ((key, j) :: ms) = '"' :: cs := by
  cases ms <;> exact ⟨_, rfl⟩

/-! ### Whole values -/

mutual

/-- **The text of a value is read as the value**, whatever follows. -/
theorem readValue_chars : (j : Json) → j.IsTextual → {fuel : Nat} → 2 * j.chars.length ≤ fuel →
    (rest : List Char) → readValue fuel (j.chars ++ rest) = some (j, rest)
  | j, h, 0, hfuel, _ => by
    have := length_chars_pos h
    omega
  | null, _, fuel + 1, _, rest => rfl
  | bool true, _, fuel + 1, _, rest => rfl
  | bool false, _, fuel + 1, _, rest => rfl
  | number _, h, _ + 1, _, _ => h.elim
  | string none, h, _ + 1, _, _ => absurd h (by simp [IsTextual])
  | string (some s), _, fuel + 1, _, rest => by
    rw [chars, quoteText_some, readValue, skipSpace_cons _ (by decide)]
    simp [readString?_quoted]
  | array [], _, fuel + 1, _, rest => rfl
  | array (j :: js), h, fuel + 1, hfuel, rest => by
    obtain ⟨c, cs, hcs, hspace, hc⟩ := elementChars_eq_cons js h.1
    have hlen : 2 * (elementChars (j :: js)).length + 1 ≤ fuel := by
      simp only [chars, List.length_cons, List.length_append, List.length_nil] at hfuel
      omega
    have hread := readElements_chars j js h hlen rest
    rw [hcs, List.cons_append] at hread
    rw [chars, List.cons_append, List.append_assoc, List.singleton_append, hcs, List.cons_append,
      readValue_array hspace hc, hread]
    rfl
  | object [], _, fuel + 1, _, rest => rfl
  | object ((key, j) :: ms), h, fuel + 1, hfuel, rest => by
    obtain ⟨cs, hcs⟩ := memberChars_eq_cons key j ms
    have hlen : 2 * (memberChars ((key, j) :: ms)).length + 1 ≤ fuel := by
      simp only [chars, List.length_cons, List.length_append, List.length_nil] at hfuel
      omega
    have hread := readMembers_chars key j ms h hlen rest
    rw [hcs, List.cons_append] at hread
    rw [chars, List.cons_append, List.append_assoc, List.singleton_append, hcs, List.cons_append,
      readValue_object (by decide) (by decide), hread]
    rfl

/-- The texts of elements are read as the elements, up to the closing bracket. -/
theorem readElements_chars : (j : Json) → (js : List Json) → AreTextual (j :: js) →
    {fuel : Nat} → 2 * (elementChars (j :: js)).length + 1 ≤ fuel → (rest : List Char) →
    readElements fuel (elementChars (j :: js) ++ ']' :: rest) = some (j :: js, rest)
  | _, _, _, 0, hfuel, _ => by omega
  | j, [], h, fuel + 1, hfuel, rest =>
    readElements_last (readValue_chars j h.1 (by simpa [elementChars] using hfuel) (']' :: rest))
  | j, k :: js, h, fuel + 1, hfuel, rest => by
    rw [elementChars_cons_cons] at hfuel ⊢
    simp only [List.length_append, List.length_cons] at hfuel
    rw [List.append_assoc, List.cons_append,
      readElements_comma (readValue_chars j h.1 (by omega) _),
      readElements_chars k js h.2 (by omega) rest]
    rfl

/-- The texts of members are read as the members, up to the closing brace. -/
theorem readMembers_chars : (key : Option String) → (j : Json) →
    (ms : List (Option String × Json)) → AreTextualMembers ((key, j) :: ms) → {fuel : Nat} →
    2 * (memberChars ((key, j) :: ms)).length + 1 ≤ fuel → (rest : List Char) →
    readMembers fuel (memberChars ((key, j) :: ms) ++ '\x7d' :: rest) = some ((key, j) :: ms, rest)
  | _, _, _, _, 0, hfuel, _ => by omega
  | none, _, _, h, _ + 1, _, _ => absurd h.1 (by simp)
  | some key, j, [], h, fuel + 1, hfuel, rest => by
    have hlen : 2 * j.chars.length ≤ fuel := by
      simp only [memberChars, List.length_append, List.length_cons] at hfuel
      omega
    have hread : readMembers (fuel + 1) (quoteText (some key) ++ ':' :: (j.chars ++ '\x7d' :: rest))
        = some ([(some key, j)], rest) := readMembers_last (readValue_chars j h.2.1 hlen _)
    simpa [memberChars] using hread
  | some key, j, (key', k) :: ms, h, fuel + 1, hfuel, rest => by
    rw [memberChars_cons_cons] at hfuel ⊢
    simp only [List.length_append, List.length_cons] at hfuel
    rw [List.append_assoc, List.cons_append, List.append_assoc, List.cons_append,
      readMembers_comma (readValue_chars j h.2.1 (by omega) _),
      readMembers_chars key' k ms h.2.2 (by omega) rest]
    rfl

end

/-- **The compact text of a value is read as the value.** -/
theorem read?_chars {j : Json} (h : j.IsTextual) : read? j.chars = some j := by
  have hread : readValue (2 * j.chars.length + 2) (j.chars ++ []) = some (j, []) :=
    readValue_chars j h (by omega) []
  rw [List.append_nil] at hread
  simp [read?, hread, skipSpace]

/-! ### What records hold -/

theorem isTextual_ofString (s : String) : (ofString s).IsTextual := rfl

theorem isTextual_ofStrings (ss : List String) : (ofStrings ss).IsTextual := by
  change AreTextual _
  induction ss with
  | nil => trivial
  | cons s ss ih => exact ⟨rfl, ih⟩

theorem isTextual_ofMembers {ms : List (String × Json)} (h : ∀ m ∈ ms, m.2.IsTextual) :
    (ofMembers ms).IsTextual := by
  change AreTextualMembers _
  induction ms with
  | nil => trivial
  | cons m ms ih => exact ⟨rfl, h m (by simp), ih fun n hn => h n (by simp [hn])⟩

@[simp] theorem text?_ofString (s : String) : (ofString s).text? = some s := rfl

/-- A list of strings is decoded as it was written. -/
@[simp] theorem texts?_ofStrings (ss : List String) : (ofStrings ss).texts? = some ss := by
  change (ss.map ofString).mapM text? = some ss
  induction ss with
  | nil => rfl
  | cons s ss ih => simp [ih]

end Json

end Concordance
