import Concordance.Text.Scan

/-!
# Scanning, piece by piece

What a scan gives is known from what the recognizer reads at each place. An item is something that
was read somewhere, and a stretch at no place of which anything is read is left as it is.

## Main definitions

* `Text.StopsAt` — a character that the items of a recognizer do not reach across
* `Text.IsSteady` — a recognizer that does not ask what stands before an item
* `Text.IsSilent` — a stretch in which nothing is read

## Main results

* `Text.exists_of_mem_items` — an item was read somewhere
* `Text.replaceItems_induction` — a text with its items replaced, piece by piece
* `Text.StopsAt.replaceItems_append_cons` — a character that no item reaches across
* `Text.scanFrom_item`, `Text.scanFrom_other` — one step of a scan
* `Text.scanFrom_append` — a stretch without items is passed over
* `Text.replaceItems_of_scan` — a text without items is left as it is
* `Text.IsSteady.replaceItems_append` — a silent stretch is passed over
* `Text.IsSteady.induction` — a text is taken apart item by item
-/

namespace Concordance

namespace Text

variable {α : Type} {f : Recognizer α}

/-! ### One step -/

theorem scanFrom_item {afterWord : Bool} {c : Char} {cs rest : List Char} {a : α}
    (h : f afterWord (c :: cs) = some (a, rest)) (hlen : rest.length ≤ cs.length) :
    scanFrom f afterWord (c :: cs) = .item a :: scanFrom f false rest := by
  rw [scanFrom, h]
  simp [hlen]

theorem scanFrom_other {afterWord : Bool} {c : Char} {cs : List Char}
    (h : f afterWord (c :: cs) = none) :
    scanFrom f afterWord (c :: cs) = .other c :: scanFrom f (isWordChar c) cs := by
  rw [scanFrom, h]

/-- What is read takes up at least one character. -/
theorem scanFrom_of_length {afterWord : Bool} {c : Char} {cs rest : List Char} {a : α}
    (h : f afterWord (c :: cs) = some (a, rest)) (hlen : ¬ rest.length ≤ cs.length) :
    scanFrom f afterWord (c :: cs) = .other c :: scanFrom f (isWordChar c) cs := by
  rw [scanFrom, h]
  simp [hlen]

/-- Texts with an item replaced, piece by piece. -/
theorem replaceItems_induction {replacement : α → List Char} {motive : List Char → List Char → Prop}
    (nil : motive [] [])
    (item : ∀ b cs a rest out, f b cs = some (a, rest) → motive rest out →
      motive cs (replacement a ++ out))
    (other : ∀ c cs out, motive cs out → motive (c :: cs) (c :: out)) (cs : List Char) :
    motive cs (replaceItems f replacement cs) := by
  rw [replaceItems, scan]
  generalize false = b
  fun_induction scanFrom f b cs with
  | case1 => exact nil
  | case2 b c cs a rest hread _ ih => exact item b _ a rest _ hread ih
  | case3 b c cs a rest _ _ ih => exact other c cs _ ih
  | case4 b c cs _ ih => exact other c cs _ ih

/-- What stays of a text without its items is of the text. -/
theorem dropItems_subset (hf : ∀ {b cs a rest}, f b cs = some (a, rest) → rest ⊆ cs)
    (cs : List Char) : dropItems f cs ⊆ cs := by
  refine replaceItems_induction (motive := fun cs out => out ⊆ cs) (List.nil_subset _) ?_ ?_ cs
  · intro b cs a rest out hread hout c hc
    exact hf hread (hout hc)
  · intro c cs out hout
    exact List.cons_subset_cons c hout

theorem skipBlank_subset (cs : List Char) : skipBlank cs ⊆ cs := by
  cases cs with
  | nil => exact List.Subset.refl _
  | cons c cs =>
    rw [skipBlank]
    split
    · exact List.subset_cons_self c cs
    · exact List.Subset.refl _

theorem trim_subset (cs : List Char) : trim cs ⊆ cs := by
  intro c hc
  have hstart : c ∈ trimStart cs := List.mem_reverse.mp (List.dropWhile_subset _ (List.mem_reverse.mp hc))
  exact List.dropWhile_subset _ hstart

/-- A text is taken apart at a mark. -/
theorem eq_of_breakAt? {mark cs before after : List Char}
    (h : breakAt? mark cs = some (before, after)) : cs = before ++ (mark ++ after) := by
  induction cs generalizing before with
  | nil =>
    rw [breakAt?] at h
    split at h
    · rename_i hempty
      obtain ⟨rfl, rfl⟩ := Prod.mk.inj (Option.some.inj h)
      simpa using hempty
    · cases h
  | cons c cs ih =>
    rw [breakAt?] at h
    split at h
    · rename_i rest hrest
      obtain ⟨rfl, rfl⟩ := Prod.mk.inj (Option.some.inj h)
      rw [List.nil_append]
      exact after?_eq_some_iff.mp hrest
    · obtain ⟨⟨inner, rest⟩, hrest, heq⟩ := Option.map_eq_some_iff.mp h
      obtain ⟨rfl, rfl⟩ := Prod.mk.inj heq
      rw [ih hrest, List.cons_append]

theorem breakAt?_subset {mark cs before after : List Char}
    (h : breakAt? mark cs = some (before, after)) : after ⊆ cs := by
  rw [eq_of_breakAt? h]
  exact List.Subset.trans (List.subset_append_right _ _) (List.subset_append_right _ _)

/-! ### Characters that no item reaches across -/

/-- A recognizer stops at a character: it reads what it reads of the text before the character, and
nothing at the end of a text. -/
structure StopsAt (f : Recognizer α) (c : Char) : Prop where
  nil : ∀ b, f b [] = none
  append : ∀ b xs ys, f b (xs ++ c :: ys) = (f b xs).map fun p => (p.1, p.2 ++ c :: ys)

theorem StopsAt.scanFrom_append_cons {c : Char} (h : StopsAt f c) (hc : isWordChar c = false)
    (b : Bool) (xs ys : List Char) :
    scanFrom f b (xs ++ c :: ys) = scanFrom f b xs ++ .other c :: scan f ys := by
  fun_induction scanFrom f b xs with
  | case1 b =>
    have hread : f b (c :: ys) = none := by
      rw [← List.nil_append (c :: ys), h.append, h.nil, Option.map_none]
    rw [List.nil_append, scanFrom_other hread, hc, scan, List.nil_append]
  | case2 b x xs a rest hread hlen ih =>
    have hread' : f b (x :: (xs ++ c :: ys)) = some (a, rest ++ c :: ys) := by
      rw [← List.cons_append, h.append, hread, Option.map_some]
    rw [List.cons_append, scanFrom_item hread' (by simp; omega), ih, List.cons_append]
  | case3 b x xs a rest hread hlen ih =>
    have hread' : f b (x :: (xs ++ c :: ys)) = some (a, rest ++ c :: ys) := by
      rw [← List.cons_append, h.append, hread, Option.map_some]
    rw [List.cons_append, scanFrom_of_length hread' (by simp; omega), ih, List.cons_append]
  | case4 b x xs hread ih =>
    have hread' : f b (x :: (xs ++ c :: ys)) = none := by
      rw [← List.cons_append, h.append, hread, Option.map_none]
    rw [List.cons_append, scanFrom_other hread', ih, List.cons_append]

/-- **Items are replaced on either side of a character that no item reaches across.** -/
theorem StopsAt.replaceItems_append_cons {c : Char} (h : StopsAt f c) (hc : isWordChar c = false)
    (replacement : α → List Char) (xs ys : List Char) :
    replaceItems f replacement (xs ++ c :: ys)
      = replaceItems f replacement xs ++ c :: replaceItems f replacement ys := by
  rw [replaceItems, scan, h.scanFrom_append_cons hc, List.flatMap_append, List.flatMap_cons,
    List.singleton_append]
  rfl

/-! ### Items -/

theorem exists_of_item_mem_scanFrom {afterWord : Bool} {cs : List Char} {a : α}
    (h : .item a ∈ scanFrom f afterWord cs) : ∃ b cs' rest, f b cs' = some (a, rest) := by
  fun_induction scanFrom f afterWord cs with
  | case1 => simp at h
  | case2 afterWord c cs a' rest hread _ ih =>
    rcases List.mem_cons.mp h with heq | h
    · cases heq
      exact ⟨_, _, _, hread⟩
    · exact ih h
  | case3 afterWord c cs a' rest _ _ ih => exact ih (by simpa using h)
  | case4 afterWord c cs _ ih => exact ih (by simpa using h)

theorem mem_items_iff {cs : List Char} {a : α} : a ∈ items f cs ↔ .item a ∈ scan f cs := by
  rw [items, List.mem_filterMap]
  constructor
  · rintro ⟨piece, hmem, hpiece⟩
    cases piece with
    | item b => simpa using (Option.some.inj hpiece) ▸ hmem
    | other c => cases hpiece
  · exact fun h => ⟨_, h, rfl⟩

/-- **An item was read somewhere.** -/
theorem exists_of_mem_items {cs : List Char} {a : α} (h : a ∈ items f cs) :
    ∃ b cs' rest, f b cs' = some (a, rest) :=
  exists_of_item_mem_scanFrom (mem_items_iff.mp h)

/-! ### Stretches without items -/

/-- Whether a word character stands at the end of a stretch, or else right before it. -/
def endsInWord (afterWord : Bool) (cs : List Char) : Bool :=
  match cs.getLast? with
  | some c => isWordChar c
  | none => afterWord

theorem endsInWord_cons (afterWord : Bool) (c : Char) (cs : List Char) :
    endsInWord afterWord (c :: cs) = endsInWord (isWordChar c) cs := by
  rw [endsInWord, endsInWord, List.getLast?_cons]
  cases cs.getLast? <;> rfl

/-- **A stretch without items is passed over.** -/
theorem scanFrom_append {xs ys : List Char} {afterWord : Bool}
    (h : ∀ before c after, xs = before ++ c :: after →
      f (endsInWord afterWord before) (c :: (after ++ ys)) = none) :
    scanFrom f afterWord (xs ++ ys)
      = xs.map .other ++ scanFrom f (endsInWord afterWord xs) ys := by
  induction xs generalizing afterWord with
  | nil => rfl
  | cons c xs ih =>
    rw [List.cons_append, scanFrom_other (by simpa [endsInWord] using h [] c xs rfl),
      ih fun before d after hxs => ?_, endsInWord_cons, List.map_cons, List.cons_append]
    simpa [endsInWord_cons] using h (c :: before) d after (by simp [hxs])

/-- A text at no place of which anything is read has no items. -/
theorem scan_eq_map {cs : List Char}
    (h : ∀ before c after, cs = before ++ c :: after →
      f (endsInWord false before) (c :: after) = none) :
    scan f cs = cs.map .other := by
  have happend : scanFrom f false (cs ++ []) = _ := scanFrom_append (by simpa using h)
  simpa [scan] using happend

theorem replaceItems_of_scan {cs : List Char} {replacement : α → List Char}
    (h : scan f cs = cs.map .other) : replaceItems f replacement cs = cs := by
  rw [replaceItems, h]
  simp [List.flatMap_map]

theorem items_of_scan {cs : List Char} (h : scan f cs = cs.map .other) : items f cs = [] := by
  rw [items, h]
  simp

/-! ### Recognizers that do not ask what stands before an item -/

/-- A recognizer that does not ask what stands before an item, and that reads no empty ones. -/
structure IsSteady (f : Recognizer α) : Prop where
  eq : ∀ b cs, f b cs = f false cs
  length_lt : ∀ {cs a rest}, f false cs = some (a, rest) → rest.length < cs.length

/-- Nothing is read in a stretch before a text, wherever in it one starts. -/
def IsSilent (f : Recognizer α) : (stretch after : List Char) → Prop
  | [], _ => True
  | c :: cs, after => f false (c :: (cs ++ after)) = none ∧ IsSilent f cs after

theorem IsSilent.append {xs ys zs : List Char} (hxs : IsSilent f xs (ys ++ zs))
    (hys : IsSilent f ys zs) : IsSilent f (xs ++ ys) zs := by
  induction xs with
  | nil => exact hys
  | cons c xs ih => exact ⟨by simpa using hxs.1, ih hxs.2⟩

theorem isSilent_of_forall {xs : List Char} {p : Char → Prop} (hxs : ∀ c ∈ xs, p c)
    (hf : ∀ c cs, p c → f false (c :: cs) = none) (ys : List Char) : IsSilent f xs ys := by
  induction xs with
  | nil => exact trivial
  | cons c xs ih =>
    obtain ⟨hc, hxs⟩ := List.forall_mem_cons.mp hxs
    exact ⟨hf c _ hc, ih hxs⟩

/-- A text is taken apart at the first mark. -/
theorem breakAt?_of_isSilent {mark xs rest : List Char}
    (hxs : IsSilent (fun _ cs => after? mark cs |>.map fun rest => ((), rest)) xs (mark ++ rest)) :
    breakAt? mark (xs ++ (mark ++ rest)) = some (xs, rest) := by
  induction xs with
  | nil =>
    have hmark : after? mark (mark ++ rest) = some rest := after?_eq_some_iff.mpr rfl
    cases hcs : mark ++ rest with
    | nil =>
      obtain ⟨rfl, rfl⟩ := List.append_eq_nil_iff.mp hcs
      rfl
    | cons c cs =>
      rw [hcs] at hmark
      rw [List.nil_append, breakAt?, hmark]
  | cons c xs ih =>
    have hc : after? mark (c :: (xs ++ (mark ++ rest))) = none := Option.map_eq_none_iff.mp hxs.1
    rw [List.cons_append, breakAt?, hc, ih hxs.2]
    rfl

namespace IsSteady

variable (h : IsSteady f) {c : Char} {cs rest : List Char} {a : α}

include h

theorem scanFrom_eq (b : Bool) (cs : List Char) : scanFrom f b cs = scan f cs := by
  cases cs with
  | nil => simp
  | cons c cs => rw [scan, scanFrom, scanFrom, h.eq b]

theorem scan_item (hread : f false cs = some (a, rest)) : scan f cs = .item a :: scan f rest := by
  have hlen := h.length_lt hread
  cases cs with
  | nil => simp at hlen
  | cons c cs => exact scanFrom_item hread (Nat.le_of_lt_succ hlen)

theorem scan_other (hread : f false (c :: cs) = none) :
    scan f (c :: cs) = .other c :: scan f cs := by
  rw [scan, scanFrom_other hread, h.scanFrom_eq]

variable {replacement : α → List Char}

theorem replaceItems_item (hread : f false cs = some (a, rest)) :
    replaceItems f replacement cs = replacement a ++ replaceItems f replacement rest := by
  simp [replaceItems, h.scan_item hread]

theorem replaceItems_other (hread : f false (c :: cs) = none) :
    replaceItems f replacement (c :: cs) = c :: replaceItems f replacement cs := by
  simp [replaceItems, h.scan_other hread]

theorem dropItems_item (hread : f false cs = some (a, rest)) : dropItems f cs = dropItems f rest :=
  h.replaceItems_item hread

theorem dropItems_other (hread : f false (c :: cs) = none) :
    dropItems f (c :: cs) = c :: dropItems f cs :=
  h.replaceItems_other hread

theorem items_item (hread : f false cs = some (a, rest)) : items f cs = a :: items f rest := by
  simp [items, h.scan_item hread]

theorem items_other (hread : f false (c :: cs) = none) : items f (c :: cs) = items f cs := by
  simp [items, h.scan_other hread]

/-- **A silent stretch is passed over.** -/
theorem replaceItems_append {xs ys : List Char} (hxs : IsSilent f xs ys) :
    replaceItems f replacement (xs ++ ys) = xs ++ replaceItems f replacement ys := by
  induction xs with
  | nil => rfl
  | cons c xs ih => rw [List.cons_append, h.replaceItems_other hxs.1, ih hxs.2, List.cons_append]

/-- Where items start, and where none starts, what is said of a text is said of all that follows. -/
theorem induction {motive : List Char → Prop} (nil : motive [])
    (item : ∀ cs a rest, f false cs = some (a, rest) → motive rest → motive cs)
    (other : ∀ c cs, f false (c :: cs) = none → motive cs → motive (c :: cs)) (cs : List Char) :
    motive cs := by
  induction hn : cs.length using Nat.strongRecOn generalizing cs with
  | ind n ih =>
    cases cs with
    | nil => exact nil
    | cons c cs =>
      cases hread : f false (c :: cs) with
      | none => exact other c cs hread (ih _ (hn ▸ Nat.lt_succ_self _) cs rfl)
      | some r => exact item _ r.1 r.2 hread (ih _ (hn ▸ h.length_lt hread) r.2 rfl)

end IsSteady

end Text

end Concordance
