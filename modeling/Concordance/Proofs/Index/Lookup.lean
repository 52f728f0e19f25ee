import Std.Data.TreeMap.Lemmas
import Concordance.Index

/-!
# Looking up through the cache

What has been looked up before never changes an answer: a cache that agrees with the records goes on
agreeing with them, and every computation gives what it would give from the records alone. So the
answers for one or several terms are sets that are known by their members.

## Main definitions

* `Index.SoundCache` — a cache that agrees with the records
* `Index.answer` — what a computation gives, to which what was looked up before makes no difference
* `Index.Finds` — a computation that finds the verses with a property, whatever was looked up before
* `Index.Has` — a verse belongs to a term in one of its spellings

## Main results

* `Index.finds_union`, `Index.finds_intersect`, `Index.finds_symmDiff` — the verses of any, of all,
  and of an odd number of terms
-/

namespace Concordance

namespace Index

variable {ix : Index} {α β : Type}

/-! ### Sound caches -/

/-- What is kept under keys is what a function says of them. -/
def Keeps {γ : Type} (m : Std.TreeMap String γ) (f : String → γ) : Prop :=
  ∀ key y, m[key]? = some y → y = f key

theorem keeps_empty {γ : Type} (f : String → γ) : Keeps ∅ f := by
  intro key y h
  simp at h

theorem Keeps.insert {γ : Type} {m : Std.TreeMap String γ} {f : String → γ} (h : Keeps m f)
    (key : String) : Keeps (m.insert key (f key)) f := by
  intro key' y hy
  rw [Std.TreeMap.getElem?_insert] at hy
  split at hy
  · rename_i heq
    rw [← Std.LawfulEqCmp.eq_of_compare heq, ← Option.some.inj hy]
  · exact h key' y hy

/-- What a cache holds is what the records say. -/
structure SoundCache (ix : Index) (cache : Cache) : Prop where
  /-- The verses under keys. -/
  postings : Keeps cache.postings ix.postings
  /-- The lists of words and tags. -/
  lists : Keeps cache.lists ix.listed

theorem soundCache_empty : ix.SoundCache ∅ := ⟨keeps_empty _, keeps_empty _⟩

/-! ### Computations that give one answer -/

/-- A computation gives `x` whatever was looked up before, and keeps the cache sound. -/
def Yields (ix : Index) (m : Lookup α) (x : α) : Prop :=
  ∀ cache, ix.SoundCache cache → (m.run cache).1 = x ∧ ix.SoundCache (m.run cache).2

theorem yields_pure (x : α) : ix.Yields (pure x) x := fun _ h => ⟨rfl, h⟩

theorem Yields.bind {m : Lookup α} {x : α} {f : α → Lookup β} {y : β} (hm : ix.Yields m x)
    (hf : ix.Yields (f x) y) : ix.Yields (m >>= f) y := by
  intro cache hcache
  obtain ⟨hx, hsound⟩ := hm cache hcache
  have hrun : (m >>= f).run cache = (f (m.run cache).1).run (m.run cache).2 := rfl
  rw [hrun, hx]
  exact hf _ hsound

theorem run_fetch (ix : Index) (key : String) (cache : Cache) :
    (ix.fetch key).run cache
      = match cache.postings[key]? with
        | some s => (s, cache)
        | none => (ix.postings key,
            { cache with postings := cache.postings.insert key (ix.postings key) }) := by
  cases h : cache.postings[key]? <;> simp [fetch, h] <;> rfl

theorem run_fetchList (ix : Index) (key : String) (cache : Cache) :
    (ix.fetchList key).run cache
      = match cache.lists[key]? with
        | some ws => (ws, cache)
        | none => (ix.listed key,
            { cache with lists := cache.lists.insert key (ix.listed key) }) := by
  cases h : cache.lists[key]? <;> simp [fetchList, h] <;> rfl

/-- The verses under a key are those that the records tell. -/
theorem yields_fetch (key : String) : ix.Yields (ix.fetch key) (ix.postings key) := by
  intro cache hcache
  rw [run_fetch]
  cases h : cache.postings[key]? with
  | some s => exact ⟨hcache.postings key s h, hcache⟩
  | none => exact ⟨rfl, hcache.postings.insert key, hcache.lists⟩

/-- The strings of a list are those that the records tell. -/
theorem yields_fetchList (key : String) : ix.Yields (ix.fetchList key) (ix.listed key) := by
  intro cache hcache
  rw [run_fetchList]
  cases h : cache.lists[key]? with
  | some ws => exact ⟨hcache.lists key ws h, hcache⟩
  | none => exact ⟨rfl, hcache.postings, hcache.lists.insert key⟩

/-- A computation gives one answer, whatever was looked up before. -/
def Determined (ix : Index) (m : Lookup α) : Prop := ∃ x, ix.Yields m x

theorem determined_pure (x : α) : ix.Determined (pure x) := ⟨x, yields_pure x⟩

theorem Determined.bind {m : Lookup α} {f : α → Lookup β} (hm : ix.Determined m)
    (hf : ∀ x, ix.Determined (f x)) : ix.Determined (m >>= f) := by
  obtain ⟨x, hx⟩ := hm
  obtain ⟨y, hy⟩ := hf x
  exact ⟨y, hx.bind hy⟩

theorem Determined.soundCache {m : Lookup α} {cache : Cache} (hm : ix.Determined m)
    (hcache : ix.SoundCache cache) : ix.SoundCache (m.run cache).2 := by
  obtain ⟨x, hx⟩ := hm
  exact (hx cache hcache).2

/-! ### Answers -/

/-- What a computation gives if nothing was looked up before. -/
def answer (m : Lookup α) : α := (m.run ∅).1

@[simp] theorem answer_pure (x : α) : answer (pure x : Lookup α) = x := rfl

theorem Yields.answer_eq {m : Lookup α} {x : α} (h : ix.Yields m x) : answer m = x :=
  (h ∅ soundCache_empty).1

theorem Determined.yields {m : Lookup α} (hm : ix.Determined m) : ix.Yields m (answer m) := by
  obtain ⟨x, hx⟩ := hm
  rwa [hx.answer_eq]

/-- The answer of a computation with a cache is the one without. -/
theorem Determined.run_eq {m : Lookup α} {cache : Cache} (hm : ix.Determined m)
    (hcache : ix.SoundCache cache) : (m.run cache).1 = answer m :=
  (hm.yields cache hcache).1

/-- **A computation goes on with the answer of its first part.** -/
theorem Determined.answer_bind {m : Lookup α} {f : α → Lookup β} (hm : ix.Determined m)
    (hf : ix.Determined (f (answer m))) : answer (m >>= f) = answer (f (answer m)) :=
  (hm.yields.bind hf.yields).answer_eq

theorem Determined.answer_map {m : Lookup α} (hm : ix.Determined m) (f : α → β) :
    answer (do return f (← m)) = f (answer m) :=
  hm.answer_bind (determined_pure _)

/-! ### Sets by their members -/

/-- A computation finds the verses with a property. -/
def Finds (ix : Index) (m : Lookup VerseSet) (P : Verse → Prop) : Prop :=
  ∃ s, ix.Yields m s ∧ ∀ v, v ∈ s ↔ P v

variable {m n : Lookup VerseSet} {P Q : Verse → Prop}

theorem Finds.determined (h : ix.Finds m P) : ix.Determined m := by
  obtain ⟨s, hs, -⟩ := h
  exact ⟨s, hs⟩

theorem finds_empty : ix.Finds (pure ∅) fun _ => False :=
  ⟨∅, yields_pure ∅, by simp⟩

theorem Finds.of_iff (h : ix.Finds m P) (hiff : ∀ v, P v ↔ Q v) : ix.Finds m Q := by
  obtain ⟨s, hs, hmem⟩ := h
  exact ⟨s, hs, fun v => (hmem v).trans (hiff v)⟩

/-- What is found is put together by an operation on sets. -/
theorem Finds.map₂ {R : Verse → Prop} {op : VerseSet → VerseSet → VerseSet} (hm : ix.Finds m P)
    (hn : ix.Finds n Q) (hop : ∀ s t v, (v ∈ s ↔ P v) → (v ∈ t ↔ Q v) → (v ∈ op s t ↔ R v)) :
    ix.Finds (do return op (← m) (← n)) R := by
  obtain ⟨s, hs, hP⟩ := hm
  obtain ⟨t, ht, hQ⟩ := hn
  exact ⟨op s t, hs.bind (ht.bind (yields_pure _)), fun v => hop s t v (hP v) (hQ v)⟩

theorem Finds.mem_run {cache : Cache} (h : ix.Finds m P) (hcache : ix.SoundCache cache)
    (v : Verse) :
    v ∈ (m.run cache).1 ↔ P v := by
  obtain ⟨s, hs, hmem⟩ := h
  rw [(hs cache hcache).1, hmem]

/-! ### One term -/

/-- A verse belongs to a term as it is spelled. -/
def HasForm (ix : Index) (form : List Char) (v : Verse) : Prop :=
  v ∈ ix.postings (String.ofList (Term.normalizeKey form))

/-- A verse belongs to a term in one of the spellings that are looked up. -/
def Has (ix : Index) (caseSensitive : Bool) (term : List Char) (v : Verse) : Prop :=
  ∃ form ∈ ix.forms caseSensitive term, ix.HasForm form v

instance (form : List Char) (v : Verse) : Decidable (ix.HasForm form v) :=
  inferInstanceAs (Decidable (v ∈ ix.postings _))

instance (caseSensitive : Bool) (term : List Char) (v : Verse) :
    Decidable (ix.Has caseSensitive term v) :=
  inferInstanceAs (Decidable (∃ form ∈ ix.forms caseSensitive term, ix.HasForm form v))

theorem finds_get (form : List Char) : ix.Finds (ix.get form) (ix.HasForm form) :=
  ⟨_, yields_fetch _, fun _ => Iff.rfl⟩

theorem finds_getAll (forms : List (List Char)) :
    ix.Finds (ix.getAll forms) fun v => ∃ form ∈ forms, ix.HasForm form v := by
  induction forms with
  | nil => exact finds_empty.of_iff (by simp)
  | cons form forms ih =>
    refine (finds_get form).map₂ ih fun s t v hs ht => ?_
    rw [VerseSet.mem_union, hs, ht]
    simp

theorem finds_expanded (caseSensitive : Bool) (term : List Char) :
    ix.Finds (ix.expanded caseSensitive term) (ix.Has caseSensitive term) :=
  finds_getAll _

/-! ### Several terms -/

variable {cs : Bool} {terms : List (List Char)}

/-- **The verses of any of the terms.** -/
theorem finds_union : ix.Finds (ix.union cs terms) fun v => ∃ t ∈ terms, ix.Has cs t v := by
  induction terms with
  | nil => exact finds_empty.of_iff (by simp)
  | cons term terms ih =>
    refine (finds_expanded cs term).map₂ ih fun s t v hs ht => ?_
    rw [VerseSet.mem_union, hs, ht]
    simp

theorem finds_intersectFrom (found : VerseSet) :
    ix.Finds (ix.intersectFrom cs found terms) fun v => v ∈ found ∧ ∀ t ∈ terms, ix.Has cs t v := by
  induction terms generalizing found with
  | nil => exact ⟨found, yields_pure _, by simp⟩
  | cons term terms ih =>
    rw [intersectFrom]
    split
    · rename_i hempty
      refine ⟨found, yields_pure _, fun v => ?_⟩
      have hv : ¬ v ∈ found := by
        rw [VerseSet.isEmpty_iff.mp hempty]
        exact VerseSet.notMem_empty v
      simp [hv]
    · obtain ⟨s, hs, hhas⟩ : ix.Finds (ix.expanded cs term) _ := finds_expanded cs term
      obtain ⟨t, ht, hmem⟩ := ih (found ∩ s)
      refine ⟨t, hs.bind ht, fun v => ?_⟩
      simp [hmem, hhas, and_assoc]

/-- **The verses of all of the terms**, of which there are some. -/
theorem finds_intersect :
    ix.Finds (ix.intersect cs terms) fun v => terms ≠ [] ∧ ∀ t ∈ terms, ix.Has cs t v := by
  cases terms with
  | nil => exact finds_empty.of_iff (by simp)
  | cons term terms =>
    obtain ⟨s, hs, hhas⟩ : ix.Finds (ix.expanded cs term) _ := finds_expanded cs term
    obtain ⟨t, ht, hmem⟩ : ix.Finds (ix.intersectFrom cs s terms) _ := finds_intersectFrom s
    refine ⟨t, hs.bind ht, fun v => ?_⟩
    simp [hmem, hhas]

/-- **The verses of an odd number of the terms.** -/
theorem finds_symmDiff :
    ix.Finds (ix.symmDiff cs terms) fun v => terms.countP (fun t => ix.Has cs t v) % 2 = 1 := by
  induction terms with
  | nil => exact finds_empty.of_iff (by simp)
  | cons term terms ih =>
    refine (finds_expanded cs term).map₂ ih fun s t v hs ht => ?_
    rw [VerseSet.mem_symmDiff, hs, ht, List.countP_cons]
    by_cases hterm : ix.Has cs term v
    · simp only [hterm, true_iff, decide_true, if_true]
      omega
    · simp [hterm]

theorem determined_getUncommon (limit : Nat) (ws : List String) :
    ix.Determined (ix.getUncommon limit ws) := by
  induction ws with
  | nil => exact determined_pure ∅
  | cons w ws ih =>
    exact (finds_get w.toList).determined.bind fun s => ih.bind fun rest => determined_pure _

theorem determined_partialWords (engine : Engine) (limit : Nat) (patterns : List (List Char)) :
    ix.Determined (ix.partialWords engine cs limit patterns) := by
  rw [partialWords]
  split
  · exact Determined.bind ⟨_, yields_fetchList _⟩ fun _ => determined_getUncommon limit _
  · exact determined_pure ∅

end Index

end Concordance
