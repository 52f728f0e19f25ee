import Concordance.Proofs.Index.Vocabulary
import Concordance.Proofs.Search.OwnText

/-!
# Where found verses come from

Whatever a search finds stands under a key that the search has looked up, or has a text that it has
scanned. So a search over the index of a builder finds verses that were added to the builder, as long
as it does not look up one of the lists of words and tags: what these hold is then read as references
of verses.

## Main definitions

* `Index.GivesFrom` — a property of what a computation gives, if it looks up nothing but allowed keys
* `Index.Gathers` — a property of the verses that a computation finds

## Main results

* `Searcher.gathers_search` — what holds of verses under keys and of verses with texts holds of all
  that any search finds
* `Index.Builder.added_or_listed_of_mem_search` — a verse that is found was added, or is read from a
  list
-/

namespace Concordance

namespace Index

variable {ix : Index} {K : String → Prop} {α β : Type}

/-! ### What is looked up -/

/-- A computation only adds to what was looked up. If in the end nothing was looked up but under keys
with `K`, what it gives has the property `R`. -/
def GivesFrom (ix : Index) (K : String → Prop) (m : Lookup α) (R : α → Prop) : Prop :=
  ∀ cache, ix.SoundCache cache →
    ix.SoundCache (m.run cache).2 ∧ (∀ key ∈ cache, key ∈ (m.run cache).2) ∧
      ((∀ key ∈ (m.run cache).2, K key) → R (m.run cache).1)

variable {m : Lookup α} {R S : α → Prop} {P : Verse → Prop}

theorem givesFrom_pure {x : α} (h : R x) : ix.GivesFrom K (pure x) R :=
  fun _ hcache => ⟨hcache, fun _ hkey => hkey, fun _ => h⟩

/-- A second part may rely on what the first one gives, as nothing is forgotten in between. -/
theorem GivesFrom.bind {f : α → Lookup β} {T : β → Prop} (hm : ix.GivesFrom K m R)
    (hf : ∀ x, ix.GivesFrom K (f x) fun y => R x → T y) : ix.GivesFrom K (m >>= f) T := by
  intro cache hcache
  obtain ⟨hsound, hgrow, hgives⟩ := hm cache hcache
  obtain ⟨hsound', hgrow', hgives'⟩ := hf (m.run cache).1 _ hsound
  refine ⟨hsound', fun key hkey => hgrow' key (hgrow key hkey), fun hall => ?_⟩
  exact hgives' hall (hgives fun key hkey => hall key (hgrow' key hkey))

theorem GivesFrom.imp (hm : ix.GivesFrom K m R) (himp : ∀ x, R x → S x) : ix.GivesFrom K m S := by
  intro cache hcache
  obtain ⟨hsound, hgrow, hgives⟩ := hm cache hcache
  exact ⟨hsound, hgrow, fun hall => himp _ (hgives hall)⟩

/-- The verses under a key are looked up under that key. -/
theorem givesFrom_fetch (key : String) :
    ix.GivesFrom K (ix.fetch key) fun s => K key ∧ s = ix.postings key := by
  intro cache hcache
  have hsound := (yields_fetch key cache hcache).2
  rw [run_fetch] at hsound ⊢
  cases h : cache.postings[key]? with
  | some s =>
    have hmem : key ∈ cache.postings := by
      rw [Std.TreeMap.mem_iff_isSome_getElem?, h]
      rfl
    exact ⟨hcache, fun _ hkey => hkey, fun hall => ⟨hall key hmem, hcache.postings key s h⟩⟩
  | none =>
    rw [h] at hsound
    refine ⟨hsound, fun key' hkey' => ?_, fun hall => ⟨hall key ?_, rfl⟩⟩
    · exact Std.TreeMap.mem_insert.mpr (.inr hkey')
    · exact Std.TreeMap.mem_insert_self

/-- Lists of words and tags are kept apart from the verses under keys. -/
theorem givesFrom_fetchList (key : String) :
    ix.GivesFrom K (ix.fetchList key) fun ws => ws = ix.listed key := by
  intro cache hcache
  have hyields := yields_fetchList key cache hcache
  refine ⟨hyields.2, fun key' hkey' => ?_, fun _ => hyields.1⟩
  rw [run_fetchList]
  cases cache.lists[key]? <;> exact hkey'

/-! ### Verses of terms -/

/-- A computation finds verses with a property, if it looks up nothing but allowed keys. -/
def Gathers (ix : Index) (K : String → Prop) (P : Verse → Prop) (m : Lookup VerseSet) : Prop :=
  ix.GivesFrom K m fun s => ∀ v ∈ s, P v

theorem gathers_empty : ix.Gathers K P (pure ∅) :=
  givesFrom_pure fun v hv => absurd hv (VerseSet.notMem_empty v)

/-- What is found is put together by an operation that adds nothing. -/
theorem Gathers.map₂ {m n : Lookup VerseSet} {op : VerseSet → VerseSet → VerseSet}
    (hm : ix.Gathers K P m) (hn : ix.Gathers K P n)
    (hop : ∀ s t, ∀ v ∈ op s t, v ∈ s ∨ v ∈ t) :
    ix.Gathers K P (do return op (← m) (← n)) := by
  refine hm.bind fun s => ?_
  refine hn.bind fun t => givesFrom_pure fun ht hs v hv => ?_
  exact (hop s t v hv).elim (hs v) (ht v)

theorem mem_or_mem_of_symmDiff {s t : VerseSet} {v : Verse} (hv : v ∈ s.symmDiff t) :
    v ∈ s ∨ v ∈ t := by
  rw [VerseSet.mem_symmDiff] at hv
  tauto

section

variable (hkeys : ∀ key, K key → ∀ v ∈ ix.postings key, P v)

include hkeys

theorem gathers_get (term : List Char) : ix.Gathers K P (ix.get term) := by
  refine (givesFrom_fetch _).imp ?_
  rintro s ⟨hkey, rfl⟩
  exact hkeys _ hkey

theorem gathers_getAll (terms : List (List Char)) : ix.Gathers K P (ix.getAll terms) := by
  induction terms with
  | nil => exact gathers_empty
  | cons t ts ih => exact (gathers_get hkeys t).map₂ ih fun _ _ _ => VerseSet.mem_union.mp

theorem gathers_expanded (caseSensitive : Bool) (term : List Char) :
    ix.Gathers K P (ix.expanded caseSensitive term) :=
  gathers_getAll hkeys _

end

/-- What is left of an intersection was found before. -/
theorem givesFrom_intersectFrom (caseSensitive : Bool) (terms : List (List Char))
    (found : VerseSet) :
    ix.GivesFrom K (ix.intersectFrom caseSensitive found terms) fun s => ∀ v ∈ s, v ∈ found := by
  have hany : ∀ t, ix.Gathers K (fun _ => True) (ix.expanded caseSensitive t) := fun t =>
    gathers_expanded (fun _ _ _ _ => trivial) caseSensitive t
  induction terms generalizing found with
  | nil => exact givesFrom_pure fun v hv => hv
  | cons t ts ih =>
    rw [intersectFrom]
    split
    · exact givesFrom_pure fun v hv => hv
    · refine (hany t).bind fun s => (ih (found ∩ s)).imp fun left hleft _ v hv => ?_
      exact (VerseSet.mem_inter.mp (hleft v hv)).1

section

variable (hkeys : ∀ key, K key → ∀ v ∈ ix.postings key, P v)

include hkeys

theorem gathers_union (caseSensitive : Bool) (terms : List (List Char)) :
    ix.Gathers K P (ix.union caseSensitive terms) := by
  induction terms with
  | nil => exact gathers_empty
  | cons t ts ih =>
    exact (gathers_expanded hkeys caseSensitive t).map₂ ih fun _ _ _ => VerseSet.mem_union.mp

theorem gathers_intersect (caseSensitive : Bool) (terms : List (List Char)) :
    ix.Gathers K P (ix.intersect caseSensitive terms) := by
  cases terms with
  | nil => exact gathers_empty
  | cons t ts =>
    refine (gathers_expanded hkeys caseSensitive t).bind fun s => ?_
    exact (givesFrom_intersectFrom caseSensitive ts s).imp fun left hleft hs v hv =>
      hs v (hleft v hv)

theorem gathers_symmDiff (caseSensitive : Bool) (terms : List (List Char)) :
    ix.Gathers K P (ix.symmDiff caseSensitive terms) := by
  induction terms with
  | nil => exact gathers_empty
  | cons t ts ih =>
    exact (gathers_expanded hkeys caseSensitive t).map₂ ih fun _ _ _ => mem_or_mem_of_symmDiff

theorem gathers_getUncommon (limit : Nat) (ws : List String) :
    ix.Gathers K P (ix.getUncommon limit ws) := by
  induction ws with
  | nil => exact gathers_empty
  | cons w ws ih =>
    have hop : ∀ s rest : VerseSet, ∀ v ∈ (if s.size < limit then s ∪ rest else rest),
        v ∈ s ∨ v ∈ rest := by
      intro s rest v hv
      split at hv
      · exact VerseSet.mem_union.mp hv
      · exact .inr hv
    exact (gathers_get hkeys w.toList).map₂ ih hop

theorem gathers_partialWords (engine : Engine) (caseSensitive : Bool) (limit : Nat)
    (patterns : List (List Char)) :
    ix.Gathers K P (ix.partialWords engine caseSensitive limit patterns) := by
  rw [partialWords]
  split
  · refine (givesFrom_fetchList wordsKey).bind fun ws => ?_
    exact (gathers_getUncommon hkeys limit _).imp fun s h _ => h
  · exact gathers_empty

end

end Index

namespace Searcher

open Index

variable {s : Searcher} {K : String → Prop} {P : Verse → Prop}

theorem mem_of_mem_restrict {p : Plan} {found : VerseSet} {v : Verse} (hv : v ∈ p.restrict found) :
    v ∈ found :=
  (Plan.mem_restrict.mp hv).2

theorem mem_of_mem_finish {p : Plan} {found : VerseSet} {v : Verse} (hv : v ∈ p.finish found) :
    v ∈ found := by
  rw [Plan.finish] at hv
  split at hv
  · exact mem_of_mem_restrict hv
  · exact hv

/-- What a pattern is found in is the text of a verse. -/
theorem isSome_of_mem_patternSearch {p : Plan} {v : Verse} (hv : v ∈ s.patternSearch p) :
    (s.source v).isSome = true := by
  have hmatch := (mem_scan.mp hv).2
  rw [matchesVerse] at hmatch
  cases hsource : s.source v with
  | none => simp [hsource] at hmatch
  | some raw => rfl

section

variable (hkeys : ∀ key, K key → ∀ v ∈ s.index.postings key, P v)

include hkeys

theorem gathers_phraseCandidates (p : Plan) : s.index.Gathers K P (s.phraseCandidates p) := by
  have hrestrict : ∀ {m : Lookup VerseSet}, s.index.Gathers K P m →
      s.index.Gathers K P (do return p.restrict (← m)) := fun hm =>
    hm.bind fun found => givesFrom_pure fun h v hv => h v (mem_of_mem_restrict hv)
  rw [phraseCandidates]
  split
  · exact hrestrict (gathers_partialWords hkeys _ _ _ _)
  · exact hrestrict (gathers_intersect hkeys _ _)

theorem gathers_phraseSearch (p : Plan) (sloppy : Bool) :
    s.index.Gathers K P (s.phraseSearch p sloppy) := by
  rw [phraseSearch]
  split
  · exact gathers_empty
  · refine (gathers_phraseCandidates hkeys p).bind fun candidates => ?_
    split
    · exact givesFrom_pure fun h => h
    · exact givesFrom_pure fun h v hv => h v (mem_scan.mp hv).1

variable (htexts : ∀ v, (s.source v).isSome = true → P v)

include htexts

/-- **What a strategy finds stands under a key that is looked up, or has a text.** -/
theorem gathers_runBasic (p : Plan) : s.index.Gathers K P (s.runBasic p) := by
  have hfinish : ∀ {m : Lookup VerseSet}, s.index.Gathers K P m →
      s.index.Gathers K P (do return p.finish (← m)) := fun hm =>
    hm.bind fun found => givesFrom_pure fun h v hv => h v (mem_of_mem_finish hv)
  rw [runBasic]
  split
  · exact gathers_empty
  · cases p.strategy with
    | multiword => exact hfinish (gathers_intersect hkeys _ _)
    | anyword => exact hfinish (gathers_union hkeys _ _)
    | eitheror => exact hfinish (gathers_symmDiff hkeys _ _)
    | partialWord => exact hfinish (gathers_partialWords hkeys _ _ _ _)
    | phrase | mixedPhrase => exact hfinish (gathers_phraseSearch hkeys _ _)
    | orderedMultiword => exact hfinish (gathers_phraseSearch hkeys _ _)
    | regex => exact givesFrom_pure fun v hv => htexts v (isSome_of_mem_patternSearch hv)
    | combined | combinedPhrase | mixed => exact gathers_empty

/-! ### Combinations of searches -/

theorem givesFrom_foldGroups (p : Plan) (phrases : Bool) (gs : List Group) (found : VerseSet) :
    s.index.GivesFrom K (s.foldGroups p phrases found gs) fun after =>
      (∀ v ∈ found, P v) → ∀ v ∈ after, P v := by
  induction gs generalizing found with
  | nil => exact givesFrom_pure fun hfound => hfound
  | cons g gs ih =>
    refine (gathers_runBasic hkeys htexts (groupPlan p phrases g)).bind fun result => ?_
    refine (ih (g.fold found result)).imp fun after hafter hresult hfound => hafter fun v hv => ?_
    rw [Group.fold] at hv
    split at hv
    · exact hfound v (VerseSet.mem_inter.mp hv).1
    · exact (mem_or_mem_of_symmDiff hv).elim (hfound v) (hresult v)

theorem gathers_combinedSearch (p : Plan) (phrases : Bool) :
    s.index.Gathers K P (s.combinedSearch p phrases) := by
  refine (givesFrom_foldGroups hkeys htexts p phrases _ ∅).bind fun found => ?_
  refine (givesFrom_foldGroups hkeys htexts p phrases _ ∅).bind fun excluded => ?_
  refine givesFrom_pure fun _ hfound v hv => ?_
  exact hfound (fun w hw => absurd hw (VerseSet.notMem_empty w)) v (VerseSet.mem_sdiff.mp hv).1

theorem givesFrom_foldTerms (p : Plan) (terms : List (List Char)) (m : Sides) :
    s.index.GivesFrom K (s.foldTerms p m terms) fun after => m.All P → after.All P := by
  induction terms generalizing m with
  | nil => exact givesFrom_pure fun hm => hm
  | cons t ts ih =>
    refine (gathers_runBasic hkeys htexts (termPlan p (roleOf t).2)).bind fun result => ?_
    exact (ih _).imp fun after hafter hresult hm => hafter (hm.push hresult _ _)

theorem gathers_mixedSearch (p : Plan) : s.index.Gathers K P (s.mixedSearch p) := by
  refine (givesFrom_foldTerms hkeys htexts p p.rawTerms {}).bind fun m => ?_
  exact givesFrom_pure fun hm => (hm (Sides.all_empty P)).of_mem_total

/-- **What a search finds stands under a key that is looked up, or has a text.** -/
theorem gathers_search (r : Request) : s.index.Gathers K P (s.search r) := by
  rw [search, run]
  split
  · exact gathers_empty
  · split
    · exact gathers_combinedSearch hkeys htexts _ _
    · exact gathers_combinedSearch hkeys htexts _ _
    · exact gathers_mixedSearch hkeys htexts _
    · exact gathers_runBasic hkeys htexts _

end

/-- **A verse that is found stands under a key that was looked up, or has a text.** -/
theorem exists_of_mem_search (s : Searcher) (earlier : List Request) (r : Request) {v : Verse}
    (hv : v ∈ s.resultAfter earlier r) :
    (s.source v).isSome = true ∨ ∃ key ∈ s.cacheAfter [r], v ∈ s.index.postings key := by
  have hkeys : ∀ key, key ∈ s.cacheAfter [r] → ∀ v ∈ s.index.postings key,
      (s.source v).isSome = true ∨ ∃ key ∈ s.cacheAfter [r], v ∈ s.index.postings key :=
    fun key hkey v hv => .inr ⟨key, hkey, hv⟩
  have hgathers := gathers_search hkeys (fun v hv => .inl hv) r
  rw [resultAfter_eq] at hv
  exact (hgathers ∅ soundCache_empty).2.2 (fun key hkey => hkey) v hv

end Searcher

/-! ### Over the index of a builder -/

namespace Index.Builder

variable {b : Builder} {v : Verse}

/-- Only verses that were added have texts. -/
theorem exists_of_isSome_source (h : (b.source v).isSome = true) : ∃ raw, (v, raw) ∈ b.added := by
  obtain ⟨raw, hraw⟩ := Option.isSome_iff_exists.mp h
  exact ⟨raw, mem_added_of_getElem?_texts (b.source_eq v ▸ hraw)⟩

/-- **A verse that is found was added, or is read from a list.** Over the index of a builder and its
texts, with any settings, and whatever the earlier searches were, the answer of any search has verses
that were added, and besides them only verses whose references are read out of a list of words or tags
that the search itself has looked up. -/
theorem added_or_listed_of_mem_search {engine : Engine} {settings : Settings} {earlier : List Request}
    {r : Request} (hv : v ∈ (b.searcher engine b.source settings).resultAfter earlier r) :
    (∃ raw, (v, raw) ∈ b.added) ∨
      ∃ list ∈ wordLists, list.1 ∈ (b.searcher engine b.source settings).cacheAfter [r] ∧
        ∃ p ∈ b.added, ∃ word ∈ list.2 (Extract.ofText p.2),
          Verse.parse (String.ofList word) = v := by
  rcases Searcher.exists_of_mem_search _ _ _ hv with htext | ⟨key, hkey, hpostings⟩
  · exact .inl (exists_of_isSome_source htext)
  · by_cases hlist : ∃ list ∈ wordLists, list.1 = key
    · obtain ⟨list, hlist, rfl⟩ := hlist
      exact .inr ⟨list, hlist, hkey, (mem_postings_list_iff hlist).mp hpostings⟩
    · exact .inl (exists_of_mem_postings (fun list hmem h => hlist ⟨list, hmem, h⟩) hpostings)

/-- A text with a word that is read as the name of a book. -/
def light : String := "Let there be light"

/-- The key of the list of words finds the verses that the words are read as. -/
theorem mem_search_wordsKey :
    Verse.parse "Let" ∈ ((single light).searcher .unlimited (single light).source {}).resultAfter []
      ⟨.multiword, [wordsKey], {}⟩ := by
  have hplan : (Plan.ofTerms .multiword [wordsKey.toList] {}).isEmpty = false ∧
      (Plan.ofTerms .multiword [wordsKey.toList] {}).termTexts = [wordsKey.toList] := by
    decide +kernel
  have hkey : String.ofList (Term.normalizeKey wordsKey.toList) = wordsKey := by decide +kernel
  have hlist : (wordsKey, Extract.words) ∈ wordLists := by simp [wordLists]
  have hlisted : (ofBuilder (single light)).HasForm wordsKey.toList (Verse.parse "Let") := by
    rw [HasForm, hkey]
    refine (mem_postings_list_iff hlist).mpr ⟨_, List.mem_singleton.mpr rfl, "Let".toList, ?_, ?_⟩
    · decide +kernel
    · rw [String.ofList_toList]
  refine (Searcher.mem_resultAfter (Searcher.finds_run_multiword hplan.1 rfl) [] _).mpr ⟨?_, ?_⟩
  · intro range h
    cases h
  · change (Plan.ofTerms .multiword [wordsKey.toList] {}).termTexts ≠ [] ∧
      ∀ t ∈ (Plan.ofTerms .multiword [wordsKey.toList] {}).termTexts, _
    rw [hplan.2]
    exact ⟨List.cons_ne_nil _ _, List.forall_mem_singleton.mpr ⟨_, List.mem_cons_self, hlisted⟩⟩

theorem added_or_listed_light :
    Verse.parse "Let" ∈ ((single light).searcher .unlimited (single light).source {}).resultAfter []
        ⟨.multiword, [wordsKey], {}⟩ ∧
      ((∃ raw, (Verse.parse "Let", raw) ∈ (single light).added) ∨
        ∃ list ∈ wordLists,
          list.1 ∈ ((single light).searcher .unlimited (single light).source {}).cacheAfter
            [⟨.multiword, [wordsKey], {}⟩] ∧
          ∃ p ∈ (single light).added, ∃ word ∈ list.2 (Extract.ofText p.2),
            Verse.parse (String.ofList word) = Verse.parse "Let") :=
  ⟨mem_search_wordsKey, added_or_listed_of_mem_search mem_search_wordsKey⟩

/-- A search for the key of a list finds a verse that was never added. -/
theorem search_wordsKey_unadded :
    ¬ ∀ v ∈ ((single light).searcher .unlimited (single light).source {}).resultAfter []
      ⟨.multiword, [wordsKey], {}⟩, ∃ raw, (v, raw) ∈ (single light).added := by
  intro hall
  obtain ⟨raw, hraw⟩ := hall _ mem_search_wordsKey
  have hverse : Verse.parse "Let" ≠ .first := by decide +kernel
  exact hverse (Prod.mk.inj (List.mem_singleton.mp hraw)).1

end Index.Builder

end Concordance
