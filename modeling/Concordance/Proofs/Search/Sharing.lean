import Concordance.Proofs.Search.Provenance

/-!
# Sharing what was looked up

An index is shared by whoever asks it, and keeps what it has looked up for all of them. Nobody can tell
from the answers: each of them is the one that an index gives which was asked nothing before. And what is
kept is there for good: no key is lost again, and under each are the verses that its record lists.

## Main definitions

* `Index.Inquiry`, `Index.Reply` — what an index and the searches on it can be asked, and the answers
* `Index.session` — inquiries one after another

## Main results

* `Index.determined_ask` — an inquiry has one answer, whatever was asked before
* `Index.keepsKeys_ask` — an inquiry forgets no key
* `Index.session_transparent` — a session answers like fresh indexes, and keeps what the records say
-/

namespace Concordance

namespace Index

/-! ### Inquiries -/

/-- What an index can be asked, by itself or in a search. -/
inductive Inquiry where
  /-- The verses of a term as it is spelled. -/
  | get (term : List Char)
  /-- The verses of a term in all its spellings. -/
  | expanded (caseSensitive : Bool) (term : List Char)
  /-- The verses of any of the terms. -/
  | union (caseSensitive : Bool) (terms : List (List Char))
  /-- The verses of all of the terms. -/
  | intersect (caseSensitive : Bool) (terms : List (List Char))
  /-- The verses of an odd number of the terms. -/
  | symmDiff (caseSensitive : Bool) (terms : List (List Char))
  /-- The verses of the words that match any of the patterns. -/
  | partialWords (engine : Engine) (caseSensitive : Bool) (limit : Nat) (patterns : List (List Char))
  /-- All words. -/
  | vocabulary
  /-- All Strong's numbers. -/
  | strongsVocabulary
  /-- All morphology tags. -/
  | morphVocabulary
  /-- A search in the texts of a source, with settings and an engine of its own. -/
  | search (source : Source) (settings : Settings) (engine : Engine) (r : Request)

/-- The answer to an inquiry. -/
inductive Reply where
  /-- Verses. -/
  | verses (s : VerseSet)
  /-- Words or tags. -/
  | strings (ws : List String)

/-- The computation that answers an inquiry. -/
def ask (ix : Index) : Inquiry → Lookup Reply
  | .get term => return .verses (← ix.get term)
  | .expanded caseSensitive term => return .verses (← ix.expanded caseSensitive term)
  | .union caseSensitive terms => return .verses (← ix.union caseSensitive terms)
  | .intersect caseSensitive terms => return .verses (← ix.intersect caseSensitive terms)
  | .symmDiff caseSensitive terms => return .verses (← ix.symmDiff caseSensitive terms)
  | .partialWords engine caseSensitive limit patterns =>
    return .verses (← ix.partialWords engine caseSensitive limit patterns)
  | .vocabulary => return .strings (← ix.fetchList wordsKey)
  | .strongsVocabulary => return .strings (← ix.fetchList strongsKey)
  | .morphVocabulary => return .strings (← ix.fetchList morphKey)
  | .search source settings engine r =>
    return .verses (← (⟨ix, source, settings, engine⟩ : Searcher).search r)

/-- Inquiries one after another. What one of them looks up is there for the next. -/
def session (ix : Index) (qs : List Inquiry) : Lookup (List Reply) := qs.mapM ix.ask

variable {ix : Index} {α : Type}

/-! ### One inquiry -/

/-- An inquiry has one answer. -/
theorem determined_ask (q : Inquiry) : ix.Determined (ix.ask q) := by
  have hverses : ∀ {m : Lookup VerseSet}, ix.Determined m →
      ix.Determined (do return Reply.verses (← m)) := fun hm => hm.bind fun _ => determined_pure _
  have hstrings : ∀ key, ix.Determined (do return Reply.strings (← ix.fetchList key)) := fun key =>
    Determined.bind ⟨_, yields_fetchList key⟩ fun _ => determined_pure _
  cases q with
  | get term => exact hverses (finds_get term).determined
  | expanded caseSensitive term => exact hverses (finds_expanded caseSensitive term).determined
  | union caseSensitive terms => exact hverses finds_union.determined
  | intersect caseSensitive terms => exact hverses finds_intersect.determined
  | symmDiff caseSensitive terms => exact hverses finds_symmDiff.determined
  | partialWords engine caseSensitive limit patterns =>
    exact hverses (determined_partialWords engine limit patterns)
  | vocabulary | strongsVocabulary | morphVocabulary => exact hstrings _
  | search source settings engine r =>
    have hsearch := Searcher.determined_search (s := ⟨ix, source, settings, engine⟩) r
    exact hverses hsearch

/-- A computation forgets no key that was looked up before it. -/
def KeepsKeys (ix : Index) (m : Lookup α) : Prop := ix.GivesFrom (fun _ => True) m fun _ => True

/-- An inquiry forgets no key. -/
theorem keepsKeys_ask (q : Inquiry) : ix.KeepsKeys (ix.ask q) := by
  have hany : ∀ key, True → ∀ v ∈ ix.postings key, True := fun _ _ _ _ => trivial
  have hverses : ∀ {m : Lookup VerseSet}, ix.Gathers (fun _ => True) (fun _ => True) m →
      ix.KeepsKeys (do return Reply.verses (← m)) := fun hm =>
    hm.bind fun _ => givesFrom_pure fun _ => trivial
  have hstrings : ∀ key, ix.KeepsKeys (do return Reply.strings (← ix.fetchList key)) := fun key =>
    (givesFrom_fetchList key).bind fun _ => givesFrom_pure fun _ => trivial
  cases q with
  | get term => exact hverses (gathers_get hany term)
  | expanded caseSensitive term => exact hverses (gathers_expanded hany caseSensitive term)
  | union caseSensitive terms => exact hverses (gathers_union hany caseSensitive terms)
  | intersect caseSensitive terms => exact hverses (gathers_intersect hany caseSensitive terms)
  | symmDiff caseSensitive terms => exact hverses (gathers_symmDiff hany caseSensitive terms)
  | partialWords engine caseSensitive limit patterns =>
    exact hverses (gathers_partialWords hany engine caseSensitive limit patterns)
  | vocabulary | strongsVocabulary | morphVocabulary => exact hstrings _
  | search source settings engine r =>
    have hsearch := Searcher.gathers_search (s := ⟨ix, source, settings, engine⟩) hany
      (fun _ _ => trivial) r
    exact hverses hsearch

/-! ### Sessions -/

/-- Every reply of a session is the one of a fresh index. -/
theorem yields_session (qs : List Inquiry) :
    ix.Yields (ix.session qs) (qs.map fun q => answer (ix.ask q)) := by
  induction qs with
  | nil => exact yields_pure []
  | cons q qs ih =>
    rw [session, List.mapM_cons]
    exact (determined_ask q).yields.bind (ih.bind (yields_pure _))

/-- A session forgets no key. -/
theorem keepsKeys_session (qs : List Inquiry) : ix.KeepsKeys (ix.session qs) := by
  induction qs with
  | nil => exact givesFrom_pure trivial
  | cons q qs ih =>
    rw [session, List.mapM_cons]
    exact (keepsKeys_ask q).bind fun _ => GivesFrom.imp
      (ih.bind fun _ => givesFrom_pure fun _ => trivial) fun _ h _ => h

/-- What was looked up by some inquiries and more after them. -/
theorem run_session_append (cache : Cache) (qs more : List Inquiry) :
    ((ix.session (qs ++ more)).run cache).2
      = ((ix.session more).run ((ix.session qs).run cache).2).2 := by
  rw [session, List.mapM_append]
  rfl

/-- The strings under a key are those that its record lists: none if the record is missing, cannot be
read or is no list. -/
theorem mem_listed_iff_get {key word : String} :
    word ∈ ix.listed key ↔ ∃ bs j ws, ix.storage.get key = .ok (some bs) ∧
      Json.ofBytes? bs = some j ∧ j.texts? = some ws ∧ word ∈ ws := by
  rw [listed, Storage.value?]
  cases ix.storage.get key with
  | error e => simp
  | ok value? =>
    cases value? with
    | none => simp
    | some bs =>
      cases hj : Json.ofBytes? bs with
      | none => simp [hj]
      | some j => cases hws : j.texts? <;> simp [hj, hws]

/-- **Nobody can tell that an index is shared.** Over any records, whether they can be read or not, each
reply of a session is the one that the index gives when nothing was looked up before. The keys that were
looked up stay when more is asked, and under each are the verses that its record lists. -/
theorem session_transparent (storage : Storage) (qs : List Inquiry) :
    (((ofStorage storage).session qs).run ∅).1
        = qs.map (fun q => (((ofStorage storage).ask q).run ∅).1) ∧
      (∀ more, ∀ key ∈ (((ofStorage storage).session qs).run ∅).2,
        key ∈ (((ofStorage storage).session (qs ++ more)).run ∅).2) ∧
      ∀ key s, (((ofStorage storage).session qs).run ∅).2.postings[key]? = some s →
        ∀ v, v ∈ s ↔ ∃ word, (∃ bs j ws, storage.get key = .ok (some bs) ∧
          Json.ofBytes? bs = some j ∧ j.texts? = some ws ∧ word ∈ ws) ∧ Verse.parse word = v := by
  have hsession := (yields_session qs : (ofStorage storage).Yields _ _)
  obtain ⟨hreplies, hsound⟩ := hsession ∅ soundCache_empty
  refine ⟨hreplies, fun more key hkey => ?_, fun key s hs v => ?_⟩
  · rw [run_session_append]
    exact (keepsKeys_session more _ hsound).2.1 key hkey
  · rw [hsound.postings key s hs, mem_postings_iff_listed]
    simp only [mem_listed_iff_get]
    rfl

end Index

end Concordance
