import Concordance.Proofs.Index.Lookup
import Concordance.Searcher

/-!
# Searches after other searches

A searcher keeps what it has looked up from one search to the next. Every search, of any strategy,
gives one answer whatever was looked up before, and keeps the cache sound; so a search after any
other searches answers like the first one.

## Main definitions

* `Searcher.cacheAfter` — what has been looked up after some searches
* `Searcher.resultAfter` — the answer of a search after others

## Main results

* `Searcher.determined_search` — a search gives one answer
* `Searcher.soundCache_cacheAfter` — the cache stays sound
* `Searcher.resultAfter_eq` — earlier searches make no difference
-/

namespace Concordance

namespace Searcher

open Index

/-- What has been looked up after some searches. -/
def cacheAfter (s : Searcher) (earlier : List Request) : Cache :=
  earlier.foldl (fun cache r => ((s.search r).run cache).2) ∅

/-- The answer of a search after others. -/
def resultAfter (s : Searcher) (earlier : List Request) (r : Request) : VerseSet :=
  ((s.search r).run (s.cacheAfter earlier)).1

variable {s : Searcher} {p : Plan}

theorem determined_phraseCandidates : s.index.Determined (s.phraseCandidates p) := by
  rw [phraseCandidates]
  split
  · exact (determined_partialWords _ _ _).bind fun _ => determined_pure _
  · exact finds_intersect.determined.bind fun _ => determined_pure _

theorem determined_phraseSearch (sloppy : Bool) : s.index.Determined (s.phraseSearch p sloppy) := by
  rw [phraseSearch]
  split
  · exact determined_pure _
  · refine determined_phraseCandidates.bind fun candidates => ?_
    split <;> exact determined_pure _

theorem determined_runBasic : s.index.Determined (s.runBasic p) := by
  rw [runBasic]
  split
  · exact determined_pure _
  · cases p.strategy with
    | multiword => exact finds_intersect.determined.bind fun _ => determined_pure _
    | anyword => exact finds_union.determined.bind fun _ => determined_pure _
    | eitheror => exact finds_symmDiff.determined.bind fun _ => determined_pure _
    | partialWord => exact (determined_partialWords _ _ _).bind fun _ => determined_pure _
    | phrase | mixedPhrase => exact (determined_phraseSearch false).bind fun _ => determined_pure _
    | orderedMultiword => exact (determined_phraseSearch true).bind fun _ => determined_pure _
    | regex | combined | combinedPhrase | mixed => exact determined_pure _

theorem determined_foldGroups (phrases : Bool) (found : VerseSet) (gs : List Group) :
    s.index.Determined (s.foldGroups p phrases found gs) := by
  induction gs generalizing found with
  | nil => exact determined_pure _
  | cons g gs ih => exact determined_runBasic.bind fun _ => ih _

theorem determined_combinedSearch (phrases : Bool) :
    s.index.Determined (s.combinedSearch p phrases) :=
  (determined_foldGroups _ _ _).bind fun _ =>
    (determined_foldGroups _ _ _).bind fun _ => determined_pure _

theorem determined_foldTerms (m : Sides) (terms : List (List Char)) :
    s.index.Determined (s.foldTerms p m terms) := by
  induction terms generalizing m with
  | nil => exact determined_pure _
  | cons t ts ih => exact determined_runBasic.bind fun _ => ih _

/-- **A search gives one answer**, whatever was looked up before. -/
theorem determined_search (r : Request) : s.index.Determined (s.search r) := by
  rw [search, run]
  split
  · exact determined_pure _
  · split
    · exact determined_combinedSearch false
    · exact determined_combinedSearch true
    · exact (determined_foldTerms _ _).bind fun _ => determined_pure _
    · exact determined_runBasic

/-- **The cache stays sound.** -/
theorem soundCache_cacheAfter (s : Searcher) (earlier : List Request) :
    s.index.SoundCache (s.cacheAfter earlier) := by
  have hfold : ∀ (rs : List Request) (cache : Cache), s.index.SoundCache cache →
      s.index.SoundCache (rs.foldl (fun cache r => ((s.search r).run cache).2) cache) := by
    intro rs
    induction rs with
    | nil => exact fun cache h => h
    | cons r rs ih => exact fun cache h => ih _ ((determined_search r).soundCache h)
  exact hfold earlier ∅ soundCache_empty

/-- **Earlier searches make no difference.** -/
theorem resultAfter_eq (s : Searcher) (earlier : List Request) (r : Request) :
    s.resultAfter earlier r = answer (s.search r) :=
  (determined_search r).run_eq (s.soundCache_cacheAfter earlier)

/-- What a search finds, it finds after any other searches. -/
theorem mem_resultAfter {P : Verse → Prop} {r : Request} (h : s.index.Finds (s.search r) P)
    (earlier : List Request) (v : Verse) : v ∈ s.resultAfter earlier r ↔ P v :=
  h.mem_run (s.soundCache_cacheAfter earlier) v

end Searcher

end Concordance
