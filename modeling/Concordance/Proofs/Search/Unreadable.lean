import Concordance.Proofs.Search.Sharing
import Concordance.Proofs.Search.Words
import Concordance.Proofs.Storage.Backends

/-!
# Records that cannot be read

A record that cannot be read, or whose value is no JSON, is like a record that is not there. An index
reads its records in four ways: the spellings when it is opened, the verses under a key and the lists
of words when they are first asked for, and the texts of verses whenever they are wanted. All of them go
through `Storage.value?`, so that is the only place where the records are told apart. What is computed
from the same values is the same, answers and cache alike.

## Main definitions

* `Storage.IsUnreadable` — a key whose record is of no use
* `Storage.without` — the records without those under some keys
* `Storage.SameValues` — storages whose values are the same
* `Index.Operation`, `Storage.perform` — what open records can be used for, and how

## Main results

* `Storage.answersFrom_without` — leaving out keys leaves the other records
* `Index.SameReadings.ask_eq` — an inquiry depends on what is read, and on nothing else
* `Storage.serve_without` — unreadable records are like missing ones, in any session
-/

namespace Concordance

theorem Records.getElem?_filter_key (r : Records) (p : String → Bool) (key : String) :
    (r.filter fun key _ => p key)[key]? = if p key then r[key]? else none := by
  rw [Std.TreeMap.getElem?_filter']
  cases r[key]? <;> simp [Option.filter]

/-! ### Values -/

namespace Storage

variable {s s' : Storage} {lost : String → Bool} {key : String}

/-- The record under a key is of no use: it cannot be read, or its value is no JSON. -/
def IsUnreadable (s : Storage) (key : String) : Prop :=
  (∃ e, s.get key = .error e) ∨ ∃ bs, s.get key = .ok (some bs) ∧ Json.ofBytes? bs = none

/-- The records without those under some keys. -/
def without (s : Storage) (lost : String → Bool) : Storage where
  get key := if lost key then .ok none else s.get key
  contains key := !lost key && s.contains key
  keys := s.keys.filter fun key => !lost key
  size := (s.keys.filter fun key => !lost key).length

/-- Two storages hold the same JSON values under the same keys, as far as they can be read. -/
def SameValues (s s' : Storage) : Prop := ∀ key, s.value? some key = s'.value? some key

/-- A value is decoded from the JSON value. -/
theorem value?_eq_bind {α : Type} (s : Storage) (decode : Json → Option α) (key : String) :
    s.value? decode key = (s.value? some key).bind decode := by
  rw [value?, value?]
  rcases s.get key with _ | ⟨_ | _⟩ <;> simp

theorem SameValues.value?_eq {α : Type} (h : s.SameValues s') (decode : Json → Option α) :
    s.value? decode = s'.value? decode := by
  funext key
  rw [value?_eq_bind, h key, ← value?_eq_bind]

/-- **What cannot be read has no value.** -/
theorem IsUnreadable.value?_eq_none {α : Type} (h : s.IsUnreadable key)
    (decode : Json → Option α) : s.value? decode key = none := by
  rw [value?]
  obtain ⟨e, he⟩ | ⟨bs, hbs, hnone⟩ := h
  · simp [he]
  · simp [hbs, hnone]

theorem get_without_of_lost (h : lost key = true) : (s.without lost).get key = .ok none := if_pos h

theorem get_without_of_not_lost (h : lost key = false) : (s.without lost).get key = s.get key := by
  simp [without, h]

/-- **Without unreadable records the values are the same.** -/
theorem sameValues_without (h : ∀ key, lost key = true → s.IsUnreadable key) :
    s.SameValues (s.without lost) := by
  intro key
  cases hlost : lost key with
  | true => rw [(h key hlost).value?_eq_none, value?, get_without_of_lost hlost]
  | false => rw [value?, value?, get_without_of_not_lost hlost]

/-- Of readable records, those are left whose keys are not left out. -/
theorem answersFrom_without (r : Records) :
    ((ofRecords r).without lost).AnswersFrom (r.filter fun key _ => !lost key) where
  size := by
    rw [← Std.TreeMap.length_keys, Std.TreeMap.keys_filter_key]
    rfl
  keys := Std.TreeMap.keys_filter_key.symm
  contains key := by
    rw [← Std.TreeMap.isSome_getElem?_eq_contains, Records.getElem?_filter_key]
    cases hlost : lost key <;> simp [without, ofRecords, hlost]
  get key := by
    rw [Records.getElem?_filter_key]
    cases hlost : lost key <;> simp [without, ofRecords, hlost]

end Storage

/-! ### What is read -/

namespace Index

variable {ix ix' : Index}

/-- Two indexes read the same from their records. -/
structure SameReadings (ix ix' : Index) : Prop where
  /-- The verses under keys. -/
  postings : ix.postings = ix'.postings
  /-- The lists of words and tags. -/
  listed : ix.listed = ix'.listed
  /-- The spellings. -/
  spellings : ix.spellings = ix'.spellings

theorem sameReadings_ofStorage {s s' : Storage} (h : s.SameValues s') :
    (ofStorage s).SameReadings (ofStorage s') where
  postings := by
    funext key
    rw [postings, postings, ofStorage, ofStorage, h.value?_eq]
  listed := by
    funext key
    rw [listed, listed, ofStorage, ofStorage, h.value?_eq]
  spellings := by rw [ofStorage, ofStorage, h.value?_eq]

namespace SameReadings

variable (h : ix.SameReadings ix') {cs : Bool}

include h

theorem fetch_eq (key : String) : ix.fetch key = ix'.fetch key := by
  rw [fetch, fetch, h.postings]

theorem fetchList_eq (key : String) : ix.fetchList key = ix'.fetchList key := by
  rw [fetchList, fetchList, h.listed]

theorem variants_eq (word : String) : ix.variants word = ix'.variants word := by
  rw [variants, variants, h.spellings]

theorem get_eq (term : List Char) : ix.get term = ix'.get term := h.fetch_eq _

theorem getAll_eq (terms : List (List Char)) : ix.getAll terms = ix'.getAll terms := by
  induction terms with
  | nil => rfl
  | cons term terms ih => rw [getAll, getAll, h.get_eq, ih]

theorem forms_eq (term : List Char) : ix.forms cs term = ix'.forms cs term := by
  simp only [forms, h.variants_eq]

theorem expanded_eq (term : List Char) : ix.expanded cs term = ix'.expanded cs term := by
  rw [expanded, expanded, h.forms_eq, h.getAll_eq]

theorem union_eq (terms : List (List Char)) : ix.union cs terms = ix'.union cs terms := by
  induction terms with
  | nil => rfl
  | cons term terms ih => rw [union, union, h.expanded_eq, ih]

theorem intersectFrom_eq (found : VerseSet) (terms : List (List Char)) :
    ix.intersectFrom cs found terms = ix'.intersectFrom cs found terms := by
  induction terms generalizing found with
  | nil => rfl
  | cons term terms ih => simp only [intersectFrom, h.expanded_eq, ih]

theorem intersect_eq (terms : List (List Char)) : ix.intersect cs terms = ix'.intersect cs terms := by
  cases terms with
  | nil => rfl
  | cons term terms => simp only [intersect, h.expanded_eq, h.intersectFrom_eq]

theorem symmDiff_eq (terms : List (List Char)) : ix.symmDiff cs terms = ix'.symmDiff cs terms := by
  induction terms with
  | nil => rfl
  | cons term terms ih => rw [symmDiff, symmDiff, h.expanded_eq, ih]

theorem getUncommon_eq (limit : Nat) (ws : List String) :
    ix.getUncommon limit ws = ix'.getUncommon limit ws := by
  induction ws with
  | nil => rfl
  | cons w ws ih => rw [getUncommon, getUncommon, h.get_eq, ih]

theorem partialWords_eq (engine : Engine) (limit : Nat) (patterns : List (List Char)) :
    ix.partialWords engine cs limit patterns = ix'.partialWords engine cs limit patterns := by
  simp only [partialWords, h.fetchList_eq, h.getUncommon_eq]

end SameReadings

end Index

/-! ### Searches -/

namespace Searcher

open Index

variable {ix ix' : Index} (h : ix.SameReadings ix') (source : Source) (settings : Settings)
  (engine : Engine)

include h

theorem phraseSearch_eq (p : Plan) (sloppy : Bool) :
    phraseSearch ⟨ix, source, settings, engine⟩ p sloppy
      = phraseSearch ⟨ix', source, settings, engine⟩ p sloppy := by
  simp only [phraseSearch, phraseCandidates, h.partialWords_eq, h.intersect_eq]
  rfl

theorem runBasic_eq (p : Plan) :
    runBasic ⟨ix, source, settings, engine⟩ p = runBasic ⟨ix', source, settings, engine⟩ p := by
  simp only [runBasic, h.intersect_eq, h.union_eq, h.symmDiff_eq, h.partialWords_eq,
    phraseSearch_eq h]
  rfl

theorem foldGroups_eq (p : Plan) (phrases : Bool) (found : VerseSet) (gs : List Group) :
    foldGroups ⟨ix, source, settings, engine⟩ p phrases found gs
      = foldGroups ⟨ix', source, settings, engine⟩ p phrases found gs := by
  induction gs generalizing found with
  | nil => rfl
  | cons g gs ih => simp only [foldGroups, runBasic_eq h, ih]

theorem foldTerms_eq (p : Plan) (m : Sides) (terms : List (List Char)) :
    foldTerms ⟨ix, source, settings, engine⟩ p m terms
      = foldTerms ⟨ix', source, settings, engine⟩ p m terms := by
  induction terms generalizing m with
  | nil => rfl
  | cons t ts ih => simp only [foldTerms, runBasic_eq h, ih]

/-- **A search of any strategy depends on what the index reads, and on nothing else of it.** -/
theorem search_eq (r : Request) :
    search ⟨ix, source, settings, engine⟩ r = search ⟨ix', source, settings, engine⟩ r := by
  simp only [search, run, combinedSearch, mixedSearch, foldGroups_eq h, foldTerms_eq h,
    runBasic_eq h]

end Searcher

namespace Index

/-- **An inquiry depends on what is read, and on nothing else.** -/
theorem SameReadings.ask_eq {ix ix' : Index} (h : ix.SameReadings ix') (q : Inquiry) :
    ix.ask q = ix'.ask q := by
  cases q with
  | get term => simp only [ask, h.get_eq]
  | expanded caseSensitive term => simp only [ask, h.expanded_eq]
  | union caseSensitive terms => simp only [ask, h.union_eq]
  | intersect caseSensitive terms => simp only [ask, h.intersect_eq]
  | symmDiff caseSensitive terms => simp only [ask, h.symmDiff_eq]
  | partialWords engine caseSensitive limit patterns => simp only [ask, h.partialWords_eq]
  | vocabulary | strongsVocabulary | morphVocabulary => simp only [ask, h.fetchList_eq]
  | search source settings engine r => simp only [ask, Searcher.search_eq h]

/-! ### Operations on open records -/

/-- What open records can be used for. -/
inductive Operation where
  /-- An inquiry; the texts of a search are from anywhere. -/
  | ask (q : Inquiry)
  /-- A search in the texts of the records themselves. -/
  | search (settings : Settings) (engine : Engine) (r : Request)
  /-- The other spellings of a word in lower case. -/
  | variants (word : String)
  /-- The keys whose verses have been looked up. -/
  | cachedKeys
  /-- The text of a verse. -/
  | rawText (v : Verse)
  /-- The text of a verse as settings render it. -/
  | renderedText (r : Rendering) (v : Verse)

/-- What comes out of an operation. -/
inductive Outcome where
  /-- The answer to an inquiry or a search. -/
  | reply (r : Reply)
  /-- A text, if there is one. -/
  | text (text? : Option (List Char))

end Index

namespace Storage

open Index

/-- An operation on open records. -/
def perform (s : Storage) : Operation → Lookup Outcome
  | .ask q => return .reply (← (ofStorage s).ask q)
  | .search settings engine r =>
    return .reply (.verses (← (⟨ofStorage s, .ofStorage s, settings, engine⟩ : Searcher).search r))
  | .variants word => return .reply (.strings ((ofStorage s).variants word))
  | .cachedKeys => return .reply (.strings (← getThe Cache).keys)
  | .rawText v => return .text (Source.ofStorage s v)
  | .renderedText r v => return .text ((⟨ofStorage s, .ofStorage s, {}, default⟩ : Searcher).text? r v)

/-- Operations one after another, on records that have just been opened. -/
def serve (s : Storage) (ops : List Operation) : List Outcome × Cache :=
  (ops.mapM s.perform).run ∅

variable {s s' : Storage}

theorem SameValues.source_eq (h : s.SameValues s') : Source.ofStorage s = Source.ofStorage s' := by
  funext v
  rw [Source.ofStorage, Source.ofStorage, h.value?_eq]

/-- **An operation depends on the values of the records, and on nothing else.** -/
theorem SameValues.perform_eq (h : s.SameValues s') : s.perform = s'.perform := by
  have hix := sameReadings_ofStorage h
  funext op
  cases op with
  | ask q => simp only [perform, hix.ask_eq]
  | search settings engine r => simp only [perform, h.source_eq, Searcher.search_eq hix]
  | variants word => simp only [perform, hix.variants_eq]
  | cachedKeys => rfl
  | rawText v => simp only [perform, h.source_eq]
  | renderedText r v => simp only [perform, Searcher.text?, h.source_eq]

/-- **What cannot be read is like what is not there.** Whichever records cannot be read or hold no JSON,
all operations one after another give what they give without these records, and leave the same cache.
Under the keys of such records there are no verses, no words and no texts, and the records under other
keys are as they were. -/
theorem serve_without (s : Storage) (lost : String → Bool)
    (h : ∀ key, lost key = true → s.IsUnreadable key) (ops : List Operation) :
    s.serve ops = (s.without lost).serve ops ∧
      (∀ key, lost key = true → (ofStorage s).postings key = ∅ ∧ (ofStorage s).listed key = [] ∧
        ∀ v : Verse, v.reference = key → Source.ofStorage s v = none) ∧
      ∀ key, lost key = false → (s.without lost).get key = s.get key := by
  have hsame := sameValues_without h
  refine ⟨by rw [serve, serve, hsame.perform_eq], fun key hlost => ⟨?_, ?_, fun v hv => ?_⟩,
    fun key => get_without_of_not_lost⟩
  · rw [postings, ofStorage, (h key hlost).value?_eq_none]
    rfl
  · rw [listed, ofStorage, (h key hlost).value?_eq_none]
    rfl
  · rw [Source.ofStorage, hv, (h key hlost).value?_eq_none]
    rfl

/-- The records of one text. The verses of one of its words cannot be read, and where the spellings
should be there is no JSON. -/
def damaged : Storage where
  get key :=
    if key = "God" then .error .unreadable
    else if key = lowerCaseKey then .ok (some [0xFF])
    else Corpus.opening.storage.get key
  contains := Corpus.opening.storage.contains
  keys := Corpus.opening.storage.keys
  size := Corpus.opening.storage.size

theorem serve_without_damaged :
    (∀ key, (key == "God" || key == lowerCaseKey) = true → damaged.IsUnreadable key) ∧
      damaged.serve [.ask (.expanded false "god".toList), .rawText .first, .cachedKeys]
        = (damaged.without fun key => key == "God" || key == lowerCaseKey).serve
          [.ask (.expanded false "god".toList), .rawText .first, .cachedKeys] ∧
      damaged.get "God" = .error .unreadable ∧ (ofStorage damaged).postings "God" = ∅ := by
  have hlost : ∀ key, (key == "God" || key == lowerCaseKey) = true → damaged.IsUnreadable key := by
    intro key hkey
    obtain hkey | hkey := (Bool.or_eq_true _ _).mp hkey <;> obtain rfl := eq_of_beq hkey
    · exact .inl ⟨.unreadable, rfl⟩
    · exact .inr ⟨[0xFF], by decide +kernel, by decide +kernel⟩
  obtain ⟨hserve, hempty, -⟩ := serve_without damaged _ hlost
    [.ask (.expanded false "god".toList), .rawText .first, .cachedKeys]
  exact ⟨hlost, hserve, rfl, (hempty "God" rfl).1⟩

end Storage

end Concordance
