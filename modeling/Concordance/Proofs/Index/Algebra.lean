import Concordance.Proofs.Search.Agreement
import Concordance.Proofs.Search.Sharing

/-!
# The algebra of terms

What an index says of several terms is put together from what it says of each of them. The loops that do
it stop early, keep what was looked up, and add and remove verses in turn; none of this can be seen in
what comes out, which depends neither on the order of the terms nor, but for the terms an odd number of
which a verse belongs to, on how often a term is given.

## Main definitions

* `Index.versesOf` — the verses of a term
* `Index.answerAfter` — what a computation gives after inquiries

## Main results

* `Index.answer_union`, `Index.answer_intersect`, `Index.answer_symmDiff` — several terms at once
* `Index.versesOf_subset` — where case does not count, every spelling of a term is looked up
* `Index.terms_algebra` — all of it, whatever was asked before
-/

namespace Concordance

namespace VerseSet

variable {α : Type} {f : α → VerseSet} {xs ys : List α}

@[simp] theorem unionOf_singleton {x : α} : unionOf f [x] = f x := by
  ext v
  simp [mem_unionOf]

@[simp] theorem commonOf_singleton {x : α} : commonOf f [x] = f x := rfl

theorem unionOf_append : unionOf f (xs ++ ys) = unionOf f xs ∪ unionOf f ys := by
  ext v
  simp only [mem_unionOf, mem_union, List.mem_append, or_and_right, exists_or]

/-- How often a set is given does not matter to what any of them have. -/
theorem unionOf_of_mem_iff (h : ∀ x, x ∈ xs ↔ x ∈ ys) : unionOf f xs = unionOf f ys := by
  ext v
  simp only [mem_unionOf, h]

/-- How often a set is given does not matter to what all of them have. -/
theorem commonOf_of_mem_iff (h : ∀ x, x ∈ xs ↔ x ∈ ys) : commonOf f xs = commonOf f ys := by
  have hnil : xs = [] ↔ ys = [] := by
    rw [List.eq_nil_iff_forall_not_mem, List.eq_nil_iff_forall_not_mem]
    exact forall_congr' fun x => not_congr (h x)
  ext v
  simp only [mem_commonOf, h, ne_eq, hnil]

end VerseSet

namespace Index

variable {ix : Index} {α : Type} {cs : Bool} {ts : List (List Char)}

/-! ### What several terms come to -/

/-- The verses of a term, in all its spellings if case does not count. -/
def versesOf (ix : Index) (caseSensitive : Bool) (term : List Char) : VerseSet :=
  answer (ix.expanded caseSensitive term)

theorem Finds.mem_answer {m : Lookup VerseSet} {P : Verse → Prop} (h : ix.Finds m P) (v : Verse) :
    v ∈ answer m ↔ P v :=
  h.mem_run soundCache_empty v

theorem mem_versesOf {term : List Char} {v : Verse} :
    v ∈ ix.versesOf cs term ↔ ix.Has cs term v :=
  (finds_expanded cs term).mem_answer v

theorem answer_union : answer (ix.union cs ts) = .unionOf (ix.versesOf cs) ts := by
  ext v
  rw [finds_union.mem_answer, VerseSet.mem_unionOf]
  simp only [mem_versesOf]

/-- Stopping once nothing is left changes nothing. -/
theorem answer_intersect : answer (ix.intersect cs ts) = .commonOf (ix.versesOf cs) ts := by
  ext v
  rw [finds_intersect.mem_answer, VerseSet.mem_commonOf]
  simp only [mem_versesOf]

/-- Verses that are added and removed in turn are counted. -/
theorem answer_symmDiff : answer (ix.symmDiff cs ts) = .oddOf (ix.versesOf cs) ts := by
  ext v
  rw [finds_symmDiff.mem_answer, VerseSet.mem_oddOf]
  simp only [mem_versesOf]

/-! ### Spellings -/

/-- Where case counts, a term has the verses of the one form it is given in. -/
theorem has_true_iff {form : List Char} {v : Verse} : ix.Has true form v ↔ ix.HasForm form v := by
  simp [Has, forms]

/-- **Where case does not count, every spelling of a term is looked up**: the one it is given in, the one
in lower case, and those that the index knows for it. -/
theorem versesOf_subset {term form : List Char} {v : Verse} (hform : form ∈ ix.forms false term)
    (hv : v ∈ ix.versesOf true form) : v ∈ ix.versesOf false term := by
  rw [mem_versesOf, has_true_iff] at hv
  exact mem_versesOf.mpr ⟨form, hform, hv⟩

/-! ### After inquiries -/

/-- What a computation gives after inquiries, which have left in the cache what they looked up. -/
def answerAfter (ix : Index) (earlier : List Inquiry) (m : Lookup α) : α :=
  (m.run ((ix.session earlier).run ∅).2).1

/-- Inquiries before a computation change nothing. -/
theorem Determined.answerAfter_eq {m : Lookup α} (hm : ix.Determined m) (earlier : List Inquiry) :
    ix.answerAfter earlier m = answer m :=
  hm.run_eq (yields_session earlier ∅ soundCache_empty).2

variable (earlier : List Inquiry)

theorem answerAfter_union : ix.answerAfter earlier (ix.union cs ts) = .unionOf (ix.versesOf cs) ts :=
  (finds_union.determined.answerAfter_eq earlier).trans answer_union

theorem answerAfter_intersect :
    ix.answerAfter earlier (ix.intersect cs ts) = .commonOf (ix.versesOf cs) ts :=
  (finds_intersect.determined.answerAfter_eq earlier).trans answer_intersect

theorem answerAfter_symmDiff :
    ix.answerAfter earlier (ix.symmDiff cs ts) = .oddOf (ix.versesOf cs) ts :=
  (finds_symmDiff.determined.answerAfter_eq earlier).trans answer_symmDiff

/-! ### The algebra -/

/-- **The algebra of terms.** Whatever records an index has and whatever was asked before: the verses of
any, of all and of an odd number of some terms are just those, so that neither their order nor, for the
first two, giving a term again makes a difference; the verses of any of two lists of terms are those of
either list; for one term the three are the same; and if case does not count, a term has the verses of
every spelling. -/
theorem terms_algebra (ix : Index) (earlier : List Inquiry) (cs : Bool) (ts us : List (List Char)) :
    (∀ t, ix.answerAfter earlier (ix.expanded cs t) = ix.versesOf cs t) ∧
    (∀ v, v ∈ ix.answerAfter earlier (ix.union cs ts) ↔ ∃ t ∈ ts, v ∈ ix.versesOf cs t) ∧
    (ts ≠ [] → ∀ v,
      v ∈ ix.answerAfter earlier (ix.intersect cs ts) ↔ ∀ t ∈ ts, v ∈ ix.versesOf cs t) ∧
    (∀ v, v ∈ ix.answerAfter earlier (ix.symmDiff cs ts) ↔
      (ts.countP fun t => v ∈ ix.versesOf cs t) % 2 = 1) ∧
    (us.Perm ts →
      ix.answerAfter earlier (ix.union cs us) = ix.answerAfter earlier (ix.union cs ts) ∧
      ix.answerAfter earlier (ix.intersect cs us) = ix.answerAfter earlier (ix.intersect cs ts) ∧
      ix.answerAfter earlier (ix.symmDiff cs us) = ix.answerAfter earlier (ix.symmDiff cs ts)) ∧
    ((∀ t, t ∈ us ↔ t ∈ ts) →
      ix.answerAfter earlier (ix.union cs us) = ix.answerAfter earlier (ix.union cs ts) ∧
      ix.answerAfter earlier (ix.intersect cs us) = ix.answerAfter earlier (ix.intersect cs ts)) ∧
    ix.answerAfter earlier (ix.union cs (ts ++ us))
      = ix.answerAfter earlier (ix.union cs ts) ∪ ix.answerAfter earlier (ix.union cs us) ∧
    (∀ t, ix.answerAfter earlier (ix.union cs [t]) = ix.answerAfter earlier (ix.intersect cs [t]) ∧
      ix.answerAfter earlier (ix.intersect cs [t]) = ix.answerAfter earlier (ix.symmDiff cs [t])) ∧
    ∀ t v, (v ∈ ix.versesOf true t → v ∈ ix.versesOf false t) ∧
      ∀ w ∈ ix.variants (String.ofList (Text.lower (Term.normalizeKey t))),
        v ∈ ix.versesOf true w.toList → v ∈ ix.versesOf false t := by
  simp only [answerAfter_union, answerAfter_intersect, answerAfter_symmDiff]
  refine ⟨fun t => (finds_expanded cs t).determined.answerAfter_eq earlier,
    fun v => VerseSet.mem_unionOf, fun hne v => ?common, fun v => VerseSet.mem_oddOf,
    fun h => ⟨VerseSet.unionOf_perm h, VerseSet.commonOf_perm h, VerseSet.oddOf_perm h⟩,
    fun h => ⟨VerseSet.unionOf_of_mem_iff h, VerseSet.commonOf_of_mem_iff h⟩,
    VerseSet.unionOf_append, fun t => by simp, fun t v => ⟨fun hv => ?same, fun w hw hv => ?variant⟩⟩
  case common => rw [VerseSet.mem_commonOf, and_iff_right hne]
  case same => exact versesOf_subset (List.mem_cons_self ..) hv
  case variant =>
    have hform : w.toList ∈ ix.forms false t := by
      simpa [forms] using .inr (.inr ⟨w, hw, rfl⟩)
    exact versesOf_subset hform hv

/-- The verse that has both words has them in another order too, and with a word given again. -/
theorem terms_algebra_opening :
    [['i', 'n'], ['g', 'o', 'd']].Perm [['g', 'o', 'd'], ['i', 'n']] ∧
      .first ∈ Corpus.opening.index.answerAfter [.vocabulary]
        (Corpus.opening.index.intersect false [['g', 'o', 'd'], ['i', 'n']]) ∧
      .first ∈ Corpus.opening.index.answerAfter [.vocabulary]
        (Corpus.opening.index.intersect false [['i', 'n'], ['g', 'o', 'd']]) ∧
      .first ∈ Corpus.opening.index.answerAfter [.vocabulary]
        (Corpus.opening.index.intersect false [['g', 'o', 'd'], ['g', 'o', 'd'], ['i', 'n']]) := by
  have hmem : (Verse.first, Corpus.opening.entries[0].2) ∈ Corpus.opening.entries :=
    List.mem_singleton.mpr rfl
  have hperm : [['i', 'n'], ['g', 'o', 'd']].Perm [['g', 'o', 'd'], ['i', 'n']] := List.Perm.swap ..
  obtain ⟨-, -, hcommon, -, horder, -⟩ := terms_algebra Corpus.opening.index [.vocabulary] false
    [['g', 'o', 'd'], ['i', 'n']] [['i', 'n'], ['g', 'o', 'd']]
  obtain ⟨-, -, -, -, -, hagain, -⟩ := terms_algebra Corpus.opening.index [.vocabulary] false
    [['g', 'o', 'd'], ['i', 'n']] [['g', 'o', 'd'], ['g', 'o', 'd'], ['i', 'n']]
  have hhas : ∀ w ∈ ["god", "in"],
      Corpus.opening.index.Has false (Term.spelled false w.toList) .first := by
    intro w hw
    refine (Corpus.has_iff_of_mem false ?_ ?_ hmem).mpr ?_ <;> revert w <;> decide +kernel
  have hfirst : .first ∈ Corpus.opening.index.answerAfter [.vocabulary]
      (Corpus.opening.index.intersect false [['g', 'o', 'd'], ['i', 'n']]) := by
    refine (hcommon (by decide) .first).mpr fun t ht => mem_versesOf.mpr ?_
    have hspelled : [['g', 'o', 'd'], ['i', 'n']]
        = ["god", "in"].map fun w => Term.spelled false w.toList := by decide +kernel
    rw [hspelled] at ht
    obtain ⟨w, hw, rfl⟩ := List.mem_map.mp ht
    exact hhas w hw
  refine ⟨hperm, hfirst, ?_, ?_⟩
  · rw [(horder hperm).2.1]
    exact hfirst
  · rw [(hagain (by simp)).2]
    exact hfirst

end Index

end Concordance
