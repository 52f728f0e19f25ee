import Mathlib.Data.List.Forall2
import Concordance.Proofs.Markup.TagKind
import Concordance.Proofs.Pattern.Order
import Concordance.Proofs.Pattern.Pieces
import Concordance.Proofs.Text.LetterCase

/-!
# Patterns of runs of tags

A phrase that is made of tags of one kind has a pattern of its own: the tags, one after another, and
between any two of them a stretch without the sign that opens such tags. In an annotated text that sign
belongs to tags only. So the pattern matches a tag of the text where it starts, and after each tag it
goes on to the very next one of the kind.

What stands in the brackets is matched character by character. Where case is ignored, two characters
may match that are not the same; the bodies that are looked for are asked to match themselves only.

## Main definitions

* `Markup.TagKind.joiner` — the text that passes over everything between two tags of a kind
* `Pattern.ofTagRun` — the pattern of a run of tags
* `Pattern.IsFaithful` — a body matches no other text between brackets
* `Pattern.RunFits` — the engine takes the pattern of a run of tags

## Main results

* `Pattern.read?_tagRun` — the pattern that the text of a run of tags writes
* `Pattern.opens_ofLaterTags_iff` — after a tag, the next ones of its kind are matched
* `Pattern.isMatch_ofTagRun_iff` — a run of tags matches where a text has it as a block
* `Pattern.isMatch_compile_tagRun_iff` — so does its matcher, on an engine that takes it
-/

namespace Concordance

/-- The text of the pattern for all that stands between two tags of a kind that follow each other. -/
def Markup.TagKind.joiner : TagKind → List Char
  | strongs => "[^<]*".toList
  | morph => "[^\\\x7b]*".toList

namespace Pattern

open Markup Text

/-! ### Patterns -/

section

variable (ignoreCase : Bool) (k : TagKind)

/-- A stretch without the sign that opens tags of a kind. -/
def untilTag : Pattern :=
  .repeated (.set (.compl (bracketSet ignoreCase [.single k.opening]))) 0 none true

/-- The items of tags, each with a stretch before it. -/
def laterTags (bodies : List (List Char)) : List Pattern :=
  bodies.flatMap fun body => untilTag ignoreCase k :: ofLiteral ignoreCase (k.enclosed body)

/-- The pattern of a tag and those after it. -/
def ofTagRun (body : List Char) (bodies : List (List Char)) : Pattern :=
  .ofSeq (ofLiteral ignoreCase (k.enclosed body) ++ laterTags ignoreCase k bodies)

end

variable {ignoreCase : Bool} {k : TagKind} {body : List Char} {bodies : List (List Char)}

/-! ### Texts of patterns -/

theorem writesOn_joiner : WritesOn ignoreCase k.joiner [untilTag ignoreCase k] := by
  cases k with
  | strongs =>
    have hset : Writes ignoreCase ['[', '^', '<', ']']
        [.set (.compl (bracketSet ignoreCase [.single '<']))] :=
      fun _ _ _ _ => ⟨1, by decide, fun _ _ => rfl⟩
    unfold TagKind.joiner
    simp only [String.reduceToList]
    exact hset.writesOn_star
  | morph =>
    have hset : Writes ignoreCase ['[', '^', '\\', '\x7b', ']']
        [.set (.compl (bracketSet ignoreCase [.single '\x7b']))] :=
      fun _ _ _ _ => ⟨1, by decide, fun _ _ => rfl⟩
    unfold TagKind.joiner
    simp only [String.reduceToList]
    exact hset.writesOn_star

/-- The text of a tag starts with a sign that does not change the meaning of what it follows. -/
theorem exists_escape_enclosed (k : TagKind) (body : List Char) :
    ∃ d ds, escape (k.enclosed body) = d :: ds ∧ d ≠ '?' ∧ d ≠ '\x7b' := by
  cases k with
  | strongs => exact ⟨'<', escape (body ++ ['>']), rfl, by decide⟩
  | morph => exact ⟨'\\', '\x7b' :: escape (body ++ ['\x7d']), rfl, by decide⟩

theorem writes_tagRun (body : List Char) (bodies : List (List Char)) :
    Writes ignoreCase
      (k.joiner.intercalate ((body :: bodies).map fun body => escape (k.enclosed body)))
      (ofLiteral ignoreCase (k.enclosed body) ++ laterTags ignoreCase k bodies) := by
  induction bodies generalizing body with
  | nil => simpa [laterTags, List.intercalate] using writes_escape (k.enclosed body)
  | cons body' bodies ih =>
    obtain ⟨d, ds, hhead, hd⟩ := exists_escape_enclosed k body'
    have hrest := ih body'
    have hstart : ∃ ds', k.joiner.intercalate
        ((body' :: bodies).map fun body => escape (k.enclosed body)) = d :: ds' := by
      cases bodies <;> simp [List.intercalate, hhead]
    obtain ⟨ds', hds'⟩ := hstart
    rw [hds'] at hrest
    rw [List.map_cons, List.map_cons, List.intercalate_cons_cons, ← List.map_cons (f := fun body =>
      escape (k.enclosed body)), hds', List.append_assoc]
    exact (writes_escape _).append (writesOn_joiner.append_cons hrest hd)

/-- **The pattern that the text of a run of tags writes.** -/
theorem read?_tagRun (body : List Char) (bodies : List (List Char)) :
    read? ignoreCase
      (k.joiner.intercalate ((body :: bodies).map fun body => escape (k.enclosed body)))
      = some (ofTagRun ignoreCase k body bodies) :=
  (writes_tagRun body bodies).read?

/-! ### Matching tags -/

/-- Characters match the patterns of others one by one. -/
def MatchesEach (ignoreCase : Bool) (cs r : List Char) : Prop :=
  List.Forall₂ (fun c d => (setOf ignoreCase c).mem d = true) cs r

theorem matchesEach_self (cs : List Char) : MatchesEach ignoreCase cs cs := by
  refine List.forall₂_same.mpr fun c _ => ?_
  cases ignoreCase with
  | true => exact alike_self c
  | false => simp [setOf, CharSet.single, CharSet.mem]

theorem matchesEach_cons_iff {c : Char} {cs r : List Char} : MatchesEach ignoreCase (c :: cs) r ↔
    ∃ d s, (setOf ignoreCase c).mem d = true ∧ MatchesEach ignoreCase cs s ∧ r = d :: s :=
  List.forall₂_cons_left_iff

/-- Literal characters match a stretch of as many characters. -/
theorem opens_ofLiteral_append {cs xs s : List Char} {ps : List Pattern} :
    (ofSeq (ofLiteral ignoreCase cs ++ ps)).Opens xs s ↔
      ∃ r t, s = r ++ t ∧ MatchesEach ignoreCase cs r ∧ (ofSeq ps).Opens (xs ++ r) t := by
  induction cs generalizing xs s with
  | nil =>
    simp [ofLiteral, MatchesEach]
  | cons c cs ih =>
    have hcons : ofLiteral ignoreCase (c :: cs) ++ ps
        = .set (setOf ignoreCase c) :: (ofLiteral ignoreCase cs ++ ps) := rfl
    rw [hcons, opens_ofSeq_cons]
    simp only [covers_set, ih]
    constructor
    · rintro ⟨_, _, rfl, ⟨d, rfl, hd⟩, r, t, rfl, hmatch, hopens⟩
      exact ⟨d :: r, t, rfl, .cons hd hmatch, by simpa using hopens⟩
    · rintro ⟨_, t, rfl, hmatch, hopens⟩
      obtain ⟨d, r, hd, hr, rfl⟩ := matchesEach_cons_iff.mp hmatch
      exact ⟨[d], r ++ t, rfl, ⟨d, rfl, hd⟩, r, t, rfl, hr, by simpa using hopens⟩

theorem mem_untilTag_iff {c : Char} (hc : c.toNat < 0x80) :
    (CharSet.compl (bracketSet ignoreCase [.single k.opening])).mem c = true ↔ c ≠ k.opening := by
  cases k with
  | strongs =>
    exact forall_ascii (P := fun c => ∀ b,
      (CharSet.compl (bracketSet b [.single '<'])).mem c = true ↔ c ≠ '<') (by decide) hc
      ignoreCase
  | morph =>
    exact forall_ascii (P := fun c => ∀ b,
      (CharSet.compl (bracketSet b [.single '\x7b'])).mem c = true ↔ c ≠ '\x7b')
      (by decide) hc ignoreCase

/-- The stretch before a tag has everything but opening signs. -/
theorem opens_untilTag {xs s : List Char} {ps : List Pattern} (hs : IsAscii s) :
    (ofSeq (untilTag ignoreCase k :: ps)).Opens xs s ↔
      ∃ g t, s = g ++ t ∧ k.opening ∉ g ∧ (ofSeq ps).Opens (xs ++ g) t := by
  rw [opens_ofSeq_cons]
  refine exists_congr fun g => exists_congr fun t => and_congr_right ?_
  rintro rfl
  have hascii : IsAscii g := fun c hc => hs c (List.mem_append_left _ hc)
  rw [untilTag, covers_repeated, coversAll_set]
  refine and_congr_left fun _ => ⟨fun h hmem => ?_, fun h c hc => ?_⟩
  · exact (mem_untilTag_iff (hascii _ hmem)).mp (h _ hmem) rfl
  · refine (mem_untilTag_iff (hascii c hc)).mpr ?_
    rintro rfl
    exact h hc

/-- The signs of tags match themselves only. -/
theorem eq_of_mem_setOf_sign {c d : Char} (hc : c = k.opening ∨ c = k.closing)
    (hd : d.toNat < 0x80) (h : (setOf ignoreCase c).mem d = true) : d = c := by
  cases k <;> rcases hc with rfl | rfl
  · exact forall_ascii (P := fun d => ∀ b, (setOf b '<').mem d = true → d = '<')
      (by decide) hd ignoreCase h
  · exact forall_ascii (P := fun d => ∀ b, (setOf b '>').mem d = true → d = '>')
      (by decide) hd ignoreCase h
  · exact forall_ascii (P := fun d => ∀ b, (setOf b '\x7b').mem d = true → d = '\x7b')
      (by decide) hd ignoreCase h
  · exact forall_ascii (P := fun d => ∀ b, (setOf b '\x7d').mem d = true → d = '\x7d')
      (by decide) hd ignoreCase h

/-- A body matches no other text that may stand between the signs of a tag. -/
def IsFaithful (ignoreCase : Bool) (k : TagKind) (body : List Char) : Prop :=
  ∀ c ∈ body, (setOf ignoreCase c).mem k.closing = false ∧
    ∀ d, k.isBodyChar d = true → (setOf ignoreCase c).mem d = true → c = d

/-- **A body is matched whole**: what stands up to the closing sign is the same. -/
theorem eq_of_matchesEach {held r s rest : List Char} (hfaithful : IsFaithful ignoreCase k body)
    (hheld : ∀ c ∈ held, k.isBodyChar c = true)
    (hmatch : MatchesEach ignoreCase (body ++ [k.closing]) r)
    (h : r ++ s = held ++ k.closing :: rest) :
    body = held ∧ r = body ++ [k.closing] ∧ s = rest := by
  induction body generalizing held r with
  | nil =>
    obtain ⟨d, _, hd, hnil, rfl⟩ := matchesEach_cons_iff.mp hmatch
    obtain rfl := List.forall₂_nil_left_iff.mp hnil
    cases held with
    | nil =>
      obtain ⟨rfl, rfl⟩ := List.cons.inj h
      exact ⟨rfl, rfl, rfl⟩
    | cons e held =>
      obtain ⟨rfl, -⟩ := List.cons.inj h
      have hascii := TagKind.isAscii_of_isBodyChar hheld d List.mem_cons_self
      exact absurd (eq_of_mem_setOf_sign (.inr rfl) hascii hd)
        (TagKind.ne_of_isBodyChar (hheld d List.mem_cons_self) k).2
  | cons c body ih =>
    obtain ⟨⟨hclosing, hsame⟩, hfaithful⟩ := List.forall_mem_cons.mp hfaithful
    obtain ⟨d, r, hd, hr, rfl⟩ := matchesEach_cons_iff.mp hmatch
    cases held with
    | nil =>
      obtain ⟨rfl, -⟩ := List.cons.inj h
      rw [hclosing] at hd
      cases hd
    | cons e held =>
      obtain ⟨rfl, htail⟩ := List.cons.inj h
      obtain ⟨hc, hheld'⟩ := List.forall_mem_cons.mp hheld
      obtain rfl := hsame d hc hd
      obtain ⟨rfl, rfl, rfl⟩ := ih hfaithful hheld' hr htail
      exact ⟨rfl, rfl, rfl⟩

/-! ### Annotated texts -/

variable {segs : List Segment} {xs g t : List Char}

/-- **A tag is matched where the text has it.** -/
theorem opens_tag_iff {ps : List Pattern} (hfaithful : IsFaithful ignoreCase k body)
    (h : Segment.write segs = g ++ t) :
    (ofSeq (ofLiteral ignoreCase (k.enclosed body) ++ ps)).Opens xs t ↔
      ∃ before s after, segs = before ++ s :: after ∧ k.Holds s body ∧
        g = Segment.write before ++ [' '] ∧
        (ofSeq ps).Opens (xs ++ k.enclosed body) (Segment.write after) := by
  rw [opens_ofLiteral_append]
  constructor
  · rintro ⟨_, t', rfl, hmatch, hopens⟩
    obtain ⟨d, r, hd, hr, rfl⟩ := matchesEach_cons_iff.mp hmatch
    have hascii : d.toNat < 0x80 := TagKind.isAscii_write segs d (by simp [h])
    obtain rfl := eq_of_mem_setOf_sign (.inl rfl) hascii hd
    obtain ⟨before, s, held, after, rfl, hs, rfl, hrest⟩ := TagKind.exists_of_write_eq h
    obtain ⟨rfl, rfl, rfl⟩ := eq_of_matchesEach hfaithful hs.isBodyChar hr hrest
    exact ⟨before, s, after, rfl, hs, rfl, hopens⟩
  · rintro ⟨before, s, after, rfl, hs, rfl, hopens⟩
    have ht : t = k.enclosed body ++ Segment.write after := by
      have hwrite : Segment.write (before ++ s :: after)
          = Segment.write before ++ [' '] ++ (k.enclosed body ++ Segment.write after) := by
        simp [hs.chars_eq]
      exact List.append_cancel_left (h.symm.trans hwrite)
    exact ⟨_, _, ht, matchesEach_self _, hopens⟩

/-- **After a tag, the next ones of its kind are matched.** -/
theorem opens_ofLaterTags_iff (hfaithful : ∀ body ∈ bodies, IsFaithful ignoreCase k body) :
    (ofSeq (laterTags ignoreCase k bodies)).Opens xs (Segment.write segs) ↔
      bodies <+: segs.filterMap (Segment.value? k.body?) := by
  induction bodies generalizing xs segs with
  | nil =>
    have hopens : (ofSeq []).Opens xs (Segment.write segs) := ⟨[], _, rfl, covers_ofSeq_nil.mpr rfl⟩
    exact iff_of_true hopens List.nil_prefix
  | cons body bodies ih =>
    obtain ⟨hbody, hbodies⟩ := List.forall_mem_cons.mp hfaithful
    have hitems : laterTags ignoreCase k (body :: bodies) = untilTag ignoreCase k ::
        (ofLiteral ignoreCase (k.enclosed body) ++ laterTags ignoreCase k bodies) := rfl
    rw [hitems, opens_untilTag (TagKind.isAscii_write segs)]
    constructor
    · rintro ⟨g, t, hwrite, hnone, hopens⟩
      obtain ⟨before, s, after, rfl, hs, rfl, hopens⟩ := (opens_tag_iff hbody hwrite).mp hopens
      have hbefore : before.filterMap (Segment.value? k.body?) = [] := by
        rw [List.filterMap_eq_nil_iff]
        exact TagKind.opening_notMem_write_iff.mp fun h => hnone (List.mem_append_left _ h)
      have hvalue : s.value? k.body? = some body := hs
      rw [List.filterMap_append, hbefore, List.filterMap_cons_some hvalue, List.nil_append]
      exact List.prefix_cons_inj body |>.mpr ((ih hbodies).mp hopens)
    · rintro ⟨rest, hrest⟩
      obtain ⟨before, s, after, rfl, hbefore, hs, hafter⟩ := List.filterMap_eq_cons_iff.mp hrest.symm
      have hspace : k.opening ≠ ' ' := by cases k <;> decide
      have hwrite : Segment.write (before ++ s :: after)
          = (Segment.write before ++ [' ']) ++ (k.enclosed body ++ Segment.write after) := by
        simp [TagKind.Holds.chars_eq hs]
      refine ⟨_, _, hwrite, ?_, (opens_tag_iff hbody hwrite).mpr ⟨before, s, after, rfl, hs, rfl,
        (ih hbodies).mpr ⟨rest, hafter.symm⟩⟩⟩
      simpa [hspace] using TagKind.opening_notMem_write_iff.mpr hbefore

/-- **A run of tags matches where a text has it as a block.** -/
theorem isMatch_ofTagRun_iff (hfaithful : ∀ b ∈ body :: bodies, IsFaithful ignoreCase k b) :
    (ofTagRun ignoreCase k body bodies).isMatch (Segment.write segs).toArray = true ↔
      body :: bodies <:+: segs.filterMap (Segment.value? k.body?) := by
  obtain ⟨hbody, hbodies⟩ := List.forall_mem_cons.mp hfaithful
  rw [isMatch_iff_opens (inOrder_of_read? (read?_tagRun body bodies))]
  constructor
  · rintro ⟨g, t, hwrite, hopens⟩
    obtain ⟨before, s, after, rfl, hs, -, hopens⟩ := (opens_tag_iff hbody hwrite).mp hopens
    obtain ⟨rest, hrest⟩ := (opens_ofLaterTags_iff hbodies).mp hopens
    have hvalue : s.value? k.body? = some body := hs
    refine ⟨before.filterMap (Segment.value? k.body?), rest, ?_⟩
    rw [List.filterMap_append, List.filterMap_cons_some hvalue, ← hrest]
    simp
  · rintro ⟨pre, rest, h⟩
    rw [List.append_assoc, eq_comm, List.filterMap_eq_append_iff] at h
    obtain ⟨before, later, rfl, -, h⟩ := h
    obtain ⟨before', s, after, rfl, -, hs, hafter⟩ := List.filterMap_eq_cons_iff.mp h
    have hwrite : Segment.write (before ++ (before' ++ s :: after))
        = (Segment.write (before ++ before') ++ [' ']) ++
          (k.enclosed body ++ Segment.write after) := by
      simp [TagKind.Holds.chars_eq hs]
    refine ⟨_, _, hwrite, (opens_tag_iff hbody hwrite).mpr ⟨before ++ before', s, after, ?_, hs, rfl,
      (opens_ofLaterTags_iff hbodies).mpr ⟨rest, hafter.symm⟩⟩⟩
    exact (List.append_assoc ..).symm

/-! ### Bodies in upper case -/

theorem eq_of_mem_setOf_upper {cs : List Char} {c d : Char} (hc : c ∈ upper cs)
    (hd : d.isLower = false) (hascii : d.toNat < 0x80) (hzero : d ≠ '\x00')
    (hkelvin : ignoreCase = true → c = '\u212A' → d ≠ 'K')
    (h : (setOf ignoreCase c).mem d = true) : c = d := by
  cases ignoreCase with
  | false => exact (beq_iff_eq.mp (by simpa [setOf] using h)).symm
  | true =>
    have hlong : c ≠ '\u017F' := fun hlong => longS_notMem_upper cs (hlong ▸ hc)
    exact eq_of_alike h (isLower_of_mem_upper hc) hd hascii hzero hlong (hkelvin rfl)

/-- **A body in upper case matches itself only**, unless it has the Kelvin sign, which is alike a
letter of morphology tags. -/
theorem isFaithful_upper {cs : List Char} (hsign : k.closing ∉ cs)
    (hkelvin : k = .morph → ignoreCase = false ∨ '\u212A' ∉ upper cs) :
    IsFaithful ignoreCase k (upper cs) := by
  have hclosing : k.closing.isUpper = false ∧ k.closing.isLower = false ∧
      k.closing.toNat < 0x80 ∧ k.closing ≠ '\x00' ∧ k.closing ≠ 'K' := by
    cases k <;> decide
  obtain ⟨hupper, hlower, hascii, hzero, hne⟩ := hclosing
  refine fun c hc => ⟨?_, fun d hd hmem => ?_⟩
  · rw [Bool.eq_false_iff]
    intro hmem
    obtain rfl := eq_of_mem_setOf_upper hc hlower hascii hzero (fun _ _ => hne) hmem
    exact hsign (mem_of_mem_upper hc hascii hupper hzero)
  · obtain ⟨hlower, hascii, hzero⟩ : d.isLower = false ∧ d.toNat < 0x80 ∧ d ≠ '\x00' :=
      TagKind.of_isBodyChar (P := fun d => d.isLower = false ∧ d.toNat < 0x80 ∧ d ≠ '\x00')
        (by decide) hd
    refine eq_of_mem_setOf_upper hc hlower hascii hzero (fun hcase hc' => ?_) hmem
    cases k with
    | strongs =>
      rintro rfl
      exact absurd hd (by decide)
    | morph =>
      rcases hkelvin rfl with hcase' | hnone
      · rw [hcase] at hcase'
        cases hcase'
      · exact absurd (hc' ▸ hc) hnone

/-! ### Matchers -/

/-- The engine takes the pattern of a run of tags. -/
def RunFits (engine : Engine) (ignoreCase : Bool) (k : TagKind) (bodies : List (List Char)) : Prop :=
  engine.fits ignoreCase (k.joiner.intercalate (bodies.map fun body => escape (k.enclosed body))) = true

/-- **The matcher of a run of tags** finds the run in a text that has it as a block, unless the engine
refuses its pattern. -/
theorem isMatch_compile_tagRun_iff (engine : Engine) (hne : bodies ≠ [])
    (hfaithful : ∀ b ∈ bodies, IsFaithful ignoreCase k b) :
    (Matcher.compile engine ignoreCase (k.joiner.intercalate
        (bodies.map fun body => escape (k.enclosed body)))).pattern.isMatch
          (Segment.write segs).toArray = true ↔
      RunFits engine ignoreCase k bodies ∧ bodies <:+: segs.filterMap (Segment.value? k.body?) := by
  obtain ⟨body, bodies, rfl⟩ := List.exists_cons_of_ne_nil hne
  have hsource : k.joiner.intercalate
      ((body :: bodies).map fun body => escape (k.enclosed body)) ≠ [] := by
    obtain ⟨d, ds, hhead, -⟩ := exists_escape_enclosed k body
    cases bodies <;> simp [List.intercalate, hhead]
  rw [Matcher.pattern_compile engine hsource (read?_tagRun body bodies), isMatch_ite_never,
    isMatch_ofTagRun_iff hfaithful, RunFits]

end Pattern

end Concordance
