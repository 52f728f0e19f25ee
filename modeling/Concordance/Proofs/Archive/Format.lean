import Mathlib.Algebra.Group.Nat.Defs
import Mathlib.Data.List.Forall2
import Concordance.Archive
import Concordance.Proofs.Text.Utf8RoundTrip

/-!
# The format of archives

An archive is a row of records, and a record is two parts, each after its length. This is said here of
the bytes alone, without the functions that write and read them, and so is what it means that bytes are
no archive: the first part that is not whole, or is no key, stands somewhere. Whatever the bytes are,
they are one or the other.

## Main definitions

* `Archive.IsChunk` — bytes written after their length
* `Archive.Holds` — an archive, and the records that it holds
* `Archive.ChunkFault`, `Archive.FirstFault` — the part at which bytes fail to be an archive

## Main results

* `Archive.holds_or_firstFault` — bytes are an archive, or have a first part at fault
* `Archive.Holds.of_append` — an archive that begins with another one holds the records of that first
* `Archive.encode_eq_ok_iff` — what is written is the archive of the records
-/

namespace Concordance

namespace Archive

/-! ### Parts -/

/-- The number that four bytes write, the lowest first. -/
def fourBytes (b₀ b₁ b₂ b₃ : UInt8) : Nat :=
  b₀.toNat + 2 ^ 8 * b₁.toNat + 2 ^ 16 * b₂.toNat + 2 ^ 24 * b₃.toNat

/-- Bytes are written after their length, which takes four bytes. -/
def IsChunk (content written : Bytes) : Prop :=
  ∃ b₀ b₁ b₂ b₃, written = b₀ :: b₁ :: b₂ :: b₃ :: content ∧ fourBytes b₀ b₁ b₂ b₃ = content.length

/-- Bytes in which a part from place `offset` on is not whole. -/
inductive ChunkFault (offset : Nat) : Bytes → ArchiveFault → Prop
  /-- They end within the length. -/
  | truncatedLength {bs : Bytes} : bs.length < 4 → ChunkFault offset bs (.truncatedLength offset)
  /-- They end within what the length has announced. -/
  | overrun {b₀ b₁ b₂ b₃ : UInt8} {rest : Bytes} : rest.length < fourBytes b₀ b₁ b₂ b₃ →
      ChunkFault offset (b₀ :: b₁ :: b₂ :: b₃ :: rest) (.overrun offset)

variable {offset : Nat} {bs content content' written written' rest rest' : Bytes}
  {fault : ArchiveFault}

theorem fourBytes_lt (b₀ b₁ b₂ b₃ : UInt8) : fourBytes b₀ b₁ b₂ b₃ < 2 ^ 32 := by
  have := b₀.toNat_lt
  have := b₁.toNat_lt
  have := b₂.toNat_lt
  have := b₃.toNat_lt
  rw [fourBytes]
  omega

theorem ofLittleEndian_four (b₀ b₁ b₂ b₃ : UInt8) :
    ofLittleEndian [b₀, b₁, b₂, b₃] = fourBytes b₀ b₁ b₂ b₃ := by
  simp only [ofLittleEndian, fourBytes]
  omega

theorem fourBytes_littleEndian {n : Nat} (h : n < 2 ^ 32) :
    fourBytes (UInt8.ofNat n) (UInt8.ofNat (n / 256)) (UInt8.ofNat (n / 256 / 256))
      (UInt8.ofNat (n / 256 / 256 / 256)) = n := by
  simp only [fourBytes, UInt8.toNat_ofNat']
  omega

theorem fourBytes_inj {b₀ b₁ b₂ b₃ c₀ c₁ c₂ c₃ : UInt8}
    (h : fourBytes b₀ b₁ b₂ b₃ = fourBytes c₀ c₁ c₂ c₃) : b₀ = c₀ ∧ b₁ = c₁ ∧ b₂ = c₂ ∧ b₃ = c₃ := by
  have hb : ∀ b : UInt8, b.toNat < 256 := fun b => b.toNat_lt
  have := hb b₀
  have := hb b₁
  have := hb b₂
  have := hb c₀
  have := hb c₁
  have := hb c₂
  simp only [fourBytes] at h
  simp only [← UInt8.toNat_inj]
  omega

theorem IsChunk.length_lt (h : IsChunk content written) : content.length < 2 ^ 32 := by
  obtain ⟨b₀, b₁, b₂, b₃, -, hlength⟩ := h
  exact hlength ▸ fourBytes_lt b₀ b₁ b₂ b₃

theorem IsChunk.length_eq (h : IsChunk content written) : written.length = chunkSize content := by
  obtain ⟨b₀, b₁, b₂, b₃, rfl, -⟩ := h
  simp only [chunkSize, List.length_cons]
  omega

theorem IsChunk.ne_nil (h : IsChunk content written) : written ≠ [] := by
  obtain ⟨b₀, b₁, b₂, b₃, rfl, -⟩ := h
  exact List.cons_ne_nil _ _

theorem IsChunk.written_eq (h : IsChunk content written) (h' : IsChunk content written') :
    written = written' := by
  obtain ⟨b₀, b₁, b₂, b₃, rfl, hlength⟩ := h
  obtain ⟨c₀, c₁, c₂, c₃, rfl, hlength'⟩ := h'
  obtain ⟨rfl, rfl, rfl, rfl⟩ := fourBytes_inj (hlength.trans hlength'.symm)
  rfl

/-- Where one part ends, and what it is, shows in the bytes. -/
theorem IsChunk.inj (h : IsChunk content written) (h' : IsChunk content' written')
    (happend : written ++ rest = written' ++ rest') :
    content = content' ∧ written = written' ∧ rest = rest' := by
  obtain ⟨b₀, b₁, b₂, b₃, rfl, hlength⟩ := h
  obtain ⟨c₀, c₁, c₂, c₃, rfl, hlength'⟩ := h'
  simp only [List.cons_append, List.cons.injEq] at happend
  obtain ⟨rfl, rfl, rfl, rfl, happend⟩ := happend
  obtain ⟨rfl, rfl⟩ := List.append_inj happend (hlength.symm.trans hlength')
  exact ⟨rfl, rfl, rfl⟩

/-- Bytes begin with a part that is whole, or not. -/
theorem isChunk_or_chunkFault (offset : Nat) (bs : Bytes) :
    (∃ content written rest, IsChunk content written ∧ bs = written ++ rest) ∨
      ∃ fault, ChunkFault offset bs fault := by
  match bs with
  | [] | [_] | [_, _] | [_, _, _] => exact .inr ⟨_, .truncatedLength (by simp)⟩
  | b₀ :: b₁ :: b₂ :: b₃ :: rest =>
    by_cases h : rest.length < fourBytes b₀ b₁ b₂ b₃
    · exact .inr ⟨_, .overrun h⟩
    · refine .inl ⟨rest.take (fourBytes b₀ b₁ b₂ b₃), _, rest.drop (fourBytes b₀ b₁ b₂ b₃),
        ⟨b₀, b₁, b₂, b₃, rfl, ?_⟩, ?_⟩
      · rw [List.length_take]
        omega
      · simp

/-! ### Writing and reading parts -/

theorem isChunk_littleEndian (h : content.length < 2 ^ 32) :
    IsChunk content (littleEndian 4 content.length ++ content) :=
  ⟨_, _, _, _, rfl, fourBytes_littleEndian h⟩

theorem encodeChunk_eq_ok_iff : encodeChunk content = .ok written ↔ IsChunk content written := by
  have hfits : content.length ≤ maxChunk ↔ content.length < 2 ^ 32 := by
    rw [maxChunk]
    omega
  rw [encodeChunk]
  constructor
  · intro h
    split at h
    · rename_i hle
      cases h
      exact isChunk_littleEndian (hfits.mp hle)
    · cases h
  · intro h
    rw [if_pos (hfits.mpr h.length_lt), (isChunk_littleEndian h.length_lt).written_eq h]

theorem decodeChunk_append (offset : Nat) (h : IsChunk content written) (rest : Bytes) :
    decodeChunk offset (written ++ rest) = .ok (content, rest) := by
  obtain ⟨b₀, b₁, b₂, b₃, rfl, hlength⟩ := h
  have hfour : ¬ (b₀ :: b₁ :: b₂ :: b₃ :: content ++ rest).length < 4 := by
    simp only [List.cons_append, List.length_cons]
    omega
  rw [decodeChunk, if_neg hfour]
  simp [ofLittleEndian_four, hlength]

theorem decodeChunk_of_chunkFault (h : ChunkFault offset bs fault) :
    decodeChunk offset bs = .error fault := by
  cases h with
  | truncatedLength h => rw [decodeChunk, if_pos h]
  | overrun h => simp [decodeChunk, ofLittleEndian_four, h]

/-! ### Records -/

/-- An archive, and the records that it holds, one after another. -/
inductive Holds : Bytes → List (String × Bytes) → Prop
  /-- No records. -/
  | nil : Holds [] []
  /-- One more record comes first: the key, which is a text, and the value. -/
  | cons {key : String} {value k v rest : Bytes} {entries : List (String × Bytes)} :
      IsChunk (Text.encode key.toList) k → IsChunk value v → Holds rest entries →
      Holds (k ++ (v ++ rest)) ((key, value) :: entries)

/-- The first part at fault of the bytes from a place on. -/
inductive FirstFault : Nat → Bytes → ArchiveFault → Prop
  /-- The key is not whole. -/
  | key {offset : Nat} {bs : Bytes} {fault : ArchiveFault} :
      bs ≠ [] → ChunkFault offset bs fault → FirstFault offset bs fault
  /-- The key is whole, and no text. -/
  | invalidKey {offset : Nat} {content k rest : Bytes} {fault : Text.Fault} :
      IsChunk content k → (∀ cs, content ≠ Text.encode cs) → Text.decode content = .error fault →
      FirstFault offset (k ++ rest) (.invalidKey offset fault)
  /-- The value of a key is not whole. -/
  | value {offset : Nat} {key : String} {k rest : Bytes} {fault : ArchiveFault} :
      IsChunk (Text.encode key.toList) k → ChunkFault (offset + k.length) rest fault →
      FirstFault offset (k ++ rest) fault
  /-- The part at fault comes after a whole record. -/
  | later {offset : Nat} {key : String} {value k v rest : Bytes} {fault : ArchiveFault} :
      IsChunk (Text.encode key.toList) k → IsChunk value v →
      FirstFault (offset + k.length + v.length) rest fault →
      FirstFault offset (k ++ (v ++ rest)) fault

/-- **Bytes are an archive, or have a first part at fault.** -/
theorem holds_or_firstFault (offset : Nat) (bs : Bytes) :
    (∃ entries, Holds bs entries) ∨ ∃ fault, FirstFault offset bs fault := by
  -- by the length: every record takes up bytes, so what comes after it is shorter
  induction hn : bs.length using Nat.strongRecOn generalizing bs offset with
  | _ n ih =>
    by_cases hempty : bs = []
    · exact .inl ⟨[], hempty ▸ .nil⟩
    obtain ⟨content, k, afterKey, hk, rfl⟩ | ⟨fault, hfault⟩ := isChunk_or_chunkFault offset bs
    case inr => exact .inr ⟨fault, .key hempty hfault⟩
    cases hdecode : Text.decode content with
    | error fault =>
      refine .inr ⟨_, .invalidKey hk (fun cs hcs => ?_) hdecode⟩
      rw [Text.decode_eq_ok_iff.mpr hcs] at hdecode
      cases hdecode
    | ok cs =>
      have hkey : IsChunk (Text.encode (String.ofList cs).toList) k := by
        rwa [String.toList_ofList, ← Text.decode_eq_ok_iff.mp hdecode]
      obtain ⟨value, v, rest, hv, rfl⟩ | ⟨fault, hfault⟩ :=
        isChunk_or_chunkFault (offset + k.length) afterKey
      case inr => exact .inr ⟨fault, .value hkey hfault⟩
      have hshorter : rest.length < n := by
        have := hk.length_eq
        simp only [chunkSize, List.length_append] at *
        omega
      obtain ⟨entries, hrest⟩ | ⟨fault, hrest⟩ :=
        ih rest.length hshorter (offset + k.length + v.length) rest rfl
      · exact .inl ⟨_, .cons hkey hv hrest⟩
      · exact .inr ⟨fault, .later hkey hv hrest⟩

theorem encode_injective {key key' : String}
    (h : Text.encode key.toList = Text.encode key'.toList) : key = key' := by
  have hdecode := congrArg Text.decode? h
  rw [Text.decode?_encode, Text.decode?_encode] at hdecode
  exact String.toList_inj.mp (Option.some.inj hdecode)

/-- **An archive that begins with another one holds the records of that first.** -/
theorem Holds.of_append {entries all : List (String × Bytes)} (h : Holds bs entries)
    (hall : Holds (bs ++ rest) all) : ∃ more, all = entries ++ more ∧ Holds rest more := by
  induction h generalizing all with
  | nil => exact ⟨all, rfl, hall⟩
  | cons hk hv _ ih =>
    rw [List.append_assoc, List.append_assoc] at hall
    -- the whole gets a name, to be taken apart once more as the archive that holds `all`
    generalize happend : (_ ++ (_ ++ (_ ++ rest)) : Bytes) = whole at hall
    cases hall with
    | nil => exact absurd (List.append_eq_nil_iff.mp happend).1 hk.ne_nil
    | cons hk' hv' hrest =>
      obtain ⟨hkey, -, happend⟩ := hk.inj hk' happend
      obtain ⟨rfl, -, rfl⟩ := hv.inj hv' happend
      obtain ⟨more, rfl, hmore⟩ := ih hrest
      exact ⟨more, by rw [encode_injective hkey]; rfl, hmore⟩

/-! ### Writing records -/

theorem mapM_encodeChunk_eq_ok_iff {parts ws : List Bytes} :
    parts.mapM encodeChunk = .ok ws ↔ List.Forall₂ IsChunk parts ws := by
  induction parts generalizing ws with
  | nil => exact ⟨fun h => by cases h; exact .nil, fun h => by cases h; rfl⟩
  | cons part parts ih =>
    rw [List.mapM_cons, bind_eq_ok_iff, List.forall₂_cons_left_iff]
    simp only [bind_eq_ok_iff, encodeChunk_eq_ok_iff, ih]
    constructor
    · rintro ⟨w, hw, ws, hws, h⟩
      cases h
      exact ⟨w, ws, hw, hws, rfl⟩
    · rintro ⟨w, ws, hw, hws, rfl⟩
      exact ⟨w, hw, ws, hws, rfl⟩

theorem holds_iff {entries : List (String × Bytes)} :
    Holds bs entries ↔ ∃ ws, List.Forall₂ IsChunk
      (entries.flatMap fun (key, value) => [Text.encode key.toList, value]) ws ∧ ws.flatten = bs := by
  constructor
  · intro h
    induction h with
    | nil => exact ⟨[], .nil, rfl⟩
    | cons hk hv _ ih =>
      obtain ⟨ws, hws, rfl⟩ := ih
      exact ⟨_ :: _ :: ws, .cons hk (.cons hv hws), rfl⟩
  · rintro ⟨ws, hws, rfl⟩
    induction entries generalizing ws with
    | nil =>
      cases hws
      exact .nil
    | cons entry entries ih =>
      obtain _ | ⟨hk, _ | ⟨hv, hws⟩⟩ := hws
      exact .cons hk hv (ih _ hws)

/-- **What is written is the archive of the records.** -/
theorem encode_eq_ok_iff {r : Records} : encode r = .ok bs ↔ Holds bs r.toList := by
  rw [encode, map_eq_ok_iff, holds_iff]
  simp only [mapM_encodeChunk_eq_ok_iff]
  rfl

end Archive

end Concordance
