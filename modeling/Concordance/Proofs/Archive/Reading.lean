import Concordance.Archive.Slot
import Concordance.Proofs.Archive.Format

/-!
# Reading archives

Opening an archive accepts just the format: it finds every value of an archive where it stands, within
the bytes, and of bytes that are no archive it tells the first part at fault.

## Main definitions

* `Archive.Points` — the place of a value, and the value that stands there
* `ArchiveFault.offset` — the place of the part at fault

## Main results

* `Archive.Holds.index` — the values of an archive are found where they stand
* `Archive.index_eq_error_iff` — the first part at fault is told
* `Archive.index_classifies` — both together, for any bytes
-/

namespace Concordance

/-- The place of the part at fault. -/
def ArchiveFault.offset : ArchiveFault → Nat
  | truncatedLength offset | overrun offset | invalidKey offset _ => offset

namespace Archive

variable {offset : Nat} {key : String} {bs content value k v rest data : Bytes}
  {fault : ArchiveFault} {entries : List (String × Bytes)}

/-! ### One record -/

theorem decode_encode (key : String) : Text.decode (Text.encode key.toList) = .ok key.toList :=
  Text.decode_eq_ok_iff.mpr rfl

/-- A whole record is read. -/
theorem decodeRecord_append (offset : Nat) (hk : IsChunk (Text.encode key.toList) k)
    (hv : IsChunk value v) (rest : Bytes) :
    decodeRecord offset (k ++ (v ++ rest)) =
      .ok ((key, ⟨offset + k.length + 4, value.length⟩), rest) := by
  rw [decodeRecord, decodeChunk_append offset hk]
  simp [bind, Except.bind, Except.mapError, decode_encode, decodeChunk_append _ hv, hk.length_eq,
    pure, Except.pure]

theorem decodeRecord_of_key (h : ChunkFault offset bs fault) :
    decodeRecord offset bs = .error fault := by
  rw [decodeRecord, decodeChunk_of_chunkFault h]
  rfl

theorem decodeRecord_of_invalidKey {fault : Text.Fault} (hk : IsChunk content k)
    (h : Text.decode content = .error fault) :
    decodeRecord offset (k ++ rest) = .error (.invalidKey offset fault) := by
  rw [decodeRecord, decodeChunk_append offset hk]
  simp [bind, Except.bind, Except.mapError, h]

theorem decodeRecord_of_value (hk : IsChunk (Text.encode key.toList) k)
    (h : ChunkFault (offset + k.length) rest fault) :
    decodeRecord offset (k ++ rest) = .error fault := by
  rw [hk.length_eq] at h
  rw [decodeRecord, decodeChunk_append offset hk]
  simp [bind, Except.bind, Except.mapError, decode_encode, decodeChunk_of_chunkFault h]

/-! ### One record after another -/

theorem spansFrom_nil : spansFrom offset [] = .ok [] := by
  rw [spansFrom]
  rfl

theorem spansFrom_of_ok {entry : String × Span} (hne : bs ≠ [])
    (h : decodeRecord offset bs = .ok (entry, rest)) :
    spansFrom offset bs = (spansFrom entry.2.stop rest).map (entry :: ·) := by
  rw [spansFrom, if_neg (by simpa using hne)]
  split
  · rename_i h'
    cases h.symm.trans h'
  · rename_i h'
    cases h.symm.trans h'
    rfl

theorem spansFrom_of_error (hne : bs ≠ []) (h : decodeRecord offset bs = .error fault) :
    spansFrom offset bs = .error fault := by
  rw [spansFrom, if_neg (by simpa using hne)]
  split
  · rename_i h'
    cases h.symm.trans h'
    rfl
  · rename_i h'
    cases h.symm.trans h'

theorem IsChunk.append_ne_nil (hk : IsChunk content k) (rest : Bytes) : k ++ rest ≠ [] := fun h =>
  hk.ne_nil (List.append_eq_nil_iff.mp h).1

/-- A record is read, and then what comes after it. -/
theorem spansFrom_record (hk : IsChunk (Text.encode key.toList) k) (hv : IsChunk value v) :
    spansFrom offset (k ++ (v ++ rest)) =
      (spansFrom (offset + k.length + v.length) rest).map
        ((key, ⟨offset + k.length + 4, value.length⟩) :: ·) := by
  rw [spansFrom_of_ok (hk.append_ne_nil _) (decodeRecord_append offset hk hv rest), Span.stop,
    hv.length_eq, chunkSize]
  simp only [Nat.add_assoc]

/-- **The first part at fault is told.** -/
theorem spansFrom_of_firstFault (h : FirstFault offset bs fault) :
    spansFrom offset bs = .error fault := by
  induction h with
  | key hne h => exact spansFrom_of_error hne (decodeRecord_of_key h)
  | invalidKey hk _ hdecode =>
    exact spansFrom_of_error (hk.append_ne_nil _) (decodeRecord_of_invalidKey hk hdecode)
  | value hk h => exact spansFrom_of_error (hk.append_ne_nil _) (decodeRecord_of_value hk h)
  | later hk hv _ ih =>
    rw [spansFrom_record hk hv, ih]
    rfl

/-! ### Where the values stand -/

/-- The place of the value of a key, and the value that stands there. -/
structure Points (data : Bytes) (p : String × Span) (e : String × Bytes) : Prop where
  /-- The key is the same. -/
  key : p.1 = e.1
  /-- The place is within the bytes. -/
  inside : p.2.stop ≤ data.length
  /-- The value stands there. -/
  value : p.2.slice data = e.2

theorem points_of_isChunk (key : String) (pre : Bytes) (hv : IsChunk value v) (rest : Bytes) :
    Points (pre ++ (v ++ rest)) (key, ⟨pre.length + 4, value.length⟩) (key, value) := by
  obtain ⟨b₀, b₁, b₂, b₃, rfl, -⟩ := hv
  have hdata : pre ++ (b₀ :: b₁ :: b₂ :: b₃ :: value ++ rest)
      = pre ++ [b₀, b₁, b₂, b₃] ++ (value ++ rest) := by simp
  have hlength : pre.length + 4 = (pre ++ [b₀, b₁, b₂, b₃]).length := by simp
  rw [hdata, hlength]
  refine ⟨rfl, ?_, ?_⟩
  · simp only [Span.stop, List.length_append]
    omega
  · rw [Span.slice, List.drop_left, List.take_left]

/-- The values of an archive that comes after some bytes are found where they stand. -/
theorem Holds.spansFrom (h : Holds bs entries) (pre : Bytes) :
    ∃ spans, spansFrom pre.length bs = .ok spans ∧
      List.Forall₂ (Points (pre ++ bs)) spans entries := by
  -- places count from the beginning of all bytes, so those before the archive are carried along
  induction h generalizing pre with
  | nil => exact ⟨[], spansFrom_nil, .nil⟩
  | @cons key value k v rest entries hk hv _ ih =>
    obtain ⟨spans, hspans, hpoints⟩ := ih (pre ++ k ++ v)
    have hbefore : pre.length + k.length = (pre ++ k).length := List.length_append.symm
    have hafter : (pre ++ k).length + v.length = (pre ++ k ++ v).length :=
      List.length_append.symm
    refine ⟨(key, ⟨(pre ++ k).length + 4, value.length⟩) :: spans, ?_, ?_⟩
    · rw [spansFrom_record hk hv, hbefore, hafter, hspans]
      rfl
    · have hpoint := points_of_isChunk key (pre ++ k) hv rest
      have hdata : pre ++ (k ++ (v ++ rest)) = pre ++ k ++ (v ++ rest) := by simp
      have hdata' : pre ++ k ++ v ++ rest = pre ++ k ++ (v ++ rest) := by simp
      rw [hdata]
      rw [hdata'] at hpoints
      exact .cons hpoint hpoints

/-! ### The last value under a key -/

theorem getElem?_foldl_insert_eq_lookup {β : Type} {l : List (String × β)}
    {m : Std.TreeMap String β} {key : String} :
    (l.foldl (fun m (key, y) => m.insert key y) m)[key]? = (l.reverse.lookup key).or m[key]? := by
  induction l generalizing m with
  | nil => rfl
  | cons p l ih =>
    obtain ⟨first, y⟩ := p
    rw [List.foldl_cons, ih, List.reverse_cons, List.lookup_append, Std.TreeMap.getElem?_insert,
      Option.or_assoc, List.lookup_cons]
    congr 1
    by_cases hkey : first = key
    · simp [hkey]
    · simp [hkey, beq_false_of_ne (Ne.symm hkey)]

theorem lookup_of_points (key : String) {spans : List (String × Span)}
    (h : List.Forall₂ (Points data) spans entries) :
    (spans.lookup key).map (·.slice data) = entries.lookup key ∧
      ∀ span ∈ spans.lookup key, span.stop ≤ data.length := by
  induction h with
  | nil => simp
  | @cons p e spans entries hp _ ih =>
    obtain ⟨hkey, hinside, hvalue⟩ := hp
    rw [List.lookup_cons, List.lookup_cons, hkey]
    split
    · exact ⟨congrArg some hvalue, fun span hspan => Option.some.inj hspan ▸ hinside⟩
    · exact ih

/-- **The values of an archive are found where they stand**, of several with one key the last. -/
theorem Holds.index (h : Holds bs entries) :
    ∃ spans, index bs = .ok spans ∧ ∀ key,
      spans[key]?.map (·.slice bs) = entries.reverse.lookup key ∧
        ∀ span ∈ spans[key]?, span.stop ≤ bs.length := by
  obtain ⟨spans, hspans, hpoints⟩ := h.spansFrom []
  refine ⟨_, map_eq_ok_iff.mpr ⟨spans, hspans, rfl⟩, fun key => ?_⟩
  have hlookup := lookup_of_points key (List.forall₂_reverse_iff.mpr hpoints)
  rw [getElem?_foldl_insert_eq_lookup]
  simpa using hlookup

theorem index_of_firstFault (h : FirstFault 0 bs fault) : Archive.index bs = .error fault := by
  rw [Archive.index, spansFrom_of_firstFault h]
  rfl

/-- **Bytes are opened if they are an archive.** -/
theorem exists_index_eq_ok_iff :
    (∃ spans, Archive.index bs = .ok spans) ↔ ∃ entries, Holds bs entries := by
  constructor
  · rintro ⟨spans, hspans⟩
    obtain hholds | ⟨fault, hfault⟩ := holds_or_firstFault 0 bs
    · exact hholds
    · rw [index_of_firstFault hfault] at hspans
      cases hspans
  · rintro ⟨entries, h⟩
    obtain ⟨spans, hspans, -⟩ := h.index
    exact ⟨spans, hspans⟩

/-- **Of bytes that are no archive the first part at fault is told.** -/
theorem index_eq_error_iff : Archive.index bs = .error fault ↔ FirstFault 0 bs fault := by
  constructor
  · intro h
    obtain ⟨entries, hholds⟩ | ⟨fault', hfault⟩ := holds_or_firstFault 0 bs
    · obtain ⟨spans, hspans, -⟩ := hholds.index
      rw [hspans] at h
      cases h
    · rw [index_of_firstFault hfault] at h
      cases h
      exact hfault
  · exact index_of_firstFault

/-! ### Opening files -/

/-- The records of a list have the last value under every key. -/
theorem getElem?_ofList (entries : List (String × Bytes)) (key : String) :
    (Records.ofList entries)[key]? = entries.reverse.lookup key := by
  rw [Records.ofList, getElem?_foldl_insert_eq_lookup]
  simp

/-- **The records of an archive are read**, whether the file is mapped into memory or not. -/
theorem Holds.read (h : Holds bs entries) (draft? : Option Bytes) (useMmap : Bool) :
    ∃ r, (⟨some bs, draft?⟩ : Slot).read useMmap = .ok r ∧ r.Equiv (Records.ofList entries) := by
  obtain ⟨spans, hspans, hvalues⟩ := h.index
  have hopened : Opened.ofFile useMmap bs = .ok ⟨.ofFile useMmap bs, spans⟩ := by
    rw [Opened.ofFile, Backing.bytes_ofFile, hspans]
    rfl
  refine ⟨Opened.records ⟨.ofFile useMmap bs, spans⟩, ?_, .of_forall_constGet?_eq fun key => ?_⟩
  · simp only [Slot.read, hopened, Except.map, Except.mapError]
  · rw [Opened.records, Backing.bytes_ofFile, Std.TreeMap.getElem?_map, getElem?_ofList]
    exact (hvalues key).1

theorem read_of_firstFault (h : FirstFault 0 bs fault) (draft? : Option Bytes) (useMmap : Bool) :
    (⟨some bs, draft?⟩ : Slot).read useMmap = .error (.archive fault) := by
  have hopened : Opened.ofFile useMmap bs = .error fault := by
    rw [Opened.ofFile, Backing.bytes_ofFile, index_of_firstFault h]
    rfl
  simp only [Slot.read, hopened, Except.map, Except.mapError]

/-- The words for a fault name its place. -/
theorem names_offset (fault : ArchiveFault) : ∃ before after,
    (Error.archive fault).message = before ++ toString fault.offset ++ after := by
  have hmessage : (Error.archive fault).message = "Index error: " ++ fault.message := rfl
  obtain ⟨before, after, hfault⟩ :
      ∃ before after, fault.message = before ++ (toString fault.offset ++ after) := by
    cases fault with
    | truncatedLength offset =>
      refine ⟨"truncated length at offset ", "", ?_⟩
      rw [String.append_empty]
      rfl
    | overrun offset => exact ⟨_, _, String.append_assoc⟩
    | invalidKey offset fault => exact ⟨_, _, String.append_assoc.trans String.append_assoc⟩
  refine ⟨"Index error: " ++ before, after, ?_⟩
  rw [hmessage, hfault, String.append_assoc, String.append_assoc]

/-- **Opening accepts just the format.** Any bytes are opened if they are a row of records; then the
last value of every key is found where it stands, which is within the bytes. Otherwise the first part at
fault is told, and the error of opening such a file names its place. -/
theorem index_classifies (bs : Bytes) :
    ((∃ spans, Archive.index bs = .ok spans) ↔ ∃ entries, Holds bs entries) ∧
      (∀ entries, Holds bs entries → ∃ spans, Archive.index bs = .ok spans ∧ ∀ key,
        spans[key]?.map (·.slice bs) = entries.reverse.lookup key ∧
          ∀ span ∈ spans[key]?, span.stop ≤ bs.length) ∧
      (∀ fault, Archive.index bs = .error fault ↔ FirstFault 0 bs fault) ∧
      ∀ fault, FirstFault 0 bs fault →
        (∀ draft? useMmap, (⟨some bs, draft?⟩ : Slot).read useMmap = .error (.archive fault)) ∧
          ∃ before after,
            (Error.archive fault).message = before ++ toString fault.offset ++ after :=
  ⟨exists_index_eq_ok_iff, fun _ h => h.index, fun _ => index_eq_error_iff,
    fun fault h => ⟨read_of_firstFault h, names_offset fault⟩⟩

end Archive

end Concordance
