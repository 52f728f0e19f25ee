import Std.Data.TreeMap.AdditionalOperations
import Concordance.Error
import Concordance.Records

/-!
# Archives

An archive is a file of records, one after another, in the order of their keys. Of each record the key
comes first and then the value, and either follows its length, written as four bytes with the lowest
one first.

When an archive is opened, it is gone through once to find out where the value of every key stands.
After that the values are read from where they stand.

## Main definitions

* `Archive.encode`: the archive of records
* `Archive.index`: where the values of an archive stand
* `Archive.Opened`: an open archive
-/

namespace Concordance

namespace Archive

/-! ### Writing -/

/-- The lowest `count` bytes of a number, the lowest first. -/
def littleEndian : (count n : Nat) → Bytes
  | 0, _ => []
  | count + 1, n => UInt8.ofNat n :: littleEndian count (n / 256)

/-- The longest part that an archive has room for: its length takes four bytes. -/
def maxChunk : Nat := 0xFFFFFFFF

/-- Bytes after their length, unless they are too long. -/
def encodeChunk (bs : Bytes) : Except Error Bytes :=
  if bs.length ≤ maxChunk then .ok (littleEndian 4 bs.length ++ bs) else .error .tooLong

/-- The parts that an archive is made of: keys and values in turn. -/
def chunks (r : Records) : List Bytes :=
  r.toList.flatMap fun (key, value) => [Text.encode key.toList, value]

/-- The archive of records. -/
def encode (r : Records) : Except Error Bytes :=
  ((chunks r).mapM encodeChunk).map List.flatten

/-! ### Reading -/

/-- The number that bytes write, the lowest first. -/
def ofLittleEndian : Bytes → Nat
  | [] => 0
  | b :: bs => b.toNat + 256 * ofLittleEndian bs

/-- The bytes that a length announces, and those after them. -/
def decodeChunk (offset : Nat) (bs : Bytes) : Except ArchiveFault (Bytes × Bytes) :=
  if bs.length < 4 then .error (.truncatedLength offset)
  else
    let length := ofLittleEndian (bs.take 4)
    let rest := bs.drop 4
    if rest.length < length then .error (.overrun offset)
    else .ok (rest.take length, rest.drop length)

/-- How many bytes a part of an archive takes up, its length included. -/
def chunkSize (bs : Bytes) : Nat := 4 + bs.length

theorem length_of_decodeChunk {offset : Nat} {bs chunk rest : Bytes}
    (h : decodeChunk offset bs = .ok (chunk, rest)) : bs.length = chunkSize chunk + rest.length := by
  unfold decodeChunk at h
  split at h
  · cases h
  · dsimp only at h
    split at h
    · cases h
    · cases h
      simp only [chunkSize, List.length_take, List.length_drop] at *
      omega

/-- Where a value stands in an archive. -/
structure Span where
  /-- The place of its first byte. -/
  start : Nat
  /-- How many bytes it has. -/
  length : Nat
deriving Repr, DecidableEq

namespace Span

/-- The place after the last byte. -/
def stop (s : Span) : Nat := s.start + s.length

/-- The bytes that stand there. -/
def slice (s : Span) (data : Bytes) : Bytes := (data.drop s.start).take s.length

end Span

/-- The key of the record at place `offset`, the place of its value, and the bytes after the record. -/
def decodeRecord (offset : Nat) (bs : Bytes) : Except ArchiveFault ((String × Span) × Bytes) := do
  let (keyBytes, rest) ← decodeChunk offset bs
  let key ← (Text.decode keyBytes).mapError (.invalidKey offset)
  let valueOffset := offset + chunkSize keyBytes
  let (value, rest) ← decodeChunk valueOffset rest
  return ((String.ofList key, ⟨valueOffset + 4, value.length⟩), rest)

theorem length_lt_of_decodeRecord {offset : Nat} {bs rest : Bytes} {entry : String × Span}
    (h : decodeRecord offset bs = .ok (entry, rest)) : rest.length < bs.length := by
  simp only [decodeRecord, bind_eq_ok_iff] at h
  obtain ⟨⟨keyBytes, afterKey⟩, hk, key, -, ⟨value, rest'⟩, hv, heq⟩ := h
  cases heq
  have := length_of_decodeChunk hk
  have := length_of_decodeChunk hv
  simp only [chunkSize] at *
  omega

/-- The keys of the bytes from place `offset` on, in order, and where their values stand. -/
def spansFrom (offset : Nat) (bs : Bytes) : Except ArchiveFault (List (String × Span)) :=
  if bs.isEmpty then .ok []
  else
    match _h : decodeRecord offset bs with
    | .error fault => .error fault
    | .ok (entry, rest) => (spansFrom entry.2.stop rest).map (entry :: ·)
termination_by bs.length
decreasing_by exact length_lt_of_decodeRecord _h

/-- Where the values of an archive stand; of several with one key the last counts. -/
def index (bs : Bytes) : Except ArchiveFault (Std.TreeMap String Span) :=
  (spansFrom 0 bs).map fun entries => entries.foldl (fun m (key, span) => m.insert key span) ∅

/-! ### Open archives -/

/-- How the bytes of an archive are held while it is open. -/
inductive Backing where
  /-- The file is mapped into memory. -/
  | mapped (bs : Bytes)
  /-- The file has been read as a whole. -/
  | owned (bs : Bytes)
deriving Repr, DecidableEq

namespace Backing

/-- The bytes. -/
def bytes : Backing → Bytes
  | mapped bs | owned bs => bs

/-- Holds the bytes of a file. An empty file cannot be mapped. -/
def ofFile (useMmap : Bool) (bs : Bytes) : Backing :=
  if useMmap && !bs.isEmpty then mapped bs else owned bs

@[simp] theorem bytes_ofFile (useMmap : Bool) (bs : Bytes) : (ofFile useMmap bs).bytes = bs := by
  rw [ofFile]
  split <;> rfl

end Backing

/-- An open archive. -/
structure Opened where
  /-- The bytes. -/
  backing : Backing
  /-- Where the values stand. -/
  spans : Std.TreeMap String Span

namespace Opened

/-- Opens the archive in a file. -/
def ofFile (useMmap : Bool) (bs : Bytes) : Except ArchiveFault Opened :=
  let backing := Backing.ofFile useMmap bs
  (index backing.bytes).map fun spans => ⟨backing, spans⟩

/-- The records of an open archive, each value read from where it stands. -/
def records (o : Opened) : Records := o.spans.map fun _ span => span.slice o.backing.bytes

end Opened

end Archive

end Concordance
