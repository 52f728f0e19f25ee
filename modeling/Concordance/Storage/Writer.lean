import Concordance.Storage.Disk

/-!
# Writing archives to disks

An archive is written through a buffer to a file beside the one that it replaces, and moved to its place when
all bytes are written. The system may refuse any call, and may take fewer bytes than it is given.

## Main definitions

* `System`: what the system makes of each call
* `Writer`: a file that is written through a buffer
* `Writer.put`, `Writer.flush`: accepts bytes, and gives them to the system
* `Writer.putRecords`: records, one after another
* `Disk.write`: writes an archive
* `Attempt.run`, `Attempt.runAll`: one attempt at writing, and one after another
-/

namespace Concordance

/-! ### The system -/

/-- What the system makes of a call. -/
inductive CallResult where
  /-- It refuses. -/
  | refuses (cause : String)
  /-- It does what it is asked for, but of bytes it takes no more than `count`. -/
  | takes (count : Nat)
deriving Repr, DecidableEq

/-- What the system makes of each call, by the number of calls before it. -/
abbrev System := Nat → CallResult

/-- Whether the system does what it is asked for. -/
def System.answer (sys : System) (calls : Nat) : Except Error Unit :=
  match sys calls with
  | .refuses cause => .error (.file cause)
  | .takes _ => .ok ()

/-! ### Writing through a buffer -/

/-- A file that is written through a buffer. -/
structure Writer where
  /-- The disk, as it is now. -/
  disk : Disk
  /-- How many calls there have been. -/
  calls : Nat
  /-- The file. -/
  file : Nat
  /-- The bytes that have been accepted, but not given to the system. -/
  buffer : Bytes

/-- A part of writing, which may fail halfway. -/
abbrev Writing := Writer → Writer × Except Error Unit

/-- One part of writing after another, unless the first one fails. -/
def Writing.andThen (first second : Writing) : Writing := fun w =>
  match first w with
  | (w, .ok ()) => second w
  | (w, .error e) => (w, .error e)

namespace Writer

/-- Gives bytes to the system until it has taken them all, and says which it has not taken. -/
def pour (sys : System) (stuck : String) (w : Writer) : Bytes → Writer × Bytes × Except Error Unit
  | [] => (w, [], .ok ())
  | b :: bs =>
    match sys w.calls with
    | .refuses cause => ({ w with calls := w.calls + 1 }, b :: bs, .error (.file cause))
    | .takes 0 => ({ w with calls := w.calls + 1 }, b :: bs, .error (.file stuck))
    | .takes (n + 1) =>
      let taken := b :: bs.take n
      pour sys stuck { w with calls := w.calls + 1, disk := w.disk.append w.file taken } (bs.drop n)
termination_by bs => bs.length

/-- Gives the bytes of the buffer to the system. Those that it does not take stay in the buffer. -/
def flush (sys : System) : Writing := fun w =>
  let (w, left, result) := w.pour sys "failed to write the buffered data" w.buffer
  ({ w with buffer := left }, result)

/-- Gives bytes to the system that do not go through the buffer. -/
def give (sys : System) (bs : Bytes) : Writing := fun w =>
  let (w, _, result) := w.pour sys "failed to write whole buffer" bs
  (w, result)

/-- Puts bytes into the buffer. -/
def hold (bs : Bytes) : Writing := fun w => ({ w with buffer := w.buffer ++ bs }, .ok ())

/-- Accepts bytes. The buffer is flushed if they do not fit into it, and left out if they would fill it. -/
def put (sys : System) (capacity : Nat) (bs : Bytes) : Writing := fun w =>
  let room := capacity - w.buffer.length
  let last := if capacity ≤ bs.length then give sys bs else hold bs
  if bs.length < room then hold bs w
  else if bs.length = room then last w
  else (flush sys).andThen last w

/-- Accepts a part of an archive, after its length. -/
def putChunk (sys : System) (capacity : Nat) (chunk : Bytes) : Writing :=
  if chunk.length ≤ Archive.maxChunk then
    (put sys capacity (Archive.littleEndian 4 chunk.length)).andThen (put sys capacity chunk)
  else fun w => (w, .error .tooLong)

/-- Accepts records, and gives to the system what is left in the buffer. -/
def putRecords (sys : System) (capacity : Nat) : List (String × Bytes) → Writing
  | [] => flush sys
  | (key, value) :: entries =>
    (putChunk sys capacity (Text.encode key.toList)).andThen <|
      (putChunk sys capacity value).andThen (putRecords sys capacity entries)

/-- Closes the file. What is left in the buffer is given to the system, whatever comes of it. -/
def close (sys : System) (w : Writer) : Writer := (w.flush sys).1

end Writer

/-! ### Writing archives -/

namespace Disk

/-- Writes records to a place, through a buffer of the given capacity: after the call for the directory, and
the one for the draft, come those for its bytes, and the last one moves it. -/
def write (sys : System) (capacity : Nat) (d : Disk) (p : Place) (r : Records) :
    Disk × Except Error Unit :=
  match do sys.answer 0; sys.answer 1 with
  | .error e => (d, .error e)
  | .ok () =>
    let (d, file) := d.create p.draft
    let (w, result) := Writer.putRecords sys capacity r.toList ⟨d, 2, file, []⟩
    let w := w.close sys
    match do result; sys.answer w.calls; w.disk.moveDraft p with
    | .error e => (w.disk, .error e)
    | .ok d => (d, .ok ())

end Disk

/-- Writing records to the place of an index. -/
structure Attempt where
  /-- What the system makes of it. -/
  system : System
  /-- How many bytes the buffer has room for. -/
  capacity : Nat
  /-- The place. -/
  config : FileConfig
  /-- The records. -/
  records : Records

/-- The disk after one attempt. -/
def Attempt.run (directory : String → Nat) (d : Disk) (a : Attempt) : Disk :=
  (d.write a.system a.capacity (a.config.place directory) a.records).1

/-- The disk after attempts, one after another. -/
def Attempt.runAll (directory : String → Nat) (d : Disk) (attempts : List Attempt) : Disk :=
  attempts.foldl (run directory) d

end Concordance
