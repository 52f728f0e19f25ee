import Concordance.Error
import Concordance.Records

/-!
# Storage

Once the records of an index are open they do not change: a storage goes on answering from the archive
as it was. There may be records that cannot be read.

## Main definitions

* `Storage`: open records, as far as they answer
* `Storage.ofRecords`: a storage all of whose records can be read
* `Storage.value?`: what a record holds, decoded
-/

namespace Concordance

/-- Open records, which always give the same answers. -/
structure Storage where
  /-- The value under a key, unless it cannot be read. -/
  get : String → Except Error (Option Bytes)
  /-- Whether there is a value under a key. -/
  contains : String → Bool
  /-- The keys. -/
  keys : List String
  /-- How many records there are. -/
  size : Nat

namespace Storage

/-- A storage that answers from records. -/
def ofRecords (r : Records) : Storage where
  get key := .ok r[key]?
  contains := r.contains
  keys := r.keys
  size := r.size

/-- No records. -/
def empty : Storage := ofRecords ∅

/-- Whether there are no records. -/
def isEmpty (s : Storage) : Bool := s.size == 0

/-- What `decode` makes of the JSON value under a key. A record that is missing, that cannot be read or
that holds something else has no value. -/
def value? {α : Type} (s : Storage) (decode : Json → Option α) (key : String) : Option α :=
  match s.get key with
  | .ok (some bs) => (Json.ofBytes? bs).bind decode
  | _ => none

end Storage

end Concordance
