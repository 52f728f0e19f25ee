import Concordance.Archive.Slot
import Concordance.Json.Sound
import Concordance.Storage

/-!
# Where records are kept

Records are kept in memory, where they are gone afterwards, or in an archive.

## Main definitions

* `FileConfig`: the place of an archive in the file system
* `StorageConfig`: memory or a file
* `StorageConfig.create`, `StorageConfig.build`: opens what is there, or writes records and opens them
-/

namespace Concordance

/-- The place of an archive in the file system. -/
structure FileConfig where
  /-- The directory. -/
  dir : String
  /-- The name of the index, from which the file has its name. -/
  name : String := "KJV"
  /-- Whether the file is mapped into memory. -/
  useMmap : Bool := true
deriving Repr, DecidableEq, Inhabited

namespace FileConfig

/-- What stands after the name of an index in the name of its file. -/
def suffix : String := "_index.vdb"

/-- A path below a directory. -/
def join (dir path : String) : String :=
  if dir.isEmpty || path.startsWith "/" then path
  else if dir.endsWith "/" then dir ++ path
  else dir ++ "/" ++ path

/-- The path of the file. -/
def path (c : FileConfig) : String := join c.dir (c.name ++ suffix)

/-- Whether the directory of the file is there as soon as the configured directory is: the name of the
index must not lead into other directories. -/
def isReachable (c : FileConfig) : Bool :=
  (c.name.splitOn "/").dropLast.all fun part => part == "" || part == "." || part == ".."

/-- What stands in the way of writing the file. -/
def obstacle? (c : FileConfig) (done : Nat) : Option Error :=
  if done = 0 && !c.isReachable then some .notFound else none

end FileConfig

/-- Where records are kept. -/
inductive StorageConfig where
  /-- In memory, with room for a number of records. -/
  | memory (initialCapacity : Nat)
  /-- In a file. -/
  | file (c : FileConfig)
deriving Repr, DecidableEq

namespace StorageConfig

instance : Inhabited StorageConfig := ⟨memory 0⟩

/-- Opens what is there: nothing in memory, or the archive of a file. -/
def create (c : StorageConfig) (s : Archive.Slot) : Except Error Storage :=
  match c with
  | memory _ => .ok .empty
  | file f => (s.read f.useMmap).map .ofRecords

/-- Keeps records and opens them. -/
def build (c : StorageConfig) (s : Archive.Slot) (r : Records) :
    Archive.Slot × Except Error Storage :=
  match c with
  | memory _ => (s, .ok (.ofRecords r))
  | file f =>
    match s.write f.obstacle? r with
    | (s, .ok ()) => (s, c.create s)
    | (s, .error e) => (s, .error e)

/-! ### As JSON values -/

/-- The configuration as a JSON value. -/
def toJson : StorageConfig → Json
  | memory initialCapacity =>
    .ofMembers [("type", .ofString "memory"), ("initial_capacity", .ofNat initialCapacity)]
  | file c =>
    .ofMembers [("type", .ofString "file"), ("dir", .ofString c.dir), ("name", .ofString c.name),
      ("use_mmap", .bool c.useMmap)]

/-- The fields of a configuration of one type. -/
def ofFields? (type : String) (j : Json) : Option StorageConfig :=
  match type with
  | "memory" => do
    let fields ← j.fields? ["initial_capacity"]
    return memory (← fields.optional? "initial_capacity" Json.nat? 0)
  | "file" => do
    let fields ← j.fields? ["dir", "name", "use_mmap"]
    return file {
      dir := ← fields.required? "dir" Json.text?
      name := ← fields.required? "name" Json.text?
      useMmap := ← fields.required? "use_mmap" Json.bool? }
  | _ => none

/-- The configuration that a JSON value gives. The type is one of the members, or the first element,
and what remains are the fields. -/
def ofJson? (j : Json) : Option StorageConfig :=
  if !j.isSound then none
  else match j with
  | .object members =>
    match members.partition fun m => m.1 == some "type" with
    | ([(_, type)], fields) => type.text?.bind fun t => ofFields? t (.object fields)
    | _ => none
  | .array (type :: fields) => type.text?.bind fun t => ofFields? t (.array fields)
  | _ => none

end StorageConfig

end Concordance
