import Mathlib.Logic.Function.Basic
import Concordance.Storage.Config

/-!
# Disks

Files stand in directories under names. A file that is held open is held itself, and not by its name: its
content stays as it was when the name is given to another file.

Directories are told apart by numbers, as many paths may lead to one. A file may be linked to several
places, but not if it is a draft: to write it would be to write what stands at the other places.

## Main definitions

* `Place`: a name in a directory
* `FileConfig.place`, `Place.draft`: where an index stands, and where it is written
* `Disk`: files by their places
* `Disk.create`, `Disk.append`, `Disk.moveDraft`: what is done to files
* `OpenFile`: an archive that is held open
-/

namespace Concordance

/-! ### Places -/

/-- A name in a directory. -/
structure Place where
  /-- The number of the directory. -/
  directory : Nat
  /-- The name. -/
  name : String
deriving Repr, DecidableEq

/-- Where a new file is written that will take the place of another one. -/
def Place.draft (p : Place) : Place := { p with name := p.name ++ ".tmp" }

/-- A place at which files are written that will take the place of others. -/
def Place.IsDraft (p : Place) : Prop := ∃ q : Place, p = q.draft

/-- The place of the file, where `directory` gives the directories that paths lead to: the name follows the
last slash of the path. -/
def FileConfig.place (directory : String → Nat) (c : FileConfig) : Place where
  directory := directory (.ofList (c.path.toList.reverse.dropWhile (· ≠ '/')).reverse)
  name := .ofList (c.path.toList.reverse.takeWhile (· ≠ '/')).reverse

/-! ### Files -/

/-- Files, told apart by numbers. -/
structure Disk where
  /-- The file at a place. -/
  file? : Place → Option Nat
  /-- What is in a file. -/
  content : Nat → Bytes
  /-- The number of the next new file. -/
  fresh : Nat
  /-- A new file is none of those that stand somewhere. -/
  lt_fresh : ∀ {p file}, file? p = some file → file < fresh
  /-- The file of a draft stands nowhere else. -/
  place_eq : ∀ {p q file}, p.IsDraft → file? p = some file → file? q = some file → p = q

namespace Disk

/-- What is in the file at a place. -/
def read? (d : Disk) (p : Place) : Option Bytes := (d.file? p).map d.content

/-- Puts other bytes into a file. -/
def put (d : Disk) (file : Nat) (bs : Bytes) : Disk :=
  { d with content := Function.update d.content file bs }

/-- Puts bytes at the end of a file. -/
def append (d : Disk) (file : Nat) (bs : Bytes) : Disk := d.put file (d.content file ++ bs)

/-- Puts a new file at a place. -/
def addFile (d : Disk) (p : Place) : Disk where
  file? := Function.update d.file? p (some d.fresh)
  content := Function.update d.content d.fresh []
  fresh := d.fresh + 1
  lt_fresh {q file} hq := by
    rw [Function.update_apply] at hq
    split at hq
    · cases hq
      exact Nat.lt_succ_self _
    · exact Nat.lt_succ_of_lt (d.lt_fresh hq)
  place_eq {q q' file} hdraft hq hq' := by
    rw [Function.update_apply] at hq hq'
    split at hq <;> split at hq'
    · simp_all
    · cases hq
      exact absurd (d.lt_fresh hq') (Nat.lt_irrefl _)
    · cases hq'
      exact absurd (d.lt_fresh hq) (Nat.lt_irrefl _)
    · exact d.place_eq hdraft hq hq'

/-- Makes an empty file at a place, or empties the one that is there. -/
def create (d : Disk) (p : Place) : Disk × Nat :=
  match d.file? p with
  | some file => (d.put file [], file)
  | none => (d.addFile p, d.fresh)

/-- Moves a draft to the place for which it has been written. -/
def moveDraft (d : Disk) (p : Place) : Except Error Disk :=
  if (d.file? p.draft).isNone then .error .notFound
  else .ok {
    d with
    file? := fun x => if x = p then d.file? p.draft else if x = p.draft then none else d.file? x
    lt_fresh {x file} hx := by
      split at hx
      · exact d.lt_fresh hx
      · split at hx
        · cases hx
        · exact d.lt_fresh hx
    place_eq {x y file} hdraft hx hy := by
      -- No other place has the file of the draft.
      have hother : ∀ {z}, (if z = p.draft then none else d.file? z) = some file →
          d.file? p.draft ≠ some file := by
        intro z hz hfile
        split at hz
        · cases hz
        · exact absurd (d.place_eq ⟨p, rfl⟩ hfile hz).symm (by assumption)
      split at hx <;> split at hy
      · simp_all
      · exact absurd hx (hother hy)
      · exact absurd hy (hother hx)
      · split at hx <;> split at hy <;> first | contradiction | exact d.place_eq hdraft hx hy }

end Disk

/-! ### Archives held open -/

/-- How the bytes of an archive are held. -/
inductive Holding where
  /-- The file is mapped into memory. -/
  | mapped (file : Nat)
  /-- The file has been read as a whole. -/
  | owned (bs : Bytes)
deriving Repr, DecidableEq

/-- The bytes, as they are now. -/
def Holding.bytes (d : Disk) : Holding → Bytes
  | mapped file => d.content file
  | owned bs => bs

/-- An archive that is held open. -/
structure OpenFile where
  /-- Its bytes. -/
  holding : Holding
  /-- Where the values stand. -/
  spans : Std.TreeMap String Archive.Span

/-- The records that are answered from, each value read from where it stands. -/
def OpenFile.records (d : Disk) (o : OpenFile) : Records :=
  o.spans.map fun _ span => span.slice (o.holding.bytes d)

/-- Opens the archive at a place. An empty file cannot be mapped. -/
def Disk.openFile (d : Disk) (p : Place) (useMmap : Bool) : Except Error OpenFile :=
  match d.file? p with
  | none => .error .notFound
  | some file =>
    let bs := d.content file
    let holding := if useMmap && !bs.isEmpty then .mapped file else .owned bs
    ((Archive.index bs).mapError .archive).map fun spans => ⟨holding, spans⟩

end Concordance
