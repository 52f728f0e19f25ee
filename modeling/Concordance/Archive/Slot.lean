import Concordance.Archive

/-!
# Places for archives

An archive is written beside the one it replaces, and takes its place when it is complete. So whatever
goes wrong before that leaves the old archive as it was.

## Main definitions

* `Archive.Slot`: the archive at a place, and the one that is being written there
* `Archive.Step`: what writing is made of
* `Archive.Slot.run`: carries out steps as far as nothing stands in the way
* `Archive.Slot.write`, `Archive.Slot.read`: an archive as a whole
-/

namespace Concordance

namespace Archive

/-- The place of an archive. -/
structure Slot where
  /-- The archive there, if there is one. -/
  file? : Option Bytes := none
  /-- As much as has been written of another one. -/
  draft? : Option Bytes := none
deriving Repr, DecidableEq, Inhabited

/-- A step of writing an archive. -/
inductive Step where
  /-- A new archive is begun beside the old one. -/
  | begin
  /-- One more part, after its length. -/
  | append (chunk : Bytes)
  /-- The new archive takes the place of the old one. -/
  | replace
deriving Repr, DecidableEq

namespace Slot

/-- Carries out a step. -/
def step (s : Slot) : Step → Except Error Slot
  | .begin => .ok { s with draft? := some [] }
  | .append chunk => (encodeChunk chunk).map fun bs => { s with draft? := s.draft?.map (· ++ bs) }
  | .replace => .ok ⟨s.draft?.or s.file?, none⟩

/-- Carries out steps until one fails, or meets an obstacle, which depends on how many steps are
done. -/
def run (obstacle? : Nat → Option Error) (done : Nat) (s : Slot) : List Step → Slot × Except Error Unit
  | [] => (s, .ok ())
  | t :: ts =>
    match obstacle? done with
    | some e => (s, .error e)
    | none =>
      match s.step t with
      | .error e => (s, .error e)
      | .ok s => run obstacle? (done + 1) s ts

/-- The steps of writing records. -/
def writeSteps (r : Records) : List Step := .begin :: (chunks r).map .append ++ [.replace]

/-- Writes records. -/
def write (obstacle? : Nat → Option Error) (s : Slot) (r : Records) : Slot × Except Error Unit :=
  s.run obstacle? 0 (writeSteps r)

/-- Opens the archive and reads its records. -/
def read (s : Slot) (useMmap : Bool) : Except Error Records :=
  match s.file? with
  | none => .error .notFound
  | some bs => ((Opened.ofFile useMmap bs).map Opened.records).mapError .archive

end Slot

end Archive

end Concordance
