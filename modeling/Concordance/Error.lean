import Concordance.Text.Utf8

/-!
# Errors

What can go wrong, by its cause, and how it is put into words.

## Main definitions

* `ArchiveFault`: why bytes are no archive
* `Error`: the causes of failure
* `Error.message`: an error in words
-/

namespace Concordance

/-- Why bytes are no archive, with the place of the part at fault. -/
inductive ArchiveFault where
  /-- The bytes end within a length. -/
  | truncatedLength (offset : Nat)
  /-- The bytes end within what a length has announced. -/
  | overrun (offset : Nat)
  /-- A key is no text. -/
  | invalidKey (offset : Nat) (fault : Text.Fault)
deriving Repr, DecidableEq

/-- The fault in words. -/
def ArchiveFault.message : ArchiveFault → String
  | truncatedLength offset => "truncated length at offset " ++ toString offset
  | overrun offset => "record at offset " ++ toString offset ++ " runs past end of file"
  | invalidKey offset fault => "invalid key at offset " ++ toString offset ++ ": " ++ fault.message

/-- A cause of failure. -/
inductive Error where
  /-- The system refuses to read or write a file. -/
  | file (cause : String)
  /-- A file is no archive. -/
  | archive (fault : ArchiveFault)
  /-- A record cannot be read. -/
  | unreadable
  /-- A key or value is too long for an archive. -/
  | tooLong
  /-- There is no search strategy of this name. -/
  | unknownStrategy (name : String)
deriving Repr, DecidableEq

namespace Error

/-- There is no such file, or no such directory to put it in. -/
def notFound : Error := file "No such file or directory (os error 2)"

/-- The error in words. -/
def message : Error → String
  | file cause => "I/O error: " ++ cause
  | archive fault => "Index error: " ++ fault.message
  | unreadable => "Index error: unreadable"
  | tooLong => "Invalid argument: record larger than 4 GiB"
  | unknownStrategy name => "Unknown search strategy: " ++ name

end Error

/-! ### Results that are passed on -/

section

variable {ε α β : Type} {f : α → β} {x : Except ε α}

theorem map_eq_ok_iff {y : β} : x.map f = .ok y ↔ ∃ a, x = .ok a ∧ f a = y := by
  cases x <;> simp [Except.map]

theorem bind_eq_ok_iff {g : α → Except ε β} {y : β} :
    (x >>= g) = .ok y ↔ ∃ a, x = .ok a ∧ g a = .ok y := by
  cases x <;> simp [bind, Except.bind]

end

end Concordance
