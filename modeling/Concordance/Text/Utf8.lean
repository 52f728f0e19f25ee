/-!
# UTF-8

Texts are stored as bytes. A character takes up one to four bytes: the first tells how many there are,
and each of the others holds six more bits. Of the forms that the bits allow, only the shortest is well
formed, and none for a code that is not a character's; both show in the second byte.

## Main definitions

* `Bytes`: a row of bytes
* `Text.encode`, `Text.decode`: between characters and bytes
* `Text.Fault`: why bytes are no text
-/

namespace Concordance

/-- A row of bytes. -/
abbrev Bytes := List UInt8

namespace Text

/-- The bytes of a text. -/
def encode (cs : List Char) : Bytes := cs.flatMap String.utf8EncodeChar

/-- Why bytes are no text. -/
structure Fault where
  /-- Where the first character stands that is not well formed. -/
  index : Nat
  /-- How many of its bytes cannot belong to any character; missing if the bytes end too early. -/
  length? : Option Nat
deriving Repr, DecidableEq

namespace Fault

/-- The fault in words. -/
def message (f : Fault) : String :=
  match f.length? with
  | some length =>
    "invalid utf-8 sequence of " ++ toString length ++ " bytes from index " ++ toString f.index
  | none => "incomplete utf-8 byte sequence from index " ++ toString f.index

end Fault

/-- A character of which some bytes have been read. -/
structure Pending where
  /-- The bits so far. -/
  value : Nat
  /-- How many bytes have been read. -/
  seen : Nat
  /-- How many bytes are to come. -/
  missing : Nat
  /-- The least next byte. -/
  low : UInt8
  /-- The greatest next byte. -/
  high : UInt8
deriving Repr, DecidableEq

namespace Pending

/-- A character of several bytes, known by its first one. -/
def ofLead? (b : UInt8) : Option Pending :=
  let n := b.toNat
  if n < 0xC2 then none
  else if n < 0xE0 then some ⟨n - 0xC0, 1, 1, 0x80, 0xBF⟩
  else if n < 0xF0 then
    some ⟨n - 0xE0, 1, 2, if n = 0xE0 then 0xA0 else 0x80, if n = 0xED then 0x9F else 0xBF⟩
  else if n < 0xF5 then
    some ⟨n - 0xF0, 1, 3, if n = 0xF0 then 0x90 else 0x80, if n = 0xF4 then 0x8F else 0xBF⟩
  else none

/-- Whether a byte can be the next one. -/
def accepts (p : Pending) (b : UInt8) : Bool := p.low ≤ b && b ≤ p.high

/-- The bits with those of one more byte. -/
def extend (p : Pending) (b : UInt8) : Nat := p.value * 64 + (b.toNat - 0x80)

/-- One more byte has been read. -/
def push (p : Pending) (b : UInt8) : Pending :=
  ⟨p.extend b, p.seen + 1, p.missing - 1, 0x80, 0xBF⟩

end Pending

/-- The characters of the bytes from place `index` on, the bytes of `pending?` coming right before. -/
def decodeFrom (index : Nat) (pending? : Option Pending) : Bytes → Except Fault (List Char)
  | [] =>
    match pending? with
    | some p => .error ⟨index - p.seen, none⟩
    | none => .ok []
  | b :: bs =>
    match pending? with
    | some p =>
      if !p.accepts b then .error ⟨index - p.seen, some p.seen⟩
      else if p.missing = 1 then
        (decodeFrom (index + 1) none bs).map (Char.ofNat (p.extend b) :: ·)
      else decodeFrom (index + 1) (some (p.push b)) bs
    | none =>
      if b < 0x80 then (decodeFrom (index + 1) none bs).map (Char.ofNat b.toNat :: ·)
      else match Pending.ofLead? b with
        | some p => decodeFrom (index + 1) (some p) bs
        | none => .error ⟨index, some 1⟩

/-- The text that bytes stand for. -/
def decode (bs : Bytes) : Except Fault (List Char) := decodeFrom 0 none bs

/-- The text that bytes stand for, if they stand for one. -/
def decode? (bs : Bytes) : Option (List Char) := (decode bs).toOption

@[simp] theorem encode_nil : encode [] = [] := rfl

@[simp] theorem encode_cons (c : Char) (cs : List Char) :
    encode (c :: cs) = String.utf8EncodeChar c ++ encode cs := rfl

end Text

end Concordance
