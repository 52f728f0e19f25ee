import Concordance.Json

/-!
# Decoding JSON values

What a value means depends on what is expected of it. A structure is read from an object, or from an
array that lists its fields in order; unknown members are passed over, but no known field may be given
twice.

## Main definitions

* `Json.bool?`, `Json.text?`, `Json.nat?`, `Json.texts?`: plain values
* `Json.Fields`, `Json.fields?`: the fields of a structure
* `Json.Fields.required?`, `Json.Fields.optional?`: one field, decoded
-/

namespace Concordance

namespace Json

/-- A truth value. -/
def bool? : Json → Option Bool
  | bool b => some b
  | _ => none

/-- A string that has a text. -/
def text? : Json → Option String
  | string text? => text?
  | _ => none

/-- The largest number of an unsigned 64-bit word. -/
def maxWord : Nat := 0xFFFFFFFFFFFFFFFF

/-- A natural number of 64 bits, written without sign, point or exponent. -/
def nat? : Json → Option Nat
  | number text =>
    if text.all Char.isDigit then
      let n := text.foldl (fun n c => n * 10 + (c.toNat - '0'.toNat)) 0
      if n ≤ maxWord then some n else none
    else none
  | _ => none

/-- A list, with every element decoded. -/
def list? {α : Type} (decode : Json → Option α) : Json → Option (List α)
  | array elements => elements.mapM decode
  | _ => none

/-- A list of strings. -/
def texts? : Json → Option (List String) := list? text?

/-- A value that may be `null`. -/
def nullable? {α : Type} (decode : Json → Option α) : Json → Option (Option α)
  | null => some none
  | j => (decode j).map some

/-- The known fields of a structure that are given, each once. -/
abbrev Fields := List (String × Json)

/-- The known fields among the members of an object. All keys must have a text, and no known field
may be given twice. -/
def knownFields? (names : List String) : List (Option String × Json) → Option Fields
  | [] => some []
  | (none, _) :: _ => none
  | (some key, v) :: rest =>
    match knownFields? names rest with
    | none => none
    | some fields =>
      if !names.contains key then some fields
      else if (fields.lookup key).isSome then none
      else some ((key, v) :: fields)

/-- The fields of a structure with the given field names. -/
def fields? (names : List String) : Json → Option Fields
  | object members => knownFields? names members
  | array elements => if elements.length ≤ names.length then some (names.zip elements) else none
  | _ => none

/-- A field that must be given. -/
def Fields.required? {α : Type} (fields : Fields) (name : String) (decode : Json → Option α) :
    Option α :=
  (fields.lookup name).bind decode

/-- A field that has a default. -/
def Fields.optional? {α : Type} (fields : Fields) (name : String) (decode : Json → Option α)
    (default : α) : Option α :=
  match fields.lookup name with
  | some v => decode v
  | none => some default

end Json

end Concordance
