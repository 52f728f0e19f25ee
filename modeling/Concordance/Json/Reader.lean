import Concordance.Json

/-!
# Reading JSON

The grammar of JSON, as strict as it is: no comments, no trailing commas, no control characters in
strings, and no zeros before a number. Escapes that do not make characters are part of the grammar
but leave the string without text.

## Main definitions

* `Json.read?`: the value that a text writes
-/

namespace Concordance

namespace Json

/-- White space between the parts of a value. -/
def isSpace (c : Char) : Bool := c == ' ' || c == '\n' || c == '\t' || c == '\r'

/-- A text without the space at its start. -/
def skipSpace (cs : List Char) : List Char := cs.dropWhile isSpace

/-! ### Numbers -/

/-- A run of at least one digit. -/
def readDigits? (cs : List Char) : Option (List Char × List Char) :=
  let digits := cs.takeWhile Char.isDigit
  if digits.isEmpty then none else some (digits, cs.dropWhile Char.isDigit)

/-- The digits before the point: a zero alone, or a run that does not begin with one. -/
def readWhole? (cs : List Char) : Option (List Char × List Char) :=
  match cs with
  | '0' :: rest => some (['0'], rest)
  | _ => readDigits? cs

/-- A point and digits, if there is a point. -/
def readFraction? (cs : List Char) : Option (List Char × List Char) :=
  match cs with
  | '.' :: rest => (readDigits? rest).map fun (digits, rest) => ('.' :: digits, rest)
  | _ => some ([], cs)

/-- An exponent, if there is one. -/
def readExponent? (cs : List Char) : Option (List Char × List Char) :=
  match cs with
  | e :: rest =>
    if e == 'e' || e == 'E' then
      match rest with
      | s :: rest' =>
        if s == '+' || s == '-' then
          (readDigits? rest').map fun (digits, rest) => (e :: s :: digits, rest)
        else (readDigits? rest).map fun (digits, rest) => (e :: digits, rest)
      | [] => none
    else some ([], cs)
  | [] => some ([], cs)

/-- A number without its sign. -/
def readUnsigned? (cs : List Char) : Option (List Char × List Char) :=
  match readWhole? cs with
  | none => none
  | some (whole, cs) =>
    match readFraction? cs with
    | none => none
    | some (fraction, cs) =>
      (readExponent? cs).map fun (exponent, rest) => (whole ++ fraction ++ exponent, rest)

/-- A number. -/
def readNumber? (cs : List Char) : Option (Json × List Char) :=
  match cs with
  | '-' :: rest => (readUnsigned? rest).map fun (text, rest) => (number ('-' :: text), rest)
  | _ => (readUnsigned? cs).map fun (text, rest) => (number text, rest)

/-! ### Strings -/

/-- The code unit that four hexadecimal digits write. -/
def readUnit? (a b c d : Char) : Option Nat :=
  match Text.hexValue? a, Text.hexValue? b, Text.hexValue? c, Text.hexValue? d with
  | some a, some b, some c, some d => some (((a * 16 + b) * 16 + c) * 16 + d)
  | _, _, _, _ => none

/-- The character of a single-letter escape. -/
def escapedChar? (c : Char) : Option Char :=
  match c with
  | '"' => some '"'
  | '\\' => some '\\'
  | '/' => some '/'
  | 'b' => some '\x08'
  | 'f' => some '\x0c'
  | 'n' => some '\n'
  | 'r' => some '\r'
  | 't' => some '\t'
  | _ => none

/-- The first half of a pair of code units. -/
def isHighUnit (n : Nat) : Bool := 0xD800 ≤ n && n < 0xDC00

/-- The second half of a pair of code units. -/
def isLowUnit (n : Nat) : Bool := 0xDC00 ≤ n && n < 0xE000

/-- What has been read of a string. -/
structure StringReading where
  /-- The characters, last first. -/
  reversed : List Char
  /-- Whether every escape so far made a character. -/
  sound : Bool
  /-- A first half that waits for its second. -/
  high? : Option Nat

namespace StringReading

/-- A character that no half may stand before. -/
def push (r : StringReading) (c : Char) : StringReading :=
  ⟨c :: r.reversed, r.sound && r.high?.isNone, none⟩

/-- A code unit: a character, or half of one. -/
def pushUnit (r : StringReading) (n : Nat) : StringReading :=
  if isHighUnit n then ⟨r.reversed, r.sound && r.high?.isNone, some n⟩
  else if isLowUnit n then
    match r.high? with
    | some high =>
      ⟨Char.ofNat (0x10000 + (high - 0xD800) * 0x400 + (n - 0xDC00)) :: r.reversed, r.sound, none⟩
    | none => ⟨r.reversed, false, none⟩
  else r.push (Char.ofNat n)

/-- The text of a string that has ended. -/
def text? (r : StringReading) : Option String :=
  if r.sound && r.high?.isNone then some (String.ofList r.reversed.reverse) else none

end StringReading

/-- The rest of a string, up to and including its closing quote. -/
def readStringFrom (r : StringReading) : List Char → Option (Option String × List Char)
  | [] => none
  | '"' :: rest => some (r.text?, rest)
  | '\\' :: 'u' :: a :: b :: c :: d :: rest =>
    match readUnit? a b c d with
    | some n => readStringFrom (r.pushUnit n) rest
    | none => none
  | '\\' :: e :: rest =>
    match escapedChar? e with
    | some c => readStringFrom (r.push c) rest
    | none => none
  | c :: rest => if c.toNat < 0x20 then none else readStringFrom (r.push c) rest

/-- The rest of a string after its opening quote. -/
def readString? (cs : List Char) : Option (Option String × List Char) :=
  readStringFrom ⟨[], true, none⟩ cs

/-! ### Values -/

mutual

/-- A value at the head of a text. Each call takes at least one character from the text, so that
`fuel` is never short if it starts as the length of the text. -/
def readValue : (fuel : Nat) → List Char → Option (Json × List Char)
  | 0, _ => none
  | fuel + 1, cs =>
    match skipSpace cs with
    | 'n' :: 'u' :: 'l' :: 'l' :: rest => some (null, rest)
    | 't' :: 'r' :: 'u' :: 'e' :: rest => some (bool true, rest)
    | 'f' :: 'a' :: 'l' :: 's' :: 'e' :: rest => some (bool false, rest)
    | '"' :: rest => (readString? rest).map fun (text?, rest) => (string text?, rest)
    | '[' :: rest =>
      match skipSpace rest with
      | ']' :: rest => some (array [], rest)
      | rest => (readElements fuel rest).map fun (elements, rest) => (array elements, rest)
    | '\x7b' :: rest =>
      match skipSpace rest with
      | '\x7d' :: rest => some (object [], rest)
      | rest => (readMembers fuel rest).map fun (members, rest) => (object members, rest)
    | cs => readNumber? cs

/-- The elements of an array that has at least one, up to and including its closing bracket. -/
def readElements : (fuel : Nat) → List Char → Option (List Json × List Char)
  | 0, _ => none
  | fuel + 1, cs =>
    match readValue fuel cs with
    | none => none
    | some (v, rest) =>
      match skipSpace rest with
      | ']' :: rest => some ([v], rest)
      | ',' :: rest => (readElements fuel rest).map fun (vs, rest) => (v :: vs, rest)
      | _ => none

/-- The members of an object that has at least one, up to and including its closing brace. -/
def readMembers : (fuel : Nat) → List Char → Option (List (Option String × Json) × List Char)
  | 0, _ => none
  | fuel + 1, cs =>
    match skipSpace cs with
    | '"' :: rest =>
      match readString? rest with
      | none => none
      | some (key, rest) =>
        match skipSpace rest with
        | ':' :: rest =>
          match readValue fuel rest with
          | none => none
          | some (v, rest) =>
            match skipSpace rest with
            | '\x7d' :: rest => some ([(key, v)], rest)
            | ',' :: rest => (readMembers fuel rest).map fun (ms, rest) => ((key, v) :: ms, rest)
            | _ => none
        | _ => none
    | _ => none

end

/-- The value that a text writes, if it writes one and nothing else. -/
def read? (cs : List Char) : Option Json :=
  match readValue (2 * cs.length + 2) cs with
  | some (v, rest) => if (skipSpace rest).isEmpty then some v else none
  | none => none

end Json

end Concordance
