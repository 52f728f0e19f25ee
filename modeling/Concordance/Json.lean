import Concordance.Text.CodeRanges

/-!
# JSON values

Records, requests and settings are kept as JSON. A value keeps what its text says and no more: members
of objects stay in order, a key may occur twice, and a number is its digits, since whether such a
value is acceptable depends on what is decoded from it.

## Main definitions

* `Json`: a value
* `Json.render`: its compact text
-/

namespace Concordance

/-- A JSON value. A text is missing where its escapes do not make characters. -/
inductive Json where
  /-- The value `null`. -/
  | null
  /-- A truth value. -/
  | bool (b : Bool)
  /-- A number, as written. -/
  | number (text : List Char)
  /-- A string. -/
  | string (text? : Option String)
  /-- A list of values. -/
  | array (elements : List Json)
  /-- A list of members: keys with their values. -/
  | object (members : List (Option String × Json))
deriving Repr, Inhabited

namespace Json

/-- A string of characters. -/
def ofString (s : String) : Json := string (some s)

/-- A natural number. -/
def ofNat (n : Nat) : Json := number (Nat.toDigits 10 n)

/-- An integer. -/
def ofInt : Int → Json
  | .ofNat n => ofNat n
  | .negSucc n => number ('-' :: Nat.toDigits 10 (n + 1))

/-- A list of strings. -/
def ofStrings (ss : List String) : Json := array (ss.map ofString)

/-- An object with the given members. -/
def ofMembers (ms : List (String × Json)) : Json := object (ms.map fun (k, v) => (some k, v))

/-! ### Text of a value -/

/-- A hexadecimal digit in lower case. -/
def hexDigit (n : Nat) : Char := (Nat.digitChar (n % 16))

/-- A character as it stands in a string. Quotes, backslashes and controls are escaped, and nothing
else is. -/
def escapeChar (c : Char) : List Char :=
  match c with
  | '"' => ['\\', '"']
  | '\\' => ['\\', '\\']
  | '\n' => ['\\', 'n']
  | '\r' => ['\\', 'r']
  | '\t' => ['\\', 't']
  | '\x08' => ['\\', 'b']
  | '\x0c' => ['\\', 'f']
  | c =>
    if c.toNat < 0x20 then ['\\', 'u', '0', '0', hexDigit (c.toNat / 16), hexDigit c.toNat] else [c]

/-- A string in quotes. -/
def quote (cs : List Char) : List Char := '"' :: cs.flatMap escapeChar ++ ['"']

/-- A string in quotes; one without characters is written as the empty one. -/
def quoteText (text? : Option String) : List Char := quote ((text?.getD "").toList)

mutual

/-- The compact text of a value. -/
def chars : Json → List Char
  | null => ['n', 'u', 'l', 'l']
  | bool true => ['t', 'r', 'u', 'e']
  | bool false => ['f', 'a', 'l', 's', 'e']
  | number text => text
  | string text? => quoteText text?
  | array elements => '[' :: (elementChars elements ++ [']'])
  | object members => '\x7b' :: (memberChars members ++ ['\x7d'])

/-- The compact texts of values, separated by commas. -/
def elementChars : List Json → List Char
  | [] => []
  | [v] => chars v
  | v :: rest => chars v ++ ',' :: elementChars rest

/-- The compact texts of members, separated by commas. -/
def memberChars : List (Option String × Json) → List Char
  | [] => []
  | [(k, v)] => quoteText k ++ ':' :: chars v
  | (k, v) :: rest => quoteText k ++ ':' :: (chars v ++ ',' :: memberChars rest)

end

/-- The compact text of a value. -/
def render (j : Json) : String := String.ofList j.chars

end Json

end Concordance
