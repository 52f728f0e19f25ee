import Std.Data.TreeMap.Basic
import Concordance.Json.Fields
import Concordance.Json.Reader
import Concordance.Text.Utf8

/-!
# Records

The content of an index is a set of records: values under keys, every value being the bytes of a JSON
text. Keys are in the order of their characters.

## Main definitions

* `Records`: values under keys
* `Records.ofList`, `Records.put`: records from keys and values
* `Json.toBytes`, `Json.ofBytes?`: JSON values as the values of records
-/

namespace Concordance

/-- Values under keys. -/
abbrev Records := Std.TreeMap String Bytes

/-- The value of a record that holds a JSON value. -/
def Json.toBytes (j : Json) : Bytes := Text.encode j.chars

/-- The JSON value that the value of a record holds. -/
def Json.ofBytes? (bs : Bytes) : Option Json := (Text.decode? bs).bind Json.read?

namespace Records

/-- No records. -/
def empty : Records := ∅

/-- The records of a list; of several with one key the last counts. -/
def ofList (entries : List (String × Bytes)) : Records :=
  entries.foldl (fun r (key, value) => r.insert key value) ∅

/-- The records with one more that holds a JSON value. -/
def put (r : Records) (key : String) (j : Json) : Records := r.insert key j.toBytes

end Records

end Concordance
