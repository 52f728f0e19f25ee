import Concordance.Json.Fields
import Concordance.Rendering

/-!
# Settings of searches

What is set once for all searches.

## Main definitions

* `Settings`: limits, and how texts are rendered
-/

namespace Concordance

namespace Rendering

/-- The rendering as a JSON value. -/
def toJson (r : Rendering) : Json :=
  .ofMembers [("strongs", .bool r.strongs), ("morph", .bool r.morph), ("added", .bool r.added),
    ("italic_markers", .bool r.italicMarkers), ("paragraph", .bool r.paragraph),
    ("notes", .bool r.notes)]

/-- The rendering that a JSON value gives; each field has a default. -/
def ofJson? (j : Json) : Option Rendering := do
  let fields ← j.fields? ["strongs", "morph", "added", "italic_markers", "paragraph", "notes"]
  return {
    strongs := ← fields.optional? "strongs" Json.bool? false
    morph := ← fields.optional? "morph" Json.bool? false
    added := ← fields.optional? "added" Json.bool? true
    italicMarkers := ← fields.optional? "italic_markers" Json.bool? false
    paragraph := ← fields.optional? "paragraph" Json.bool? true
    notes := ← fields.optional? "notes" Json.bool? false }

end Rendering

/-- What is set once for all searches. -/
structure Settings where
  /-- In searches for words with wildcards, words of so many verses or more are passed over. -/
  commonLimit : Nat := Json.maxWord
  /-- The same limit where phrases have wildcards. -/
  phraseCommonLimit : Nat := 5000
  /-- In mixed searches, whether a term without a sign is required once something has been found. -/
  multiwordDefault : Bool := false
  /-- From how many verses on texts are scanned side by side. This changes no answer. -/
  parallelThreshold : Nat := 512
  /-- How texts are rendered before they are scanned. Searches decide by themselves on tags and added
  words. -/
  text : Rendering := {}
deriving Repr, DecidableEq, Inhabited

namespace Settings

/-- The settings as a JSON value. -/
def toJson (s : Settings) : Json :=
  .ofMembers [("common_limit", .ofNat s.commonLimit),
    ("phrase_common_limit", .ofNat s.phraseCommonLimit),
    ("multiword_default", .bool s.multiwordDefault),
    ("parallel_threshold", .ofNat s.parallelThreshold), ("text", s.text.toJson)]

/-- The settings that a JSON value gives; each has a default. -/
def ofJson? (j : Json) : Option Settings := do
  let fields ← j.fields? ["common_limit", "phrase_common_limit", "multiword_default",
    "parallel_threshold", "text"]
  return {
    commonLimit := ← fields.optional? "common_limit" Json.nat? Json.maxWord
    phraseCommonLimit := ← fields.optional? "phrase_common_limit" Json.nat? 5000
    multiwordDefault := ← fields.optional? "multiword_default" Json.bool? false
    parallelThreshold := ← fields.optional? "parallel_threshold" Json.nat? 512
    text := ← fields.optional? "text" Rendering.ofJson? {} }

end Settings

end Concordance
