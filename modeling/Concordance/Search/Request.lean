import Concordance.Json.Fields
import Concordance.Search.Strategy

/-!
# Search requests

A request names a strategy, the terms, and flags that hold for every strategy.

## Main definitions

* `Flags`: what holds for every strategy
* `Request`: a search that is asked for
-/

namespace Concordance

/-- What holds for every strategy. -/
structure Flags where
  /-- Whether Strong's numbers take part. -/
  strongs : Bool := false
  /-- Whether morphology tags take part. -/
  morph : Bool := false
  /-- Whether case counts. -/
  caseSensitive : Bool := false
  /-- Whether words added by translators take part. -/
  added : Bool := true
  /-- The verses to which the search is limited. -/
  range? : Option String := none
deriving Repr, DecidableEq, Inhabited

namespace Flags

/-- The flags as a JSON value. -/
def toJson (f : Flags) : Json :=
  .ofMembers [("strongs", .bool f.strongs), ("morph", .bool f.morph),
    ("case_sensitive", .bool f.caseSensitive), ("added", .bool f.added),
    ("range", (f.range?.map Json.ofString).getD .null)]

/-- The flags that a JSON value gives; each has a default. -/
def ofJson? (j : Json) : Option Flags := do
  let fields ← j.fields? ["strongs", "morph", "case_sensitive", "added", "range"]
  return {
    strongs := ← fields.optional? "strongs" Json.bool? false
    morph := ← fields.optional? "morph" Json.bool? false
    caseSensitive := ← fields.optional? "case_sensitive" Json.bool? false
    added := ← fields.optional? "added" Json.bool? true
    range? := ← fields.optional? "range" (Json.nullable? Json.text?) none }

end Flags

/-- A search that is asked for. -/
structure Request where
  /-- How the terms are combined. -/
  strategy : Strategy
  /-- The terms. -/
  terms : List String
  /-- What holds for every strategy. -/
  flags : Flags := {}
deriving Repr, DecidableEq

namespace Request

/-- The request as a JSON value. -/
def toJson (r : Request) : Json :=
  .ofMembers [("strategy", r.strategy.toJson), ("terms", .ofStrings r.terms), ("flags", r.flags.toJson)]

/-- The request that a JSON value makes. -/
def ofJson? (j : Json) : Option Request := do
  let fields ← j.fields? ["strategy", "terms", "flags"]
  return {
    strategy := ← fields.required? "strategy" Strategy.ofJson?
    terms := ← fields.required? "terms" Json.texts?
    flags := ← fields.optional? "flags" Flags.ofJson? {} }

end Request

end Concordance
