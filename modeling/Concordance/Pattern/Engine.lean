import Concordance.Pattern

/-!
# Engines

Patterns are run by an engine, which makes a machine of each of them. A short text can write a pattern
whose machine would be huge, so an engine has a limit, and refuses the patterns that are beyond it. Where
the limit is, how large a machine comes out, and how deep the parts of a pattern may be nested in it, is up
to the engine: what is defined here works with any.

## Main definitions

* `Engine`: which patterns are within the limit
* `Engine.unlimited`: an engine that takes all patterns
* `Engine.upTo`: an engine that goes by the lengths of texts
-/

namespace Concordance

/-- What runs patterns: it takes those that are within its limit. -/
structure Engine where
  /-- Whether the pattern that a text writes is within the limit. -/
  fits : (ignoreCase : Bool) → (source : List Char) → Bool
  /-- Whether the patterns that texts write are within the limit, all of them in one machine. -/
  fitsAll : (sources : List (List Char)) → Bool

namespace Engine

/-- The engine without a limit. -/
def unlimited : Engine := ⟨fun _ _ => true, fun _ => true⟩

instance : Inhabited Engine := ⟨unlimited⟩

/-- The engine that takes texts of up to `n` characters, the simplest one that has a limit. -/
def upTo (n : Nat) : Engine where
  fits _ source := source.length ≤ n
  fitsAll sources := sources.flatten.length ≤ n

end Engine

end Concordance
