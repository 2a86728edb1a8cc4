import BeanGraph.Pattern.Engine
import BeanGraph.Routine.Basic

/-!
# Patterns

A text against the pattern in `regexp`, which is meant to match all of it: an engine searches the
text for the pattern in its frame.  A value that is no text passes before the pattern is read.

Compiled patterns are kept from one check to the next by their texts; a text that is not compiled is
compiled again each time.
-/

namespace BeanGraph

open Pattern (Engine)

/-- The patterns that an engine has compiled so far, by their texts. -/
abbrev PatternCache (engine : Engine) := List (String × engine.Compiled)

namespace PatternCache

variable {engine : Engine}

/-- What the frame of a text is compiled to, or what is wrong with it, and what is kept then. -/
def compiled (cache : PatternCache engine) (regexp : String) :
    Except String engine.Compiled × PatternCache engine :=
  match cache.lookup regexp with
  | some e => (.ok e, cache)
  | none =>
    match engine.compile (Pattern.framed regexp) with
    | .ok e => (.ok e, (regexp, e) :: cache)
    | .error text => (.error text, cache)

/-- Whether the framed pattern of a constraint is found in a text, and what is kept then. -/
def check (cache : PatternCache engine) (v : Value) (c : Constraint) :
    Except ConstraintError Bool × PatternCache engine :=
  match v with
  | .str s =>
    match c.required Constraint.string? "regexp" with
    | .ok regexp =>
      match cache.compiled regexp with
      | (.ok e, cache) => (.ok (engine.isMatch e s), cache)
      | (.error text, cache) =>
        (.error (.invalidAttribute c.kind "regexp" (.notPattern text)), cache)
    | .error e => (.error e, cache)
  | _ => (.ok true, cache)

end PatternCache

/-- A text that the framed pattern is found in; what was kept before does not count. -/
def Routine.pattern (engine : Engine) : Routine where
  name := "Pattern"
  check v c _ := (PatternCache.check ([] : PatternCache engine) v c).1

end BeanGraph
