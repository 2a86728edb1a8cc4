/-!
# Engines for patterns

An engine compiles the text of a pattern, or says what is wrong with it, and searches texts for what
it has compiled.  A pattern is found wherever it matches a part of a text; where it is to match all
of it, the engine is given its text in a frame.
-/

namespace BeanGraph.Pattern

/-- An engine: what a text is compiled to, or what is wrong with it, and whether that is found in a
text. -/
structure Engine where
  Compiled : Type
  compile : String → Except String Compiled
  isMatch : Compiled → String → Bool

/-- The text of a pattern in its frame: in a group between the tests for the start and the end. -/
def framed (pattern : String) : String := "^(?:" ++ pattern ++ ")$"

/-- A frame is a group between the two signs. -/
theorem framed_eq (p : String) : framed p = "^" ++ ("(?:" ++ p ++ ")") ++ "$" :=
  String.toList_injective (by simp [framed])

end BeanGraph.Pattern
