import BeanGraph.Unicode.Property

/-!
# Blanks

A blank is a character with the property White_Space.  `Text.trim` removes the blanks at both ends
of a text.
-/

namespace BeanGraph.Text

/-- A character is blank. -/
def isBlank (c : Char) : Bool := Unicode.whiteSpace.contains c.toNat

/-- The characters without the blanks at either end. -/
def trimChars (cs : List Char) : List Char :=
  ((cs.dropWhile isBlank).reverse.dropWhile isBlank).reverse

/-- The text without the blanks at either end. -/
def trim (s : String) : String := String.ofList (trimChars s.toList)

end BeanGraph.Text
