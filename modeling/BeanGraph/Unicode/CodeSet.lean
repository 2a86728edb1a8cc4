/-!
# Sets of code points

A `CodeSet` lists ranges of code points, as the character data of the Unicode standard is given:
`ofText` reads hexadecimal points and ranges separated by blanks, and membership is membership in
one of the ranges.
-/

namespace BeanGraph

/-- A set of code points, as a list of ranges with both ends included. -/
structure CodeSet where
  ranges : List (Nat × Nat)
deriving DecidableEq, Inhabited, Repr

namespace CodeSet

/-- A code point is in one of the ranges. -/
def contains (s : CodeSet) (c : Nat) : Bool := s.ranges.any fun (low, high) => low ≤ c && c ≤ high

/-- The union, as one list of ranges. -/
def union (sets : List CodeSet) : CodeSet := ⟨sets.flatMap ranges⟩

/-- The value of a hexadecimal digit in upper case. -/
def hexValue (c : Char) : Nat :=
  if c.isDigit then c.toNat - '0'.toNat else c.toNat - 'A'.toNat + 10

/-- The code point written in hexadecimal. -/
def pointOfText (digits : List Char) : Nat := digits.foldl (fun n c => 16 * n + hexValue c) 0

/-- The pieces of a text between the characters that separate them. -/
def pieces (separates : Char → Bool) (cs : List Char) : List (List Char) :=
  cs.foldr (fun c done =>
    match done with
    | [] => []
    | piece :: rest => if separates c then [] :: piece :: rest else (c :: piece) :: rest) [[]]

/-- The points of a word, which hyphens separate. -/
def pointsOfText (word : List Char) : List Nat := (pieces (· == '-') word).map pointOfText

/-- The range written as one point, or as two with a hyphen between them. -/
def rangeOfText (word : List Char) : Nat × Nat :=
  match pointsOfText word with
  | [low, high] => (low, high)
  | _ => (pointOfText word, pointOfText word)

/-- The words of a text, which blanks and line ends separate. -/
def words (s : String) : List (List Char) :=
  (pieces Char.isWhitespace s.toList).filter fun word => !word.isEmpty

/-- The set written as points and ranges separated by blanks. -/
def ofText (s : String) : CodeSet := ⟨(words s).map rangeOfText⟩

end CodeSet

end BeanGraph
