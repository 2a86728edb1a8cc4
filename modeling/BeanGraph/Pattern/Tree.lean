/-!
# Patterns as they are written

A `Tree` is the reading of a pattern text: flags are still where they were set, and classes are
unevaluated.  `Tree.depth` counts how deep its parts are nested; a pattern is refused when it is
nested deeper than `nestLimit`.
-/

namespace BeanGraph.Pattern

/-- A switch of a pattern. -/
inductive Flag
  | caseInsensitive
  | multiLine
  | dotAll
  | swapGreed
  | unicode
  | carriageReturns
  | verbose
deriving DecidableEq, Repr

/-- Switches set or cleared together, in the order they are written. -/
abbrev FlagChanges := List (Flag × Bool)

/-- A literal character; `byte` marks one written as a byte of two hexadecimal digits. -/
structure Literal where
  char : Char
  byte : Bool
deriving DecidableEq, Repr

/-- A zero-width test. -/
inductive Assertion
  | startLine
  | endLine
  | startText
  | endText
  | wordBoundary
  | noWordBoundary
  | wordStart
  | wordEnd
  | wordStartHalf
  | wordEndHalf
deriving DecidableEq, Repr

/-- The classes with a letter of their own. -/
inductive LetterClass
  | digit
  | space
  | word
deriving DecidableEq, Repr

/-- The classes with a name between colons. -/
inductive NamedClass
  | alnum
  | alpha
  | ascii
  | blank
  | cntrl
  | digit
  | graph
  | lower
  | print
  | punct
  | space
  | upper
  | word
  | xdigit
deriving DecidableEq, Repr

/-- What a property class asks for: a property, category or script by its name, or the value of a
property. -/
inductive PropertyQuery
  | name (text : String)
  | value (property text : String)
deriving DecidableEq, Repr

/-- The operations on classes. -/
inductive ClassOp
  | intersection
  | difference
  | symmetricDifference
deriving DecidableEq, Repr

/-- What stands between brackets. -/
inductive ClassTree
  | empty
  | literal (l : Literal)
  | range (low high : Literal)
  | named (negated : Bool) (cls : NamedClass)
  | letter (negated : Bool) (cls : LetterClass)
  | property (negated : Bool) (query : PropertyQuery)
  | bracketed (negated : Bool) (inner : ClassTree)
  | union (items : List ClassTree)
  | op (kind : ClassOp) (left right : ClassTree)

/-- A pattern as it is written.  Groups keep no names: matching a whole text does not ask for
them, and greediness makes no difference to it either.  A group that captures what it matches takes
more room than one that does not. -/
inductive Tree
  | empty
  | flags (changes : FlagChanges)
  | literal (l : Literal)
  | dot
  | assertion (a : Assertion)
  | letter (negated : Bool) (cls : LetterClass)
  | property (negated : Bool) (query : PropertyQuery)
  | bracketed (negated : Bool) (inner : ClassTree)
  | repetition (least : Nat) (most : Option Nat) (inner : Tree)
  | group (captures : Bool) (changes : FlagChanges) (inner : Tree)
  | alternation (branches : List Tree)
  | concatenation (parts : List Tree)

/-! ## Building -/

/-- A union of class items; one item is itself. -/
def ClassTree.ofItems : List ClassTree → ClassTree
  | [] => .empty
  | [item] => item
  | items => .union items

/-- A concatenation; one part is itself. -/
def Tree.ofParts : List Tree → Tree
  | [] => .empty
  | [part] => part
  | parts => .concatenation parts

/-- An alternation; one branch is itself. -/
def Tree.ofBranches : List Tree → Tree
  | [] => .empty
  | [branch] => branch
  | branches => .alternation branches

/-- Whether the changes switch a flag, and which way. -/
def FlagChanges.state? (changes : FlagChanges) (flag : Flag) : Option Bool :=
  (changes.find? (·.1 = flag)).map (·.2)

/-! ## Depth -/

/-- How deep a pattern may be nested. -/
def nestLimit : Nat := 250

mutual

/-- The nesting depth of what stands between brackets. -/
def ClassTree.depth : ClassTree → Nat
  | .bracketed _ inner => inner.depth + 1
  | .union items => ClassTree.depthOfAll items + 1
  | .op _ left right => max left.depth right.depth + 1
  | _ => 0

/-- The greatest depth of several class items. -/
def ClassTree.depthOfAll : List ClassTree → Nat
  | [] => 0
  | item :: rest => max item.depth (depthOfAll rest)

end

mutual

/-- The nesting depth of a pattern. -/
def Tree.depth : Tree → Nat
  | .bracketed _ inner => inner.depth + 1
  | .repetition _ _ inner => inner.depth + 1
  | .group _ _ inner => inner.depth + 1
  | .alternation branches => Tree.depthOfAll branches + 1
  | .concatenation parts => Tree.depthOfAll parts + 1
  | _ => 0

/-- The greatest depth of several patterns. -/
def Tree.depthOfAll : List Tree → Nat
  | [] => 0
  | part :: rest => max part.depth (depthOfAll rest)

end

end BeanGraph.Pattern
