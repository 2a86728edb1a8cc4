import BeanGraph.Pattern.Tree
import BeanGraph.Unicode.Age
import BeanGraph.Unicode.Break
import BeanGraph.Unicode.CaseFold
import BeanGraph.Unicode.Category
import BeanGraph.Unicode.Property
import BeanGraph.Unicode.Script
import BeanGraph.Unicode.ScriptExtension

/-!
# Character sets of patterns

A `CharSet` is an expression for a set of code points, and `CharSet.contains` says which are in it.
The sets of the lettered, named and property classes are here; a property is found by any spelling
of its names that differs in case, blanks, hyphens and underscores only.
-/

namespace BeanGraph.Pattern

/-- A set of code points. -/
inductive CharSet
  | empty
  | range (low high : Nat)
  | codes (s : CodeSet)
  | union (left right : CharSet)
  | inter (left right : CharSet)
  | compl (s : CharSet)
  | folded (s : CharSet)
  | asciiFolded (s : CharSet)

namespace CharSet

/-- A letter of ASCII in the other case; any other code point is itself. -/
def otherCase (c : Nat) : Nat :=
  if 'A'.toNat ≤ c ∧ c ≤ 'Z'.toNat then c + 32
  else if 'a'.toNat ≤ c ∧ c ≤ 'z'.toNat then c - 32
  else c

/-- Whether a code point is in the set.  A folded set holds a code point if it holds one that
differs from it in case only. -/
def contains : CharSet → Nat → Bool
  | .empty, _ => false
  | .range low high, c => low ≤ c && c ≤ high
  | .codes s, c => s.contains c
  | .union left right, c => left.contains c || right.contains c
  | .inter left right, c => left.contains c && right.contains c
  | .compl s, c => !s.contains c
  | .folded s, c => (Unicode.variants c).any s.contains
  | .asciiFolded s, c => s.contains c || s.contains (otherCase c)

/-- One code point. -/
def point (c : Nat) : CharSet := .range c c

/-- Every code point. -/
def all : CharSet := .compl .empty

/-- The code points of ASCII. -/
def ascii : CharSet := .range 0 127

/-- The union of several sets. -/
def unionOf (sets : List CharSet) : CharSet := sets.foldr .union .empty

/-- The union of several ranges. -/
def ofRanges (ranges : List (Char × Char)) : CharSet :=
  unionOf (ranges.map fun (low, high) => .range low.toNat high.toNat)

/-- What is in the one set and not in the other. -/
def diff (left right : CharSet) : CharSet := .inter left (.compl right)

/-- What is in one of the sets and not in both. -/
def symmDiff (left right : CharSet) : CharSet :=
  .union (diff left right) (diff right left)

/-- The set, or its complement. -/
def negateIf (negated : Bool) (s : CharSet) : CharSet := if negated then .compl s else s

/-- Whether a set of bytes holds ASCII only. -/
def isAscii (s : CharSet) : Bool := (List.range 128).all fun i => !s.contains (128 + i)

end CharSet

/-! ## Classes -/

/-- The ASCII members of a named class. -/
def NamedClass.set : NamedClass → CharSet
  | .alnum => .ofRanges [('0', '9'), ('A', 'Z'), ('a', 'z')]
  | .alpha => .ofRanges [('A', 'Z'), ('a', 'z')]
  | .ascii => .ascii
  | .blank => .ofRanges [('\t', '\t'), (' ', ' ')]
  | .cntrl => .union (.range 0 31) (.point 127)
  | .digit => .ofRanges [('0', '9')]
  | .graph => .ofRanges [('!', '~')]
  | .lower => .ofRanges [('a', 'z')]
  | .print => .ofRanges [(' ', '~')]
  | .punct => .ofRanges [('!', '/'), (':', '@'), ('[', '\x60'), ('\x7b', '~')]
  | .space => .union (.range 9 13) (.point 32)
  | .upper => .ofRanges [('A', 'Z')]
  | .word => .ofRanges [('0', '9'), ('A', 'Z'), ('_', '_'), ('a', 'z')]
  | .xdigit => .ofRanges [('0', '9'), ('A', 'F'), ('a', 'f')]

/-- The characters that words are made of. -/
def wordCodes : CodeSet :=
  .union [Unicode.alphabetic, Unicode.mark, Unicode.decimalNumber, Unicode.connectorPunctuation,
    Unicode.joinControl]

/-- The members of a lettered class. -/
def LetterClass.set : LetterClass → CharSet
  | .digit => .codes Unicode.decimalNumber
  | .space => .codes Unicode.whiteSpace
  | .word => .codes wordCodes

/-- The ASCII members of a lettered class. -/
def LetterClass.asciiSet : LetterClass → CharSet
  | .digit => NamedClass.digit.set
  | .space => NamedClass.space.set
  | .word => NamedClass.word.set

/-! ## Properties -/

/-- A name as it is compared: lower-case ASCII without blanks, hyphens and underscores, and without
`is` at its front; the name `isc` keeps it. -/
def comparedName (name : String) : String :=
  let cs := name.toList
  let short := cs.map Char.toLower
  let begins := short.take 2 == ['i', 's']
  let rest := if begins then short.drop 2 else short
  let kept := rest.filter fun c => c.toNat < 128 && c != ' ' && c != '-' && c != '_'
  if begins && kept == ['c'] then "isc" else String.ofList kept

/-- The set with a name in a table. -/
def named? (table : List (List String × CodeSet)) (name : String) : Option CharSet :=
  (table.find? (·.1.contains name)).map fun (_, s) => .codes s

/-- The set of a general category or group of them. -/
def category? (name : String) : Option CharSet :=
  match name with
  | "any" => some .all
  | "ascii" => some .ascii
  | "assigned" => some (.compl (.codes Unicode.unassigned))
  | name => named? Unicode.categories name

/-- The set that a property class asks for. -/
def PropertyQuery.set? : PropertyQuery → Option CharSet
  | .name text =>
    let name := comparedName text
    (named? Unicode.properties name).or ((category? name).or (named? Unicode.scripts name))
  | .value property text =>
    let value := comparedName text
    match comparedName property with
    | "gc" | "generalcategory" => category? value
    | "sc" | "script" => named? Unicode.scripts value
    | "scx" | "scriptextensions" => named? Unicode.scriptExtensions value
    | "age" => (Unicode.age? value).map .codes
    | "gcb" | "graphemeclusterbreak" => named? Unicode.graphemeClusterBreaks value
    | "wb" | "wordbreak" => named? Unicode.wordBreaks value
    | "sb" | "sentencebreak" => named? Unicode.sentenceBreaks value
    | _ => none

end BeanGraph.Pattern
