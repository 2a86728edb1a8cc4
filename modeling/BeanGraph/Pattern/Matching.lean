import BeanGraph.Pattern.Engine
import BeanGraph.Pattern.Reader
import BeanGraph.Pattern.Size

/-!
# Matching

`Spans text e i j` says that the pattern `e` matches the characters of a text from position `i` to
position `j`; it is the meaning of a pattern on a text.

The matcher keeps sets of positions, as natural numbers whose bit `i` stands for position `i`.  A
`Track` is a pattern with each character set and each test replaced by the positions of the text
where it holds, and `Track.ends` sends a set of positions to the positions where a match from one of
them can end.  A repetition without a bound grows the set until nothing is added.
-/

namespace BeanGraph.Pattern

/-! ## Tests -/

/-- Whether a character, if there is one, belongs to a word. -/
def inWord (ascii : Bool) : Option Char → Bool
  | none => false
  | some c =>
    if ascii then LetterClass.word.asciiSet.contains c.toNat else wordCodes.contains c.toNat

/-- Whether a test holds between two characters; there is none beyond an end of the text. -/
def Look.holds : Look → Option Char → Option Char → Bool
  | .startText, before, _ => before.isNone
  | .endText, _, after => after.isNone
  | .startLine, before, _ => before.isNone || before == some '\n'
  | .endLine, _, after => after.isNone || after == some '\n'
  | .startLineCR, before, after =>
    before.isNone || before == some '\n' || (before == some '\r' && after != some '\n')
  | .endLineCR, before, after =>
    after.isNone || after == some '\r' || (after == some '\n' && before != some '\r')
  | .wordBoundary a, before, after => inWord a before != inWord a after
  | .noWordBoundary a, before, after => inWord a before == inWord a after
  | .wordStart a, before, after => !inWord a before && inWord a after
  | .wordEnd a, before, after => inWord a before && !inWord a after
  | .wordStartHalf a, before, _ => !inWord a before
  | .wordEndHalf a, _, after => !inWord a after

/-- The character before a position. -/
def before (text : List Char) (i : Nat) : Option Char := if i = 0 then none else text[i - 1]?

/-! ## Meaning on a text -/

/-- A pattern matches a text from one position to another. -/
inductive Spans (text : List Char) : Expr → Nat → Nat → Prop
  | empty {i} : Spans text .empty i i
  | set {s i} {c : Char} : text[i]? = some c → s.contains c.toNat = true →
      Spans text (.set s) i (i + 1)
  | look {l i} : l.holds (before text i) text[i]? = true → Spans text (.look l) i i
  | cat {a b i j k} : Spans text a i j → Spans text b j k → Spans text (.cat a b) i k
  | altLeft {a b i j} : Spans text a i j → Spans text (.alt a b) i j
  | altRight {a b i j} : Spans text b i j → Spans text (.alt a b) i j
  | stop {most e i} : Spans text (.repetition 0 most e) i i
  | again {least most e i j k} : Spans text e i j →
      Spans text (.repetition (least - 1) most e) j k →
      Spans text (.repetition least (most.map (· + 1)) e) i k
  | capture {e i j} : Spans text e i j → Spans text (.capture e) i j

/-! ## Sets of positions -/

/-- The set of the positions below `n` that satisfy a predicate. -/
def positions (p : Nat → Bool) : Nat → Nat
  | 0 => 0
  | n + 1 => if p n then positions p n ||| 1 <<< n else positions p n

/-- Adds what a step reaches from the set, at most so many times, until nothing is new. -/
def grow (step : Nat → Nat) : Nat → Nat → Nat
  | 0, set => set
  | rounds + 1, set =>
    let larger := set ||| step set
    if larger = set then set else grow step rounds larger

/-- Takes so many steps, as long as a position is left. -/
def advance (step : Nat → Nat) : Nat → Nat → Nat
  | 0, set => set
  | rounds + 1, set => if set = 0 then 0 else advance step rounds (step set)

/-- A pattern on one text, its sets and tests replaced by positions. -/
inductive Track
  | stay
  | step (positions : Nat)
  | test (positions : Nat)
  | cat (left right : Track)
  | alt (left right : Track)
  | repetition (least : Nat) (most : Option Nat) (inner : Track)

/-- The pattern on a text. -/
def Expr.on (text : Array Char) : Expr → Track
  | .empty => .stay
  | .set s => .step (positions (fun i => (text[i]?).any fun c => s.contains c.toNat) text.size)
  | .look l =>
    .test (positions (fun i => l.holds (if i = 0 then none else text[i - 1]?) text[i]?)
      (text.size + 1))
  | .cat a b => .cat (a.on text) (b.on text)
  | .alt a b => .alt (a.on text) (b.on text)
  | .repetition least most e => .repetition least most (e.on text)
  | .capture e => e.on text

/-- The positions where a match from one of the starts can end; a text of `size` characters has
`size + 1` positions, so a longer unbounded repetition adds none. -/
def Track.ends (size : Nat) : Track → Nat → Nat
  | .stay, starts => starts
  | .step allowed, starts => (starts &&& allowed) <<< 1
  | .test allowed, starts => starts &&& allowed
  | .cat a b, starts => b.ends size (a.ends size starts)
  | .alt a b, starts => a.ends size starts ||| b.ends size starts
  | .repetition least none e, starts =>
    grow (e.ends size) (size + 1) (advance (e.ends size) least starts)
  | .repetition least (some most) e, starts =>
    if most < least then 0
    else grow (e.ends size) (most - least) (advance (e.ends size) least starts)

/-- Whether a pattern matches anywhere in a text. -/
def Expr.foundIn (e : Expr) (s : String) : Bool :=
  let text := s.toList.toArray
  (e.on text).ends text.size (Nat.pow 2 (text.size + 1) - 1) != 0

/-! ## The engine -/

/-- The meaning of the pattern that a text is, if it is one and neither nested too deep nor too
large. -/
def compile? (pattern : String) : Option Expr := do
  let e ← (← Tree.read? pattern).expr?
  if e.fits then some e else none

/-- What is said of a text that is not compiled. -/
def complaint : String := "<regex error>"

/-- The engine that reads, measures and matches patterns in the way of these modules. -/
def engine : Engine where
  Compiled := Expr
  compile pattern :=
    match compile? pattern with
    | some e => .ok e
    | none => .error complaint
  isMatch := Expr.foundIn

end BeanGraph.Pattern
