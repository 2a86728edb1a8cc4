import BeanGraph.Pattern.CharSet

/-!
# Meaning of patterns

An `Expr` is a pattern with its flags worked out: character sets, zero-width tests, concatenation,
choice, repetition and groups that capture.  `Tree.expr?` gives the meaning of a tree, and is `none`
where a class names no property, or where a pattern that is not in Unicode mode could match a byte
beyond ASCII.

Flags are in force from where they are set to the end of their group, alternatives included.
-/

namespace BeanGraph.Pattern

/-- A zero-width test, decided by the characters on its two sides. -/
inductive Look
  | startText
  | endText
  | startLine
  | endLine
  | startLineCR
  | endLineCR
  | wordBoundary (ascii : Bool)
  | noWordBoundary (ascii : Bool)
  | wordStart (ascii : Bool)
  | wordEnd (ascii : Bool)
  | wordStartHalf (ascii : Bool)
  | wordEndHalf (ascii : Bool)
deriving DecidableEq, Repr

/-- A pattern with its flags worked out. -/
inductive Expr
  | empty
  | set (s : CharSet)
  | look (l : Look)
  | cat (left right : Expr)
  | alt (left right : Expr)
  | repetition (least : Nat) (most : Option Nat) (inner : Expr)
  | capture (inner : Expr)

/-- The flags in force that decide what a pattern matches. -/
structure Flags where
  caseInsensitive : Bool := false
  multiLine : Bool := false
  dotAll : Bool := false
  unicode : Bool := true
  carriageReturns : Bool := false

namespace Flags

/-- The flags after one change. -/
def change (f : Flags) : Flag × Bool → Flags
  | (.caseInsensitive, on) => { f with caseInsensitive := on }
  | (.multiLine, on) => { f with multiLine := on }
  | (.dotAll, on) => { f with dotAll := on }
  | (.unicode, on) => { f with unicode := on }
  | (.carriageReturns, on) => { f with carriageReturns := on }
  | (.swapGreed, _) => f
  | (.verbose, _) => f

/-- The flags after changes one after the other. -/
def changeAll (f : Flags) (changes : FlagChanges) : Flags := changes.foldl change f

/-- A class completed: folded if case is ignored, then negated.  Outside Unicode mode it may hold
ASCII only. -/
def complete? (f : Flags) (negated : Bool) (s : CharSet) : Option CharSet :=
  if f.unicode then
    some (.negateIf negated (if f.caseInsensitive then .folded s else s))
  else
    let s := CharSet.negateIf negated (if f.caseInsensitive then .asciiFolded s else s)
    if s.isAscii then some (.inter s .ascii) else none

/-- An operand of a class operation, folded if case is ignored. -/
def foldOperand (f : Flags) (s : CharSet) : CharSet :=
  if f.caseInsensitive then if f.unicode then .folded s else .asciiFolded s else s

/-- The set of a property class. -/
def property? (f : Flags) (negated : Bool) (query : PropertyQuery) : Option CharSet := do
  if f.unicode then f.complete? negated (← query.set?) else none

/-- The set of a lettered class, which is closed under case already. -/
def letter? (f : Flags) (negated : Bool) (cls : LetterClass) : Option CharSet :=
  if f.unicode then some (.negateIf negated cls.set)
  else if negated then none
  else some cls.asciiSet

/-- The code point of a literal between brackets; outside Unicode mode it is a byte. -/
def classPoint? (f : Flags) (l : Literal) : Option Nat :=
  if f.unicode ∨ l.byte ∨ l.char.toNat < 128 then some l.char.toNat else none

/-- The characters that a literal matches. -/
def literal? (f : Flags) (l : Literal) : Option CharSet :=
  let point := CharSet.point l.char.toNat
  if f.unicode then some (if f.caseInsensitive then .folded point else point)
  else if l.byte ∧ 128 ≤ l.char.toNat then none
  else some (if f.caseInsensitive then .asciiFolded point else point)

/-- The characters that a dot matches. -/
def dot? (f : Flags) : Option CharSet :=
  if !f.unicode then none
  else if f.dotAll then some .all
  else if f.carriageReturns then some (.compl (.union (.point 10) (.point 13)))
  else some (.compl (.point 10))

/-- The test that an assertion makes. -/
def look (f : Flags) : Assertion → Look
  | .startLine =>
    if f.multiLine then if f.carriageReturns then .startLineCR else .startLine else .startText
  | .endLine =>
    if f.multiLine then if f.carriageReturns then .endLineCR else .endLine else .endText
  | .startText => .startText
  | .endText => .endText
  | .wordBoundary => .wordBoundary (!f.unicode)
  | .noWordBoundary => .noWordBoundary (!f.unicode)
  | .wordStart => .wordStart (!f.unicode)
  | .wordEnd => .wordEnd (!f.unicode)
  | .wordStartHalf => .wordStartHalf (!f.unicode)
  | .wordEndHalf => .wordEndHalf (!f.unicode)

end Flags

/-- The operation on sets that a class operation is. -/
def ClassOp.apply : ClassOp → CharSet → CharSet → CharSet
  | .intersection => .inter
  | .difference => .diff
  | .symmetricDifference => .symmDiff

mutual

/-- The set of what stands between brackets. -/
def ClassTree.set? (f : Flags) : ClassTree → Option CharSet
  | .empty => some .empty
  | .literal l => (f.classPoint? l).map .point
  | .range low high => do
    let low ← f.classPoint? low
    let high ← f.classPoint? high
    some (.range low high)
  | .named negated cls => f.complete? negated cls.set
  | .letter negated cls => f.letter? negated cls
  | .property negated query => f.property? negated query
  | .bracketed negated inner => do f.complete? negated (← inner.set? f)
  | .union items => ClassTree.setOfAll? f items
  | .op kind left right => do
    let left ← left.set? f
    let right ← right.set? f
    some (kind.apply (f.foldOperand left) (f.foldOperand right))

/-- The union of the sets of several items. -/
def ClassTree.setOfAll? (f : Flags) : List ClassTree → Option CharSet
  | [] => some .empty
  | item :: rest => do
    let s ← item.set? f
    let t ← ClassTree.setOfAll? f rest
    some (.union s t)

end

mutual

/-- The meaning of a tree under the flags in force, and the flags in force after it. -/
def Tree.meaning? (f : Flags) : Tree → Option (Expr × Flags)
  | .empty => some (.empty, f)
  | .flags changes => some (.empty, f.changeAll changes)
  | .literal l => (f.literal? l).map fun s => (.set s, f)
  | .dot => f.dot?.map fun s => (.set s, f)
  | .assertion a => some (.look (f.look a), f)
  | .letter negated cls => (f.letter? negated cls).map fun s => (.set s, f)
  | .property negated query => (f.property? negated query).map fun s => (.set s, f)
  | .bracketed negated inner => do
    let s ← f.complete? negated (← inner.set? f)
    some (.set s, f)
  | .repetition least most inner => do
    let (e, f) ← inner.meaning? f
    some (.repetition least most e, f)
  | .group captures changes inner => do
    let (e, _) ← inner.meaning? (f.changeAll changes)
    some (if captures then .capture e else e, f)
  | .alternation branches => Tree.meaningOfBranches? f branches
  | .concatenation parts => Tree.meaningOfParts? f parts

/-- The choice between several trees, the flags running on from each to the next. -/
def Tree.meaningOfBranches? (f : Flags) : List Tree → Option (Expr × Flags)
  | [] => some (.empty, f)
  | [branch] => branch.meaning? f
  | branch :: rest => do
    let (e, f) ← branch.meaning? f
    let (es, f) ← Tree.meaningOfBranches? f rest
    some (.alt e es, f)

/-- Several trees one after the other, the flags running on from each to the next. -/
def Tree.meaningOfParts? (f : Flags) : List Tree → Option (Expr × Flags)
  | [] => some (.empty, f)
  | part :: rest => do
    let (e, f) ← part.meaning? f
    let (es, f) ← Tree.meaningOfParts? f rest
    some (.cat e es, f)

end

/-- The meaning of a tree when no flag is set. -/
def Tree.expr? (t : Tree) : Option Expr := (t.meaning? {}).map (·.1)

end BeanGraph.Pattern
