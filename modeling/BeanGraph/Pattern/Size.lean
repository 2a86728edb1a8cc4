import BeanGraph.Pattern.Meaning

/-!
# Sizes of patterns

A pattern is refused when the automaton for it would take more room than `sizeLimit`.  The automaton
reads texts byte by byte, last byte first.  Every state takes `stateSize`; a state that branches on
the next byte takes more for each range of bytes, and a choice more for each way on.

`Expr.size` counts a repeated part as often as it has to be written out, and a character set by the
sequences of byte ranges that its code points are written with.
-/

namespace BeanGraph.Pattern

/-- Ranges of numbers with both ends included. -/
abbrev Ranges := List (Nat × Nat)

namespace Ranges

/-- Adds a range to ranges in descending order, none of which begins above it. -/
def join (done : Ranges) (r : Nat × Nat) : Ranges :=
  match done with
  | [] => [r]
  | (low, high) :: rest =>
    if r.1 ≤ high + 1 then (low, max high r.2) :: rest else r :: done

/-- The same numbers in ascending ranges that do not touch. -/
def ordered (rs : Ranges) : Ranges :=
  ((rs.mergeSort fun a b => a.1 ≤ b.1).foldl join []).reverse

/-- The greatest code point. -/
def lastCode : Nat := 0x10FFFF

/-- The code points from `start` on that are in none of the ascending ranges. -/
def gaps (start : Nat) : Ranges → Ranges
  | [] => if start ≤ lastCode then [(start, lastCode)] else []
  | (low, high) :: rest =>
    if start < low then (start, low - 1) :: gaps (high + 1) rest else gaps (high + 1) rest

/-- A range for each number. -/
def ofPoints (points : List Nat) : Ranges := points.map fun c => (c, c)

end Ranges

/-! ## Written code points -/

/-- The code points written with as many bytes: what is added to the first byte, how many bytes
follow it, and the least and the greatest of them. -/
structure Form where
  lead : Nat
  following : Nat
  first : Nat
  last : Nat

/-- One to four bytes; surrogates are not written. -/
def Form.all : List Form :=
  [⟨0, 0, 0, 0x7F⟩, ⟨0xC0, 1, 0x80, 0x7FF⟩, ⟨0xE0, 2, 0x800, 0xD7FF⟩, ⟨0xE0, 2, 0xE000, 0xFFFF⟩,
    ⟨0xF0, 3, 0x10000, Ranges.lastCode⟩]

/-- The numbers of a range as sequences of digits to the base 64, the first one unbounded, with so
many digits after it.  Each sequence of ranges stands for all sequences with a digit from each. -/
def digitBlocks : Nat → Nat → Nat → List Ranges
  | 0, low, high => [[(low, high)]]
  | n + 1, low, high =>
    let unit := Nat.pow 64 (n + 1)
    let under (digit low high : Nat) := (digitBlocks n low high).map ((digit, digit) :: ·)
    if low / unit = high / unit then under (low / unit) (low % unit) (high % unit)
    else
      let startsWhole := low % unit = 0
      let endsWhole := high % unit = unit - 1
      let start := if startsWhole then low / unit else low / unit + 1
      let stop := if endsWhole then high / unit + 1 else high / unit
      (if startsWhole then [] else under (low / unit) (low % unit) (unit - 1)) ++
        (if start < stop then [(start, stop - 1) :: List.replicate (n + 1) (0, 63)] else []) ++
        if endsWhole then [] else under (high / unit) 0 (high % unit)

/-- The sequences of byte ranges that the code points of a range are written with in one form.  The
bytes after the first one are counted from the least of them. -/
def Form.sequences (f : Form) (low high : Nat) : List Ranges :=
  let low := max low f.first
  let high := min high f.last
  if high < low then []
  else (digitBlocks f.following low high).map fun
    | (a, b) :: rest => (f.lead + a, f.lead + b) :: rest
    | [] => []

/-- How many ranges two sequences have in common at their fronts. -/
def sharedFront : Ranges → Ranges → Nat
  | a :: as, b :: bs => if a = b then sharedFront as bs + 1 else 0
  | _, _ => 0

/-- How many different fronts the sequences have that those before them, of which `previous` is the
last, have not.  Sequences with a front in common stand together. -/
def newFronts (previous : Ranges) : List Ranges → Nat
  | [] => 0
  | s :: rest => s.length - sharedFront previous s + newFronts s rest

/-! ## Automata -/

/-- The room for a state. -/
def stateSize : Nat := 32

/-- The room for a range of bytes that a state branches on. -/
def branchSize : Nat := 8

/-- The room for a way on from a choice. -/
def waySize : Nat := 4

/-- The most room that an automaton may take. -/
def sizeLimit : Nat := 10 * Nat.pow 2 20

/-- The ranges of a set, ascending. -/
def CharSet.ranges : CharSet → Ranges
  | .empty => []
  | .range low high => [(low, high)]
  | .codes s => Ranges.ordered s.ranges
  | .union left right => Ranges.ordered (left.ranges ++ right.ranges)
  | .inter left right =>
    Ranges.gaps 0 (Ranges.ordered (Ranges.gaps 0 left.ranges ++ Ranges.gaps 0 right.ranges))
  | .compl s => Ranges.gaps 0 s.ranges
  | .folded s =>
    let variants := (Unicode.caseVariants.filter (·.any s.contains)).flatten
    Ranges.ordered (s.ranges ++ Ranges.ofPoints variants)
  | .asciiFolded s =>
    let variants := (List.range 128).filter fun c => s.contains (otherCase c)
    Ranges.ordered (s.ranges ++ Ranges.ofPoints variants)

/-- The room for a set: a state for each byte of a single character, one branching state for a set
of ASCII characters, and otherwise a choice between byte sequences that share their fronts. -/
def CharSet.size (s : CharSet) : Nat :=
  let ranges := s.ranges
  let sequences := ranges.flatMap fun (low, high) => Form.all.flatMap (·.sequences low high)
  match ranges, sequences with
  | [(low, high)], [bytes] =>
    if low = high then stateSize * bytes.length
    else if high < 128 then 2 * stateSize + branchSize
    else stateSize * (2 + bytes.length) + waySize
  | _, _ =>
    if ranges.all (·.2 < 128) then 2 * stateSize + branchSize * ranges.length
    else stateSize * (2 + newFronts [] sequences) + waySize * sequences.length

namespace Expr

/-- Whether a pattern can match the empty text only. -/
def isEmptyOnly : Expr → Bool
  | .empty => true
  | .set _ => false
  | .look _ => true
  | .cat a b => a.isEmptyOnly && b.isEmptyOnly
  | .alt a b => a.isEmptyOnly && b.isEmptyOnly
  | .repetition _ most e => most == some 0 || e.isEmptyOnly
  | .capture e => e.isEmptyOnly

/-- Whether every match of a pattern has a character. -/
def consumes : Expr → Bool
  | .empty => false
  | .set _ => true
  | .look _ => false
  | .cat a b => a.consumes || b.consumes
  | .alt a b => a.consumes && b.consumes
  | .repetition least _ e => 0 < least && e.consumes
  | .capture e => e.consumes

/-- The one set that a set or a choice between sets is. -/
def onlySet? : Expr → Option CharSet
  | .set s => some s
  | .alt a b => do some (.union (← a.onlySet?) (← b.onlySet?))
  | _ => none

/-- The room for a part repeated a number of times, from the room for the part.  Repeating what is
empty more than once changes nothing. -/
def repeatedSize (least : Nat) (most : Option Nat) (e : Expr) (part : Nat) : Nat :=
  let (least, most) :=
    if e.isEmptyOnly then (min least 1, some (min (most.getD 1) 1)) else (least, most)
  match least, most with
  | _, some 0 => 0
  | 0, some 1 => part + 2 * stateSize + 2 * waySize
  | 0, none =>
    if e.consumes then part + stateSize + 2 * waySize else part + 3 * stateSize + 4 * waySize
  | least, none => least * part + stateSize + 2 * waySize
  | least, some most =>
    if least = most then least * part
    else max stateSize (least * part) + stateSize +
      (most - least) * (part + stateSize + 2 * waySize)

/-- The room for a pattern. -/
def size : Expr → Nat
  | .empty => 0
  | .set s => s.size
  | .look _ => stateSize
  | .cat a b => a.size + b.size
  | .alt a b =>
    match (Expr.alt a b).onlySet? with
    | some s => s.size
    | none =>
      max stateSize a.size + waySize + max stateSize b.size +
        match b with
        | .alt _ _ => 0
        | _ => 2 * stateSize + waySize
  | .repetition least most e => repeatedSize least most e e.size
  | .capture e => e.size + 2 * stateSize

/-- Whether the automaton for a pattern, with four states around it, is small enough. -/
def fits (e : Expr) : Bool := e.size + 4 * stateSize ≤ sizeLimit

end Expr

end BeanGraph.Pattern
