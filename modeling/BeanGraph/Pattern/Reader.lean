import BeanGraph.Pattern.Tree
import BeanGraph.Text.Blank
import BeanGraph.Unicode.Category

/-!
# Reading patterns

`Tree.read?` reads the text of a pattern and is `none` where the text is no pattern: an operator
without an operand, an unclosed group, class, brace or escape, an unknown escape, flag or class
name, a range or count that runs backwards, a repeated group name or flag, a look-around or a
back-reference.  In verbose mode blanks and comments between the signs of a pattern are skipped.

Every reading function takes the rest of the text and returns what it found at the front of it, with
what is left.
-/

namespace BeanGraph.Pattern

/-! ## Verbose mode -/

/-- A text without the blanks and comments at its front; a comment runs from `#` to the end of its
line. -/
def skipIgnored (inComment : Bool) : List Char → List Char
  | [] => []
  | c :: rest =>
    if inComment then skipIgnored (c != '\n') rest
    else if Text.isBlank c then skipIgnored false rest
    else if c = '#' then skipIgnored true rest
    else c :: rest

/-- In verbose mode a text without what is ignored at its front. -/
def skip (verbose : Bool) (cs : List Char) : List Char :=
  if verbose then skipIgnored false cs else cs

/-- The text that follows, which may not be at its end. -/
def more? (verbose : Bool) (cs : List Char) : Option (List Char) :=
  match skip verbose cs with
  | [] => none
  | rest => some rest

/-- The sign after the one at the front.  In verbose mode blanks are looked over, and one `#`. -/
def peek? (verbose : Bool) (cs : List Char) : Option Char :=
  let rest := cs.drop 1
  if verbose then
    let ahead := match rest.dropWhile Text.isBlank with
      | '#' :: more => more.dropWhile Text.isBlank
      | more => more
    (ahead.head?).or rest.head?
  else rest.head?

/-! ## Numbers and escapes -/

/-- The digits at the front of a text, with what is ignored between them. -/
def digits (verbose : Bool) : Nat → List Char → List Char × List Char
  | 0, cs => ([], cs)
  | _ + 1, [] => ([], [])
  | fuel + 1, c :: rest =>
    if c.isDigit then
      let (ds, rest) := digits verbose fuel (skip verbose rest)
      (c :: ds, rest)
    else ([], c :: rest)

/-- A count below `2 ^ 32`, with blanks around it. -/
def count? (verbose : Bool) (cs : List Char) : Option (Nat × List Char) :=
  let cs := cs.dropWhile Text.isBlank
  let (ds, rest) := digits verbose (cs.length + 1) cs
  let n := ds.foldl (fun n d => 10 * n + (d.toNat - '0'.toNat)) 0
  if ds.isEmpty ∨ UInt32.size ≤ n then none
  else some (n, skip verbose (rest.dropWhile Text.isBlank))

/-- The value of a hexadecimal digit. -/
def hexValue? (c : Char) : Option Nat :=
  if c.isDigit then some (c.toNat - '0'.toNat)
  else if 'a' ≤ c ∧ c ≤ 'f' then some (c.toNat - 'a'.toNat + 10)
  else if 'A' ≤ c ∧ c ≤ 'F' then some (c.toNat - 'A'.toNat + 10)
  else none

/-- The character with a code, if it is one. -/
def charOfCode? (n : Nat) : Option Char := if n.isValidChar then some (Char.ofNat n) else none

/-- As many hexadecimal digits as asked for, read on from `n`. -/
def hexDigits? (verbose : Bool) : Nat → Nat → List Char → Option (Nat × List Char)
  | 0, n, cs => some (n, cs)
  | wanted + 1, n, cs => do
    match ← more? verbose cs with
    | c :: rest => hexDigits? verbose wanted (16 * n + (← hexValue? c)) rest
    | [] => none

/-- Hexadecimal digits up to a closing brace, read on from `n`; at least one. -/
def bracedHex? (verbose : Bool) : Nat → Option Nat → List Char → Option (Nat × List Char)
  | 0, _, _ => none
  | fuel + 1, n, cs => do
    match ← more? verbose cs with
    | '\x7d' :: rest => some (← n, rest)
    | c :: rest => bracedHex? verbose fuel (some (16 * n.getD 0 + (← hexValue? c))) rest
    | [] => none

/-- A character by its code, after the letter of its escape: `width` digits, or any number of them
in braces. -/
def codeEscape? (verbose : Bool) (width : Nat) (cs : List Char) : Option (Literal × List Char) := do
  match ← more? verbose cs with
  | '\x7b' :: rest =>
    let (n, rest) ← bracedHex? verbose (rest.length + 1) none rest
    some (⟨← charOfCode? n, false⟩, rest)
  | rest =>
    let (n, rest) ← hexDigits? verbose width 0 rest
    some (⟨← charOfCode? n, width = 2⟩, rest)

/-- The text up to a closing brace, without what is ignored in it. -/
def bracedName? (verbose : Bool) : Nat → List Char → Option (List Char × List Char)
  | 0, _ => none
  | fuel + 1, cs => do
    match ← more? verbose cs with
    | '\x7d' :: rest => some ([], rest)
    | c :: rest =>
      let (name, rest) ← bracedName? verbose fuel rest
      some (c :: name, rest)
    | [] => none

/-- The part of a text before the first occurrence of a word, and the part after it. -/
def splitAt? (word : List Char) : List Char → Option (List Char × List Char)
  | [] => none
  | c :: rest =>
    if word.isPrefixOf (c :: rest) then some ([], (c :: rest).drop word.length)
    else (splitAt? word rest).map fun (before, after) => (c :: before, after)

/-- The query of a property class in braces, and whether it asks for the opposite. -/
def queryOfName (name : List Char) : Bool × PropertyQuery :=
  let value (split : List Char × List Char) :=
    PropertyQuery.value (String.ofList split.1) (String.ofList split.2)
  match splitAt? ['!', '='] name, splitAt? [':'] name, splitAt? ['='] name with
  | some split, _, _ => (true, value split)
  | none, some split, _ => (false, value split)
  | none, none, some split => (false, value split)
  | none, none, none => (false, .name (String.ofList name))

/-- A property class after its letter: a name in braces, or one letter. -/
def propertyEscape? (verbose : Bool) (cs : List Char) :
    Option ((Bool × PropertyQuery) × List Char) := do
  match ← more? verbose cs with
  | '\x7b' :: rest =>
    let (name, rest) ← bracedName? verbose (rest.length + 1) rest
    some (queryOfName name, rest)
  | '\\' :: _ => none
  | c :: rest => some ((false, .name (String.singleton c)), rest)
  | [] => none

/-- Whether a character stands for itself after a backslash: ASCII signs do, letters, digits and
angle brackets do not. -/
def isSign (c : Char) : Bool := c.toNat < 128 && !c.isAlphanum && c != '<' && c != '>'

/-- The letters of a special word boundary up to its closing brace. -/
def boundaryName? (verbose : Bool) : Nat → List Char → Option (List Char × List Char)
  | 0, _ => none
  | _ + 1, [] => none
  | fuel + 1, c :: rest =>
    if c = '\x7d' then some ([], rest)
    else if c.isAlpha ∨ c = '-' then do
      let (name, rest) ← boundaryName? verbose fuel (skip verbose rest)
      some (c :: name, rest)
    else none

/-- A word boundary after its letter.  Braces that begin with a letter name one of its kinds; other
braces are left to the repetition that they are. -/
def boundary? (verbose : Bool) (cs : List Char) : Option (Assertion × List Char) :=
  match cs with
  | '\x7b' :: rest => do
    match ← more? verbose rest with
    | c :: more =>
      if c.isAlpha ∨ c = '-' then
        let (name, rest) ← boundaryName? verbose (more.length + 2) (c :: more)
        match String.ofList name with
        | "start" => some (.wordStart, rest)
        | "end" => some (.wordEnd, rest)
        | "start-half" => some (.wordStartHalf, rest)
        | "end-half" => some (.wordEndHalf, rest)
        | _ => none
      else some (.wordBoundary, cs)
    | [] => none
  | _ => some (.wordBoundary, cs)

/-- What an escape stands for. -/
inductive Escaped
  | literal (l : Literal)
  | letter (negated : Bool) (cls : LetterClass)
  | property (negated : Bool) (query : PropertyQuery)
  | assertion (a : Assertion)

/-- A character without a byte written for it. -/
def plain (c : Char) : Escaped := .literal ⟨c, false⟩

/-- An escape after its backslash. -/
def escape? (verbose : Bool) : List Char → Option (Escaped × List Char)
  | [] => none
  | c :: rest =>
    if isSign c then some (plain c, rest)
    else
      match c with
      | 'x' => (codeEscape? verbose 2 rest).map fun (l, rest) => (.literal l, rest)
      | 'u' => (codeEscape? verbose 4 rest).map fun (l, rest) => (.literal l, rest)
      | 'U' => (codeEscape? verbose 8 rest).map fun (l, rest) => (.literal l, rest)
      | 'p' => (propertyEscape? verbose rest).map fun ((n, q), rest) => (.property n q, rest)
      | 'P' => (propertyEscape? verbose rest).map fun ((n, q), rest) => (.property (!n) q, rest)
      | 'd' => some (.letter false .digit, rest)
      | 'D' => some (.letter true .digit, rest)
      | 's' => some (.letter false .space, rest)
      | 'S' => some (.letter true .space, rest)
      | 'w' => some (.letter false .word, rest)
      | 'W' => some (.letter true .word, rest)
      | 'a' => some (plain (Char.ofNat 7), rest)
      | 'f' => some (plain (Char.ofNat 12), rest)
      | 't' => some (plain '\t', rest)
      | 'n' => some (plain '\n', rest)
      | 'r' => some (plain '\r', rest)
      | 'v' => some (plain (Char.ofNat 11), rest)
      | 'A' => some (.assertion .startText, rest)
      | 'z' => some (.assertion .endText, rest)
      | 'b' => (boundary? verbose rest).map fun (a, rest) => (.assertion a, rest)
      | 'B' => some (.assertion .noWordBoundary, rest)
      | '<' => some (.assertion .wordStart, rest)
      | '>' => some (.assertion .wordEnd, rest)
      | _ => none

/-! ## Classes -/

/-- The class of a name between colons. -/
def NamedClass.ofName? : String → Option NamedClass
  | "alnum" => some .alnum
  | "alpha" => some .alpha
  | "ascii" => some .ascii
  | "blank" => some .blank
  | "cntrl" => some .cntrl
  | "digit" => some .digit
  | "graph" => some .graph
  | "lower" => some .lower
  | "print" => some .print
  | "punct" => some .punct
  | "space" => some .space
  | "upper" => some .upper
  | "word" => some .word
  | "xdigit" => some .xdigit
  | _ => none

/-- A class with a name between colons, at its bracket. -/
def namedClass? : List Char → Option (ClassTree × List Char)
  | '[' :: ':' :: rest => do
    let (negated, rest) := match rest with
      | '^' :: rest => (true, rest)
      | rest => (false, rest)
    let cls ← NamedClass.ofName? (String.ofList (rest.takeWhile (· ≠ ':')))
    match rest.dropWhile (· ≠ ':') with
    | ':' :: ']' :: rest => some (.named negated cls, rest)
    | _ => none
  | _ => none

/-- A class item as it stands by itself; a zero-width test is none. -/
def Escaped.classItem? : Escaped → Option ClassTree
  | .literal l => some (.literal l)
  | .letter negated cls => some (.letter negated cls)
  | .property negated query => some (.property negated query)
  | .assertion _ => none

/-- A literal as the end of a range. -/
def Escaped.literal? : Escaped → Option Literal
  | .literal l => some l
  | _ => none

/-- A sign between brackets, or an escape. -/
def classSign? (verbose : Bool) : List Char → Option (Escaped × List Char)
  | [] => none
  | '\\' :: rest => escape? verbose rest
  | c :: rest => some (plain c, rest)

/-- A class item or a range.  A hyphen before the closing bracket or another hyphen makes no
range. -/
def classRange? (verbose : Bool) (cs : List Char) : Option (ClassTree × List Char) := do
  let (low, rest) ← classSign? verbose cs
  let rest ← more? verbose rest
  let next := peek? verbose rest
  if rest.head? ≠ some '-' ∨ next = some ']' ∨ next = some '-' then
    some (← low.classItem?, rest)
  else
    let (high, rest) ← classSign? verbose (← more? verbose (rest.drop 1))
    let low ← low.literal?
    let high ← high.literal?
    if low.char ≤ high.char then some (.range low high, rest) else none

/-- A class up to its operator, which the next operand completes. -/
abbrev PendingOp := Option (ClassOp × ClassTree)

/-- The items collected, newest first, as the right operand of the pending operator. -/
def closeOperand (pending : PendingOp) (items : List ClassTree) : ClassTree :=
  let operand := ClassTree.ofItems items.reverse
  match pending with
  | some (kind, left) => .op kind left operand
  | none => operand

/-- The hyphens at the start of a class, and a closing bracket if it comes first, are literals. -/
def openingLiterals? (verbose : Bool) : Nat → List ClassTree → List Char →
    Option (List ClassTree × List Char)
  | 0, _, _ => none
  | fuel + 1, items, cs =>
    match cs with
    | '-' :: rest => do
      openingLiterals? verbose fuel (.literal ⟨'-', false⟩ :: items) (← more? verbose rest)
    | ']' :: rest =>
      if items.isEmpty then do
        some ([.literal ⟨']', false⟩], ← more? verbose rest)
      else some (items, cs)
    | _ => some (items, cs)

mutual

/-- A class in brackets, after its opening bracket, and whether it is negated. -/
def bracketed? (verbose : Bool) : Nat → List Char → Option ((Bool × ClassTree) × List Char)
  | 0, _ => none
  | fuel + 1, cs => do
    let cs ← more? verbose cs
    let (negated, cs) ← match cs with
      | '^' :: rest => do some (true, ← more? verbose rest)
      | cs => some (false, cs)
    let (items, rest) ← openingLiterals? verbose (cs.length + 1) [] cs
    let (inner, rest) ← classBody? verbose fuel none items rest
    some ((negated, inner), rest)

/-- The items of a class up to its closing bracket; `items` holds those since the last operator,
newest first. -/
def classBody? (verbose : Bool) : Nat → PendingOp → List ClassTree → List Char →
    Option (ClassTree × List Char)
  | 0, _, _, _ => none
  | fuel + 1, pending, items, cs => do
    match ← more? verbose cs with
    | ']' :: rest => some (closeOperand pending items, rest)
    | '&' :: '&' :: rest =>
      classBody? verbose fuel (some (.intersection, closeOperand pending items)) [] rest
    | '-' :: '-' :: rest =>
      classBody? verbose fuel (some (.difference, closeOperand pending items)) [] rest
    | '~' :: '~' :: rest =>
      classBody? verbose fuel (some (.symmetricDifference, closeOperand pending items)) [] rest
    | '[' :: rest =>
      match namedClass? ('[' :: rest) with
      | some (item, rest) => classBody? verbose fuel pending (item :: items) rest
      | none =>
        let ((negated, inner), rest) ← bracketed? verbose fuel rest
        classBody? verbose fuel pending (.bracketed negated inner :: items) rest
    | cs =>
      let (item, rest) ← classRange? verbose cs
      classBody? verbose fuel pending (item :: items) rest

end

/-! ## Groups -/

/-- The flag of a letter. -/
def Flag.ofLetter? : Char → Option Flag
  | 'i' => some .caseInsensitive
  | 'm' => some .multiLine
  | 's' => some .dotAll
  | 'U' => some .swapGreed
  | 'u' => some .unicode
  | 'R' => some .carriageReturns
  | 'x' => some .verbose
  | _ => none

/-- Flags up to the colon or parenthesis after them, which is returned with them.  Each flag stands
once, and a flag follows the one minus sign. -/
def flags? (negated : Bool) (done : FlagChanges) :
    List Char → Option ((FlagChanges × Char) × List Char)
  | [] => none
  | c :: rest =>
    if c = ':' ∨ c = ')' then some ((done.reverse, c), rest)
    else if c = '-' then
      match rest with
      | d :: _ => if negated ∨ d = ':' ∨ d = ')' then none else flags? true done rest
      | [] => none
    else
      match Flag.ofLetter? c with
      | some flag =>
        if done.any (·.1 = flag) then none else flags? negated ((flag, !negated) :: done) rest
      | none => none

/-- Whether a character may stand in the name of a group. -/
def isNameChar (first : Bool) (c : Char) : Bool :=
  c == '_' || Unicode.alphabetic.contains c.toNat ||
    (!first && (c == '.' || c == '[' || c == ']' || Unicode.number.contains c.toNat))

/-- The name of a group up to its closing angle bracket. -/
def groupName? (cs : List Char) : Option (List Char × List Char) :=
  let name := cs.takeWhile (· ≠ '>')
  match name, cs.dropWhile (· ≠ '>') with
  | first :: others, '>' :: rest =>
    if isNameChar true first && others.all (isNameChar false) then some (name, rest) else none
  | _, _ => none

/-- What an opening parenthesis begins. -/
inductive Opening
  | capture
  | named (name : List Char)
  | flagged (changes : FlagChanges)
  | switch (changes : FlagChanges)

/-- What follows an opening parenthesis. -/
def opening? (verbose : Bool) (cs : List Char) : Option (Opening × List Char) :=
  match skip verbose cs with
  | '?' :: 'P' :: '<' :: rest => (groupName? rest).map fun (name, rest) => (.named name, rest)
  | '?' :: '<' :: rest => (groupName? rest).map fun (name, rest) => (.named name, rest)
  | '?' :: rest => do
    let ((changes, closing), rest) ← flags? false [] rest
    if closing = ':' then some (.flagged changes, rest)
    else if changes.isEmpty then none
    else some (.switch changes, rest)
  | rest => some (.capture, rest)

/-! ## Repetitions -/

/-- The counts of a repetition, after its opening brace. -/
def counts? (verbose : Bool) (cs : List Char) : Option ((Nat × Option Nat) × List Char) := do
  let (least, rest) ← count? verbose (← more? verbose cs)
  match rest with
  | ',' :: rest =>
    match ← more? verbose rest with
    | '\x7d' :: rest => some ((least, none), rest)
    | rest =>
      let (most, rest) ← count? verbose rest
      match rest with
      | '\x7d' :: rest => if least ≤ most then some ((least, some most), rest) else none
      | _ => none
  | '\x7d' :: rest => some ((least, some least), rest)
  | _ => none

/-- Without the question mark that makes a repetition lazy. -/
def skipLazy : List Char → List Char
  | '?' :: rest => rest
  | rest => rest

/-- The parts with the newest one repeated; flags cannot be. -/
def repeatNewest? (least : Nat) (most : Option Nat) : List Tree → Option (List Tree)
  | [] => none
  | .flags _ :: _ => none
  | part :: parts => some (.repetition least most part :: parts)

/-! ## Patterns -/

/-- A sign that is no operator. -/
def sign? (verbose : Bool) : List Char → Option (Tree × List Char)
  | [] => none
  | '\\' :: rest => do
    let (e, rest) ← escape? verbose rest
    let tree : Tree := match e with
      | .literal l => .literal l
      | .letter negated cls => .letter negated cls
      | .property negated query => .property negated query
      | .assertion a => .assertion a
    some (tree, rest)
  | '.' :: rest => some (.dot, rest)
  | '^' :: rest => some (.assertion .startLine, rest)
  | '$' :: rest => some (.assertion .endLine, rest)
  | c :: rest => some (.literal ⟨c, false⟩, rest)

/-- The names of groups met so far, with a tree. -/
abbrev Named := List (List Char) × Tree

mutual

/-- Branches up to the end of the text or a closing parenthesis, which is left in the text.
`branches` and `parts` hold what is complete, newest first; every step reads a character, so twice
the text's length is fuel enough. -/
def branches? (fuel : Nat) (verbose : Bool) (names : List (List Char)) (branches parts : List Tree)
    (cs : List Char) : Option (Named × List Char) :=
  match fuel with
  | 0 => none
  | fuel + 1 =>
    let close (rest : List Char) : Option (Named × List Char) :=
      some ((names, Tree.ofBranches (Tree.ofParts parts.reverse :: branches).reverse), rest)
    match skip verbose cs with
    | [] => close []
    | ')' :: rest => close (')' :: rest)
    | '|' :: rest =>
      branches? fuel verbose names (Tree.ofParts parts.reverse :: branches) [] rest
    | '[' :: rest => do
      let ((negated, inner), rest) ← bracketed? verbose (2 * rest.length + 2) rest
      branches? fuel verbose names branches (.bracketed negated inner :: parts) rest
    | '?' :: rest => do
      branches? fuel verbose names branches (← repeatNewest? 0 (some 1) parts) (skipLazy rest)
    | '*' :: rest => do
      branches? fuel verbose names branches (← repeatNewest? 0 none parts) (skipLazy rest)
    | '+' :: rest => do
      branches? fuel verbose names branches (← repeatNewest? 1 none parts) (skipLazy rest)
    | '\x7b' :: rest => do
      let ((least, most), rest) ← counts? verbose rest
      branches? fuel verbose names branches (← repeatNewest? least most parts)
        (skipLazy (skip verbose rest))
    | '(' :: rest => do
      match ← opening? verbose rest with
      | (.switch changes, rest) =>
        let verbose := (changes.state? .verbose).getD verbose
        branches? fuel verbose names branches (.flags changes :: parts) rest
      | (.capture, rest) => group? fuel verbose names true [] branches parts rest
      | (.flagged changes, rest) => group? fuel verbose names false changes branches parts rest
      | (.named name, rest) =>
        if names.contains name then none
        else group? fuel verbose (name :: names) true [] branches parts rest
    | cs => do
      let (part, rest) ← sign? verbose cs
      branches? fuel verbose names branches (part :: parts) rest

/-- A group after its opening, and what follows it in the enclosing pattern. -/
def group? (fuel : Nat) (verbose : Bool) (names : List (List Char)) (captures : Bool)
    (changes : FlagChanges) (branches parts : List Tree) (cs : List Char) :
    Option (Named × List Char) :=
  match fuel with
  | 0 => none
  | fuel + 1 => do
    let inside := (changes.state? .verbose).getD verbose
    let ((names, inner), rest) ← branches? fuel inside names [] [] cs
    match rest with
    | ')' :: rest =>
      branches? fuel verbose names branches (.group captures changes inner :: parts) rest
    | _ => none

end

/-- The tree of a text, however deep it is nested. -/
def Tree.parse? (s : String) : Option Tree :=
  match branches? (2 * s.toList.length + 2) false [] [] [] s.toList with
  | some ((_, tree), []) => some tree
  | _ => none

/-- The pattern that a text is. -/
def Tree.read? (s : String) : Option Tree :=
  (Tree.parse? s).filter fun tree => tree.depth ≤ nestLimit

end BeanGraph.Pattern
