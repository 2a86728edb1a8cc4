import BeanGraph.Unicode.Category
import BeanGraph.Unicode.Property

/-!
# Quoted text

`Text.quote` writes a text between double quotes.  Quotes, backslashes, tabs, line ends and the null
character are escaped by a letter or sign; a character that would not show, or that would join the
one before it, is written by its code point, `\u` and the hexadecimal digits in braces.
-/

namespace BeanGraph.Text

/-- The categories whose characters leave no mark of their own. -/
def unprinted : CodeSet :=
  .union [Unicode.control, Unicode.format, Unicode.privateUse, Unicode.unassigned,
    Unicode.lineSeparator, Unicode.paragraphSeparator, Unicode.spaceSeparator]

/-- Whether a character shows by itself: printable ASCII does, and elsewhere all but the unprinted
categories and the characters that extend the one before them. -/
def isPrinted (c : Char) : Bool :=
  if c.toNat < 127 then 32 ≤ c.toNat
  else !Unicode.graphemeExtend.contains c.toNat && !unprinted.contains c.toNat

/-- A character by its code point. -/
def escapeByCode (c : Char) : List Char :=
  '\\' :: 'u' :: '\x7b' :: Nat.toDigits 16 c.toNat ++ ['\x7d']

/-- A character as it stands between quotes. -/
def quoteChar (c : Char) : List Char :=
  if c.toNat = 0 then ['\\', '0']
  else if c = '\t' then ['\\', 't']
  else if c = '\r' then ['\\', 'r']
  else if c = '\n' then ['\\', 'n']
  else if c = '"' then ['\\', '"']
  else if c = '\\' then ['\\', '\\']
  else if isPrinted c then [c]
  else escapeByCode c

/-- A text between double quotes. -/
def quote (s : String) : String := "\"" ++ String.ofList (s.toList.flatMap quoteChar) ++ "\""

end BeanGraph.Text
