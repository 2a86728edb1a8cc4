import BeanGraph.Value.Basic
import BeanGraph.Binary64.Shortest
import BeanGraph.Text.Quoted

/-!
# Values as text

`Value.text` shows a value: strings are quoted, bytes are counted, containers list their elements,
and a bean shows its type and which instance it is.
-/

namespace BeanGraph.Value

mutual

/-- A value as it is shown. -/
def text : Value → String
  | .null => "null"
  | .bool b => if b then "true" else "false"
  | .int n => toString n.toInt
  | .float x => x.positional
  | .str s => Text.quote s
  | .bytes bs => "<" ++ toString bs.length ++ " bytes>"
  | .list items => "[" ++ ", ".intercalate (itemTexts items) ++ "]"
  | .set items => "[" ++ ", ".intercalate (itemTexts items) ++ "]"
  | .map entries => "\x7b" ++ ", ".intercalate (entryTexts entries) ++ "\x7d"
  | .optional inner => innerText inner
  | .bean b => b.text

/-- The items of a container as they are shown. -/
def itemTexts : List Value → List String
  | [] => []
  | v :: rest => text v :: itemTexts rest

/-- The entries of a map as they are shown; keys are not quoted. -/
def entryTexts : List (String × Value) → List String
  | [] => []
  | (k, v) :: rest => (k ++ ": " ++ text v) :: entryTexts rest

/-- A wrapped value as it is shown. -/
def innerText : Option Value → String
  | none => "None"
  | some v => "Some(" ++ text v ++ ")"

end

end BeanGraph.Value
