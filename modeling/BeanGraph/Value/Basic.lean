import BeanGraph.Bean
import BeanGraph.Binary64.Basic

/-!
# Values

A `Value` is what a property of a bean can hold.  Its `TypeTag` is what constraint routines and
extractors are looked up by; null has none.  A map keeps its entries in the order they were first
inserted.
-/

namespace BeanGraph

/-- The type of a value.  `any` is no value's type: it stands for all of them. -/
inductive TypeTag
  | any
  | bool
  | int
  | float
  | str
  | bytes
  | list
  | set
  | map
  | optional
  | bean (type : BeanType)
deriving DecidableEq, Hashable, Inhabited, Repr

/-- The type as it is written; of a bean's type the last part of the name. -/
def TypeTag.text : TypeTag → String
  | .any => "any"
  | .bool => "boolean"
  | .int => "integer"
  | .float => "float"
  | .str => "string"
  | .bytes => "bytes"
  | .list => "list"
  | .set => "set"
  | .map => "map"
  | .optional => "optional"
  | .bean type => type.simpleName

/-- A value read from a property of a bean. -/
inductive Value
  | null
  | bool (b : Bool)
  | int (n : Int64)
  | float (x : Binary64)
  | str (s : String)
  | bytes (bs : List UInt8)
  | list (items : List Value)
  | set (items : List Value)
  | map (entries : List (String × Value))
  | optional (inner : Option Value)
  | bean (b : Bean)
deriving Inhabited

namespace Value

/-! ## Views -/

/-- The value is null. -/
def isNull : Value → Bool
  | .null => true
  | _ => false

/-- The type of a value at run time. -/
def runtimeType? : Value → Option TypeTag
  | .null => none
  | .bool _ => some .bool
  | .int _ => some .int
  | .float _ => some .float
  | .str _ => some .str
  | .bytes _ => some .bytes
  | .list _ => some .list
  | .set _ => some .set
  | .map _ => some .map
  | .optional _ => some .optional
  | .bean b => some (.bean b.type)

/-- The bean that a value is; no other value has an identity. -/
def bean? : Value → Option Bean
  | .bean b => some b
  | _ => none

/-- The text that a value is. -/
def str? : Value → Option String
  | .str s => some s
  | _ => none

/-- The truth value that a value is. -/
def bool? : Value → Option Bool
  | .bool b => some b
  | _ => none

/-- The integer that a value is. -/
def int? : Value → Option Int64
  | .int n => some n
  | _ => none

/-- A number as a double; an integer goes to the nearest one. -/
def float? : Value → Option Binary64
  | .int n => some (.ofInt n.toInt)
  | .float x => some x
  | _ => none

/-- The number of characters, bytes, elements or entries. -/
def size? : Value → Option Nat
  | .str s => some s.length
  | .bytes bs => some bs.length
  | .list items => some items.length
  | .set items => some items.length
  | .map entries => some entries.length
  | _ => none

@[simp] theorem runtimeType?_eq_none {v : Value} : v.runtimeType? = none ↔ v = .null := by
  cases v <;> simp [runtimeType?]

@[simp] theorem isNull_eq_true {v : Value} : v.isNull = true ↔ v = .null := by
  cases v <;> simp [isNull]

@[simp] theorem bean?_eq_some {v : Value} {b : Bean} : v.bean? = some b ↔ v = .bean b := by
  cases v <;> simp [bean?]

/-! ## Maps -/

/-- Sets an entry: a key that is there keeps its place, a new one goes to the end. -/
def insertEntry (key : String) (value : Value) : List (String × Value) → List (String × Value)
  | [] => [(key, value)]
  | (k, v) :: rest => if k = key then (k, value) :: rest else (k, v) :: insertEntry key value rest

/-- The map that results from setting the entries in turn. -/
def ofEntries (entries : List (String × Value)) : Value :=
  .map (entries.foldl (fun done (k, v) => insertEntry k v done) [])

end Value

end BeanGraph
