/-!
# Beans

A `Bean` is a handle to an instance of a `BeanType`.  Handles are equal when they are the same
instance: the instance declared under a label, or one of the copies made of it while it is read.
What the fields of a bean hold is not part of its handle.
-/

namespace BeanGraph

/-- A type of beans: its identity, and the qualified name it is reported by. -/
structure BeanType where
  key : String
  name : String
deriving DecidableEq, Hashable, Inhabited, Repr

/-- The name of a type without what qualifies it. -/
def BeanType.simpleName (t : BeanType) : String := ((t.name.splitOn "::").getLast?).getD t.name

/-- An instance of a bean type. -/
structure Bean where
  /-- The label of the instance whose fields it has. -/
  label : String
  /-- `0` for that instance itself, otherwise the number of the copy made of it. -/
  copy : Nat := 0
  type : BeanType
deriving DecidableEq, Hashable, Inhabited, Repr

/-- The label of a declared instance; a copy is called by its type. -/
def Bean.address (b : Bean) : String := if b.copy = 0 then b.label else "~" ++ b.type.key

/-- A bean as it is shown. -/
def Bean.text (b : Bean) : String := b.type.simpleName ++ "@" ++ b.address

end BeanGraph
