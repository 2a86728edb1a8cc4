import BeanGraph.Value.Basic

/-!
# Fields and their readers

A `Heap` holds the fields of the declared beans; the graph that they form may have cycles.  A
`Getter` reads a property from the fields of one bean.  It may make copies of beans while it does,
so a read takes the number of copies made so far and returns it with the value.

A copy shares the fields of the instance it was made of and is no other instance.
-/

namespace BeanGraph

/-! ## Records -/

/-- The fields of one bean. -/
abbrev Record := List (String × Value)

/-- The value of a field; a field that is absent reads as null. -/
def Record.get (r : Record) (field : String) : Value := (r.lookup field).getD .null

/-- Replaces the value of a field. -/
def Record.set (r : Record) (field : String) (value : Value) : Record :=
  Value.insertEntry field value r

/-! ## Heaps -/

/-- The declared beans with their fields. -/
structure Heap where
  entries : List (Bean × Record) := []

namespace Heap

/-- The declared instances. -/
def beans (h : Heap) : List Bean := h.entries.map (·.1)

/-- The fields of a bean; a copy has those of the instance it was made of. -/
def record (h : Heap) (b : Bean) : Record :=
  ((h.entries.find? (·.1.label = b.label)).map (·.2)).getD []

/-- Declares a bean. -/
def declare (h : Heap) (b : Bean) (r : Record) : Heap := ⟨h.entries ++ [(b, r)]⟩

/-- Replaces a field of the bean with a label. -/
def set (h : Heap) (label field : String) (value : Value) : Heap :=
  ⟨h.entries.map fun (b, r) => if b.label = label then (b, r.set field value) else (b, r)⟩

end Heap

/-! ## Copies -/

namespace Value

mutual

/-- A value with every bean in it, in nested containers too, replaced by a copy, and the number of
copies made by then. -/
def withCopies : Value → Nat → Value × Nat
  | .bean b, n => (.bean { b with copy := n + 1 }, n + 1)
  | .list items, n => let (items, n) := copyItems items n; (.list items, n)
  | .set items, n => let (items, n) := copyItems items n; (.set items, n)
  | .map entries, n => let (entries, n) := copyEntries entries n; (.map entries, n)
  | .optional inner, n => let (inner, n) := copyInner inner n; (.optional inner, n)
  | .null, n => (.null, n)
  | .bool b, n => (.bool b, n)
  | .int i, n => (.int i, n)
  | .float x, n => (.float x, n)
  | .str s, n => (.str s, n)
  | .bytes bs, n => (.bytes bs, n)

/-- The items with every bean replaced by a copy. -/
def copyItems : List Value → Nat → List Value × Nat
  | [], n => ([], n)
  | v :: rest, n =>
    let (v, n) := withCopies v n
    let (rest, n) := copyItems rest n
    (v :: rest, n)

/-- The entries with every bean replaced by a copy. -/
def copyEntries : List (String × Value) → Nat → List (String × Value) × Nat
  | [], n => ([], n)
  | (k, v) :: rest, n =>
    let (v, n) := withCopies v n
    let (rest, n) := copyEntries rest n
    ((k, v) :: rest, n)

/-- A wrapped value with every bean replaced by a copy. -/
def copyInner : Option Value → Nat → Option Value × Nat
  | none, n => (none, n)
  | some v, n =>
    let (v, n) := withCopies v n
    (some v, n)

end

end Value

/-! ## Getters -/

/-- Reads a property from the fields of a bean, given the number of copies made so far. -/
abbrev Getter := Record → Nat → Value × Nat

namespace Getter

/-- Reads a field as it is. -/
def field (name : String) : Getter := fun r n => (r.get name, n)

/-- Reads a field with every bean in it replaced by a new copy. -/
def copying (name : String) : Getter := fun r n => (r.get name).withCopies n

/-- A stable getter returns the same value on every read. -/
def Stable (g : Getter) : Prop := ∀ r m n, (g r m).1 = (g r n).1

theorem stable_field (name : String) : (field name).Stable := fun _ _ _ => rfl

end Getter

end BeanGraph
