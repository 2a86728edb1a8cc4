import BeanGraph.Introspection.Basic
import BeanGraph.Table

/-!
# Registry of introspections

Introspections by the bean type they describe.
-/

namespace BeanGraph

/-- Introspections by bean type. -/
abbrev IntrospectionRegistry := Table BeanType Introspection

namespace IntrospectionRegistry

/-- No introspections at all. -/
def empty : IntrospectionRegistry := {}

/-- Registers an introspection for the type it describes. -/
def add? (r : IntrospectionRegistry) (i : Introspection) : Option IntrospectionRegistry :=
  Table.register? r i.beanType i

end IntrospectionRegistry

end BeanGraph
