import BeanGraph.Context

/-!
# The gate of the traversal

A `Resolver` is asked before validation descends into a cascade target, first whether it may cascade
into the target and then, if so, whether it may reach it.
-/

namespace BeanGraph

/-- Where a cascade target stands: in the property itself, or in the container it holds. -/
inductive ElementType
  | field
  | typeUse
deriving DecidableEq, Repr

/-- The element type as it is written. -/
def ElementType.text : ElementType → String
  | .field => "Field"
  | .typeUse => "TypeUse"

/-- What a resolver is asked about. -/
structure Target where
  value : Value
  node : PathNode
  rootType : BeanType
  path : Path
  elementType : ElementType

/-- What a resolver is asked about a value at the path of a call. -/
def Context.target? (c : Context) (value : Value) (elementType : ElementType) : Option Target :=
  c.path.last?.map fun node => ⟨value, node, c.rootType, c.path, elementType⟩

/-- The two questions that a resolver is asked. -/
inductive Question
  | isCascadable
  | isReachable
deriving DecidableEq, Repr

/-- Decides which cascade targets are descended into. -/
structure Resolver where
  isCascadable : Target → Bool
  isReachable : Target → Bool

/-- The answer to a question about a target. -/
def Resolver.answer (r : Resolver) : Question → Target → Bool
  | .isCascadable => r.isCascadable
  | .isReachable => r.isReachable

/-- Permits every descent. -/
def Resolver.permitAll : Resolver := ⟨fun _ => true, fun _ => true⟩

end BeanGraph
