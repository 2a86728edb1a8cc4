import BeanGraph.Constraint.Basic
import BeanGraph.Path
import BeanGraph.Value.Basic

/-!
# The state of a call

A `Context` is what one validation call knows about where it is: the root it started from, the
groups it was asked for, the beans it has entered, the path to the value in hand, and the place in
its container of the element that the next node will stand for.

`Context.push` appends a node for a property or a pending element and `Context.pop` removes it;
`pop_push` says that the context is then what it was, with no element pending.
-/

namespace BeanGraph

/-- What a validation call knows about where it is. -/
structure Context where
  root? : Option Bean
  rootType : BeanType
  groups : List Group
  visited : List Bean
  path : Path
  pending : Option Element

namespace Context

/-- The start of a call on a root bean, which counts as entered. -/
def forRoot (root : Bean) (groups : List Group) : Context :=
  { root? := some root, rootType := root.type, groups, visited := [root], path := .root
    pending := none }

/-- The start of a call on a value without a bean. -/
def detached (rootType : BeanType) (groups : List Group) : Context :=
  { root? := none, rootType, groups, visited := [], path := .root, pending := none }

/-- Whether a bean has been entered. -/
def hasVisited (c : Context) (b : Bean) : Bool := c.visited.contains b

/-- Whether a value is a bean that has been entered. -/
def hasVisitedValue (c : Context) (v : Value) : Bool := v.bean?.any c.hasVisited

/-- The context after a bean is entered. -/
def visit (c : Context) (b : Bean) : Context :=
  if c.hasVisited b then c else { c with visited := b :: c.visited }

/-- The context in which the next node will stand for an element. -/
def awaiting (c : Context) (e : Element) : Context := { c with pending := some e }

/-- The node that a property's name is given here. -/
def nodeFor (c : Context) (name : String) : PathNode :=
  match c.pending with
  | some e => .element name e
  | none => .property name

/-- The context at a node below the path. -/
def push (c : Context) (name : String) : Context :=
  { c with path := c.path.descend (c.nodeFor name), pending := none }

/-- The context with the last node removed and no element pending. -/
def pop (c : Context) : Context := { c with path := c.path.parent?.getD .root, pending := none }

@[simp] theorem pop_push (c : Context) (name : String) :
    (c.push name).pop = { c with pending := none } := by
  simp [push, pop, Path.descend]

theorem hasVisited_eq_true {c : Context} {b : Bean} : c.hasVisited b = true ↔ b ∈ c.visited := by
  simp [hasVisited]

theorem hasVisited_eq_false {c : Context} {b : Bean} : c.hasVisited b = false ↔ b ∉ c.visited := by
  simp [hasVisited]

theorem hasVisitedValue_eq_true {c : Context} {v : Value} :
    c.hasVisitedValue v = true ↔ ∃ b, v = .bean b ∧ b ∈ c.visited := by
  simp [hasVisitedValue, hasVisited, Option.any_eq_true]

theorem hasVisited_visit (c : Context) (b b' : Bean) :
    (c.visit b).hasVisited b' = (c.hasVisited b' || b' == b) := by
  unfold visit
  split
  · rename_i h
    by_cases hb : b' = b
    · simp [hb, h]
    · simp [hb]
  · simp only [hasVisited, List.contains_cons]
    exact Bool.or_comm _ _

theorem mem_visited_visit {c : Context} {b b' : Bean} :
    b' ∈ (c.visit b).visited ↔ b' = b ∨ b' ∈ c.visited := by
  rw [← hasVisited_eq_true, hasVisited_visit, Bool.or_eq_true, hasVisited_eq_true, beq_iff_eq]
  exact or_comm

/-- Beans that are visited, and the one that is entered, are visited after it. -/
theorem append_subset_visit {c : Context} {beans : List Bean} (h : beans ⊆ c.visited) (b : Bean) :
    beans ++ [b] ⊆ (c.visit b).visited := by
  intro x hx
  rw [mem_visited_visit]
  rcases List.mem_append.1 hx with hx | hx
  · exact .inr (h hx)
  · exact .inl (List.mem_singleton.1 hx)

end Context

end BeanGraph
