/-!
# Paths

A `Path` leads from a root bean to a value in its graph, one `PathNode` for each property read.
A node is a property, or an element of the container that the property holds: by position, by key,
or without either.  Every node says whether it, or a node before it, stands for one of several
elements.

`PathNode.text` writes an element's index or key in brackets; an element without either has empty
brackets if it is one of several, and none otherwise.
-/

namespace BeanGraph

/-- Where an element stands in its container: the one value of a wrapper, an element without a
position, one at an index, or the value of a key. -/
inductive Element
  | single
  | iterable
  | indexed (index : Nat)
  | keyed (key : String)
deriving DecidableEq, Hashable, Repr

/-- Whether an element is one of several. -/
def Element.isIterable : Element → Bool
  | .single => false
  | _ => true

/-- The place that a node keeps of an element: its index, its key, or nothing. -/
inductive Place
  | none
  | index (n : Nat)
  | key (k : String)
deriving DecidableEq, Hashable, Repr

/-- The place that a node keeps of an element. -/
def Element.place : Element → Place
  | .single => .none
  | .iterable => .none
  | .indexed n => .index n
  | .keyed k => .key k

/-- What a node stands for. -/
inductive NodeKind
  | property
  | element (place : Place)
deriving DecidableEq, Hashable, Repr

/-- One step of a path. -/
structure PathNode where
  name : String
  kind : NodeKind
  inIterable : Bool
deriving DecidableEq, Hashable, Repr

namespace PathNode

/-- The node of a property itself. -/
def property (name : String) : PathNode := ⟨name, .property, false⟩

/-- The node of an element of the container that a property holds. -/
def element (name : String) (e : Element) : PathNode := ⟨name, .element e.place, e.isIterable⟩

/-- The node below one that may stand for one of several elements. -/
def within (n : PathNode) (inIterable : Bool) : PathNode :=
  { n with inIterable := n.inIterable || inIterable }

/-- The node stands for an element of a container. -/
def isElement (n : PathNode) : Bool := n.kind != .property

/-- The index of the element that a node stands for. -/
def index? (n : PathNode) : Option Nat :=
  match n.kind with
  | .element (.index i) => some i
  | _ => none

/-- The key of the element that a node stands for. -/
def key? (n : PathNode) : Option String :=
  match n.kind with
  | .element (.key k) => some k
  | _ => none

/-- What follows the name of a node. -/
def bracket (n : PathNode) : String :=
  match n.kind with
  | .property => ""
  | .element (.index i) => "[" ++ toString i ++ "]"
  | .element (.key k) => "[" ++ k ++ "]"
  | .element .none => if n.inIterable then "[]" else ""

/-- The name of a node with its place in brackets. -/
def text (n : PathNode) : String := n.name ++ n.bracket

end PathNode

/-- The steps from a root bean to a value. -/
structure Path where
  nodes : List PathNode
deriving DecidableEq, Hashable, Repr

namespace Path

/-- The path of the root bean itself. -/
def root : Path := ⟨[]⟩

/-- The path with a node more. -/
def push (p : Path) (n : PathNode) : Path := ⟨p.nodes ++ [n]⟩

/-- The number of nodes. -/
def length (p : Path) : Nat := p.nodes.length

/-- The path is that of the root bean itself. -/
def isRoot (p : Path) : Bool := p.nodes.isEmpty

/-- The path without its last node; the root has none. -/
def parent? (p : Path) : Option Path := if p.isRoot then none else some ⟨p.nodes.dropLast⟩

/-- The last node; the root has none. -/
def last? (p : Path) : Option PathNode := p.nodes.getLast?

/-- The nodes with points between them. -/
def text (p : Path) : String := ".".intercalate (p.nodes.map PathNode.text)

/-- The path of a read below this one: the new node is in an iterable if the last one is. -/
def descend (p : Path) (n : PathNode) : Path :=
  p.push (n.within ((p.last?.map (·.inIterable)).getD false))

@[simp] theorem nodes_root : root.nodes = [] := rfl

@[simp] theorem nodes_push (p : Path) (n : PathNode) : (p.push n).nodes = p.nodes ++ [n] := rfl

@[simp] theorem last?_push (p : Path) (n : PathNode) : (p.push n).last? = some n := by
  simp [last?]

@[simp] theorem parent?_push (p : Path) (n : PathNode) : (p.push n).parent? = some p := by
  simp [parent?, isRoot]

@[simp] theorem parent?_descend (p : Path) (n : PathNode) : (p.descend n).parent? = some p :=
  parent?_push p _

end Path

end BeanGraph
