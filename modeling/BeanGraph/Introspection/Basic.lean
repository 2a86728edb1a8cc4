import BeanGraph.Constraint.Basic
import BeanGraph.Heap

/-!
# Introspections

An `Introspection` describes a type of beans: its properties in the order they were declared, each
with a getter, a declared type, its constraints, and whether validation cascades into what it holds.

`Introspection.read` reads a property of a bean; a bean of another type reads as null.
-/

namespace BeanGraph

/-- A property of a bean type. -/
structure Property where
  name : String
  declaredType : TypeTag
  getter : Getter
  constraints : List Constraint := []
  cascade : Bool := false

namespace Property

/-- Whether the property declares a constraint. -/
def isConstrained (p : Property) : Bool := !p.constraints.isEmpty

/-- The constraints with their positions among the declarations. -/
def declarations (p : Property) : List (Nat × Constraint) :=
  p.constraints.zipIdx.map fun (c, i) => (i, c)

/-- The declarations that are in one of the groups. -/
def applicable (p : Property) (groups : List Group) : List (Nat × Constraint) :=
  p.declarations.filter fun (_, c) => c.appliesTo groups

/-- The kinds of the applicable constraints, each once, in the order they are first declared. -/
def kinds (p : Property) (groups : List Group) : List ConstraintKind :=
  (p.applicable groups).foldl (fun kinds (_, c) =>
    if kinds.contains c.kind then kinds else kinds ++ [c.kind]) []

/-- The applicable declarations of one kind. -/
def ofKind (p : Property) (kind : ConstraintKind) (groups : List Group) :
    List (Nat × Constraint) :=
  p.declarations.filter fun (_, c) => c.kind = kind && c.appliesTo groups

theorem mem_applicable {p : Property} {groups : List Group} {declaration : Nat} {c : Constraint} :
    (declaration, c) ∈ p.applicable groups ↔
      p.constraints[declaration]? = some c ∧ c.appliesTo groups = true := by
  simp only [applicable, declarations, List.mem_filter, List.mem_map, Prod.exists, Prod.mk.injEq]
  constructor
  · rintro ⟨⟨c', i, h, rfl, rfl⟩, hgroups⟩
    exact ⟨List.mem_zipIdx_iff_getElem?.1 h, hgroups⟩
  · rintro ⟨h, hgroups⟩
    exact ⟨⟨c, declaration, List.mem_zipIdx_iff_getElem?.2 h, rfl, rfl⟩, hgroups⟩

theorem isConstrained_of_mem_applicable {p : Property} {groups : List Group}
    {d : Nat × Constraint} (h : d ∈ p.applicable groups) : p.isConstrained = true := by
  obtain ⟨hc, -⟩ := mem_applicable.1 h
  cases hconstraints : p.constraints with
  | nil => simp [hconstraints] at hc
  | cons c cs => simp [isConstrained, hconstraints]

theorem mem_ofKind {p : Property} {kind : ConstraintKind} {groups : List Group}
    {d : Nat × Constraint} :
    d ∈ p.ofKind kind groups ↔ d ∈ p.applicable groups ∧ d.2.kind = kind := by
  simp only [ofKind, applicable, List.mem_filter, Bool.and_eq_true, decide_eq_true_eq]
  exact ⟨fun ⟨hd, hk, hg⟩ => ⟨⟨hd, hg⟩, hk⟩, fun ⟨⟨hd, hg⟩, hk⟩ => ⟨hd, hk, hg⟩⟩

theorem mem_foldl_kinds {kind : ConstraintKind} (ds : List (Nat × Constraint))
    (kinds : List ConstraintKind) :
    kind ∈ ds.foldl (fun kinds (_, c) =>
      if kinds.contains c.kind then kinds else kinds ++ [c.kind]) kinds ↔
    kind ∈ kinds ∨ ∃ d ∈ ds, d.2.kind = kind := by
  induction ds generalizing kinds with
  | nil => simp
  | cons d ds ih =>
    rw [List.foldl_cons, ih]
    by_cases h : kinds.contains d.2.kind <;> grind

theorem mem_kinds {p : Property} {kind : ConstraintKind} {groups : List Group} :
    kind ∈ p.kinds groups ↔ ∃ d ∈ p.applicable groups, d.2.kind = kind := by
  rw [kinds, mem_foldl_kinds]
  simp

end Property

/-- The description of a bean type.  No two of its properties have one name. -/
structure Introspection where
  beanType : BeanType
  properties : List Property
  distinct : (properties.map (·.name)).Nodup

namespace Introspection

/-- The properties with constraints. -/
def constrained (i : Introspection) : List Property := i.properties.filter (·.isConstrained)

/-- The properties with the cascade mark. -/
def cascading (i : Introspection) : List Property := i.properties.filter (·.cascade)

/-- Whether there is nothing to validate. -/
def isUnconstrained (i : Introspection) : Bool := i.constrained.isEmpty && i.cascading.isEmpty

/-- The property of a name. -/
def property? (i : Introspection) (name : String) : Option Property :=
  i.properties.find? (·.name = name)

theorem property?_eq_some {i : Introspection} {p : Property} (hp : p ∈ i.properties) :
    i.property? p.name = some p := by
  obtain ⟨_, properties, distinct⟩ := i
  induction properties with
  | nil => cases hp
  | cons q rest ih =>
    obtain ⟨hq, hrest⟩ := List.nodup_cons.1 distinct
    rcases List.mem_cons.1 hp with rfl | hp
    · simp [property?]
    · have hne : q.name ≠ p.name := fun e => hq (List.mem_map.2 ⟨p, hp, e.symm⟩)
      simpa [property?, hne] using ih hrest hp

theorem mem_of_property? {i : Introspection} {name : String} {p : Property}
    (h : i.property? name = some p) : p ∈ i.properties ∧ p.name = name :=
  ⟨List.mem_of_find?_eq_some h, by simpa using List.find?_some h⟩

theorem eq_of_name_eq {i : Introspection} {p q : Property} (hp : p ∈ i.properties)
    (hq : q ∈ i.properties) (h : q.name = p.name) : q = p := by
  have hfind := property?_eq_some hq
  rw [h, property?_eq_some hp] at hfind
  exact (Option.some.inj hfind).symm

/-- A property stands in one place, and the others have other names. -/
theorem exists_split {i : Introspection} {p : Property} (hp : p ∈ i.properties) :
    ∃ before after, i.properties = before ++ p :: after ∧
      (∀ q ∈ before, q.name ≠ p.name) ∧ ∀ q ∈ after, q.name ≠ p.name := by
  obtain ⟨before, after, hsplit⟩ := List.append_of_mem hp
  have hdistinct := i.distinct
  rw [hsplit, List.map_append, List.map_cons, List.nodup_append] at hdistinct
  obtain ⟨-, hafter, hdisjoint⟩ := hdistinct
  refine ⟨before, after, hsplit, fun q hq => ?_, fun q hq hname => ?_⟩
  · exact hdisjoint _ (List.mem_map_of_mem hq) _ List.mem_cons_self
  · exact (List.nodup_cons.1 hafter).1 (hname ▸ List.mem_map_of_mem hq)

/-- Reads a property of a bean, given the number of copies made so far. -/
def read (i : Introspection) (p : Property) (heap : Heap) (b : Bean) (copies : Nat) : Value × Nat :=
  if b.type = i.beanType then p.getter (heap.record b) copies else (.null, copies)

end Introspection

end BeanGraph
