import BeanGraph.Call
import BeanGraph.Extraction.Registry
import BeanGraph.Resolver
import BeanGraph.Routine.Registry

/-!
# Traversal of a bean graph

A traversal checks the constrained properties of a bean, then descends through its cascade
properties into the beans and elements they hold.  A bean with an introspection is entered once per
call; a target that is no such bean is checked against the constraints of the cascade property
itself.

* `checkValue` asks the routine of each applicable constraint about one value;
* `checkProperty` checks the value of a property, or what it wraps, and `checkBean` the constrained
  properties of a bean;
* `descend` goes into one cascade target and `visitBy` through one bean, both told how to visit the
  beans below;
* `visit` visits the beans below in the way it visits a bean.

`visit_eq` unfolds a visit.  `visitWithin` stops at a number of beans below one another, and what it
comes to the visit comes to (`visitWithin_le`).
-/

namespace BeanGraph

/-- What a call asks about values, types and targets. -/
structure Validator where
  introspection? : BeanType → Option Introspection := fun _ => none
  routines : RoutineRegistry := .default
  extractors : ExtractorRegistry := .default
  resolver : Resolver := .permitAll

namespace Validator

open Call

variable (v : Validator) (heap : Heap)

/-! ## Checking -/

/-- Asks the routine of each applicable constraint of a property about a value, kind by kind.  Null
counts as a value of the declared type. -/
def checkValue (leaf? : Option Bean) (p : Property) (value : Value) : Step Unit := do
  let groups := (← context).groups
  let target := value.runtimeType?.getD p.declaredType
  (p.kinds groups).forM fun kind => do
    match v.routines.find? kind target with
    | none => log (.noRoutine kind target (← context).path)
    | some routine =>
      (p.ofKind kind groups).forM fun (declaration, c) => judge leaf? routine declaration c value

/-- The extractor that stands a wrapped value in for a property's own: none for null, nor for a
property that cascades. -/
def unwrapFor? (p : Property) (value : Value) : Option Extractor :=
  if p.cascade then none else value.runtimeType?.bind v.extractors.unwrap.find?

/-- Checks the value of a property, or the values that it wraps. -/
def checkProperty (leaf? : Option Bean) (p : Property) (value : Value) : Step Unit :=
  below p.name <|
    match v.unwrapFor? p value with
    | some unwrap => unwrap.feed heap value fun e => v.checkValue leaf? p e.value
    | none => v.checkValue leaf? p value

/-- Checks the constrained properties of a bean. -/
def checkBean (i : Introspection) (b : Bean) : Step Unit :=
  i.constrained.forM fun p => do
    v.checkProperty heap (some b) p (← read heap i p b)

/-! ## Descending -/

/-- Asks the resolver a question about a target. -/
def query (question : Question) (target : Target) : Step Bool := do
  let answer := v.resolver.answer question target
  record (.asked question target (← context) answer)
  return answer

/-- Asks the resolver whether it may cascade into a target and then, if so, reach it. -/
def allows (target : Target) : Step Bool := do
  if ← v.query .isCascadable target then v.query .isReachable target
  else return false

/-- Asks the resolver whether to descend into a value at the path in force. -/
def permits (value : Value) (elementType : ElementType) : Step Bool := do
  let context ← context
  match context.target? value elementType with
  | none => return true
  | some target =>
    let allowed ← v.allows target
    unless allowed do log (.vetoed context.path elementType)
    return allowed

/-- The bean that a target is, with its introspection: what there is to enter. -/
def toEnter? (value : Value) : Option (Bean × Introspection) :=
  value.bean?.bind fun b => (v.introspection? b.type).map (b, ·)

/-- Looks up what there is to enter in a target. -/
def lookUp (value : Value) : Step (Option (Bean × Introspection)) := do
  if let some b := value.bean? then record (.lookedUp b.type)
  return v.toEnter? value

/-- Goes into a target: a bean with an introspection is entered, anything else is checked against
the constraints of the cascade property. -/
def enter (visitBelow : Introspection → Bean → Walk Unit) (leaf : Bean) (p : Property)
    (value : Value) : Walk Unit := do
  match ← v.lookUp value with
  | none => v.checkValue (some leaf) p value
  | some (b, i) =>
    changeContext (·.visit b)
    unless i.isUnconstrained do visitBelow i b

/-- Goes into a target below a node for its property, if the resolver permits it. -/
def descend (visitBelow : Introspection → Bean → Walk Unit) (leaf : Bean) (p : Property)
    (value : Value) (elementType : ElementType) : Walk Unit :=
  below p.name do
    if ← v.permits value elementType then v.enter visitBelow leaf p value

/-- Goes into an element of the container that a cascade property holds, unless it is a bean that
has been entered. -/
def cascadeElement (visitBelow : Introspection → Bean → Walk Unit) (leaf : Bean) (p : Property)
    (e : Extracted) : Walk Unit := do
  let context ← context
  if context.hasVisitedValue e.value then log (.skippedElement context.path p.name)
  else
    changeContext (·.awaiting e.element)
    v.descend visitBelow leaf p e.value .typeUse

/-- Goes into what a cascade property holds: each element of a container, or the value itself unless
it is null or a bean that has been entered. -/
def cascade (visitBelow : Introspection → Bean → Walk Unit) (leaf : Bean) (p : Property)
    (value : Value) : Walk Unit := do
  match value.runtimeType? with
  | none => return
  | some tag =>
    match v.extractors.cascade.find? tag with
    | some extractor => extractor.feed heap value (v.cascadeElement visitBelow leaf p)
    | none =>
      let context ← context
      if context.hasVisitedValue value then log (.skippedBean context.path p.name)
      else v.descend visitBelow leaf p value .field

/-! ## Visiting -/

/-- Checks a bean, then goes through its cascade properties, visiting the beans below as told. -/
def visitBy (visitBelow : Introspection → Bean → Walk Unit) (i : Introspection) (b : Bean) :
    Walk Unit := do
  record (.entered b (← context).path)
  v.checkBean heap i b
  i.cascading.forM fun p => do
    v.cascade heap visitBelow b p (← read heap i p b)

section Le

variable {v heap}
variable {f g : Introspection → Bean → Walk Unit}

theorem result_lookUp (value : Value) (s : Progress) :
    (v.lookUp value s).1 = .ok (v.toEnter? value) := by
  unfold lookUp
  cases value.bean? <;> rfl

/-- Of the visits below a target only that of the target itself matters. -/
theorem enter_le (leaf : Bean) (p : Property) {value : Value}
    (h : ∀ b i, v.toEnter? value = some (b, i) → Walk.Le (f i b) (g i b)) :
    Walk.Le (v.enter f leaf p value) (v.enter g leaf p value) := by
  refine Walk.Le.bind_ofStep fun s target? t hlookUp => ?_
  obtain rfl : v.toEnter? value = target? :=
    Except.ok.inj ((result_lookUp value s).symm.trans (congrArg Prod.fst hlookUp))
  cases htarget : v.toEnter? value with
  | none => exact Walk.Le.refl _
  | some target =>
    refine (Walk.Le.refl _).bind fun _ => ?_
    split
    · exact Walk.Le.refl _
    · exact h _ _ htarget

theorem descend_le (leaf : Bean) (p : Property) {value : Value} (elementType : ElementType)
    (h : ∀ b i, v.toEnter? value = some (b, i) → Walk.Le (f i b) (g i b)) :
    Walk.Le (v.descend f leaf p value elementType) (v.descend g leaf p value elementType) := by
  refine Walk.Le.below _ ((Walk.Le.refl _).bind fun permitted => ?_)
  split
  · exact enter_le leaf p h
  · exact Walk.Le.refl _

variable (h : ∀ i b, Walk.Le (f i b) (g i b))
include h

theorem cascadeElement_le (leaf : Bean) (p : Property) (e : Extracted) :
    Walk.Le (v.cascadeElement f leaf p e) (v.cascadeElement g leaf p e) := by
  refine (Walk.Le.refl _).bind fun context => ?_
  split
  · exact Walk.Le.refl _
  · exact (Walk.Le.refl _).bind fun _ => descend_le leaf p .typeUse fun b i _ => h i b

theorem cascade_le (leaf : Bean) (p : Property) (value : Value) :
    Walk.Le (v.cascade heap f leaf p value) (v.cascade heap g leaf p value) := by
  unfold cascade
  split
  · exact Walk.Le.refl _
  · split
    · exact Walk.Le.feed (cascadeElement_le h leaf p) _ heap value
    · refine (Walk.Le.refl _).bind fun context => ?_
      split
      · exact Walk.Le.refl _
      · exact descend_le leaf p .field fun b i _ => h i b

theorem visitBy_le (i : Introspection) (b : Bean) :
    Walk.Le (v.visitBy heap f i b) (v.visitBy heap g i b) := by
  refine (Walk.Le.refl _).bind fun _ => (Walk.Le.refl _).bind fun _ => ?_
  refine (Walk.Le.refl _).bind fun _ => Walk.Le.forM fun p _ => ?_
  exact (Walk.Le.refl _).bind fun value => cascade_le h b p value

end Le

/-- Visits a bean and all below it. -/
def visit (i : Introspection) (b : Bean) (s : Progress) : Option (Outcome Unit) :=
  -- given by a tactic, for a recursive call in a term is kept with its position in the file
  v.visitBy heap (by apply visit) i b s
partial_fixpoint monotonicity by
  intro f g below i b
  refine (Walk.Flat.le_iff ?flat).1 (visitBy_le (fun i b => (Walk.Flat.le_iff ?flat).2 (below i b))
    i b)
  case flat => exact ⟨fun _ => .bot, fun _ => .refl, fun _ _ h => by cases h; rfl⟩

theorem visit_eq (i : Introspection) (b : Bean) :
    v.visit heap i b = v.visitBy heap (v.visit heap) i b := by
  funext s
  rw [visit]

/-- Visits a bean and those below it, fewer than a number of them below one another. -/
def visitWithin : Nat → Introspection → Bean → Walk Unit
  | 0 => fun _ _ _ => none
  | depth + 1 => v.visitBy heap (visitWithin depth)

theorem visitWithin_le (depth : Nat) (i : Introspection) (b : Bean) :
    Walk.Le (v.visitWithin heap depth i b) (v.visit heap i b) := by
  induction depth generalizing i b with
  | zero => exact fun _ _ h => nomatch h
  | succ depth ih =>
    rw [visit_eq]
    exact visitBy_le ih i b

end Validator

end BeanGraph
