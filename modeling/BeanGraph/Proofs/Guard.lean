import BeanGraph.Proofs.Passage
import BeanGraph.Validator

/-!
# The traversal with and without its guard

A traversal is guarded: it skips beans that have been entered.  `visitGuarded` is the same recursion
told whether to do so, and `validateGuarded` the validation that goes by it.  Without the guard a
bean is entered once for every way that leads to it, and a cycle is followed without end.

* `cascade_eq_forM_approach`: a cascade approaches each target that a property holds;
* `visitGuarded_true`, `validateGuarded_true`: with the guard this is the traversal itself.
-/

namespace BeanGraph

namespace Validator

open Call

variable (v : Validator) (heap : Heap)

/-! ## Approaching a target -/

/-- Goes into a cascade target of a property, unless there is a guard and the target is a bean that
has been entered. -/
def approach (guarded : Bool) (visitBelow : Introspection → Bean → Walk Unit) (leaf : Bean)
    (p : Property) (element? : Option Element) (value : Value) : Walk Unit := do
  let context ← context
  if guarded && context.hasVisitedValue value then
    log (if element?.isSome then .skippedElement context.path p.name
      else .skippedBean context.path p.name)
  else
    changeContext (·.awaiting? element?)
    v.descend visitBelow leaf p value (.of element?)

theorem approach_apply (guarded : Bool) (visitBelow : Introspection → Bean → Walk Unit)
    (leaf : Bean) (p : Property) (element? : Option Element) (u : Value) (s : Progress) :
    v.approach guarded visitBelow leaf p element? u s =
      if guarded && s.context.hasVisitedValue u then
        some (.ok (), s.record (.logged (if element?.isSome
          then .skippedElement s.context.path p.name else .skippedBean s.context.path p.name)))
      else
        v.descend visitBelow leaf p u (.of element?) (s.changeContext (·.awaiting? element?)) := by
  refine (Walk.ofStep_bind_apply (context_apply s)).trans ?_
  split
  · rfl
  · exact Walk.ofStep_bind_apply (changeContext_apply s _)

theorem cascade_eq_forM_approach (visitBelow : Introspection → Bean → Walk Unit) (leaf : Bean)
    (p : Property) (w : Value) :
    v.cascade heap visitBelow leaf p w =
      (v.held heap w).forM fun (element?, u) => v.approach true visitBelow leaf p element? u := by
  unfold cascade held
  cases w.runtimeType? with
  | none => rfl
  | some tag =>
    dsimp only
    cases v.extractors.cascade.find? tag with
    | none =>
      dsimp only
      rw [List.forM_eq_forM, List.forM_cons, List.forM_nil, bind_pure_unit]
      rfl
    | some extractor =>
      dsimp only
      rw [Extractor.feed_eq_forM]
      induction extractor heap w with
      | nil => rfl
      | cons e es ih =>
        simp only [List.map_cons, List.forM_eq_forM, List.forM_cons] at ih ⊢
        rw [ih]
        rfl

/-! ## Visiting -/

/-- Checks a bean, then approaches its cascade targets, visiting the beans below as told. -/
def visitGuardedBy (guarded : Bool) (visitBelow : Introspection → Bean → Walk Unit)
    (i : Introspection) (b : Bean) : Walk Unit := do
  record (.entered b (← context).path)
  v.checkBean heap i b
  i.cascading.forM fun p => do
    (v.held heap (← read heap i p b)).forM fun (element?, u) =>
      v.approach guarded visitBelow b p element? u

theorem visitGuardedBy_true (visitBelow : Introspection → Bean → Walk Unit) (i : Introspection)
    (b : Bean) : v.visitGuardedBy heap true visitBelow i b = v.visitBy heap visitBelow i b := by
  simp only [visitGuardedBy, visitBy, cascade_eq_forM_approach]

/-- Of the visits below a target only that of the target itself matters. -/
theorem approach_le {f g : Introspection → Bean → Walk Unit} (guarded : Bool) (leaf : Bean)
    (p : Property) (element? : Option Element) {u : Value}
    (h : ∀ t i, v.toEnter? u = some (t, i) → Walk.Le (f i t) (g i t)) :
    Walk.Le (v.approach guarded f leaf p element? u) (v.approach guarded g leaf p element? u) := by
  refine (Walk.Le.refl _).bind fun context => ?_
  split
  · exact Walk.Le.refl _
  · exact (Walk.Le.refl _).bind fun _ => descend_le leaf p (.of element?) h

theorem visitGuardedBy_le {f g : Introspection → Bean → Walk Unit}
    (h : ∀ i b, Walk.Le (f i b) (g i b)) (guarded : Bool) (i : Introspection) (b : Bean) :
    Walk.Le (v.visitGuardedBy heap guarded f i b) (v.visitGuardedBy heap guarded g i b) := by
  refine (Walk.Le.refl _).bind fun _ => (Walk.Le.refl _).bind fun _ => ?_
  refine (Walk.Le.refl _).bind fun _ => Walk.Le.forM fun p _ => ?_
  refine (Walk.Le.refl _).bind fun w => Walk.Le.forM fun (element?, u) _ => ?_
  exact v.approach_le guarded b p element? fun t i _ => h i t

/-- Visits a bean and all below it, with the guard or without it. -/
def visitGuarded (guarded : Bool) (i : Introspection) (b : Bean) (s : Progress) :
    Option (Outcome Unit) :=
  v.visitGuardedBy heap guarded (by apply visitGuarded; exact guarded) i b s
partial_fixpoint monotonicity by
  intro f g below i b
  refine (Walk.Flat.le_iff ?flat).1 (v.visitGuardedBy_le heap
    (fun i b => (Walk.Flat.le_iff ?flat).2 (below i b)) guarded i b)
  case flat => exact ⟨fun _ => .bot, fun _ => .refl, fun _ _ h => by cases h; rfl⟩

theorem visitGuarded_eq (guarded : Bool) (i : Introspection) (b : Bean) :
    v.visitGuarded heap guarded i b =
      v.visitGuardedBy heap guarded (v.visitGuarded heap guarded) i b := by
  funext s
  rw [visitGuarded]

/-- Visits a bean and those below it, fewer than a number of them below one another. -/
def visitGuardedWithin (guarded : Bool) : Nat → Introspection → Bean → Walk Unit
  | 0 => fun _ _ _ => none
  | depth + 1 => v.visitGuardedBy heap guarded (visitGuardedWithin guarded depth)

theorem visitGuardedWithin_le (guarded : Bool) (depth : Nat) (i : Introspection) (b : Bean) :
    Walk.Le (v.visitGuardedWithin heap guarded depth i b) (v.visitGuarded heap guarded i b) := by
  induction depth generalizing i b with
  | zero => exact fun _ _ h => nomatch h
  | succ depth ih =>
    rw [visitGuarded_eq]
    exact visitGuardedBy_le v heap ih guarded i b

/-- With the guard the recursion is the visit of a bean. -/
theorem visitGuarded_true : v.visitGuarded heap true = v.visit heap := by
  have le (i : Introspection) (b : Bean) : Walk.Le (v.visitGuarded heap true i b)
      (v.visit heap i b) := by
    intro s o h
    refine visitGuarded.partial_correctness v heap true
      (fun i b s o => v.visit heap i b s = some o) (fun below ih i b s o ho => ?_) i b s o h
    rw [visitGuardedBy_true] at ho
    rw [visit_eq]
    exact visitBy_le ih i b s o ho
  have ge (i : Introspection) (b : Bean) : Walk.Le (v.visit heap i b)
      (v.visitGuarded heap true i b) := by
    intro s o h
    refine visit.partial_correctness v heap
      (fun i b s o => v.visitGuarded heap true i b s = some o) (fun below ih i b s o ho => ?_)
      i b s o h
    rw [visitGuarded_eq, visitGuardedBy_true]
    exact visitBy_le ih i b s o ho
  funext i b s
  exact Option.ext fun o => ⟨le i b s o, ge i b s o⟩

/-! ## Validations -/

/-- Validates a bean and every bean reached through cascade properties, with the guard or without
it. -/
def validateGuarded (guarded : Bool) (object : Value) (groups : List Group) (copies : Nat) :
    Option Report :=
  match v.root object with
  | (.error e, events) => some { result := .error e, events, copies }
  | (.ok (b, i), events) =>
    if i.isUnconstrained then some { result := .ok .empty, events, copies }
    else run (.forRoot b groups) events copies (v.visitGuarded heap guarded i b)

theorem validateGuarded_true : v.validateGuarded heap true = v.validate heap := by
  funext object groups copies
  unfold validateGuarded
  rw [visitGuarded_true]
  rfl

end Validator

end BeanGraph
