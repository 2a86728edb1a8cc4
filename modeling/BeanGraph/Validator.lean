import BeanGraph.Introspection.Registry
import BeanGraph.Traversal

/-!
# Validation

The calls of a validator.  `validate` checks a bean and all that its cascade properties reach,
`validateProperty` one property of a bean, `validateValue` a value for a property of a type; the
last two do not cascade.  A call's `Report` has the violations or the failure, and what the call
did.  `validate` has no report where the cascade properties lead from bean to new bean without end.
-/

namespace BeanGraph

/-- What a call came to. -/
structure Report where
  result : Except Failure ViolationSet
  events : Array Event
  /-- The beans that were reached and have an introspection, the root included. -/
  visited : List Bean := []
  /-- The number of copies made by getters, those before the call included. -/
  copies : Nat

/-- The report of a call that has come to an end. -/
def Report.of (done : Outcome Unit) : Report :=
  ⟨done.1.map fun _ => done.2.violations, done.2.events, done.2.context.visited, done.2.copies⟩

namespace Validator

variable (v : Validator)

/-- Runs a call from its first context. -/
def run [Monad m] (context : Context) (events : Array Event) (copies : Nat)
    (call : CallT m Unit) : m Report :=
  Report.of <$> call ⟨context, copies, .empty, events⟩

/-- The bean that a call starts from with its introspection, and what finding them did. -/
def root (object : Value) : Except Failure (Bean × Introspection) × Array Event :=
  match object with
  | .null => (.error (.nullArgument "object"), #[])
  | .bean b =>
    match v.introspection? b.type with
    | some i => (.ok (b, i), #[.lookedUp b.type])
    | none =>
      (.error (.unintrospectable b.type.name),
        #[.lookedUp b.type, .logged (.unknownRoot b.type)])
  | value =>
    let typeName := (value.runtimeType?.map TypeTag.text).getD ""
    (.error (.unintrospectable typeName), #[.logged (.rejectedRoot typeName)])

/-- Validates a bean and every bean reached through cascade properties. -/
def validate (heap : Heap) (object : Value) (groups : List Group) (copies : Nat) : Option Report :=
  match v.root object with
  | (.error e, events) => some { result := .error e, events, copies }
  | (.ok (b, i), events) =>
    if i.isUnconstrained then some { result := .ok .empty, events, copies }
    else run (.forRoot b groups) events copies (v.visit heap i b)

/-- Validates the constraints of one property of a bean; an unknown name has none. -/
def validateProperty (heap : Heap) (object : Value) (name : String) (groups : List Group)
    (copies : Nat) : Report :=
  match v.root object with
  | (.error e, events) => { result := .error e, events, copies }
  | (.ok (b, i), events) =>
    match i.property? name with
    | none => { result := .ok .empty, events, copies }
    | some p =>
      let step : Step Unit := do v.checkProperty heap (some b) p (← Call.read heap i p b)
      run (.forRoot b groups) events copies step

/-- Validates a value as if it were held by a property of a type. -/
def validateValue (heap : Heap) (type : BeanType) (name : String) (value : Value)
    (groups : List Group) (copies : Nat) : Report :=
  let events : Array Event := #[.lookedUp type]
  match v.introspection? type with
  | none => { result := .error (.unintrospectable type.name), events, copies }
  | some i =>
    match i.property? name with
    | none => { result := .error (.noSuchProperty type name), events, copies }
    | some p =>
      run (.detached type groups) events copies (v.checkProperty heap none p value : Step Unit)

/-- Validates independent roots, each on its own. -/
def validateAll (heap : Heap) (groups : List Group) : List Value → Nat → Option (List Report)
  | [], _ => some []
  | object :: rest, copies => do
    let report ← v.validate heap object groups copies
    let reports ← validateAll heap groups rest report.copies
    return report :: reports

end Validator

end BeanGraph
