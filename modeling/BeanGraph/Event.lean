import BeanGraph.Constraint.Attribute
import BeanGraph.Context
import BeanGraph.Resolver

/-!
# Events

What a validation call does is recorded as a list of events: which introspections it looks up, which
beans it enters and where, what it asks the resolver and the routines and what they answer, and what
it logs.
-/

namespace BeanGraph

/-- A line of the log. -/
inductive LogEntry
  | rejectedRoot (typeName : String)
  | unknownRoot (type : BeanType)
  | vetoed (path : Path) (elementType : ElementType)
  | skippedBean (path : Path) (property : String)
  | skippedElement (path : Path) (property : String)
  | noRoutine (kind : ConstraintKind) (target : TypeTag) (path : Path)
  | violated (path : Path) (kind : ConstraintKind)

/-- How important a line of the log is. -/
inductive LogLevel
  | debug
  | trace
deriving DecidableEq, Repr

/-- The level as it is written. -/
def LogLevel.text : LogLevel → String
  | .debug => "DEBUG"
  | .trace => "TRACE"

namespace LogEntry

/-- The level that a line is logged at. -/
def level : LogEntry → LogLevel
  | .rejectedRoot _ => .debug
  | .unknownRoot _ => .debug
  | .vetoed _ _ => .debug
  | _ => .trace

/-- The fixed text of a line. -/
def message : LogEntry → String
  | .rejectedRoot _ => "rejecting non-bean root"
  | .unknownRoot _ => "no introspection registered for root"
  | .vetoed _ _ => "cascade vetoed by traversable resolver"
  | .skippedBean _ _ => "skipping visited bean"
  | .skippedElement _ _ => "skipping visited element"
  | .noRoutine _ _ _ => "no validator, skipping"
  | .violated _ _ => "constraint violated"

/-- The named texts that go with the message. -/
def fields : LogEntry → List (String × String)
  | .rejectedRoot typeName => [("type_name", typeName)]
  | .unknownRoot type => [("bean_type", type.name)]
  | .vetoed path elementType => [("path", path.text), ("element_type", elementType.text)]
  | .skippedBean path property => [("path", path.text), ("property", property)]
  | .skippedElement path property => [("path", path.text), ("property", property)]
  | .noRoutine kind target path =>
    [("kind", kind.name), ("target", target.text), ("path", path.text)]
  | .violated path kind => [("path", path.text), ("kind", kind.name)]

end LogEntry

/-- One call of a routine: for which declaration and value, where, and with what answer. -/
structure RoutineCall where
  routine : String
  constraint : Constraint
  declaration : Nat
  value : Value
  context : Context
  answer : Except ConstraintError Bool

/-- Something that a validation call did. -/
inductive Event
  | lookedUp (type : BeanType)
  | entered (bean : Bean) (path : Path)
  | asked (question : Question) (target : Target) (context : Context) (answer : Bool)
  | called (call : RoutineCall)
  | logged (entry : LogEntry)

end BeanGraph
