import BeanGraph.Constraint.Attribute
import BeanGraph.Path
import BeanGraph.Value.Basic

/-!
# Failures

A `Failure` ends a validation call without a result: a wrong argument, a type or property that is
not known, or a routine that could not answer.  A constraint that is not satisfied is no failure.

A `RegistryError` refuses a second registration for a key.
-/

namespace BeanGraph

/-- Why a validation call has no result. -/
inductive Failure
  | nullArgument (argument : String)
  | unintrospectable (typeName : String)
  | noSuchProperty (type : BeanType) (property : String)
  | evaluation (kind : ConstraintKind) (path : Path) (source : ConstraintError)

/-- The message of a failure. -/
def Failure.message : Failure → String
  | .nullArgument argument => "argument [" ++ argument ++ "] cannot be null"
  | .unintrospectable typeName =>
    "passed object [" ++ typeName ++
      "] cannot be introspected, register a bean introspection for it"
  | .noSuchProperty type property =>
    "no property [" ++ property ++ "] found on type: " ++ type.name
  | .evaluation kind path source =>
    "constraint " ++ kind.name ++ " failed to evaluate at [" ++ path.text ++ "]: " ++
      source.message

/-- Why a registration is refused. -/
inductive RegistryError
  | duplicateIntrospection (type : BeanType)
  | duplicateRoutine (kind : ConstraintKind) (tag : TypeTag)
  | duplicateExtractor (tag : TypeTag)

/-- The message of a refusal. -/
def RegistryError.message : RegistryError → String
  | .duplicateIntrospection type => "introspection for '" ++ type.name ++ "' already registered"
  | .duplicateRoutine kind tag =>
    "validator for constraint " ++ kind.name ++ " on " ++ tag.text ++ " already registered"
  | .duplicateExtractor tag => "value extractor for " ++ tag.text ++ " already registered"

end BeanGraph
