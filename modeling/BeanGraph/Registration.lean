import BeanGraph.Extraction.Registry
import BeanGraph.Failure
import BeanGraph.Introspection.Registry
import BeanGraph.Routine.Registry

/-!
# Registrations

A `Registration` adds one entry to one of the tables of a validator.  It is refused when there is an
entry for its key, and then the tables stay as they are.

* `register?_eq_none_iff`: a registration is refused exactly when its key has an entry;
* `lookup_of_register?`: one that is not refused changes the entry of its own key only.
-/

namespace BeanGraph

/-- What an entry is registered for. -/
inductive RegistryKey
  | routine (kind : ConstraintKind) (tag : TypeTag)
  | cascade (tag : TypeTag)
  | unwrap (tag : TypeTag)
  | introspection (type : BeanType)
deriving DecidableEq

/-- An entry to be added to one of the tables. -/
inductive Registration
  | routine (kind : ConstraintKind) (tag : TypeTag) (routine : Routine)
  | cascade (tag : TypeTag) (extractor : Extractor)
  | unwrap (tag : TypeTag) (extractor : Extractor)
  | introspection (i : Introspection)

namespace Registration

/-- What an entry is registered for. -/
def key : Registration → RegistryKey
  | .routine kind tag _ => .routine kind tag
  | .cascade tag _ => .cascade tag
  | .unwrap tag _ => .unwrap tag
  | .introspection i => .introspection i.beanType

/-- Why the registration is refused, if it is. -/
def duplicate : Registration → RegistryError
  | .routine kind tag _ => .duplicateRoutine kind tag
  | .cascade tag _ => .duplicateExtractor tag
  | .unwrap tag _ => .duplicateExtractor tag
  | .introspection i => .duplicateIntrospection i.beanType

end Registration

/-- The tables that a validator looks things up in. -/
structure Registries where
  routines : RoutineRegistry := .empty
  extractors : ExtractorRegistry := .empty
  introspections : IntrospectionRegistry := .empty

namespace Registries

/-- The tables of a validator before anything is registered: each is empty or has what is built
in. -/
def initial (routines extractors : Bool) : Registries where
  routines := if routines then .default else .empty
  extractors := if extractors then .default else .empty

/-- The tables with one more entry, unless its key has one. -/
def register? (r : Registries) : Registration → Option Registries
  | .routine kind tag routine =>
    (r.routines.register? (kind, tag) routine).map fun t => { r with routines := t }
  | .cascade tag x => (r.extractors.registerCascade? tag x).map fun t => { r with extractors := t }
  | .unwrap tag x => (r.extractors.registerUnwrap? tag x).map fun t => { r with extractors := t }
  | .introspection i => (r.introspections.add? i).map fun t => { r with introspections := t }

/-- The answer to a registration, with the tables after it. -/
def register (r : Registries) (x : Registration) : Option RegistryError × Registries :=
  match r.register? x with
  | some r => (none, r)
  | none => (some x.duplicate, r)

/-- The tables after registrations in turn, whether they are refused or not. -/
def registerAll (r : Registries) (xs : List Registration) : Registries :=
  xs.foldl (fun r x => (r.register x).2) r

/-- The entry of a key, as it was registered. -/
def lookup (r : Registries) : RegistryKey → Option Registration
  | .routine kind tag => (Table.find? r.routines (kind, tag)).map (.routine kind tag)
  | .cascade tag => (r.extractors.cascade.find? tag).map (.cascade tag)
  | .unwrap tag => (r.extractors.unwrap.find? tag).map (.unwrap tag)
  | .introspection type => (r.introspections.find? type).map .introspection

variable {r u : Registries} {x : Registration}

/-- A registration is refused exactly when its key has an entry. -/
theorem register?_eq_none_iff : r.register? x = none ↔ (r.lookup x.key).isSome = true := by
  cases x <;>
    simp [register?, lookup, Registration.key, ExtractorRegistry.registerCascade?,
      ExtractorRegistry.registerUnwrap?, IntrospectionRegistry.add?, Table.register?_eq_none_iff,
      Table.contains]

/-- A registration that is not refused changes the entry of its own key only. -/
theorem lookup_of_register? (h : r.register? x = some u) (key : RegistryKey) :
    u.lookup key = if key = x.key then some x else r.lookup key := by
  cases x with
  | routine kind tag routine =>
    obtain ⟨t, ht, rfl⟩ := Option.map_eq_some_iff.1 h
    cases key with
    | routine kind' tag' =>
      simp only [lookup, Registration.key, Table.find?_register ht, RegistryKey.routine.injEq,
        Prod.mk.injEq]
      split
      · rename_i heq
        rw [heq.1, heq.2, Option.map_some]
      · rfl
    | _ => exact (if_neg nofun).symm
  | cascade tag extractor =>
    obtain ⟨e, he, rfl⟩ := Option.map_eq_some_iff.1 h
    obtain ⟨t, ht, rfl⟩ := Option.map_eq_some_iff.1 he
    cases key with
    | cascade tag' =>
      simp only [lookup, Registration.key, Table.find?_register ht, RegistryKey.cascade.injEq]
      split
      · rename_i heq
        rw [heq, Option.map_some]
      · rfl
    | _ => exact (if_neg nofun).symm
  | unwrap tag extractor =>
    obtain ⟨e, he, rfl⟩ := Option.map_eq_some_iff.1 h
    obtain ⟨t, ht, rfl⟩ := Option.map_eq_some_iff.1 he
    cases key with
    | unwrap tag' =>
      simp only [lookup, Registration.key, Table.find?_register ht, RegistryKey.unwrap.injEq]
      split
      · rename_i heq
        rw [heq, Option.map_some]
      · rfl
    | _ => exact (if_neg nofun).symm
  | introspection i =>
    obtain ⟨t, ht, rfl⟩ := Option.map_eq_some_iff.1 h
    cases key with
    | introspection type =>
      simp only [lookup, Registration.key, Table.find?_register ht,
        RegistryKey.introspection.injEq]
      split <;> rfl
    | _ => exact (if_neg nofun).symm

end Registries

end BeanGraph
