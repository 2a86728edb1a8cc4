import BeanGraph.Introspection.Builder
import BeanGraph.Registration
import Mathlib.Data.List.Induction
import Std.Data.HashMap

/-!
# The first registration counts

Whatever is registered in whatever order, the entry of a key is the first one offered for it, the
entries that the tables start with being offered first; every later one is refused.  A routine is
looked up for the type of the value first and for all types then, and nothing else is looked up
under another key than its own.

Routines may as well be kept in a table of tables, by kind and then by type, in which a kind is made
room for before it is known whether the type has a routine: it answers the same.

* `lookup_registerAll`: the entry of a key after registrations in turn;
* `keys_introspections_registerAll`: the types that have an introspection then;
* `holds_initial`, `Holds.registerAll`: a table of tables keeps what the table keeps;
* `registries_keep_first`: what registrations are refused and what is found after them.
-/

namespace BeanGraph

/-! ## Entries -/

namespace Registration

/-- The first registration of a key. -/
def first (xs : List Registration) (key : RegistryKey) : Option Registration :=
  xs.find? (·.key = key)

theorem isSome_first_iff {xs : List Registration} {key : RegistryKey} :
    (first xs key).isSome = true ↔ ∃ x ∈ xs, x.key = key := by
  simp [first]

/-- The type that a registration describes. -/
def describes? : Registration → Option BeanType
  | .introspection i => some i.beanType
  | _ => none

end Registration

/-- The bean type that a key is about. -/
def RegistryKey.beanType? : RegistryKey → Option BeanType
  | .routine _ (.bean type) => some type
  | .cascade (.bean type) => some type
  | .unwrap (.bean type) => some type
  | .introspection type => some type
  | _ => none

namespace Registries

open Registration (first)

variable {r : Registries}

/-! ## Registering in turn -/

theorem lookup_register (r : Registries) (x : Registration) (key : RegistryKey) :
    (r.register x).2.lookup key = (r.lookup key).or (if x.key = key then some x else none) := by
  unfold register
  split
  · rename_i u h
    have hnone : r.lookup x.key = none := by
      rw [← Option.not_isSome_iff_eq_none, ← register?_eq_none_iff, h]
      exact nofun
    rw [lookup_of_register? h]
    by_cases hkey : x.key = key
    · rw [if_pos hkey, if_pos hkey.symm, ← hkey, hnone, Option.none_or]
    · rw [if_neg hkey, if_neg (Ne.symm hkey), Option.or_none]
  · rename_i h
    by_cases hkey : x.key = key
    · obtain ⟨y, hy⟩ := Option.isSome_iff_exists.1 (register?_eq_none_iff.1 h)
      rw [← hkey, hy, Option.some_or]
    · rw [if_neg hkey, Option.or_none]

/-- The entry of a key after registrations in turn is the first one registered, unless there was
one before. -/
theorem lookup_registerAll (r : Registries) (xs : List Registration) (key : RegistryKey) :
    (r.registerAll xs).lookup key = (r.lookup key).or (first xs key) := by
  induction xs generalizing r with
  | nil => exact (Option.or_none).symm
  | cons x xs ih =>
    have hcons : r.registerAll (x :: xs) = (r.register x).2.registerAll xs := rfl
    rw [hcons, ih, lookup_register, Option.or_assoc, first, first, List.find?_cons]
    by_cases hkey : x.key = key <;> simp [hkey]

theorem registerAll_concat (r : Registries) (xs : List Registration) (x : Registration) :
    r.registerAll (xs ++ [x]) = ((r.registerAll xs).register x).2 := List.foldl_append ..

/-- A registration adds the type that it describes to those that have an introspection. -/
theorem keys_introspections_register (r : Registries) (x : Registration) :
    (r.register x).2.introspections.keys =
      x.describes?.elim r.introspections.keys fun type =>
        if r.introspections.keys.contains type then r.introspections.keys
        else r.introspections.keys ++ [type] := by
  unfold register
  split
  · rename_i u h
    cases x with
    | routine kind tag routine =>
      obtain ⟨t, -, rfl⟩ := Option.map_eq_some_iff.1 h
      rfl
    | cascade tag extractor =>
      obtain ⟨t, -, rfl⟩ := Option.map_eq_some_iff.1 h
      rfl
    | unwrap tag extractor =>
      obtain ⟨t, -, rfl⟩ := Option.map_eq_some_iff.1 h
      rfl
    | introspection i =>
      obtain ⟨t, ht, rfl⟩ := Option.map_eq_some_iff.1 h
      have hfresh : ¬ r.introspections.keys.contains i.beanType = true := by
        rw [List.contains_iff_mem, ← Table.contains_iff_mem_keys, ← Table.register?_eq_none_iff]
        exact fun hnone => nomatch hnone.symm.trans ht
      simp only [Registration.describes?, Option.elim_some, if_neg hfresh]
      exact Table.keys_register ht
  · rename_i h
    cases x with
    | introspection i =>
      have hknown : r.introspections.keys.contains i.beanType = true := by
        rw [List.contains_iff_mem, ← Table.contains_iff_mem_keys, ← Table.register?_eq_none_iff]
        exact Option.map_eq_none_iff.1 h
      simp only [Registration.describes?, Option.elim_some, if_pos hknown]
    | _ => rfl

/-- The types that have an introspection, in the order in which they were first described. -/
theorem keys_introspections_registerAll (routines extractors : Bool) (xs : List Registration) :
    ((initial routines extractors).registerAll xs).introspections.keys =
      (xs.filterMap Registration.describes?).eraseDups := by
  induction xs using List.reverseRecOn with
  | nil => rfl
  | append_singleton xs x ih =>
    rw [registerAll_concat, keys_introspections_register, ih, List.filterMap_append]
    cases hx : x.describes? with
    | none => simp [hx]
    | some type => simp [hx, eraseDups_concat]

/-- A routine is found for the type of the value, or else for all types. -/
theorem find?_routines_iff {kind : ConstraintKind} {tag : TypeTag} {routine : Routine} :
    r.routines.find? kind tag = some routine ↔
      r.lookup (.routine kind tag) = some (.routine kind tag routine) ∨
        r.lookup (.routine kind tag) = none ∧
          r.lookup (.routine kind .any) = some (.routine kind .any routine) := by
  simp [RoutineRegistry.find?, lookup, Option.or_eq_some_iff]

theorem find?_cascade_iff {tag : TypeTag} {extractor : Extractor} :
    r.extractors.cascade.find? tag = some extractor ↔
      r.lookup (.cascade tag) = some (.cascade tag extractor) := by
  simp [lookup]

theorem find?_unwrap_iff {tag : TypeTag} {extractor : Extractor} :
    r.extractors.unwrap.find? tag = some extractor ↔
      r.lookup (.unwrap tag) = some (.unwrap tag extractor) := by
  simp [lookup]

theorem find?_introspections_iff {type : BeanType} {i : Introspection} :
    r.introspections.find? type = some i ↔
      r.lookup (.introspection type) = some (.introspection i) := by
  simp [lookup]

theorem register_fst (r : Registries) (x : Registration) :
    (r.register x).1 = if (r.lookup x.key).isSome then some x.duplicate else none := by
  unfold register
  split
  · rename_i u h
    have hfree : ¬ (r.lookup x.key).isSome = true := by
      rw [← register?_eq_none_iff, h]
      exact nofun
    rw [if_neg hfree]
  · rename_i h
    rw [if_pos (register?_eq_none_iff.1 h)]

/-- A refused registration changes nothing. -/
theorem register_snd_of_refused {x : Registration} (h : (r.register x).1 ≠ none) :
    (r.register x).2 = r := by
  unfold register at h ⊢
  split
  · rename_i u hu
    rw [hu] at h
    exact absurd rfl h
  · rfl

end Registries

/-! ## Routines by kind and then by type -/

/-- Routines by kind, and those of one kind by the type of the value. -/
abbrev NestedRoutines := Std.HashMap ConstraintKind (Std.HashMap TypeTag Routine)

namespace NestedRoutines

/-- The routine registered for a kind and exactly a type. -/
def exactly? (m : NestedRoutines) (kind : ConstraintKind) (tag : TypeTag) : Option Routine :=
  m[kind]?.bind fun byType => byType[tag]?

/-- The routine for values of a type: of those of the kind the one for the type, or else for all
types. -/
def find? (m : NestedRoutines) (kind : ConstraintKind) (tag : TypeTag) : Option Routine :=
  m[kind]?.bind fun byType => byType[tag]?.or byType[TypeTag.any]?

/-- Makes room for a kind, and then registers a routine for a type unless the type has one. -/
def register (m : NestedRoutines) (kind : ConstraintKind) (tag : TypeTag) (routine : Routine) :
    Option RegistryError × NestedRoutines :=
  let opened := m.insertIfNew kind ∅
  let byType := opened.getD kind ∅
  if byType.contains tag then (some (.duplicateRoutine kind tag), opened)
  else (none, opened.insert kind (byType.insert tag routine))

/-- What a registration of any sort does to the routines. -/
def after (m : NestedRoutines) : Registration → NestedRoutines
  | .routine kind tag routine => (m.register kind tag routine).2
  | _ => m

/-- Puts a routine in, in the place of one that is there. -/
def put (m : NestedRoutines) (kind : ConstraintKind) (tag : TypeTag) (routine : Routine) :
    NestedRoutines :=
  m.insert kind ((m.getD kind ∅).insert tag routine)

/-- Nothing, or the built-in routines, put in one after the other. -/
def initial (builtIn : Bool) : NestedRoutines :=
  if builtIn then RoutineRegistry.default.entries.foldl (fun m e => m.put e.1.1 e.1.2 e.2) ∅ else ∅

variable {m : NestedRoutines} {r : RoutineRegistry} {kind : ConstraintKind} {tag : TypeTag}
  {routine : Routine}

theorem exactly?_eq_getD (m : NestedRoutines) (kind : ConstraintKind) (tag : TypeTag) :
    m.exactly? kind tag = (m.getD kind ∅)[tag]? := by
  rw [exactly?, Std.HashMap.getD_eq_getD_getElem?]
  cases m[kind]? <;> simp

theorem find?_eq_or (m : NestedRoutines) (kind : ConstraintKind) (tag : TypeTag) :
    m.find? kind tag = (m.exactly? kind tag).or (m.exactly? kind .any) := by
  unfold find? exactly?
  cases m[kind]? <;> rfl

/-- To make room for a kind is to register nothing. -/
theorem exactly?_insertIfNew (kind' : ConstraintKind) :
    exactly? (m.insertIfNew kind' ∅) kind tag = m.exactly? kind tag := by
  rw [exactly?, exactly?, Std.HashMap.getElem?_insertIfNew]
  split
  · rename_i h
    obtain ⟨heq, hnew⟩ := h
    obtain rfl := eq_of_beq heq
    rw [Std.HashMap.getElem?_eq_none hnew]
    simp
  · rfl

theorem exactly?_insert (kind' : ConstraintKind) (tag' : TypeTag) (routine : Routine) :
    exactly? (m.insert kind' ((m.getD kind' ∅).insert tag' routine)) kind tag =
      if (kind, tag) = (kind', tag') then some routine else m.exactly? kind tag := by
  rw [exactly?, Std.HashMap.getElem?_insert]
  by_cases hkind : kind' = kind
  · subst hkind
    rw [if_pos (beq_iff_eq.2 rfl), Option.bind_some, Std.HashMap.getElem?_insert,
      exactly?_eq_getD]
    by_cases htag : tag' = tag
    · subst htag
      simp
    · simp [htag, Ne.symm htag]
  · have hne : ¬ (kind, tag) = (kind', tag') := fun h => hkind (congrArg Prod.fst h).symm
    rw [if_neg (mt eq_of_beq hkind), if_neg hne, exactly?]

theorem contains_opened (m : NestedRoutines) (kind : ConstraintKind) (tag : TypeTag) :
    ((m.insertIfNew kind ∅).getD kind ∅).contains tag = (m.exactly? kind tag).isSome := by
  rw [← exactly?_insertIfNew kind, exactly?_eq_getD, Std.HashMap.contains_eq_isSome_getElem?]

theorem register_fst (m : NestedRoutines) (kind : ConstraintKind) (tag : TypeTag)
    (routine : Routine) :
    (m.register kind tag routine).1 =
      if (m.exactly? kind tag).isSome then some (.duplicateRoutine kind tag) else none := by
  rw [← contains_opened, register]
  split <;> rfl

/-- What is registered after a registration, whether it is refused or not. -/
theorem exactly?_register (m : NestedRoutines) (kind' : ConstraintKind) (tag' : TypeTag)
    (routine : Routine) :
    exactly? (m.register kind' tag' routine).2 kind tag =
      (m.exactly? kind tag).or (if (kind, tag) = (kind', tag') then some routine else none) := by
  have hcontains := contains_opened m kind' tag'
  unfold register
  dsimp only
  by_cases hthere : (m.exactly? kind' tag').isSome = true
  · rw [if_pos (hcontains.trans hthere), exactly?_insertIfNew]
    split
    · rename_i heq
      obtain ⟨rfl, rfl⟩ := Prod.mk.inj heq
      rw [Option.or_of_isSome hthere]
    · rw [Option.or_none]
  · rw [if_neg (hcontains ▸ hthere), exactly?_insert, exactly?_insertIfNew]
    split
    · rename_i heq
      obtain ⟨rfl, rfl⟩ := Prod.mk.inj heq
      rw [Option.not_isSome_iff_eq_none.1 hthere, Option.none_or]
    · rw [Option.or_none]

/-- Routines that are put in under different keys are all there. -/
theorem exactly?_foldl_put {entries : List ((ConstraintKind × TypeTag) × Routine)}
    (distinct : (entries.map (·.1)).Nodup) (m : NestedRoutines) :
    exactly? (entries.foldl (fun m e => m.put e.1.1 e.1.2 e.2) m) kind tag =
      ((Table.ofList entries).find? (kind, tag)).or (m.exactly? kind tag) := by
  induction entries generalizing m with
  | nil => rfl
  | cons e rest ih =>
    obtain ⟨⟨kind', tag'⟩, routine⟩ := e
    obtain ⟨hfresh, hrest⟩ := List.nodup_cons.1 distinct
    rw [List.foldl_cons, ih hrest, put, exactly?_insert, Table.find?_ofList_cons]
    by_cases heq : (kind, tag) = (kind', tag')
    · -- the key is not put in again
      have hnone : (Table.ofList rest).find? (kind, tag) = none := by
        rw [← Option.not_isSome_iff_eq_none, heq]
        exact mt Table.contains_iff_mem_keys.1 hfresh
      rw [if_pos heq, if_pos heq, hnone, Option.none_or, Option.some_or]
    · rw [if_neg heq, if_neg heq]

/-- The nested table keeps the same routines as the tables of a validator. -/
def Holds (m : NestedRoutines) (r : Registries) : Prop :=
  ∀ kind tag, m.exactly? kind tag = Table.find? r.routines (kind, tag)

theorem holds_initial (routines extractors : Bool) :
    (initial routines).Holds (Registries.initial routines extractors) := by
  intro kind tag
  have hempty : exactly? ∅ kind tag = none := by simp [exactly?]
  cases routines with
  | false => exact hempty
  | true =>
    have hdistinct : (RoutineRegistry.default.entries.map (·.1)).Nodup := by decide +kernel
    rw [initial, if_pos rfl, exactly?_foldl_put hdistinct, hempty, Option.or_none]
    rfl

theorem Holds.find?_eq {r : Registries} (h : m.Holds r) (kind : ConstraintKind) (tag : TypeTag) :
    m.find? kind tag = r.routines.find? kind tag := by
  rw [find?_eq_or, h, h, RoutineRegistry.find?]

/-- Nested or not, the tables refuse the same routines. -/
theorem Holds.register_fst {r : Registries} (h : m.Holds r) (kind : ConstraintKind)
    (tag : TypeTag) (routine : Routine) :
    (m.register kind tag routine).1 = (r.register (.routine kind tag routine)).1 := by
  rw [NestedRoutines.register_fst, Registries.register_fst, h, Registration.key,
    Registries.lookup, Option.isSome_map, Registration.duplicate]

/-- Nested or not, the tables keep the same routines. -/
theorem Holds.after {r : Registries} (h : m.Holds r) (x : Registration) :
    (m.after x).Holds (r.register x).2 := by
  intro kind tag
  have hlookup := r.lookup_register x (.routine kind tag)
  have hinj : Function.Injective (Option.map (Registration.routine kind tag)) :=
    Option.map_injective fun _ _ heq => (Registration.routine.inj heq).2.2
  refine hinj (Eq.trans ?_ hlookup.symm)
  cases x with
  | routine kind' tag' routine =>
    rw [NestedRoutines.after, exactly?_register, h kind tag, Registries.lookup, Registration.key,
      Option.map_or]
    by_cases heq : (kind, tag) = (kind', tag')
    · obtain ⟨rfl, rfl⟩ := Prod.mk.inj heq
      simp
    · have hne : ¬ RegistryKey.routine kind' tag' = .routine kind tag := fun hkey => heq (by
        obtain ⟨rfl, rfl⟩ := RegistryKey.routine.inj hkey
        rfl)
      rw [if_neg heq, if_neg hne, Option.map_none]
  | _ => simp [NestedRoutines.after, h kind tag, Registries.lookup, Registration.key]

/-- The nested table after registrations in turn. -/
def registerAll (m : NestedRoutines) (xs : List Registration) : NestedRoutines := xs.foldl after m

theorem Holds.registerAll {r : Registries} (h : m.Holds r) (xs : List Registration) :
    (m.registerAll xs).Holds (r.registerAll xs) := by
  induction xs generalizing m r with
  | nil => exact h
  | cons x xs ih => exact ih (h.after x)

/-- A refused registration, which may have made room for its kind, changes no look-up. -/
theorem find?_register_of_refused (h : (m.register kind tag routine).1 ≠ none)
    (kind' : ConstraintKind) (tag' : TypeTag) :
    (m.register kind tag routine).2.find? kind' tag' = m.find? kind' tag' := by
  have hthere : (m.exactly? kind tag).isSome = true := by
    rw [register_fst] at h
    exact Decidable.byContradiction fun hnot => h (if_neg hnot)
  have hsame (t : TypeTag) :
      (m.register kind tag routine).2.exactly? kind' t = m.exactly? kind' t := by
    rw [exactly?_register]
    split
    · rename_i heq
      obtain ⟨rfl, rfl⟩ := Prod.mk.inj heq
      rw [Option.or_of_isSome hthere]
    · rw [Option.or_none]
  rw [find?_eq_or, find?_eq_or, hsame, hsame]

end NestedRoutines

/-! ## The laws of registering -/

/-- Keys about two bean types are different, whatever the types are called. -/
theorem RegistryKey.ne_of_beanType {key key' : RegistryKey} {type type' : BeanType}
    (h : key.beanType? = some type) (h' : key'.beanType? = some type') (hne : type ≠ type') :
    key ≠ key' := by
  rintro rfl
  exact hne (Option.some.inj (h.symm.trans h'))

namespace Registries

open Registration (first)

/-- Each of the tables keeps what is there first.  After any registrations on tables that are empty
or have what is built in, a registration is refused, with the error of its duplicate, exactly when
its key had an entry at the start or was registered before, and then nothing changes.  A routine is
found that had the kind and the type of the value first, or else the kind and all types; extractors
and introspections are found that had exactly the type first in their table.  There are as many
introspections as types described.  A registration for one bean type changes no entry of another,
though their simple names may be the same.  Routines kept by kind and then by type are refused and
found alike. -/
theorem registries_keep_first (routines extractors : Bool) (xs : List Registration) :
    let start := initial routines extractors
    let r := start.registerAll xs
    let nested := (NestedRoutines.initial routines).registerAll xs
    let entry := fun key => (start.lookup key).or (first xs key)
    (∀ x e, (r.register x).1 = some e ↔
        ((start.lookup x.key).isSome = true ∨ ∃ y ∈ xs, y.key = x.key) ∧ e = x.duplicate) ∧
      (∀ x, (r.register x).1 ≠ none → (r.register x).2 = r) ∧
      (∀ kind tag routine, r.routines.find? kind tag = some routine ↔
        entry (.routine kind tag) = some (.routine kind tag routine) ∨
          entry (.routine kind tag) = none ∧
            entry (.routine kind .any) = some (.routine kind .any routine)) ∧
      (∀ tag extractor, r.extractors.cascade.find? tag = some extractor ↔
        entry (.cascade tag) = some (.cascade tag extractor)) ∧
      (∀ tag extractor, r.extractors.unwrap.find? tag = some extractor ↔
        entry (.unwrap tag) = some (.unwrap tag extractor)) ∧
      (∀ type i, r.introspections.find? type = some i ↔
        entry (.introspection type) = some (.introspection i)) ∧
      r.introspections.size = (xs.filterMap Registration.describes?).eraseDups.length ∧
      (∀ (x : Registration) (key : RegistryKey) (type type' : BeanType),
        x.key.beanType? = some type → key.beanType? = some type' → type ≠ type' →
          (r.register x).2.lookup key = r.lookup key) ∧
      ∀ kind tag, nested.find? kind tag = r.routines.find? kind tag ∧
        ∀ routine, (nested.register kind tag routine).1 =
            (r.register (.routine kind tag routine)).1 ∧
          ((nested.register kind tag routine).1 ≠ none → ∀ kind' tag',
            (nested.register kind tag routine).2.find? kind' tag' = nested.find? kind' tag') := by
  intro start r nested entry
  have hentry (key : RegistryKey) : r.lookup key = entry key := lookup_registerAll start xs key
  have hnested : nested.Holds r :=
    (NestedRoutines.holds_initial routines extractors).registerAll xs
  refine ⟨fun x e => ?_, fun _ => register_snd_of_refused, fun kind tag routine => ?_,
    fun tag extractor => ?_, fun tag extractor => ?_, fun type i => ?_, ?_,
    fun x key type type' hx hkey hne => ?_, fun kind tag => ⟨hnested.find?_eq kind tag,
      fun routine => ⟨hnested.register_fst kind tag routine,
        NestedRoutines.find?_register_of_refused⟩⟩⟩
  · rw [register_fst, hentry, ← Registration.isSome_first_iff, ← Bool.or_eq_true,
      ← Option.isSome_or, Option.ite_none_right_eq_some, Option.some.injEq, eq_comm (a := e)]
  · rw [find?_routines_iff, hentry, hentry]
  · rw [find?_cascade_iff, hentry]
  · rw [find?_unwrap_iff, hentry]
  · rw [find?_introspections_iff, hentry]
  · rw [Table.size_eq_length_keys, keys_introspections_registerAll]
  · rw [lookup_register, if_neg (RegistryKey.ne_of_beanType hx hkey hne), Option.or_none]

/-- Two types of one simple name are described apart, and each of them once. -/
example :
    ((initial true true).registerAll
      [.introspection (.build ⟨"Node", "model::Node"⟩ []),
        .introspection (.build ⟨"GeoNode", "model::geo::flat::Node"⟩ []),
        .introspection (.build ⟨"Node", "model::Node"⟩ [.property "id" .int (.field "id")])]
      ).introspections.entries.map (fun e => (e.1.key, e.2.properties.length)) =
      [("Node", 0), ("GeoNode", 0)] := by decide +kernel

end Registries

end BeanGraph
