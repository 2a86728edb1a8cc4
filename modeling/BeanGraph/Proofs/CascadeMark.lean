import BeanGraph.Proofs.Candidate

/-!
# The cascade mark where nothing cascades

Validating one property, or a candidate for it, cascades into nothing, but the cascade mark of the
property still decides what its constraints are checked on: without the mark on what an optional
wraps, with it on the optional itself.  No built-in routine but those for presence knows an
optional, so with the mark the wrapped value is not checked at all.

* `verdict_of_optional`: what the built-in routines say of an optional itself;
* `map_propertyVerdict_eq_iff`: when the verdicts with the mark and without it come to the same;
* `mark_ignored_iff`: when the two validations do;
* `mark_hides_wrapped_value`: a discount that is too small passes once it is marked.
-/

namespace BeanGraph

/-! ## Setting the mark -/

/-- The introspection with the cascade mark of a property set or taken away. -/
def Introspection.marking (i : Introspection) (name : String) (cascade : Bool) : Introspection where
  beanType := i.beanType
  properties := i.properties.map fun p => if p.name = name then { p with cascade } else p
  distinct := by
    rw [List.map_map, List.map_congr_left (g := Property.name)]
    · exact i.distinct
    · intro p _
      dsimp only [Function.comp_apply]
      split <;> rfl

theorem Introspection.mem_marking {i : Introspection} {p : Property} (hp : p ∈ i.properties)
    (cascade : Bool) : { p with cascade } ∈ (i.marking p.name cascade).properties :=
  List.mem_map.2 ⟨p, hp, if_pos rfl⟩

/-- The validator for which a property of a type has the cascade mark, or has it not. -/
def Validator.marking (v : Validator) (type : BeanType) (name : String) (cascade : Bool) :
    Validator :=
  { v with
    introspection? := fun t =>
      (v.introspection? t).map fun i => if t = type then i.marking name cascade else i }

theorem Validator.introspection?_marking {v : Validator} {type : BeanType} {i : Introspection}
    (hi : v.introspection? type = some i) (name : String) (cascade : Bool) :
    (v.marking type name cascade).introspection? type = some (i.marking name cascade) := by
  simp only [marking, hi, Option.map_some, if_true]

/-! ## Optionals -/

theorem Value.ne_optional_of_mem {inner : Option Value} {u : Value} (h : u ∈ inner) :
    u ≠ .optional inner := by
  intro hu
  have hsize : sizeOf u = sizeOf (Value.optional inner) := congrArg sizeOf hu
  rw [Option.mem_def.1 h, Value.optional.sizeOf_spec, Option.some.sizeOf_spec] at hsize
  omega

/-- Of the built-in routines only those for presence know an optional. -/
theorem RoutineRegistry.builtIn_find?_optional {engine : Pattern.Engine} {kind : ConstraintKind}
    {routine : Routine}
    (h : (RoutineRegistry.builtIn engine).find? kind .optional = some routine) :
    kind = .notNull ∧ routine = .notNull ∨ kind = .null ∧ routine = .null := by
  have known : ((kind, TypeTag.optional), routine) ∉ (RoutineRegistry.builtIn engine).entries := by
    simp [builtIn, Table.ofList, onTags, numbers, decimals, sized]
  obtain h | ⟨-, h⟩ := Option.or_eq_some_iff.1 h
  · exact absurd (Table.mem_of_find? h) known
  · have hany := Table.mem_of_find? h
    simpa [builtIn, Table.ofList, onTags, numbers, decimals, sized] using hany

theorem RoutineRegistry.builtIn_find?_null {engine : Pattern.Engine} :
    (RoutineRegistry.builtIn engine).find? .null .optional = some .null := rfl

namespace Validator

variable {engine : Pattern.Engine} {v : Validator} {heap : Heap} {context : Context}
  {leaf? : Option Bean} {p : Property} {w : Value}

/-! ## What is checked -/

/-- With the mark the constraints are checked on the value itself. -/
theorem subjects_marked : v.subjects heap { p with cascade := true } w = [w] := rfl

theorem unwrapFor?_of_not_optional (hextractors : v.extractors = .default)
    (h : ∀ inner, w ≠ .optional inner) : v.unwrapFor? p w = none := by
  unfold unwrapFor?
  rw [hextractors]
  cases w with
  | optional inner => exact absurd rfl (h inner)
  | _ => split <;> rfl

theorem unwrapFor?_optional (hextractors : v.extractors = .default) (hp : p.cascade = false)
    (inner : Option Value) : v.unwrapFor? p (.optional inner) = some .optional := by
  unfold unwrapFor?
  rw [hextractors, hp]
  rfl

theorem subjects_of_not_optional (hextractors : v.extractors = .default)
    (h : ∀ inner, w ≠ .optional inner) : v.subjects heap p w = [w] := by
  rw [subjects, unwrapFor?_of_not_optional hextractors h]

/-- Without the mark the constraints are checked on what an optional wraps. -/
theorem subjects_unmarked (hextractors : v.extractors = .default) (inner : Option Value) :
    v.subjects heap { p with cascade := false } (.optional inner) = inner.toList := by
  rw [subjects, unwrapFor?_optional hextractors rfl]
  cases inner <;> rfl

/-- What the built-in routines say of an optional itself: that it is there. -/
theorem verdict_of_optional (hroutines : v.routines = .builtIn engine) (inner : Option Value) :
    ∃ found, v.verdict context leaf? p (.optional inner) = .ok found ∧
      (∀ x ∈ found, x.value = .optional inner) ∧
      (found = [] ↔ ∀ c ∈ p.constraints, c.appliesTo context.groups = true → c.kind ≠ .null) := by
  let w : Value := .optional inner
  -- the routines asked are those for presence: neither fails, and only one rejects an optional
  have answered : ∀ routine declaration c,
      (routine, declaration, c) ∈ v.askings context.groups p w →
      routine.verdict context leaf? declaration c w =
        .ok (if c.kind = .null then [.of context leaf? declaration c w] else []) := by
    intro routine declaration c hasking
    have hroutine := (mem_askings.1 hasking).2
    rw [hroutines] at hroutine
    obtain ⟨hkind, rfl⟩ | ⟨hkind, rfl⟩ := RoutineRegistry.builtIn_find?_optional hroutine <;>
      rw [hkind] <;> rfl
  let found := (v.askings context.groups p w).flatMap fun asking =>
    if asking.2.2.kind = .null then [Violation.of context leaf? asking.2.1 asking.2.2 w] else []
  have hverdict : v.verdict context leaf? p w = .ok found := by
    refine Verdict.all_eq_ok_iff.2 ⟨fun a ha => ?_, ?_⟩
    · obtain ⟨⟨routine, declaration, c⟩, hasking, rfl⟩ := List.mem_map.1 ha
      exact ⟨_, answered _ _ _ hasking⟩
    · rw [List.flatMap_map]
      refine List.flatMap_congr ?_
      rintro ⟨routine, declaration, c⟩ hasking
      exact (congrArg Verdict.found (answered _ _ _ hasking)).symm
  refine ⟨found, hverdict, fun x hx => ?_, ?_⟩
  · obtain ⟨⟨routine, declaration, c⟩, -, hx⟩ := List.mem_flatMap.1 hx
    dsimp only at hx
    split at hx
    · rw [List.mem_singleton.1 hx]
      rfl
    · cases hx
  · rw [List.flatMap_eq_nil_iff]
    constructor
    · intro hnil c hc happlies hkind
      obtain ⟨declaration, hdeclaration⟩ := List.mem_iff_getElem?.1 hc
      have hasking : (.null, declaration, c) ∈ v.askings context.groups p w := by
        refine mem_askings.2 ⟨Property.mem_applicable.2 ⟨hdeclaration, happlies⟩, ?_⟩
        rw [hroutines, hkind]
        exact RoutineRegistry.builtIn_find?_null
      have hempty := hnil _ hasking
      dsimp only at hempty
      rw [if_pos hkind] at hempty
      cases hempty
    · rintro hkinds ⟨routine, declaration, c⟩ hasking
      obtain ⟨hdeclaration, happlies⟩ := Property.mem_applicable.1 (mem_askings.1 hasking).1
      exact if_neg (hkinds c (List.mem_of_getElem? hdeclaration) happlies)

/-! ## The verdicts with the mark and without it -/

/-- With the mark and without it the violations recorded are the same, unless the value is an
optional: then both have to be none, for they are of different values. -/
theorem map_propertyVerdict_eq_iff (hroutines : v.routines = .builtIn engine)
    (hextractors : v.extractors = .default) :
    (v.propertyVerdict heap context leaf? { p with cascade := true } w).map
          (ViolationSet.insertAll .empty) =
        (v.propertyVerdict heap context leaf? { p with cascade := false } w).map
          (ViolationSet.insertAll .empty) ↔
      ∀ inner, w = .optional inner →
        (∀ c ∈ p.constraints, c.appliesTo context.groups = true → c.kind ≠ .null) ∧
          (v.propertyVerdict heap context leaf? { p with cascade := false } w).map
            (ViolationSet.insertAll .empty) = .ok .empty := by
  by_cases hoptional : ∃ inner, w = .optional inner
  · obtain ⟨inner, rfl⟩ := hoptional
    let marked : Property := { p with cascade := true }
    obtain ⟨found, hverdict, hvalue, hfound⟩ :
        ∃ found, v.verdict (context.push p.name) leaf? marked (.optional inner) = .ok found ∧
          (∀ x ∈ found, x.value = .optional inner) ∧
          (found = [] ↔
            ∀ c ∈ p.constraints, c.appliesTo context.groups = true → c.kind ≠ .null) :=
      verdict_of_optional hroutines inner
    have hmarked : v.propertyVerdict heap context leaf? marked (.optional inner) = .ok found := by
      rw [propertyVerdict, subjects_marked, List.map_singleton, Verdict.all_cons, Verdict.all_nil,
        Verdict.andThen_nothing, hverdict]
    rw [hmarked]
    constructor
    · rintro hsame inner' ⟨⟩
      cases hunmarked : v.propertyVerdict heap context leaf? { p with cascade := false }
        (.optional inner) with
      | error e =>
        rw [hunmarked] at hsame
        cases hsame
      | ok found' =>
        rw [hunmarked] at hsame
        have hset : ViolationSet.insertAll .empty found = .insertAll .empty found' :=
          Except.ok.inj hsame
        -- a violation on either side is on the other one too, where it is of another value
        have hnil : found = [] := by
          refine List.eq_nil_iff_forall_not_mem.2 fun x hx => ?_
          have hcontains : (ViolationSet.insertAll .empty found').contains x = true := by
            rw [← hset]
            exact ViolationSet.contains_insertAll.2 (.inr ⟨x, hx, BEq.rfl⟩)
          obtain h | ⟨y, hy, hyx⟩ := ViolationSet.contains_insertAll.1 hcontains
          · cases h
          · obtain ⟨u, hu, declaration, c, rfl⟩ := of_mem_propertyVerdict hunmarked hy
            rw [subjects_unmarked hextractors, Option.mem_toList] at hu
            have hux : u = x.value := (Violation.agrees_of_beq hyx).2.2.1.symm
            exact Value.ne_optional_of_mem hu (hux.trans (hvalue x hx))
        refine ⟨hfound.1 hnil, congrArg Except.ok ?_⟩
        rw [← hset, hnil]
        rfl
    · intro h
      obtain ⟨hkinds, hunmarked⟩ := h inner rfl
      rw [hunmarked, hfound.2 hkinds]
      rfl
  · have hne : ∀ inner, w ≠ .optional inner := fun inner h => hoptional ⟨inner, h⟩
    refine iff_of_true ?_ fun inner h => absurd h (hne inner)
    rw [propertyVerdict, propertyVerdict, subjects_marked, subjects_of_not_optional hextractors hne]
    rfl

/-- With the registries as they come, validations that do not cascade give the same with the
cascade mark of a property and without it, unless its value is an optional: then they do only if no
constraint on it asks for null and the one without the mark finds nothing wrong. -/
theorem mark_ignored_iff (v : Validator) (heap : Heap) (hroutines : v.routines = .builtIn engine)
    (hextractors : v.extractors = .default) {type : BeanType} {i : Introspection}
    (hi : v.introspection? type = some i) {p : Property} (hp : p ∈ i.properties)
    (groups : List Group) (copies : Nat) :
    (∀ w,
      ((v.marking type p.name true).validateValue heap type p.name w groups copies).result =
          ((v.marking type p.name false).validateValue heap type p.name w groups copies).result ↔
        ∀ inner, w = .optional inner →
          (∀ c ∈ p.constraints, c.appliesTo groups = true → c.kind ≠ .null) ∧
            ((v.marking type p.name false).validateValue heap type p.name w groups
              copies).result = .ok .empty) ∧
    ∀ b : Bean, b.type = type →
      (((v.marking type p.name true).validateProperty heap (.bean b) p.name groups
            copies).result =
          ((v.marking type p.name false).validateProperty heap (.bean b) p.name groups
            copies).result ↔
        ∀ inner, (i.read p heap b copies).1 = .optional inner →
          (∀ c ∈ p.constraints, c.appliesTo groups = true → c.kind ≠ .null) ∧
            ((v.marking type p.name false).validateProperty heap (.bean b) p.name groups
              copies).result = .ok .empty) := by
  have marked (cascade : Bool) := introspection?_marking hi p.name cascade
  constructor
  · intro w
    rw [result_validateValue (marked true) (Introspection.mem_marking hp true),
      result_validateValue (marked false) (Introspection.mem_marking hp false)]
    exact map_propertyVerdict_eq_iff hroutines hextractors
  · rintro b rfl
    rw [result_validateProperty_of_read (marked true) (Introspection.mem_marking hp true),
      result_validateProperty_of_read (marked false) (Introspection.mem_marking hp false)]
    exact map_propertyVerdict_eq_iff hroutines hextractors

end Validator

/-! ## A discount -/

namespace Discount

/-- The type of orders. -/
def type : BeanType := ⟨"Order", "model::Order"⟩

/-- At least five, if there is one. -/
def discount : Property where
  name := "discount"
  declaredType := .optional
  getter := .field "discount"
  constraints := [.min 5]

/-- An order has a discount. -/
def introspection : Introspection := ⟨type, [discount], by decide⟩

/-- Asks the built-in routines. -/
def validator : Validator where
  introspection? t := if t = type then some introspection else none

/-- An order. -/
def order : Bean := { label := "order", type }

/-- The order holds a value as its discount. -/
def heap (value : Value) : Heap := ⟨[(order, [("discount", value)])]⟩

/-- What is found in a discount that is too small. -/
def tooSmall (context : Context) (leaf? : Option Bean) (value : Value) : Violation :=
  .of { context with path := .single "discount" } leaf? 0 (.min 5) value

end Discount

namespace Validator

open Discount (type discount introspection validator order heap tooSmall)

/-- A discount of seven is right with the mark and without it. -/
theorem right_discount_with_mark :
    ((validator.marking type "discount" true).validateValue (heap .null) type "discount"
        (.optional (some (.int 7))) [] 0).result =
      ((validator.marking type "discount" false).validateValue (heap .null) type "discount"
        (.optional (some (.int 7))) [] 0).result := by
  refine ((mark_ignored_iff validator (heap .null) rfl rfl (if_pos rfl) (p := discount)
    List.mem_cons_self [] 0).1 _).2 ?_
  rintro inner ⟨⟩
  exact ⟨by decide, rfl⟩

/-- A discount of three is found too small without the mark.  With it nothing is found, neither in
the order that has it nor in a candidate. -/
theorem mark_hides_wrapped_value :
    let w : Value := .optional (some (.int 3))
    let marked := validator.marking type "discount" true
    let unmarked := validator.marking type "discount" false
    (unmarked.validateValue (heap w) type "discount" w [] 0).result =
        .ok ⟨[tooSmall (.detached type []) none (.int 3)]⟩ ∧
      (marked.validateValue (heap w) type "discount" w [] 0).result = .ok .empty ∧
      (unmarked.validateProperty (heap w) (.bean order) "discount" [] 0).result =
        .ok ⟨[tooSmall (.forRoot order []) (some order) (.int 3)]⟩ ∧
      (marked.validateProperty (heap w) (.bean order) "discount" [] 0).result = .ok .empty :=
  ⟨rfl, rfl, rfl, rfl⟩

end Validator

end BeanGraph
