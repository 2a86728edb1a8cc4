import BeanGraph.Proofs.Verdict
import BeanGraph.Proofs.Visit

/-!
# Checking null

Null is checked by the routines for the declared type of its property.  Of the built-in ones those
for presence, emptiness and blankness reject it, and all others let it pass.  But the routine of an
integer bound reads its limit first, and where this is no integer it fails, on null as on any other
value.

* `check_null_of_mem`: what each built-in routine answers about null;
* `isSome_find?_builtIn`: the types that some of the routines are there for;
* `null_passes_iff`: a check of null records nothing, and goes well exactly if the limits of the
  integer bounds can be read;
* `bound_without_limit_fails_on_null`: a bound without a limit fails the check.
-/

namespace BeanGraph

open Call

namespace ConstraintKind

/-- The kinds whose built-in routines reject null. -/
def nullRejecting : List ConstraintKind := [.notNull, .notEmpty, .notBlank]

/-- The kinds that bound a number by an integer. -/
def integerBounds : List ConstraintKind := [.min, .max]

end ConstraintKind

open ConstraintKind (nullRejecting integerBounds)

/-- The limit of an integer bound is there, and is a signed 64-bit integer. -/
def Constraint.HasLimit (c : Constraint) : Prop :=
  ∃ n : Int64, c.attribute? "value" = some (.int n.toInt)

theorem Constraint.hasLimit_iff {c : Constraint} :
    c.HasLimit ↔ ∃ n, c.required Constraint.int? "value" = .ok n :=
  exists_congr fun _ => required_int?_eq_ok.symm

/-! ## The built-in routines on null -/

namespace RoutineRegistry

variable {engine : Pattern.Engine}

/-- What a built-in routine answers about null. -/
def nullAnswer (kind : ConstraintKind) (c : Constraint) : Except ConstraintError Bool :=
  if kind ∈ nullRejecting then .ok false
  else if kind ∈ integerBounds then (c.required Constraint.int? "value").map fun _ => true
  else .ok true

theorem check_null_of_mem {kind : ConstraintKind} {tag : TypeTag} {routine : Routine}
    (h : ((kind, tag), routine) ∈ (builtIn engine).entries) (c : Constraint) (context : Context) :
    routine.check .null c context = nullAnswer kind c := by
  have hentries : ∀ entry ∈ (builtIn engine).entries,
      entry.2.check .null c context = nullAnswer entry.1.1 c := by
    simp only [builtIn, Table.ofList, onTags, numbers, decimals, sized, List.map_cons,
      List.map_nil, List.forall_mem_append, List.forall_mem_cons, List.not_mem_nil, false_implies,
      implies_true, and_true]
    repeat' apply And.intro
    all_goals rfl
  exact hentries _ h

theorem check_null_of_builtIn {kind : ConstraintKind} {tag : TypeTag} {routine : Routine}
    (h : (builtIn engine).find? kind tag = some routine) (c : Constraint) (context : Context) :
    routine.check .null c context = nullAnswer kind c :=
  (mem_of_find? h).elim (check_null_of_mem · c context) (check_null_of_mem · c context)

theorem nullAnswer_ne_false {kind : ConstraintKind} (h : kind ∉ nullRejecting) (c : Constraint) :
    nullAnswer kind c ≠ .ok false := by
  rw [nullAnswer, if_neg h]
  split
  · cases c.required Constraint.int? "value" <;> simp [Except.map]
  · simp

/-- The routine of a kind that does not reject null answers, but for an integer bound that lacks its
limit. -/
theorem exists_nullAnswer_iff {kind : ConstraintKind} (h : kind ∉ nullRejecting) (c : Constraint) :
    (∃ valid, nullAnswer kind c = .ok valid) ↔ (kind ∈ integerBounds → c.HasLimit) := by
  rw [nullAnswer, if_neg h, Constraint.hasLimit_iff]
  split
  · rename_i hkind
    rw [imp_iff_right hkind]
    cases c.required Constraint.int? "value" with
    | ok n => exact iff_of_true ⟨true, rfl⟩ ⟨n, rfl⟩
    | error e => simp [Except.map]
  · rename_i hkind
    exact iff_of_true ⟨true, rfl⟩ (absurd · hkind)

/-- The kinds with a built-in routine for some types only that null makes a difference to, each with
the types. -/
def limited : List (ConstraintKind × List TypeTag) :=
  [(.notEmpty, sized), (.notBlank, [.str]), (.min, numbers), (.max, numbers)]

theorem isSome_find?_builtIn {kind : ConstraintKind} {tags : List TypeTag}
    (h : (kind, tags) ∈ limited) (tag : TypeTag) :
    ((builtIn engine).find? kind tag).isSome = true ↔ tag ∈ tags := by
  simp only [limited, List.mem_cons, List.not_mem_nil, or_false, Prod.mk.injEq] at h
  rcases h with ⟨rfl, rfl⟩ | ⟨rfl, rfl⟩ | ⟨rfl, rfl⟩ | ⟨rfl, rfl⟩ <;>
    cases tag with
    | bean type => exact iff_of_false Bool.false_ne_true (by simp [sized, numbers])
    | _ => exact of_decide_eq_true rfl

theorem isSome_find?_integerBounds {kind : ConstraintKind} (h : kind ∈ integerBounds)
    (tag : TypeTag) : ((builtIn engine).find? kind tag).isSome = true ↔ tag ∈ numbers := by
  simp only [integerBounds, List.mem_cons, List.not_mem_nil, or_false] at h
  rcases h with rfl | rfl <;> exact isSome_find?_builtIn (by simp [limited]) tag

end RoutineRegistry

/-! ## Checking null -/

namespace Validator

variable {engine : Pattern.Engine} {v : Validator} {leaf? : Option Bean} {p : Property}
  {s : Progress}

/-- A check of null records nothing if no constraint is of a kind that rejects it. -/
theorem violations_checkValue_null (hroutines : v.routines = .builtIn engine)
    (hkinds : ∀ d ∈ p.applicable s.context.groups, d.2.kind ∉ nullRejecting) :
    (v.checkValue leaf? p .null s).2.violations = s.violations := by
  let kept (_ : Except Failure Unit) (t : Progress) : Prop := t.violations = s.violations
  have hchecked : kept (v.checkValue leaf? p .null s).1 (v.checkValue leaf? p .null s).2 ∧ _ :=
    checkValue_keeps (P := kept) (D := True) rfl (fun _ _ _ h => h)
      fun t routine declaration c hcontext ht happlies => by
        rw [hcontext, Applies, hroutines] at happlies
        have hanswer := RoutineRegistry.check_null_of_builtIn happlies.2 c t.context
        show (judge leaf? routine declaration c .null t).2.violations = s.violations
        rw [judge_apply]
        split
        · exact ht
        · rename_i hrejects
          exact absurd (hanswer.symm.trans hrejects)
            (RoutineRegistry.nullAnswer_ne_false (hkinds _ happlies.1) c)
        · exact ht
  exact hchecked.1

/-- A check goes well if every routine that is asked answers. -/
theorem checkValue_eq_ok_iff {u : Value} :
    (v.checkValue leaf? p u s).1 = .ok () ↔
      ∀ routine declaration c, v.Applies s.context.groups p u routine declaration c →
        ∃ valid, routine.check u c s.context = .ok valid := by
  have hbears : s.Bears (v.checkValue leaf? p u s) (v.verdict s.context leaf? p u) :=
    judges_checkValue s rfl
  have hverdict : (v.checkValue leaf? p u s).1 = .ok () ↔
      ∃ found, v.verdict s.context leaf? p u = .ok found := by
    cases h : v.verdict s.context leaf? p u with
    | ok found =>
      rw [h] at hbears
      simp [hbears.1]
    | error e =>
      rw [h] at hbears
      obtain hbears : (v.checkValue leaf? p u s).1 = .error e := hbears
      simp [hbears]
  have hanswered (routine : Routine) (declaration : Nat) (c : Constraint) :
      (∃ found, routine.verdict s.context leaf? declaration c u = .ok found) ↔
        ∃ valid, routine.check u c s.context = .ok valid := by
    unfold Routine.verdict
    cases routine.check u c s.context with
    | error e => simp
    | ok valid => cases valid <;> simp
  rw [hverdict, verdict]
  simp only [Verdict.all_eq_ok_iff, exists_and_left, exists_eq, and_true, List.forall_mem_map,
    Prod.forall, hanswered, mem_askings]

/-- With the built-in routines a check of null for constraints of kinds that do not reject it
records nothing.  It goes well exactly if every integer bound among them that has a routine for the
declared type has a limit. -/
theorem null_passes_iff (hroutines : v.routines = .builtIn engine) (leaf? : Option Bean)
    (p : Property) (s : Progress) (hkinds : ∀ d ∈ p.applicable s.context.groups, d.2.kind ∉ nullRejecting) :
    (v.checkValue leaf? p .null s).2.violations = s.violations ∧
      ((v.checkValue leaf? p .null s).1 = .ok () ↔
        ∀ d ∈ p.applicable s.context.groups, d.2.kind ∈ integerBounds →
          p.declaredType ∈ RoutineRegistry.numbers → d.2.HasLimit) := by
  refine ⟨violations_checkValue_null hroutines hkinds, ?_⟩
  rw [checkValue_eq_ok_iff, Prod.forall]
  constructor
  · intro hanswered declaration c hc hkind htype
    obtain ⟨routine, hroutine⟩ := Option.isSome_iff_exists.1
      ((RoutineRegistry.isSome_find?_integerBounds hkind p.declaredType).2 htype)
    have hanswer := hanswered routine declaration c ⟨hc, by rw [hroutines]; exact hroutine⟩
    rw [RoutineRegistry.check_null_of_builtIn hroutine] at hanswer
    exact (RoutineRegistry.exists_nullAnswer_iff (hkinds _ hc) c).1 hanswer hkind
  · intro hlimits routine declaration c happlies
    have hroutine := happlies.2
    rw [hroutines] at hroutine
    rw [RoutineRegistry.check_null_of_builtIn hroutine]
    refine (RoutineRegistry.exists_nullAnswer_iff (hkinds _ happlies.1) c).2 fun hkind => ?_
    have htype := (RoutineRegistry.isSome_find?_integerBounds hkind p.declaredType).1
      (Option.isSome_iff_exists.2 ⟨routine, hroutine⟩)
    exact hlimits declaration c happlies.1 hkind htype

end Validator

/-! ## A quantity that may be left out -/

namespace Quantity

/-- The type of orders. -/
def type : BeanType := ⟨"Order", "model::Order"⟩

/-- A quantity with constraints none of which rejects null: the limit of the decimal bound is no
decimal, and the size has a bound below zero. -/
def quantity : Property where
  name := "quantity"
  declaredType := .int
  getter := .field "quantity"
  constraints := [.min 5, .decimalMax "many", .ofKind .positive,
    (Constraint.ofKind .size).withAttribute "min" (.int (-1))]

/-- A quantity with a bound that lacks its limit. -/
def unlimited : Property := { quantity with constraints := [.ofKind .min] }

/-- Where a candidate for the quantity is checked, for no groups in particular. -/
def start : Progress :=
  { context := (Context.detached type []).push "quantity", copies := 0, violations := .empty
    events := #[] }

/-- Asks the built-in routines. -/
def validator : Validator := {}

end Quantity

namespace Validator

open Quantity (quantity unlimited start validator)

/-- A quantity of null passes all its constraints. -/
theorem quantity_may_be_null :
    (∀ d ∈ quantity.applicable [], d.2.kind ∉ nullRejecting) ∧
      (validator.checkValue none quantity .null start).2.violations = .empty ∧
      (validator.checkValue none quantity .null start).1 = .ok () := by
  have hkinds : ∀ d ∈ quantity.applicable [], d.2.kind ∉ nullRejecting := by decide
  obtain ⟨hviolations, hok⟩ := null_passes_iff (v := validator) rfl none quantity start hkinds
  refine ⟨hkinds, hviolations, hok.2 fun d hd hkind _ => ?_⟩
  have hfirst : ∀ d ∈ quantity.applicable [], d.2.kind ∈ integerBounds → d.1 = 0 := by decide
  obtain ⟨declaration, c⟩ := d
  obtain rfl : declaration = 0 := hfirst _ hd hkind
  obtain rfl : .min 5 = c := Option.some.inj (Property.mem_applicable.1 hd).1
  exact ⟨5, rfl⟩

/-- The bound without a limit fails on null. -/
theorem bound_without_limit_fails_on_null :
    (validator.checkValue none unlimited .null start).1 =
      .error (.evaluation .min start.context.path (.missingAttribute .min "value")) := rfl

end Validator

end BeanGraph
