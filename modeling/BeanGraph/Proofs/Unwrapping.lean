import BeanGraph.Proofs.CascadeMark
import BeanGraph.Proofs.Outcome

/-!
# What an optional wraps

For a property that does not cascade an optional stands for what it wraps: its constraints are
checked on the wrapped value, at the path of the property, as they are if the property holds this
value itself.  An optional with nothing in it leaves nothing to check.

* `checkProperty_some`: to check an optional is to check what it wraps;
* `checkProperty_none`: to check an empty optional is to do nothing below the node of the property;
* `optional_validated_as_wrapped`: so candidates are validated alike, with an optional around them
  and without it.
-/

namespace BeanGraph.Validator

open Call

variable {v : Validator} {heap : Heap} {leaf? : Option Bean} {p : Property} {u : Value}

theorem checkProperty_of_not_optional (hextractors : v.extractors = .default)
    (h : ∀ inner, u ≠ .optional inner) :
    v.checkProperty heap leaf? p u = below p.name (v.checkValue leaf? p u) := by
  rw [checkProperty, unwrapFor?_of_not_optional hextractors h]

/-- What is checked in an optional is what it wraps, if anything. -/
theorem checkProperty_optional (hextractors : v.extractors = .default) (hp : p.cascade = false)
    (inner : Option Value) :
    v.checkProperty heap leaf? p (.optional inner) =
      below p.name (inner.toList.forM (v.checkValue leaf? p)) := by
  rw [checkProperty, unwrapFor?_optional hextractors hp]
  dsimp only
  rw [Extractor.feed_eq_forM]
  cases inner <;> rfl

theorem checkProperty_some (hextractors : v.extractors = .default) (hp : p.cascade = false)
    (h : ∀ inner, u ≠ .optional inner) :
    v.checkProperty heap leaf? p (.optional (some u)) = v.checkProperty heap leaf? p u := by
  have once : [u].forM (v.checkValue leaf? p) = v.checkValue leaf? p u := by
    funext s
    show (v.checkValue leaf? p u >>= fun _ => pure ()) s = _
    rw [bind_apply]
    obtain ⟨_ | _, _⟩ := v.checkValue leaf? p u s <;> rfl
  rw [checkProperty_optional hextractors hp, checkProperty_of_not_optional hextractors h,
    Option.toList_some, once]

theorem checkProperty_none (hextractors : v.extractors = .default) (hp : p.cascade = false) :
    v.checkProperty heap leaf? p (.optional none) = below p.name (pure ()) :=
  checkProperty_optional hextractors hp none

/-- With the extractors as they come and for a property that does not cascade, a candidate is
validated in an optional as it is without one: the report is the same, whether the validation fails
or what it finds, and whatever it asks and logs on the way.  An empty optional is found right, and
no routine is asked about it. -/
theorem optional_validated_as_wrapped (v : Validator) (heap : Heap)
    (hextractors : v.extractors = .default) {type : BeanType} {i : Introspection}
    (hi : v.introspection? type = some i) {p : Property} (hp : p ∈ i.properties)
    (hcascade : p.cascade = false) (groups : List Group) (copies : Nat) :
    (∀ u : Value, (∀ inner, u ≠ .optional inner) →
      v.validateValue heap type p.name (.optional (some u)) groups copies =
        v.validateValue heap type p.name u groups copies) ∧
    (v.validateValue heap type p.name (.optional none) groups copies).result = .ok .empty ∧
    (v.validateValue heap type p.name (.optional none) groups copies).calls = [] := by
  have hproperty := Introspection.property?_eq_some hp
  have hnone : v.validateValue heap type p.name (.optional none) groups copies =
      run (.detached type groups) #[.lookedUp type] copies
        (below p.name (pure ()) : Step Unit) := by
    simp only [validateValue, hi, hproperty, checkProperty_none hextractors hcascade]
  refine ⟨fun u hu => ?_, ?_, ?_⟩
  · simp only [validateValue, hi, hproperty, checkProperty_some hextractors hcascade hu]
  · rw [hnone]
    rfl
  · rw [hnone]
    rfl

open Discount (type discount introspection validator tooSmall)

/-- A discount of three is too small in an optional as it is without one; no discount is right. -/
theorem discount_validated_as_wrapped :
    (validator.validateValue {} type "discount" (.optional (some (.int 3))) [] 0).result =
        .ok ⟨[tooSmall (.detached type []) none (.int 3)]⟩ ∧
      (validator.validateValue {} type "discount" (.optional (some .null)) [] 0).result =
        (validator.validateValue {} type "discount" .null [] 0).result ∧
      (validator.validateValue {} type "discount" (.optional none) [] 0).result = .ok .empty := by
  have hi : validator.introspection? type = some introspection := rfl
  have hp : discount ∈ introspection.properties := List.mem_cons_self
  obtain ⟨wrapped, nothing, -⟩ := optional_validated_as_wrapped validator {} rfl hi hp rfl [] 0
  refine ⟨?_, ?_, nothing⟩
  · exact congrArg Report.result (wrapped (.int 3) nofun)
  · exact congrArg Report.result (wrapped .null nofun)

end BeanGraph.Validator
