import BeanGraph.Proofs.Touring
import Mathlib.Data.List.Nodup

/-!
# Validating one property

A validation of one property of a bean checks what a validation of the bean finds at the path of
this property, and nothing else.  The latter may check the value twice, for its own sake and as a
cascade target that there is nothing to enter in, but then it finds the same violations at the same
path and keeps them once.

* `filter_ownInspections`: of what is inspected when the root is entered, the part at the path of a
  property;
* `mem_propertyInspections_of_tour`: what is inspected at that path later on has been so before;
* `validateProperty_of_validate`: so a validation of one property finds this part of the whole.
-/

namespace BeanGraph

open Call

/-- The path of a property of the root itself. -/
def Path.single (name : String) : Path := ⟨[.property name]⟩

theorem Path.below_root_eq_single_iff {p : Property} {element? : Option Element} {name : String} :
    Path.root.below p element? = .single name ↔ p.name = name ∧ element? = none := by
  constructor
  · intro h
    have hnode : (Hop.node ⟨p.name, element?⟩).within false = .property name :=
      (List.cons.inj (Path.mk.inj h)).1
    cases element? with
    | none => exact ⟨congrArg PathNode.name hnode, rfl⟩
    | some e => cases congrArg PathNode.kind hnode
  · rintro ⟨rfl, rfl⟩
    rfl

namespace Validator

variable {v : Validator} {heap : Heap} {root b : Bean} {groups : List Group} {i : Introspection}
  {p : Property} {stages : List Stage} {left? : Option (List Bean)} {object : Value}

/-! ## What is found at the path of a property -/

/-- Whether an inspection is at the path of a property of the root itself. -/
def AtProperty (name : String) (x : Inspection) : Bool := x.path = .single name

theorem filter_propertyInspections (b : Bean) (p : Property) (name : String) (w : Value) :
    (v.propertyInspections heap b .root p w).filter (AtProperty name) =
      if p.name = name then v.propertyInspections heap b .root p w else [] := by
  have at_iff (u : Value) : AtProperty name ⟨b, p, Path.root.below p none, u⟩ = true ↔
      p.name = name := by
    rw [AtProperty, decide_eq_true_eq, Path.below_root_eq_single_iff, and_iff_left rfl]
  split
  · rename_i hname
    refine List.filter_eq_self.2 fun x hx => ?_
    obtain ⟨u, -, rfl⟩ := List.mem_map.1 hx
    exact (at_iff u).2 hname
  · rename_i hname
    refine List.filter_eq_nil_iff.2 fun x hx => ?_
    obtain ⟨u, -, rfl⟩ := List.mem_map.1 hx
    exact fun h => hname ((at_iff u).1 h)

/-- Of what is inspected when the root is entered, the part at the path of a property is what is
inspected for it. -/
theorem filter_ownInspections (hp : p ∈ i.constrained) :
    (v.ownInspections heap i b .root).filter (AtProperty p.name) =
      v.propertyInspections heap b .root p (i.get p heap b) := by
  have hnodup : i.constrained.Nodup := (List.Nodup.of_map _ i.distinct).filter _
  have others {q : Property} (hq : q ∈ i.constrained) (hne : q ≠ p) :
      (v.propertyInspections heap b .root q (i.get q heap b)).filter (AtProperty p.name) = [] := by
    rw [filter_propertyInspections, if_neg fun hname => hne ?_]
    exact Introspection.eq_of_name_eq (List.mem_filter.1 hp).1 (List.mem_filter.1 hq).1 hname
  obtain ⟨before, after, hsplit⟩ := List.append_of_mem hp
  rw [ownInspections, List.filter_flatMap]
  rw [hsplit] at hnodup others ⊢
  obtain ⟨-, hafter, hdisjoint⟩ := List.nodup_append.1 hnodup
  have none_before : (before.flatMap fun q =>
      (v.propertyInspections heap b .root q (i.get q heap b)).filter (AtProperty p.name)) = [] :=
    List.flatMap_eq_nil_iff.2 fun q hq =>
      others (List.mem_append_left _ hq) (hdisjoint q hq p List.mem_cons_self)
  have none_after : (after.flatMap fun q =>
      (v.propertyInspections heap b .root q (i.get q heap b)).filter (AtProperty p.name)) = [] :=
    List.flatMap_eq_nil_iff.2 fun q hq => others (by simp [hq])
      fun e => (List.nodup_cons.1 hafter).1 (e ▸ hq)
  rw [List.flatMap_append, List.flatMap_cons, none_before, none_after,
    filter_propertyInspections, if_pos rfl, List.nil_append, List.append_nil]

theorem inspect_of_unconstrained (hp : p.isConstrained = false) {path : Path} {w : Value} :
    ∀ x ∈ v.propertyInspections heap b path p w, v.inspect root groups x = .ok [] := by
  intro x hx
  obtain ⟨u, -, rfl⟩ := List.mem_map.1 hx
  have hnone : v.askings groups p u = [] := by
    refine List.eq_nil_iff_forall_not_mem.2 fun (routine, d, c) hasking => ?_
    have hconstrained := Property.isConstrained_of_mem_applicable (mem_askings.1 hasking).1
    rw [hp] at hconstrained
    cases hconstrained
  rw [inspect, verdict]
  exact congrArg (fun l => Verdict.all (List.map _ l)) hnone

theorem recorded_of_unconstrained (hp : p.isConstrained = false) (path : Path) (w : Value) :
    v.recorded root groups (v.propertyInspections heap b path p w) = [] := by
  refine List.flatMap_eq_nil_iff.2 fun x hx => ?_
  rw [inspect_of_unconstrained hp x hx]
  rfl

theorem recorded_filter_ownInspections (hp : p ∈ i.properties) :
    v.recorded root groups ((v.ownInspections heap i b .root).filter (AtProperty p.name)) =
      v.recorded root groups (v.propertyInspections heap b .root p (i.get p heap b)) := by
  cases hconstrained : p.isConstrained with
  | true => rw [filter_ownInspections (List.mem_filter.2 ⟨hp, hconstrained⟩)]
  | false =>
    have nothing : (v.ownInspections heap i b .root).filter (AtProperty p.name) = [] := by
      refine List.filter_eq_nil_iff.2 fun x hx hat => ?_
      obtain ⟨q, hq, u, -, rfl⟩ := mem_ownInspections.1 hx
      have hname := (Path.below_root_eq_single_iff.1 (of_decide_eq_true hat)).1
      obtain rfl := Introspection.eq_of_name_eq hp (List.mem_filter.1 hq).1 hname
      have hconstrained' := (List.mem_filter.1 hq).2
      rw [hconstrained] at hconstrained'
      cases hconstrained'
    rw [nothing, recorded_of_unconstrained hconstrained]
    rfl

/-- What is inspected at the path of a property once the root has been entered has been inspected
before: it is the value of a cascade property, with nothing to enter in. -/
theorem mem_propertyInspections_of_tour {guarded : Bool} {visited : List Bean}
    (hi : v.introspection? b.type = some i) (hp : p ∈ i.properties)
    (h : v.Tour heap guarded root b .root i.errands visited stages left?) {x : Inspection}
    (hx : x ∈ Stage.inspections stages) (hat : AtProperty p.name x = true) :
    x ∈ v.propertyInspections heap b .root p (i.get p heap b) := by
  have hpath : x.path = .single p.name := of_decide_eq_true hat
  obtain ⟨q, element?, u, ⟨hq, hheld⟩, -, rfl⟩ | ⟨t, j, path, hentry, -, hinspected⟩ :=
    h.inspected hi due_read hx
  · obtain ⟨hname, rfl⟩ := Path.below_root_eq_single_iff.1 hpath
    obtain ⟨hq, hcascade⟩ := List.mem_filter.1 hq
    obtain rfl := Introspection.eq_of_name_eq hp hq hname
    obtain rfl := v.eq_of_mem_held_none heap hheld
    refine List.mem_map.2 ⟨_, ?_, rfl⟩
    simp [subjects, unwrapFor?, hcascade]
  · have hlength := h.length_lt hi due_read hentry
    have hparent := hinspected.leaf_and_parent?.2
    rw [hpath] at hparent
    obtain rfl := Option.some.inj hparent
    cases hlength

/-! ## Validations -/

theorem result_of_bears {s : Progress} {done : Outcome Unit} {verdict : Verdict}
    (h : s.Bears done verdict) (hs : s.violations = .empty) :
    (Report.of done).result = verdict.map (ViolationSet.insertAll .empty) := by
  obtain ⟨r, t⟩ := done
  cases verdict with
  | error e =>
    obtain rfl : r = .error e := h
    rfl
  | ok found =>
    obtain ⟨rfl, hadds⟩ : r = .ok () ∧ s.Adds found t := h
    have hviolations := hadds.violations
    rw [hs] at hviolations
    exact congrArg Except.ok hviolations

/-- A validation of one property is the verdict on the value that it reads. -/
theorem result_validateProperty_of_read (hi : v.introspection? b.type = some i)
    (hp : p ∈ i.properties) (groups : List Group) (copies : Nat) :
    (v.validateProperty heap (.bean b) p.name groups copies).result =
      (v.propertyVerdict heap (.forRoot b groups) (some b) p (i.read p heap b copies).1).map
        (ViolationSet.insertAll .empty) := by
  have hrun : v.validateProperty heap (.bean b) p.name groups copies =
      .of (v.checkProperty heap (some b) p (i.read p heap b copies).1
        { Progress.start b groups copies with copies := (i.read p heap b copies).2 }) := by
    simp only [validateProperty, Validator.root, hi, Introspection.property?_eq_some hp]
    exact congrArg Report.of (bind_apply ..)
  rw [hrun]
  exact result_of_bears (judges_checkProperty rfl (some b) p _ _ rfl) rfl

theorem result_validateProperty (plain : v.Plain) (stable : v.Stable)
    (hi : v.introspection? b.type = some i) (hp : p ∈ i.properties) (groups : List Group)
    (copies : Nat) :
    (v.validateProperty heap (.bean b) p.name groups copies).result =
      (Verdict.all ((v.propertyInspections heap b .root p (i.get p heap b)).map
        (v.inspect b groups))).map (ViolationSet.insertAll .empty) := by
  have hread : (i.read p heap b copies).1 = i.get p heap b := stable.read_eq hi hp copies
  rw [result_validateProperty_of_read hi hp, hread, ← propertyVerdict_during plain]
  rfl

theorem result_validateProperty_of_ok (plain : v.Plain) (stable : v.Stable)
    (hi : v.introspection? b.type = some i) (hp : p ∈ i.properties)
    (ok : ∀ x ∈ v.propertyInspections heap b .root p (i.get p heap b),
      ∃ ys, v.inspect b groups x = .ok ys) (copies : Nat) :
    (v.validateProperty heap (.bean b) p.name groups copies).result =
      .ok (.insertAll .empty (v.recorded b groups
        (v.propertyInspections heap b .root p (i.get p heap b)))) := by
  rw [result_validateProperty plain stable hi hp, all_inspect_eq_ok_iff.2 ⟨ok, rfl⟩]
  rfl

theorem result_validateProperty_of_unconstrained (plain : v.Plain) (stable : v.Stable)
    (hi : v.introspection? b.type = some i) (hp : p ∈ i.properties)
    (hconstrained : p.isConstrained = false) (groups : List Group) (copies : Nat) :
    (v.validateProperty heap (.bean b) p.name groups copies).result = .ok .empty := by
  rw [result_validateProperty_of_ok plain stable hi hp
    (fun x hx => ⟨[], inspect_of_unconstrained hconstrained x hx⟩),
    recorded_of_unconstrained hconstrained]
  rfl

/-- On a tour that goes well, a validation of one property finds what the tour finds at its path. -/
theorem finds_property_of_tour {guarded : Bool} {visited : List Bean} (plain : v.Plain)
    (stable : v.Stable) (hi : v.introspection? b.type = some i) (hp : p ∈ i.properties)
    (h : v.Tour heap guarded b b .root i.errands visited stages left?)
    (ok : ∀ x ∈ v.ownInspections heap i b .root, ∃ ys, v.inspect b groups x = .ok ys)
    (copies : Nat) :
    ∃ ws, (v.validateProperty heap (.bean b) p.name groups copies).result = .ok ws ∧
      ws.items = (ViolationSet.insertAll .empty (v.recorded b groups
        (v.ownInspections heap i b .root ++ Stage.inspections stages))).items.filter
          fun x => x.path = .single p.name := by
  let single := v.recorded b groups (v.propertyInspections heap b .root p (i.get p heap b))
  refine ⟨.insertAll .empty single, ?_, ?_⟩
  · cases hconstrained : p.isConstrained with
    | true =>
      refine result_validateProperty_of_ok plain stable hi hp (fun x hx => ok x ?_) copies
      exact List.mem_flatMap.2 ⟨p, List.mem_filter.2 ⟨hp, hconstrained⟩, hx⟩
    | false =>
      rw [result_validateProperty_of_unconstrained plain stable hi hp hconstrained]
      simp only [single, recorded_of_unconstrained hconstrained]
      rfl
  · have alike : ∀ x y : Violation, (x == y) = true →
        decide (x.path = .single p.name) = decide (y.path = .single p.name) := by
      intro x y hxy
      rw [(Violation.agrees_of_beq hxy).2.1]
    have later : ∀ y ∈ v.recorded b groups
        ((Stage.inspections stages).filter (AtProperty p.name)),
        (ViolationSet.insertAll .empty single).contains y = true := by
      intro y hy
      obtain ⟨x, hx, hy⟩ := List.mem_flatMap.1 hy
      obtain ⟨hx, hat⟩ := List.mem_filter.1 hx
      have hsingle : y ∈ single :=
        List.mem_flatMap.2 ⟨x, mem_propertyInspections_of_tour hi hp h hx hat, hy⟩
      exact ViolationSet.contains_insertAll.2 (.inr ⟨y, hsingle, BEq.rfl⟩)
    have hkept (xs : List Inspection) :
        ((v.recorded b groups xs).filter fun x => decide (x.path = .single p.name)) =
          v.recorded b groups (xs.filter (AtProperty p.name)) :=
      filter_recorded (fun x y _ hpath => by rw [hpath]; rfl) xs
    rw [ViolationSet.filter_insertAll alike, hkept, List.filter_append, recorded_append,
      recorded_filter_ownInspections hp]
    exact congrArg ViolationSet.items <| Eq.symm <|
      (ViolationSet.insertAll_append ..).trans (ViolationSet.insertAll_of_contains later)

/-- What goes well is the validation of a bean with an introspection. -/
theorem object_of_validate {copies : Nat} {report : Report} {vs : ViolationSet}
    (h : v.validate heap object groups copies = some report) (hvs : report.result = .ok vs) :
    ∃ b i, object = .bean b ∧ v.introspection? b.type = some i := by
  cases object with
  | bean b =>
    cases hi : v.introspection? b.type with
    | some i => exact ⟨b, i, rfl, hi⟩
    | none =>
      simp only [validate, Validator.root, hi, Option.some.injEq] at h
      subst h
      cases hvs
  | _ =>
    simp only [validate, Validator.root, Option.some.injEq] at h
    subst h
    cases hvs

/-- With stable getters and with routines that do not look at the context, where a validation of a
bean goes well, a validation of one of its properties does, and finds in order the violations that
the former finds at the path of this property.  For a name that no property has it finds nothing. -/
theorem validateProperty_of_validate (v : Validator) (heap : Heap) (stable : v.Stable)
    (plain : v.Plain) {object : Value} {groups : List Group} {copies : Nat} {report : Report}
    {vs : ViolationSet} (h : v.validate heap object groups copies = some report)
    (hvs : report.result = .ok vs) :
    ∃ b i, object = .bean b ∧ v.introspection? b.type = some i ∧ ∀ copies',
      (∀ p ∈ i.properties, ∃ ws,
        (v.validateProperty heap object p.name groups copies').result = .ok ws ∧
          ws.items = vs.items.filter fun x => x.path = .single p.name) ∧
      ∀ name, (∀ p ∈ i.properties, p.name ≠ name) →
        (v.validateProperty heap object name groups copies').result = .ok .empty := by
  obtain ⟨b, i, rfl, hi⟩ := object_of_validate h hvs
  refine ⟨b, i, rfl, hi, fun copies' => ⟨fun p hp => ?_, fun name hname => ?_⟩⟩
  · cases hunconstrained : i.isUnconstrained with
    | true =>
      have hconstrained : p.isConstrained = false := by
        rw [← Bool.not_eq_true]
        intro hc
        have hmem : p ∈ i.constrained := List.mem_filter.2 ⟨hp, hc⟩
        rw [List.isEmpty_iff.1 (Bool.and_eq_true_iff.1 hunconstrained).1] at hmem
        cases hmem
      simp only [validate, Validator.root, hi, hunconstrained, if_true, Option.some.injEq] at h
      subst h
      obtain rfl := Except.ok.inj hvs
      exact ⟨.empty,
        result_validateProperty_of_unconstrained plain stable hi hp hconstrained _ _, rfl⟩
    | false =>
      have hobject : v.toVisit? (.bean b) = some (b, i) :=
        toVisit?_eq_some.2 ⟨rfl, hi, hunconstrained⟩
      rw [← validateGuarded_true] at h
      obtain ⟨_, left?, ⟨stages, rfl, htour⟩, -, tells⟩ :=
        journey_of_validateGuarded plain stable hobject h
      obtain ⟨ok, rfl⟩ := tells.of_ok hvs
      rw [Stage.inspections_append, inspections_arrival] at ok ⊢
      exact finds_property_of_tour plain stable hi hp htour (List.forall_mem_append.1 ok).1 copies'
  · have hnone : i.property? name = none :=
      List.find?_eq_none.2 fun p hp => by simpa using hname p hp
    simp only [validateProperty, Validator.root, hi, hnone]

theorem ring_validates_property :
    ∃ ws, (Ring.validator.validateProperty Ring.heap (.bean Ring.third) "name" [] 0).result =
        .ok ws ∧
      ws.items = [.of { Context.forRoot Ring.third [] with path := .single "name" }
        (some Ring.third) 0 (.ofKind .notNull) .null] := by
  obtain ⟨report, vs, h, hvs, hitems⟩ :
      ∃ report vs, Ring.validator.validateGuarded Ring.heap true (.bean Ring.third) [] 0 =
          some report ∧ report.result = .ok vs ∧
        vs.items = [.of { Context.forRoot Ring.third [] with path := .single "name" }
          (some Ring.third) 0 (.ofKind .notNull) .null] :=
    validateGuarded_of_within 3 rfl (by cbv)
  rw [validateGuarded_true] at h
  obtain ⟨b, i, ⟨⟩, hi, agrees⟩ :=
    validateProperty_of_validate Ring.validator Ring.heap Ring.stable Ring.plain h hvs
  obtain rfl := Ring.introspection?_eq_some hi
  obtain ⟨ws, hws, hfilter⟩ := (agrees 0).1 Ring.name List.mem_cons_self
  refine ⟨ws, hws, ?_⟩
  rw [hfilter, hitems]
  rfl

end Validator

end BeanGraph
