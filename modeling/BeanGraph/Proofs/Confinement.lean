import BeanGraph.Proofs.Touring

/-!
# What a validation reads

A validation reads the fields of the beans that it enters, and with the extractors as they come it
enters beans within reach of its root only.  So heaps in which the properties of these beans read
alike are the same to it, whatever the fields of all other beans are: not only is its result the
same, but all that it does.

* `held_eq`, `checkBean_eq`: what a value holds, and the check of a bean, in one heap and another;
* `visitGuarded_le_of_alike`: what a visit comes to in one heap it comes to in the other one;
* `Reach.of_alike`: no more beans are within reach in the other heap;
* `validate_confined`: so a validation does the same in both.
-/

namespace BeanGraph

open Call

/-! ## Containers and fields -/

/-- The extractors as they come look at the container, and at no fields. -/
theorem ExtractorRegistry.extract_eq_of_default {tag : TypeTag} {x : Extractor}
    (h : default.cascade.find? tag = some x ∨ default.unwrap.find? tag = some x)
    (heap heap' : Heap) (w : Value) : x heap w = x heap' w := by
  have known : x = .list ∨ x = .set ∨ x = .map ∨ x = .optional := by
    have hmem := h.imp Table.mem_of_find? Table.mem_of_find?
    simp only [default, Table.ofList, List.mem_cons, Prod.mk.injEq, List.not_mem_nil,
      or_false] at hmem
    tauto
  rcases known with rfl | rfl | rfl | rfl
  · cases w <;> rfl
  · cases w <;> rfl
  · cases w <;> rfl
  · rcases w with _ | _ | _ | _ | _ | _ | _ | _ | _ | (_ | _) | _ <;> rfl

/-- To replace a field of a bean leaves the fields of beans with other labels as they are. -/
theorem Heap.record_set_of_ne {label : String} {b : Bean} (h : b.label ≠ label) (heap : Heap)
    (field : String) (w : Value) : (heap.set label field w).record b = heap.record b := by
  obtain ⟨entries⟩ := heap
  simp only [set, record]
  induction entries with
  | nil => rfl
  | cons entry entries ih =>
    obtain ⟨x, r⟩ := entry
    rw [List.map_cons, List.find?_cons, List.find?_cons]
    by_cases hx : x.label = label
    · have hne : ¬ x.label = b.label := fun hxb => h (hxb.symm.trans hx)
      simpa [hx, hne, Ne.symm h] using ih
    · by_cases hxb : x.label = b.label
      · simp [hxb, h]
      · simpa [hx, hxb] using ih

theorem Call.forM_congr {f g : α → Step Unit} {l : List α} (h : ∀ a ∈ l, f a = g a) :
    l.forM f = l.forM g := by
  induction l with
  | nil => rfl
  | cons a l ih =>
    obtain ⟨ha, hl⟩ := List.forall_mem_cons.1 h
    show (f a >>= fun _ => l.forM f) = (g a >>= fun _ => l.forM g)
    rw [ha, ih hl]

namespace Validator

variable {v : Validator} {heap heap' : Heap} {root b : Bean} {i : Introspection} {p : Property}
  {w : Value}

/-! ## What is read of a bean -/

/-- The properties of a bean read the same in two heaps. -/
def ReadsAlike (v : Validator) (heap heap' : Heap) (b : Bean) : Prop :=
  ∀ i, v.introspection? b.type = some i → ∀ p ∈ i.properties, ∀ copies,
    i.read p heap b copies = i.read p heap' b copies

theorem readsAlike_of_record_eq (h : heap.record b = heap'.record b) :
    v.ReadsAlike heap heap' b := by
  intro i _ p _ copies
  rw [Introspection.read, Introspection.read, h]

theorem ReadsAlike.symm (h : v.ReadsAlike heap heap' b) : v.ReadsAlike heap' heap b :=
  fun i hi p hp copies => (h i hi p hp copies).symm

theorem ReadsAlike.read_eq (h : v.ReadsAlike heap heap' b) (hi : v.introspection? b.type = some i)
    (hp : p ∈ i.properties) : Call.read heap i p b = Call.read heap' i p b := by
  funext s
  rw [read_apply, read_apply, h i hi p hp]

theorem ReadsAlike.reads (h : v.ReadsAlike heap heap' b) (hw : v.Reads heap b p w) :
    v.Reads heap' b p w := by
  obtain ⟨i, hi, hp, copies, rfl⟩ := hw
  exact ⟨i, hi, hp, copies, by rw [h i hi p hp]⟩

section Default

variable (hextractors : v.extractors = .default)
include hextractors

theorem held_eq (heap heap' : Heap) (w : Value) : v.held heap w = v.held heap' w := by
  unfold held
  rw [hextractors]
  split
  · rfl
  · split
    · rename_i hfind
      rw [ExtractorRegistry.extract_eq_of_default (.inl hfind) heap heap']
    · rfl

theorem checkProperty_eq (leaf? : Option Bean) (p : Property) (w : Value) :
    v.checkProperty heap leaf? p w = v.checkProperty heap' leaf? p w := by
  unfold checkProperty
  split
  · rename_i unwrap hunwrap
    obtain ⟨tag, -, hfind⟩ : ∃ tag, w.runtimeType? = some tag ∧
        v.extractors.unwrap.find? tag = some unwrap := by
      simp only [unwrapFor?, Option.ite_none_left_eq_some, Option.bind_eq_some_iff] at hunwrap
      exact hunwrap.2
    rw [hextractors] at hfind
    rw [Extractor.feed, Extractor.feed,
      ExtractorRegistry.extract_eq_of_default (.inr hfind) heap heap']
  · rfl

theorem checkBean_eq (alike : v.ReadsAlike heap heap' b) (hi : v.introspection? b.type = some i) :
    v.checkBean heap i b = v.checkBean heap' i b := by
  refine forM_congr fun p hp => ?_
  rw [alike.read_eq hi (List.mem_filter.1 hp).1]
  exact bind_congr fun w => checkProperty_eq hextractors (some b) p w

/-! ## Keeping within reach -/

/-- A visit of a bean within reach does the same in another heap if the visits of the beans below,
which are within reach too, do. -/
theorem visitGuardedBy_le_of_alike {f g : Introspection → Bean → Walk Unit} (guarded : Bool)
    (hb : v.Reach heap root b) (alike : v.ReadsAlike heap heap' b)
    (hi : v.introspection? b.type = some i)
    (below : ∀ t j, v.Reach heap root t → v.introspection? t.type = some j →
      Walk.Le (f j t) (g j t)) :
    Walk.Le (v.visitGuardedBy heap guarded f i b) (v.visitGuardedBy heap' guarded g i b) := by
  unfold visitGuardedBy
  rw [checkBean_eq hextractors alike hi]
  refine (Walk.Le.refl _).bind fun _ => (Walk.Le.refl _).bind fun _ => ?_
  refine (Walk.Le.refl _).bind fun _ => Walk.Le.forM fun p hp => ?_
  obtain ⟨hproperty, hcascade⟩ := List.mem_filter.1 hp
  rw [← alike.read_eq hi hproperty]
  refine Walk.Le.bind_ofStep fun s w t hread => ?_
  have hw : v.Reads heap b p w :=
    ⟨i, hi, hproperty, s.copies, Except.ok.inj (congrArg Prod.fst hread)⟩
  rw [← held_eq hextractors heap heap']
  refine Walk.Le.forM fun (element?, u) hu => ?_
  refine v.approach_le guarded b p element? fun t j ht => ?_
  obtain ⟨rfl, hj⟩ := toEnter?_eq_some.1 ht
  exact below t j (hb.step hw hcascade (List.mem_map_of_mem hu) (by rw [hj]; rfl)) hj

theorem visitGuarded_le_of_alike (guarded : Bool)
    (alike : ∀ b, v.Reach heap root b → v.ReadsAlike heap heap' b) (hb : v.Reach heap root b)
    (hi : v.introspection? b.type = some i) :
    Walk.Le (v.visitGuarded heap guarded i b) (v.visitGuarded heap' guarded i b) := by
  intro s done hdone
  -- a visit with an end is the visit of one bean whose visits below have ends in the other heap
  have key := visitGuarded.partial_correctness v heap guarded
    (fun i b s done => v.Reach heap root b → v.introspection? b.type = some i →
      v.visitGuarded heap' guarded i b s = some done)
  refine key (fun visitBelow ih i b s done hdone hb hi => ?_) i b s done hdone hb hi
  rw [visitGuarded_eq]
  refine visitGuardedBy_le_of_alike hextractors guarded hb (alike b hb) hi (g := fun j t =>
    v.visitGuarded heap' guarded j t) (fun t j ht hj s done hdone => ?_) s done hdone
  exact ih j t s done hdone ht hj

theorem Reach.of_alike (alike : ∀ b, v.Reach heap root b → v.ReadsAlike heap heap' b)
    (hb : v.Reach heap' root b) : v.Reach heap root b := by
  induction hb with
  | root => exact .root
  | step _ hw hp ht hi ih =>
    rw [targets, held_eq hextractors heap' heap] at ht
    exact ih.step ((alike _ ih).symm.reads hw) hp ht hi

/-! ## Validations -/

theorem visit_eq_of_alike (alike : ∀ b, v.Reach heap root b → v.ReadsAlike heap heap' b)
    (hi : v.introspection? root.type = some i) : v.visit heap i root = v.visit heap' i root := by
  rw [← visitGuarded_true, ← visitGuarded_true]
  funext s
  refine Option.ext fun done => ⟨fun h => ?_, fun h => ?_⟩
  · exact visitGuarded_le_of_alike hextractors true alike .root hi s done h
  · refine visitGuarded_le_of_alike hextractors true (fun b hb => ?_) .root hi s done h
    exact (alike b (hb.of_alike hextractors alike)).symm

theorem validate_eq_of_alike {object : Value}
    (alike : ∀ root, object = .bean root → ∀ b, v.Reach heap root b → v.ReadsAlike heap heap' b)
    (groups : List Group) (copies : Nat) :
    v.validate heap object groups copies = v.validate heap' object groups copies := by
  cases object with
  | bean root =>
    cases hi : v.introspection? root.type with
    | none => simp only [validate, Validator.root, hi]
    | some i =>
      simp only [validate, Validator.root, hi, visit_eq_of_alike hextractors (alike root rfl) hi]
  | _ => rfl

end Default

/-- With the extractors as they come, what a validation does is the same in all heaps in which the
properties of the beans within reach of its root read alike.  So whatever field of whatever other
bean is replaced makes no difference to it. -/
theorem validate_confined (v : Validator) (heap : Heap) (hextractors : v.extractors = .default)
    (object : Value) (groups : List Group) (copies : Nat) :
    (∀ heap', (∀ root, object = .bean root → ∀ b, v.Reach heap root b →
        v.ReadsAlike heap heap' b) →
      v.validate heap object groups copies = v.validate heap' object groups copies) ∧
    ∀ label, (∀ root, object = .bean root → ∀ b, v.Reach heap root b → b.label ≠ label) →
      ∀ field w, v.validate heap object groups copies =
        v.validate (heap.set label field w) object groups copies := by
  refine ⟨fun heap' alike => validate_eq_of_alike hextractors alike groups copies,
    fun label other field w => validate_eq_of_alike hextractors (fun root hroot b hb => ?_) groups
      copies⟩
  exact readsAlike_of_record_eq (heap.record_set_of_ne (other root hroot b hb) field w).symm

end Validator

/-! ## One side of the diamond -/

namespace Diamond

open BeanGraph.Ring (introspection validator)

/-- The left bean leads to itself and to the shared one. -/
theorem reach_left {b : Bean} (h : validator.Reach heap left b) : b = left ∨ b = shared := by
  have closed : ∀ b ∈ [left, shared], ∀ p ∈ introspection.properties, p.cascade = true →
      ∀ u ∈ validator.targets heap (introspection.get p heap b), ∀ t ∈ u.bean?,
        t ∈ [left, shared] := by
    decide +kernel
  suffices b ∈ [left, shared] by simpa using this
  induction h with
  | root => exact List.mem_cons_self
  | step _ hw hp ht _ ih =>
    obtain ⟨i, hi, hmem, rfl⟩ := hw.eq_get Ring.stable
    obtain rfl := Ring.introspection?_eq_some hi
    exact closed _ ih _ hmem hp _ ht _ rfl

/-- What is wrong in the diamond, by way of the left bean. -/
def missingLeft : Violation :=
  let hops : List Hop := [⟨"gift", some .single⟩, ⟨"name", none⟩]
  .of { Context.forRoot left [] with path := .along hops } (some shared) 0 (.ofKind .notNull) .null

end Diamond

namespace Validator

open Diamond (heap left missingLeft)

/-- The left bean is validated alike in a heap without the two that do not belong to it, and after
the name of the right one is taken away. -/
theorem diamond_confined :
    ∃ report vs, Ring.validator.validate heap (.bean left) [] 0 = some report ∧
      report.result = .ok vs ∧ vs.items = [missingLeft] ∧
      Ring.validator.validate ⟨[heap.entries[1], heap.entries[3]]⟩ (.bean left) [] 0 =
        some report ∧
      Ring.validator.validate (heap.set "right" "name" .null) (.bean left) [] 0 = some report := by
  obtain ⟨alike, other⟩ := validate_confined Ring.validator heap rfl (.bean left) [] 0
  obtain ⟨report, vs, hreport, hvs, hitems⟩ :
      ∃ report vs, Ring.validator.validateGuarded heap true (.bean left) [] 0 = some report ∧
        report.result = .ok vs ∧ vs.items = [missingLeft] :=
    validateGuarded_of_within 2 rfl (by cbv)
  rw [validateGuarded_true] at hreport
  refine ⟨report, vs, hreport, hvs, hitems, (alike _ ?_).symm.trans hreport,
    (other _ ?_ _ _).symm.trans hreport⟩
  · rintro root ⟨⟩ b hb
    refine readsAlike_of_record_eq ?_
    obtain rfl | rfl := Diamond.reach_left hb <;> rfl
  · rintro root ⟨⟩ b hb
    obtain rfl | rfl := Diamond.reach_left hb <;> decide

end Validator

end BeanGraph
