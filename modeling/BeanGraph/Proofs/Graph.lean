import BeanGraph.Traversal
import Mathlib.Data.List.Induction

/-!
# The graph that a validator sees

What a read of a property may give (`Reads`), the values that the constraints of the property are
checked on in its place (`subjects`), and the targets that it holds when it cascades (`held`): one
for each element of a container, or the value itself.

`Reach` is the least set of beans with the root in it that is closed under cascade targets with an
introspection.  A `Route` is a way from the root to a bean, hop by hop, with the beans on the way;
`Path.along` is the path of the hops taken.

`Ring` is a small graph with a cycle, and `Diamond` one in which a bean is shared, for runs that are
followed step by step.
-/

namespace BeanGraph

/-! ## Hops -/

/-- One step from a bean to what a property of it holds: to the value itself, or to an element. -/
structure Hop where
  name : String
  element? : Option Element

namespace Hop

/-- The node that stands for a hop on a path that starts with it. -/
def node (h : Hop) : PathNode :=
  match h.element? with
  | some e => .element h.name e
  | none => .property h.name

/-- Whether a hop is to one of several elements. -/
def isIterable (h : Hop) : Bool := h.element?.any Element.isIterable

@[simp] theorem name_node (h : Hop) : h.node.name = h.name := by
  unfold node
  split <;> rfl

@[simp] theorem inIterable_node (h : Hop) : h.node.inIterable = h.isIterable := by
  unfold node isIterable
  split <;> simp [PathNode.element, PathNode.property, *]

end Hop

/-- The path of hops taken one after the other. -/
def Path.along (hops : List Hop) : Path := hops.foldl (fun path hop => path.descend hop.node) .root

theorem Path.along_append_singleton (hops : List Hop) (hop : Hop) :
    Path.along (hops ++ [hop]) = (Path.along hops).descend hop.node := by
  simp [Path.along]

/-- The last node of a path of hops has the name of the last hop. -/
theorem Path.name_last?_descend (path : Path) (hop : Hop) :
    (path.descend hop.node).last?.map (·.name) = some hop.name := by
  rw [descend, last?_push]
  exact congrArg some hop.name_node

/-- A path is in an iterable once one of its hops is to one of several elements. -/
theorem Path.inIterable_along (hops : List Hop) :
    (((Path.along hops).last?).map (·.inIterable)).getD false = hops.any Hop.isIterable := by
  induction hops using List.reverseRecOn with
  | nil => rfl
  | append_singleton hops hop ih =>
    rw [along_append_singleton, descend, ih, last?_push, List.any_append]
    simp [PathNode.within, Bool.or_comm]

theorem Path.nodes_along_append_singleton (hops : List Hop) (hop : Hop) :
    (Path.along (hops ++ [hop])).nodes =
      (Path.along hops).nodes ++ [hop.node.within (hops.any Hop.isIterable)] := by
  rw [along_append_singleton, descend, inIterable_along, nodes_push]

@[simp] theorem Path.length_along (hops : List Hop) :
    (Path.along hops).nodes.length = hops.length := by
  induction hops using List.reverseRecOn with
  | nil => rfl
  | append_singleton hops hop ih => simp [nodes_along_append_singleton, ih]

/-- The node of a hop on a path is in an iterable if the hop, or one before it, is to one of several
elements. -/
theorem Path.getElem?_nodes_along {hops : List Hop} {j : Nat} {hop : Hop}
    (h : hops[j]? = some hop) :
    (Path.along hops).nodes[j]? =
      some (hop.node.within ((hops.take j).any Hop.isIterable)) := by
  induction hops using List.reverseRecOn with
  | nil => cases h
  | append_singleton hops last ih =>
    rw [nodes_along_append_singleton]
    rcases Nat.lt_or_ge j hops.length with hj | hj
    · rw [List.getElem?_append_left hj] at h
      rw [List.getElem?_append_left (by simpa using hj), ih h,
        List.take_append_of_le_length (Nat.le_of_lt hj)]
    · have hlength : j < (hops ++ [last]).length := (List.getElem?_eq_some_iff.1 h).1
      obtain rfl : j = hops.length := by
        rw [List.length_append, List.length_singleton] at hlength
        omega
      rw [List.getElem?_concat_length, Option.some.injEq] at h
      rw [List.getElem?_append_right (by simp), length_along, Nat.sub_self, h,
        List.getElem?_cons_zero, List.take_left]

/-! ## What properties hold -/

/-- The value that a first read of a property gives. -/
def Introspection.get (i : Introspection) (p : Property) (heap : Heap) (b : Bean) : Value :=
  (i.read p heap b 0).1

namespace Validator

variable (v : Validator) (heap : Heap)

/-- A read of a property of a bean may give a value. -/
def Reads (b : Bean) (p : Property) (w : Value) : Prop :=
  ∃ i, v.introspection? b.type = some i ∧ p ∈ i.properties ∧ ∃ n, (i.read p heap b n).1 = w

/-- Every property has a stable getter. -/
def Stable : Prop :=
  ∀ t i, v.introspection? t = some i → ∀ p ∈ i.properties, p.getter.Stable

/-- The values that the constraints of a property are checked on when it is read: what the value
wraps if the property does not cascade, and the value itself otherwise. -/
def subjects (p : Property) (w : Value) : List Value :=
  match v.unwrapFor? p w with
  | some unwrap => (unwrap heap w).map (·.value)
  | none => [w]

/-- The cascade targets in the value of a property: the elements of a container, each with its
place, or the value itself unless it is null. -/
def held (w : Value) : List (Option Element × Value) :=
  match w.runtimeType? with
  | none => []
  | some tag =>
    match v.extractors.cascade.find? tag with
    | some extractor => (extractor heap w).map fun e => (some e.element, e.value)
    | none => [(none, w)]

/-- The cascade targets in the value of a property, without their places. -/
def targets (w : Value) : List Value := (v.held heap w).map (·.2)

theorem eq_of_mem_held_none {w u : Value} (h : (none, u) ∈ v.held heap w) : u = w := by
  unfold held at h
  split at h
  · cases h
  · split at h
    · obtain ⟨_, _, he⟩ := List.mem_map.1 h
      cases he
    · cases List.mem_singleton.1 h
      rfl

theorem mem_held_some {w u : Value} {e : Element} :
    (some e, u) ∈ v.held heap w ↔ ∃ tag extractor, w.runtimeType? = some tag ∧
      v.extractors.cascade.find? tag = some extractor ∧ ⟨e, u⟩ ∈ extractor heap w := by
  unfold held
  split
  · rename_i htag
    simp [htag]
  · rename_i tag htag
    split
    · rename_i extractor hextractor
      constructor
      · intro h
        obtain ⟨⟨_, _⟩, he, hpair⟩ := List.mem_map.1 h
        cases hpair
        exact ⟨tag, extractor, htag, hextractor, he⟩
      · rintro ⟨tag', extractor', htag', hextractor', he⟩
        obtain rfl := Option.some.inj (htag.symm.trans htag')
        obtain rfl := Option.some.inj (hextractor.symm.trans hextractor')
        exact List.mem_map.2 ⟨_, he, rfl⟩
    · rename_i hextractor
      simp [htag, hextractor]

/-- A bean holds a target a hop away. -/
def Holds (b : Bean) (hop : Hop) (u : Value) : Prop :=
  ∃ p w, v.Reads heap b p w ∧ p.cascade = true ∧ hop.name = p.name ∧
    (hop.element?, u) ∈ v.held heap w

/-! ## Beans within reach -/

/-- The beans with an introspection that cascade properties lead to from a root, the root among
them. -/
inductive Reach (root : Bean) : Bean → Prop
  | root : Reach root root
  | step {b t : Bean} {p : Property} {w : Value} (hb : Reach root b) (hw : v.Reads heap b p w)
      (hp : p.cascade = true) (ht : .bean t ∈ v.targets heap w)
      (hi : (v.introspection? t.type).isSome) : Reach root t

/-- A way from a root by hops, and the beans on it from the root on. -/
inductive Route (root : Bean) : List Hop → List Bean → Prop
  | start : Route root [] [root]
  | hop {hops : List Hop} {beans : List Bean} {b t : Bean} {hop : Hop}
      (h : Route root hops (beans ++ [b])) (ht : v.Holds heap b hop (.bean t)) :
      Route root (hops ++ [hop]) (beans ++ [b] ++ [t])

/-- The hops of a way from a root to a bean, or further to what a property of it holds. -/
inductive Trail (root : Bean) : List Hop → Prop
  | bean {hops : List Hop} {beans : List Bean} (h : Route v heap root hops beans) : Trail root hops
  | value {hops : List Hop} {beans : List Bean} {b : Bean} {p : Property} {w : Value}
      (h : Route v heap root hops (beans ++ [b])) (hw : v.Reads heap b p w) :
      Trail root (hops ++ [⟨p.name, none⟩])
  | target {hops : List Hop} {beans : List Bean} {b : Bean} {hop : Hop} {u : Value}
      (h : Route v heap root hops (beans ++ [b])) (hu : v.Holds heap b hop u) :
      Trail root (hops ++ [hop])

variable {v heap}

theorem Route.length_beans {root : Bean} {hops : List Hop} {beans : List Bean}
    (h : v.Route heap root hops beans) : beans.length = hops.length + 1 := by
  induction h with
  | start => rfl
  | hop _ _ ih =>
    rw [List.length_append, ih, List.length_append]
    rfl

theorem Route.head_beans {root : Bean} {hops : List Hop} {beans : List Bean}
    (h : v.Route heap root hops beans) : beans.head? = some root := by
  induction h with
  | start => rfl
  | hop _ _ ih => rw [List.head?_append, ih, Option.some_or]

/-- Each hop of a way is from one bean to the next. -/
theorem Route.holds {root : Bean} {hops : List Hop} {beans : List Bean}
    (h : v.Route heap root hops beans) {j : Nat} {b t : Bean} {hop : Hop}
    (hhop : hops[j]? = some hop) (hb : beans[j]? = some b) (ht : beans[j + 1]? = some t) :
    v.Holds heap b hop (.bean t) := by
  induction h with
  | start => cases hhop
  | @hop hops beans b' t' hop' h hholds ih =>
    have hlength := h.length_beans
    rcases Nat.lt_or_ge j hops.length with hj | hj
    · rw [List.getElem?_append_left hj] at hhop
      rw [List.getElem?_append_left (by omega)] at hb ht
      exact ih hhop hb ht
    · have hj' : j < (hops ++ [hop']).length := (List.getElem?_eq_some_iff.1 hhop).1
      obtain rfl : j = hops.length := by
        rw [List.length_append, List.length_singleton] at hj'
        omega
      have hbeans : hops.length = beans.length := by simpa using hlength.symm
      rw [List.getElem?_concat_length, Option.some.injEq] at hhop
      rw [List.getElem?_append_left (by omega), hbeans, List.getElem?_concat_length,
        Option.some.injEq] at hb
      rw [← hlength, List.getElem?_concat_length, Option.some.injEq] at ht
      subst hhop hb ht
      exact hholds

theorem Holds.isSome_introspection? {b : Bean} {hop : Hop} {u : Value}
    (h : v.Holds heap b hop u) : (v.introspection? b.type).isSome := by
  obtain ⟨p, w, ⟨i, hi, -⟩, -⟩ := h
  rw [hi]
  rfl

/-- A way leads to beans within reach, as far as they have an introspection. -/
theorem Route.reach {root b : Bean} {hops : List Hop} {beans : List Bean}
    (h : v.Route heap root hops beans) (hb : beans.getLast? = some b)
    (hi : (v.introspection? b.type).isSome) : v.Reach heap root b := by
  induction h generalizing b with
  | start =>
    obtain rfl := Option.some.inj hb
    exact .root
  | @hop hops beans a t hop h ht ih =>
    rw [List.getLast?_concat, Option.some.injEq] at hb
    subst hb
    have reached := ih List.getLast?_concat ht.isSome_introspection?
    obtain ⟨p, w, hw, hp, -, hu⟩ := ht
    exact .step reached hw hp (List.mem_map_of_mem hu) hi

theorem Reads.mem_properties {b : Bean} {p : Property} {w : Value} {i : Introspection}
    (h : v.Reads heap b p w) (hi : v.introspection? b.type = some i) : p ∈ i.properties := by
  obtain ⟨j, hj, hp, -⟩ := h
  obtain rfl := Option.some.inj (hi.symm.trans hj)
  exact hp

theorem Reads.eq_get {b : Bean} {p : Property} {w : Value} (stable : v.Stable)
    (h : v.Reads heap b p w) :
    ∃ i, v.introspection? b.type = some i ∧ p ∈ i.properties ∧ w = i.get p heap b := by
  obtain ⟨i, hi, hp, n, rfl⟩ := h
  refine ⟨i, hi, hp, ?_⟩
  unfold Introspection.get Introspection.read
  split
  · exact stable _ i hi p hp _ n 0
  · rfl

end Validator

/-! ## A ring of three beans -/

namespace Ring

/-- The type of beans with a name, and with items and a gift of the same type. -/
def type : BeanType := ⟨"Item", "model::Item"⟩

/-- A name must not be null. -/
def name : Property where
  name := "name"
  declaredType := .str
  getter := .field "name"
  constraints := [.ofKind .notNull]

/-- Items are entered. -/
def items : Property where
  name := "items"
  declaredType := .list
  getter := .field "items"
  cascade := true

/-- A gift is entered, if there is one. -/
def gift : Property where
  name := "gift"
  declaredType := .optional
  getter := .field "gift"
  cascade := true

/-- A bean of the ring has a name, items and a gift. -/
def introspection : Introspection := ⟨type, [name, items, gift], by decide⟩

/-- The bean that the ring begins and ends at. -/
def first : Bean := { label := "first", type }

/-- The item of the first bean. -/
def second : Bean := { label := "second", type }

/-- The gift of the second bean. -/
def third : Bean := { label := "third", type }

/-- The beans of the ring. -/
def beans : List Bean := [first, second, third]

/-- The second bean is an item of the first one and has the third one as its gift, of which the
first one is an item.  The third bean has no name. -/
def heap : Heap where
  entries :=
    [(first, [("name", .str "a"), ("items", .list [.bean second]), ("gift", .optional none)]),
      (second, [("name", .str "b"), ("items", .list []), ("gift", .optional (some (.bean third)))]),
      (third, [("name", .null), ("items", .list [.bean first]), ("gift", .optional none)])]

/-- Knows the beans of the ring, and asks no more than whether a value is there. -/
def validator : Validator where
  introspection? t := if t = type then some introspection else none
  routines := .ofList (RoutineRegistry.onTags .notNull [.any] .notNull)

theorem introspection?_eq_some {t : BeanType} {i : Introspection}
    (h : validator.introspection? t = some i) : i = introspection := by
  simp only [validator, Option.ite_none_right_eq_some, Option.some.injEq] at h
  exact h.2.symm

theorem routine_eq_notNull {kind : ConstraintKind} {tag : TypeTag} {routine : Routine}
    (h : validator.routines.find? kind tag = some routine) : routine = .notNull := by
  obtain ⟨key, hmem⟩ := RoutineRegistry.exists_mem_of_find? h
  cases List.mem_singleton.1 hmem
  rfl

theorem stable : validator.Stable := by
  intro t i hi p hp
  rw [introspection?_eq_some hi] at hp
  have hfield : ∃ field, p.getter = .field field := by
    simp only [introspection, List.mem_cons, List.not_mem_nil, or_false] at hp
    rcases hp with rfl | rfl | rfl <;> exact ⟨_, rfl⟩
  obtain ⟨field, hfield⟩ := hfield
  rw [hfield]
  exact Getter.stable_field field

/-- The hops from the first bean to the name of the third one. -/
def hops : List Hop :=
  [⟨"items", some (.indexed 0)⟩, ⟨"gift", some .single⟩, ⟨"name", none⟩]

theorem trail_hops : validator.Trail heap first hops := by
  have reads {b : Bean} {p : Property} (hp : p ∈ introspection.properties) (hb : b.type = type) :
      validator.Reads heap b p (introspection.get p heap b) :=
    ⟨introspection, if_pos hb, hp, 0, rfl⟩
  have item : validator.Holds heap first ⟨"items", some (.indexed 0)⟩ (.bean second) :=
    ⟨items, _, reads (by simp [introspection]) rfl, rfl, rfl, .head _⟩
  have gift : validator.Holds heap second ⟨"gift", some .single⟩ (.bean third) :=
    ⟨gift, _, reads (by simp [introspection]) rfl, rfl, rfl, .head _⟩
  have atFirst : validator.Route heap first [] ([] ++ [first]) := .start
  have toSecond : validator.Route heap first [⟨"items", some (.indexed 0)⟩] ([first] ++ [second]) :=
    .hop atFirst item
  have toThird : validator.Route heap first [⟨"items", some (.indexed 0)⟩, ⟨"gift", some .single⟩]
      ([first, second] ++ [third]) :=
    .hop toSecond gift
  exact .value toThird (reads (p := name) (by simp [introspection]) rfl)

/-- The beans of the ring lead to no others. -/
theorem reach_mem {b : Bean} (h : validator.Reach heap first b) : b ∈ beans := by
  have closed : ∀ b ∈ beans, ∀ p ∈ introspection.properties, p.cascade = true →
      ∀ u ∈ validator.targets heap (introspection.get p heap b), ∀ t ∈ u.bean?, t ∈ beans := by
    decide +kernel
  induction h with
  | root => exact List.mem_cons_self
  | step _ hw hp ht _ ih =>
    obtain ⟨i, hi, hmem, rfl⟩ := hw.eq_get stable
    obtain rfl := introspection?_eq_some hi
    exact closed _ ih _ hmem hp _ ht _ rfl

end Ring

/-! ## A diamond of four beans -/

namespace Diamond

open BeanGraph.Ring (type introspection validator)

/-- The bean on top, with two items. -/
def top : Bean := { label := "top", type }

/-- The first item. -/
def left : Bean := { label := "left", type }

/-- The second item. -/
def right : Bean := { label := "right", type }

/-- The gift of both items. -/
def shared : Bean := { label := "shared", type }

/-- The beans of the diamond. -/
def beans : List Bean := [top, left, right, shared]

/-- Both items of the bean on top have the same gift, which has no name. -/
def heap : Heap where
  entries :=
    [(top, [("name", .str "t"), ("items", .list [.bean left, .bean right]),
        ("gift", .optional none)]),
      (left, [("name", .str "l"), ("items", .list []), ("gift", .optional (some (.bean shared)))]),
      (right, [("name", .str "r"), ("items", .list []), ("gift", .optional (some (.bean shared)))]),
      (shared, [("name", .null), ("items", .list []), ("gift", .optional none)])]

/-- The beans of the diamond lead to later ones only. -/
theorem targets_later : ∀ b ∈ beans, ∀ p ∈ introspection.properties, p.cascade = true →
    ∀ u ∈ validator.targets heap (introspection.get p heap b), ∀ t ∈ u.bean?,
      t ∈ beans ∧ beans.idxOf b < beans.idxOf t := by
  decide +kernel

theorem reach_mem {root b : Bean} (hroot : root ∈ beans) (h : validator.Reach heap root b) :
    b ∈ beans := by
  induction h with
  | root => exact hroot
  | step _ hw hp ht _ ih =>
    obtain ⟨i, hi, hmem, rfl⟩ := hw.eq_get Ring.stable
    obtain rfl := Ring.introspection?_eq_some hi
    exact (targets_later _ ih _ hmem hp _ ht _ rfl).1

/-- From the left there is a way to the shared bean only, by the gift. -/
theorem hops_of_route {hops : List Hop} {way : List Bean} (h : validator.Route heap left hops way)
    {t : Bean} (ht : way.getLast? = some t) :
    t = left ∧ hops = [] ∨ t = shared ∧ hops = [⟨"gift", some .single⟩] := by
  have ofLeft : ∀ p ∈ introspection.properties, p.cascade = true →
      ∀ target ∈ validator.held heap (introspection.get p heap left),
        p.name = "gift" ∧ target = (some .single, .bean shared) := by
    decide +kernel
  have ofShared : ∀ p ∈ introspection.properties, p.cascade = true →
      validator.held heap (introspection.get p heap shared) = [] := by
    decide +kernel
  induction h generalizing t with
  | start =>
    obtain rfl := Option.some.inj ht
    exact .inl ⟨rfl, rfl⟩
  | @hop hops way b t' hop h hholds ih =>
    rw [List.getLast?_concat, Option.some.injEq] at ht
    subst ht
    obtain ⟨p, w, hw, hp, hname, hheld⟩ := hholds
    obtain ⟨i, hi, hmem, rfl⟩ := hw.eq_get Ring.stable
    obtain rfl := Ring.introspection?_eq_some hi
    obtain ⟨rfl, rfl⟩ | ⟨rfl, rfl⟩ := ih List.getLast?_concat
    · obtain ⟨hgift, htarget⟩ := ofLeft p hmem hp _ hheld
      obtain ⟨helement, ht⟩ := Prod.mk.inj htarget
      obtain ⟨name, element?⟩ := hop
      obtain rfl : name = "gift" := hname.trans hgift
      obtain rfl : element? = some .single := helement
      exact .inr ⟨Value.bean.inj ht, rfl⟩
    · rw [ofShared p hmem hp] at hheld
      cases hheld

end Diamond

end BeanGraph
