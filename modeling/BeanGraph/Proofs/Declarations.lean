import BeanGraph.Proofs.Outcome
import BeanGraph.Proofs.Verdict

/-!
# A call for each declaration

A check of a value goes through the kinds of the applicable declarations, and through the
declarations of each kind.  It calls a routine once for every declaration that there is one for, and
for those alone: kinds in the order in which they are first declared, and declarations of one kind
in theirs.

* `pairwise_askings`: the order in which declarations are asked about, which names each once;
* `Makes`: the calls that a step makes if it goes well;
* `calls_for_each_declaration`: the calls of a check, and what it records.
-/

namespace BeanGraph

open Call

/-! ## The order of declarations -/

namespace Property

/-- The position of the first applicable declaration of a kind. -/
def first (p : Property) (groups : List Group) (kind : ConstraintKind) : Nat :=
  p.constraints.findIdx fun c => decide (c.kind = kind) && c.appliesTo groups

/-- A declaration is asked about before another one: its kind is the first to be declared, or they
are of one kind and it is declared first itself. -/
def Before (p : Property) (groups : List Group) (d e : Nat × Constraint) : Prop :=
  p.first groups d.2.kind < p.first groups e.2.kind ∨ d.2.kind = e.2.kind ∧ d.1 < e.1

variable {p : Property} {groups : List Group} {kind : ConstraintKind} {d e : Nat × Constraint}

theorem first_le (h : d ∈ p.applicable groups) : p.first groups d.2.kind ≤ d.1 := by
  obtain ⟨declaration, c⟩ := d
  obtain ⟨hc, hgroups⟩ := mem_applicable.1 h
  by_contra hlt
  obtain ⟨hlength, rfl⟩ := List.getElem?_eq_some_iff.1 hc
  have hnot := List.not_of_lt_findIdx (Nat.lt_of_not_le hlt)
  simp [hgroups] at hnot

theorem exists_first (h : kind ∈ p.kinds groups) :
    ∃ d ∈ p.applicable groups, d.2.kind = kind ∧ d.1 = p.first groups kind := by
  obtain ⟨⟨declaration, c⟩, hd, hkind⟩ := mem_kinds.1 h
  obtain ⟨hc, hgroups⟩ := mem_applicable.1 hd
  have hlt : p.first groups kind < p.constraints.length :=
    List.findIdx_lt_length_of_exists ⟨c, List.mem_of_getElem? hc, by simpa [hgroups] using hkind⟩
  have hfirst := List.findIdx_getElem (w := hlt)
  rw [Bool.and_eq_true, decide_eq_true_eq] at hfirst
  exact ⟨(_, p.constraints[p.first groups kind]),
    mem_applicable.2 ⟨List.getElem?_eq_getElem hlt, hfirst.2⟩, hfirst.1, rfl⟩

theorem pairwise_declarations (p : Property) : p.declarations.Pairwise fun d e => d.1 < e.1 := by
  have hpositions : (p.constraints.zipIdx.map Prod.snd).Pairwise (· < ·) := by
    rw [List.zipIdx_map_snd]
    exact List.pairwise_lt_range'
  exact List.pairwise_map.2 (List.pairwise_map.1 hpositions)

/-- Of declarations in order, the kinds are collected in the order in which they come first. -/
theorem pairwise_foldl_kinds {ds : List (Nat × Constraint)}
    (hds : ds.Pairwise fun d e => d.1 < e.1) :
    (ds.foldl (fun kinds (_, c) =>
      if kinds.contains c.kind then kinds else kinds ++ [c.kind]) []).Pairwise fun k k' =>
        ∃ d ∈ ds, d.2.kind = k ∧ ∀ e ∈ ds, e.2.kind = k' → d.1 < e.1 := by
  induction ds using List.reverseRecOn with
  | nil => exact .nil
  | append_singleton ds last ih =>
    obtain ⟨position, c⟩ := last
    obtain ⟨hds, -, hlast⟩ := List.pairwise_append.1 hds
    have earlier {d : Nat × Constraint} (hd : d ∈ ds) : d.1 < position :=
      hlast d hd _ (List.mem_singleton_self _)
    have still {k k' : ConstraintKind}
        (h : ∃ d ∈ ds, d.2.kind = k ∧ ∀ e ∈ ds, e.2.kind = k' → d.1 < e.1) :
        ∃ d ∈ ds ++ [(position, c)], d.2.kind = k ∧
          ∀ e ∈ ds ++ [(position, c)], e.2.kind = k' → d.1 < e.1 := by
      obtain ⟨d, hd, hkind, hbefore⟩ := h
      refine ⟨d, List.mem_append_left _ hd, hkind, fun e he hkind' => ?_⟩
      obtain he | he := List.mem_append.1 he
      · exact hbefore e he hkind'
      · rw [List.mem_singleton.1 he]
        exact earlier hd
    have collected := (ih hds).imp still
    rw [List.foldl_append, List.foldl_cons, List.foldl_nil]
    dsimp only at collected ⊢
    split
    · exact collected
    · rename_i fresh
      refine List.pairwise_append.2 ⟨collected, List.pairwise_singleton .., ?_⟩
      intro k hk k' hk'
      obtain rfl := List.mem_singleton.1 hk'
      obtain ⟨d, hd, hkind⟩ := ((mem_foldl_kinds ds []).1 hk).resolve_left List.not_mem_nil
      refine ⟨d, List.mem_append_left _ hd, hkind, fun e he hkind' => ?_⟩
      -- the kind is new, so the last declaration is the only one of it
      obtain he | he := List.mem_append.1 he
      · refine absurd (List.contains_iff_mem.2 ?_) fresh
        exact (mem_foldl_kinds ds []).2 (.inr ⟨e, he, hkind'⟩)
      · rw [List.mem_singleton.1 he]
        exact earlier hd

theorem pairwise_kinds (p : Property) (groups : List Group) :
    (p.kinds groups).Pairwise fun k k' => p.first groups k < p.first groups k' := by
  have hds : (p.applicable groups).Pairwise fun d e => d.1 < e.1 := p.pairwise_declarations.filter _
  refine (pairwise_foldl_kinds hds).imp_of_mem ?_
  rintro k k' - hk' ⟨d, hd, rfl, hbefore⟩
  obtain ⟨e, he, hkind, hfirst⟩ := exists_first hk'
  calc p.first groups d.2.kind ≤ d.1 := first_le hd
    _ < e.1 := hbefore e he hkind
    _ = p.first groups k' := hfirst

/-- Declarations of which one is asked about before the other stand in two places. -/
theorem Before.ne_position (h : p.Before groups d e) (hd : p.constraints[d.1]? = some d.2)
    (he : p.constraints[e.1]? = some e.2) : d.1 ≠ e.1 := by
  intro hposition
  rw [hposition, he, Option.some.injEq] at hd
  obtain h | ⟨-, h⟩ := h
  · rw [hd] at h
    exact Nat.lt_irrefl _ h
  · exact Nat.ne_of_lt h hposition

end Property

namespace Validator

variable {v : Validator} {leaf? : Option Bean} {p : Property} {value : Value} {groups : List Group}

theorem pairwise_askings (v : Validator) (groups : List Group) (p : Property) (value : Value) :
    (v.askings groups p value).Pairwise fun a b => p.Before groups a.2 b.2 := by
  rw [askings_eq]
  refine List.pairwise_flatMap.2 ⟨fun kind _ => ?_, (p.pairwise_kinds groups).imp ?_⟩
  · unfold asked
    split
    · exact .nil
    · have hds : (p.ofKind kind groups).Pairwise fun d e => d.1 < e.1 :=
        p.pairwise_declarations.filter _
      refine List.pairwise_map.2 (hds.imp_of_mem fun {d e} hd he hlt => .inr ⟨?_, hlt⟩)
      rw [(Property.mem_ofKind.1 hd).2, (Property.mem_ofKind.1 he).2]
  · intro k k' hfirst a ha b hb
    refine .inl ?_
    rw [(mem_asked.1 ha).2, (mem_asked.1 hb).2]
    exact hfirst

end Validator

/-! ## The calls of steps -/

/-- A step that is begun in a context and goes well makes these calls, and stays in the context. -/
def Call.Makes (x : Step Unit) (c : Context) (calls : List RoutineCall) : Prop :=
  ∀ s t : Progress, s.context = c → x s = (.ok (), t) →
    t.context = c ∧ t.calls = s.calls ++ calls

namespace Call

variable {α : Type} {c : Context} {x y : Step Unit} {calls calls' : List RoutineCall}

theorem makes_pure : Makes (pure ()) c [] := by
  rintro s t hs ⟨⟩
  exact ⟨hs, (List.append_nil _).symm⟩

theorem makes_record {e : Event} (h : e.call? = none) : Makes (record e) c [] := by
  rintro s t hs ⟨⟩
  exact ⟨hs, (Progress.calls_record_of_none h s).trans (List.append_nil _).symm⟩

theorem makes_context {f : Context → Step Unit} (h : Makes (f c) c calls) :
    Makes (context >>= f) c calls := by
  rintro s t rfl hdone
  rw [bind_apply, context_apply] at hdone
  exact h s t rfl hdone

theorem Makes.bind (hx : Makes x c calls) (hy : Makes y c calls') :
    Makes (x >>= fun _ => y) c (calls ++ calls') := by
  intro s t hs h
  rw [bind_apply] at h
  rcases hdone : x s with ⟨_ | _, u⟩ <;> rw [hdone] at h
  · cases h
  · obtain ⟨hu, hcalls⟩ := hx s u hs hdone
    obtain ⟨ht, hcalls'⟩ := hy u t hu h
    exact ⟨ht, by rw [hcalls', hcalls, List.append_assoc]⟩

theorem makes_forM {f : α → Step Unit} {made : α → List RoutineCall} {l : List α}
    (h : ∀ a ∈ l, Makes (f a) c (made a)) : Makes (l.forM f) c (l.flatMap made) := by
  induction l with
  | nil => exact makes_pure
  | cons a l ih =>
    exact (h a List.mem_cons_self).bind (ih fun b hb => h b (List.mem_cons_of_mem _ hb))

end Call

/-! ## The calls of a check -/

namespace RoutineCall

/-- The routine has answered no. -/
def rejected (call : RoutineCall) : Bool :=
  match call.answer with
  | .ok valid => !valid
  | .error _ => false

/-- The violation that the value is recorded as if the routine has answered no. -/
def finding (leaf? : Option Bean) (call : RoutineCall) : Violation :=
  .of call.context leaf? call.declaration call.constraint call.value

end RoutineCall

namespace Validator

variable {v : Validator} {leaf? : Option Bean} {p : Property} {value : Value} {groups : List Group}
  {s t : Progress}

/-- The calls that a check of a value makes in a state, in order. -/
def callsOf (v : Validator) (s : Progress) (p : Property) (value : Value) : List RoutineCall :=
  (v.askings s.context.groups p value).map fun (routine, declaration, c) =>
    s.callOf routine declaration c value

theorem makes_judge {routine : Routine} {declaration : Nat} {c : Constraint} :
    Makes (judge leaf? routine declaration c value) s.context
      [s.callOf routine declaration c value] := by
  intro s' t hs h
  obtain rfl : (judge leaf? routine declaration c value s').2 = t := congrArg Prod.snd h
  refine ⟨(context_judge ..).trans hs, (calls_judge ..).trans ?_⟩
  rw [Progress.callOf, hs]
  rfl

theorem makes_checkValue :
    Makes (v.checkValue leaf? p value) s.context (v.callsOf s p value) := by
  rw [checkValue, callsOf, askings, List.map_flatMap]
  refine makes_context (makes_forM fun kind _ => ?_)
  cases v.routines.find? kind (value.runtimeType?.getD p.declaredType) with
  | none => exact makes_context (makes_record (e := .logged (.noRoutine ..)) rfl)
  | some routine =>
    rw [List.map_map, List.map_eq_flatMap]
    exact makes_forM fun _ _ => makes_judge

theorem mem_callsOf {call : RoutineCall} :
    call ∈ v.callsOf s p value ↔ ∃ routine declaration c,
      v.Applies s.context.groups p value routine declaration c ∧
        call = s.callOf routine declaration c value := by
  simp only [callsOf, List.mem_map, Prod.exists, mem_askings, eq_comm]

theorem declared_of_mem_callsOf {call : RoutineCall} (h : call ∈ v.callsOf s p value) :
    p.constraints[call.declaration]? = some call.constraint := by
  obtain ⟨routine, declaration, c, happlies, rfl⟩ := mem_callsOf.1 h
  exact (Property.mem_applicable.1 happlies.1).1

theorem pairwise_callsOf (v : Validator) (s : Progress) (p : Property) (value : Value) :
    (v.callsOf s p value).Pairwise fun call call' =>
      p.Before s.context.groups (call.declaration, call.constraint)
        (call'.declaration, call'.constraint) :=
  List.pairwise_map.2 (v.pairwise_askings s.context.groups p value)

theorem nodup_callsOf (v : Validator) (s : Progress) (p : Property) (value : Value) :
    ((v.callsOf s p value).map (·.declaration)).Nodup := by
  refine List.pairwise_map.2 ((v.pairwise_callsOf s p value).imp_of_mem ?_)
  exact fun hcall hcall' hbefore =>
    hbefore.ne_position (declared_of_mem_callsOf hcall) (declared_of_mem_callsOf hcall')

/-! ## What a check records -/

theorem found_verdict (s : Progress) (leaf? : Option Bean) (routine : Routine) (declaration : Nat)
    (c : Constraint) (value : Value) :
    (routine.verdict s.context leaf? declaration c value).found =
      ([s.callOf routine declaration c value].filter (·.rejected)).map (·.finding leaf?) := by
  unfold Routine.verdict
  cases h : routine.check value c s.context with
  | error e => simp [RoutineCall.rejected, Progress.callOf, h, Verdict.found]
  | ok valid => cases valid <;> simp [RoutineCall.rejected, RoutineCall.finding, Progress.callOf, h]

/-- What is found in a value is what the calls that answer no are recorded as. -/
theorem verdict_of_answered
    (answered : ∀ routine declaration c, v.Applies s.context.groups p value routine declaration c →
      ∃ valid, routine.check value c s.context = .ok valid) :
    v.verdict s.context leaf? p value =
      .ok (((v.callsOf s p value).filter (·.rejected)).map (·.finding leaf?)) := by
  refine Verdict.all_eq_ok_iff.2 ⟨fun a ha => ?_, ?_⟩
  · obtain ⟨⟨routine, declaration, c⟩, hasking, rfl⟩ := List.mem_map.1 ha
    obtain ⟨valid, hvalid⟩ := answered routine declaration c (mem_askings.1 hasking)
    simp only [Routine.verdict, hvalid]
    cases valid <;> exact ⟨_, rfl⟩
  · rw [callsOf, List.flatMap_map]
    induction v.askings s.context.groups p value with
    | nil => rfl
    | cons asking askings ih =>
      rw [List.flatMap_cons, ← ih, List.map_cons, ← List.singleton_append, List.filter_append,
        List.map_append, found_verdict]

/-- The findings of calls for distinct declarations are distinct. -/
theorem pairwise_finding {calls : List RoutineCall} (h : (calls.map (·.declaration)).Nodup)
    (leaf? : Option Bean) :
    (calls.map (·.finding leaf?)).Pairwise fun x y => (x == y) = false := by
  refine List.pairwise_map.2 ((List.pairwise_map.1 h).imp fun {call call'} hne => ?_)
  rw [← Bool.not_eq_true]
  exact fun heq => hne (Violation.agrees_of_beq heq).2.2.2

open Classical in
/-- If the value is rejected for a constraint, this is found as often as the constraint is
declared. -/
theorem length_finding_of_rejected {routine : Routine} {c : Constraint}
    (happlies : c.appliesTo s.context.groups = true)
    (hroutine : v.routines.find? c.kind (value.runtimeType?.getD p.declaredType) = some routine)
    (rejected : routine.check value c s.context = .ok false) :
    ((((v.callsOf s p value).filter (·.rejected)).map (·.finding leaf?)).filter
        (·.constraint = c)).length = (p.constraints.filter (· = c)).length := by
  let calls := ((v.callsOf s p value).filter (·.rejected)).filter (·.constraint = c)
  let positions := (p.constraints.zipIdx.filter (·.1 = c)).map Prod.snd
  have hcalls : ((((v.callsOf s p value).filter (·.rejected)).map (·.finding leaf?)).filter
      (·.constraint = c)).length = (calls.map (·.declaration)).length := by
    rw [List.filter_map, List.length_map, List.length_map]
    rfl
  have hpositions : (p.constraints.filter (· = c)).length = positions.length := by
    conv_lhs => rw [← List.zipIdx_map_fst 0 p.constraints]
    rw [List.filter_map, List.length_map, List.length_map]
    rfl
  rw [hcalls, hpositions]
  refine List.Perm.length_eq ((List.perm_ext_iff_of_nodup ?_ ?_).2 fun declaration => ?_)
  · exact (v.nodup_callsOf s p value).sublist
      ((List.filter_sublist.trans List.filter_sublist).map _)
  · exact (List.nodup_zipIdx_map_snd _).sublist (List.filter_sublist.map _)
  · have hposition : declaration ∈ positions ↔ p.constraints[declaration]? = some c := by
      simp [positions, List.mem_zipIdx_iff_getElem?]
    rw [hposition]
    simp only [calls, List.mem_map, List.mem_filter, decide_eq_true_eq]
    constructor
    · rintro ⟨call, ⟨⟨hcall, -⟩, rfl⟩, rfl⟩
      exact declared_of_mem_callsOf hcall
    · intro hc
      have hasked := mem_callsOf.2
        ⟨routine, declaration, c, ⟨Property.mem_applicable.2 ⟨hc, happlies⟩, hroutine⟩, rfl⟩
      refine ⟨_, ⟨⟨hasked, ?_⟩, rfl⟩, rfl⟩
      simp [RoutineCall.rejected, Progress.callOf, rejected]

open Classical in
/-- If no routine fails on a value, a check of it goes well.  It makes one call for every applicable
declaration with a routine for the type of the value, of the declared type for null: first those of
the kind that is declared first, and those of one kind in order.  If none of what it finds is
recorded yet, then it records in this order one violation for each call that answers no; so what is
declared more than once and rejected is recorded as many times. -/
theorem calls_for_each_declaration (v : Validator) (leaf? : Option Bean) (p : Property)
    (value : Value) (s : Progress)
    (answered : ∀ routine declaration c, v.Applies s.context.groups p value routine declaration c →
      ∃ valid, routine.check value c s.context = .ok valid) :
    ∃ t calls, v.checkValue leaf? p value s = (.ok (), t) ∧ t.calls = s.calls ++ calls ∧
      (∀ call, call ∈ calls ↔ ∃ routine declaration c, p.constraints[declaration]? = some c ∧
        c.appliesTo s.context.groups = true ∧
        v.routines.find? c.kind (value.runtimeType?.getD p.declaredType) = some routine ∧
        call = s.callOf routine declaration c value) ∧
      (calls.map (·.declaration)).Nodup ∧
      (calls.Pairwise fun call call' => p.Before s.context.groups
        (call.declaration, call.constraint) (call'.declaration, call'.constraint)) ∧
      let found := (calls.filter (·.rejected)).map (·.finding leaf?)
      ((∀ x ∈ found, s.violations.contains x = false) →
        t.violations.items = s.violations.items ++ found) ∧
      ∀ routine c, c.appliesTo s.context.groups = true →
        v.routines.find? c.kind (value.runtimeType?.getD p.declaredType) = some routine →
        routine.check value c s.context = .ok false →
        (found.filter (·.constraint = c)).length = (p.constraints.filter (· = c)).length := by
  have hbears : s.Bears (v.checkValue leaf? p value s) (v.verdict s.context leaf? p value) :=
    judges_checkValue s rfl
  rw [verdict_of_answered answered] at hbears
  obtain ⟨hok, hadds⟩ := hbears
  have hdone : v.checkValue leaf? p value s = (.ok (), (v.checkValue leaf? p value s).2) :=
    Prod.ext hok rfl
  refine ⟨_, v.callsOf s p value, hdone, (makes_checkValue s _ rfl hdone).2, fun call => ?_,
    v.nodup_callsOf s p value, v.pairwise_callsOf s p value, fun fresh => ?_,
    fun routine c => length_finding_of_rejected⟩
  · simp only [mem_callsOf, Applies, Property.mem_applicable, and_assoc]
  · rw [hadds.violations]
    refine ViolationSet.items_insertAll_of_fresh fresh (pairwise_finding ?_ leaf?)
    exact (v.nodup_callsOf s p value).sublist (List.filter_sublist.map _)

end Validator

/-! ## A price -/

namespace Price

/-- At least five, which is declared twice, at most nine, and at least seven if the call is
strict. -/
def price : Property where
  name := "price"
  declaredType := .int
  getter := .field "price"
  constraints := [.min 5, .max 9, .min 5, (Constraint.min 7).inGroups [⟨"Strict"⟩]]

/-- The type of items with a price. -/
def type : BeanType := ⟨"Item", "model::Item"⟩

/-- Where a candidate for the price is checked, for no groups in particular. -/
def start : Progress :=
  { context := (Context.detached type []).push "price", copies := 0, violations := .empty
    events := #[] }

/-- Asks the built-in routines. -/
def validator : Validator := {}

theorem answered : ∀ routine declaration c,
    validator.Applies [] price (.int 3) routine declaration c →
      ∃ valid, routine.check (.int 3) c start.context = .ok valid := by
  rintro routine declaration c ⟨happlicable, hroutine⟩
  obtain ⟨hc, -⟩ := Property.mem_applicable.1 happlicable
  have hmem : c ∈ price.constraints := List.mem_of_getElem? hc
  simp only [price, List.mem_cons, List.not_mem_nil, or_false] at hmem
  rcases hmem with rfl | rfl | rfl | rfl <;> obtain rfl := Option.some.inj hroutine <;>
    exact ⟨_, rfl⟩

end Price

namespace Validator

open Price (price start validator)

open Classical in
/-- A price of three is too low, twice. -/
theorem low_price_found_twice :
    ∃ t, validator.checkValue none price (.int 3) start = (.ok (), t) ∧
      t.calls.map (·.declaration) = [0, 2, 1] ∧
      t.violations.items =
        [.of start.context none 0 (.min 5) (.int 3), .of start.context none 2 (.min 5) (.int 3)] ∧
      (t.violations.items.filter (·.constraint = .min 5)).length =
        (price.constraints.filter (· = .min 5)).length := by
  obtain ⟨t, calls, hdone, hcalls, -, -, -, hrecorded, hcount⟩ :=
    calls_for_each_declaration validator none price (.int 3) start Price.answered
  obtain rfl : (validator.checkValue none price (.int 3) start).2 = t := congrArg Prod.snd hdone
  obtain rfl : (validator.checkValue none price (.int 3) start).2.calls = calls := hcalls
  have hviolations := hrecorded fun _ _ => rfl
  refine ⟨_, hdone, rfl, hviolations, ?_⟩
  rw [hviolations]
  exact hcount _ (.min 5) rfl rfl rfl

end Validator

end BeanGraph
