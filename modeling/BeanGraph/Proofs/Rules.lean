import BeanGraph.Traversal

/-!
# Rules for walks

`x.Leads s P D` says of a walk `x` begun in the state `s` that `P` holds of how it ends and the
state it leaves, and that `D` holds if it has no end.  With `D := True` this says nothing of an
endless walk, with `D := False` that there is an end.

There is one rule for each way of putting walks together.  A step is a walk that ends
(`Walk.ofStep`), and the steps of the traversal are computed by `simp` through their values at a
state.
-/

namespace BeanGraph

open Call

/-! ## Steps at a state -/

/-- What is read off the events so far grows at its end with each event. -/
theorem Progress.filterMap_record {α : Type} (f : Event → Option α) (s : Progress) (e : Event) :
    (s.record e).events.toList.filterMap f = s.events.toList.filterMap f ++ (f e).toList := by
  simp only [record, Array.toList_push, List.filterMap_append]
  cases h : f e <;> simp [h]

namespace Call

variable (s : Progress)

theorem bind_apply (x : Step α) (f : α → Step β) :
    (x >>= f) s =
      match x s with
      | (.ok a, t) => f a t
      | (.error e, t) => (.error e, t) := by
  simp only [bind, ExceptT.bind, ExceptT.mk, StateT.bind, ExceptT.bindCont]
  obtain ⟨_ | _, _⟩ := x s <;> rfl

@[simp] theorem record_apply (e : Event) : record e s = (.ok (), s.record e) := rfl

@[simp] theorem context_apply : context s = (.ok s.context, s) := rfl

@[simp] theorem changeContext_apply (f : Context → Context) :
    changeContext f s = (.ok (), s.changeContext f) := rfl

@[simp] theorem read_apply (heap : Heap) (i : Introspection) (p : Property) (b : Bean) :
    read heap i p b s =
      (.ok (i.read p heap b s.copies).1, { s with copies := (i.read p heap b s.copies).2 }) := rfl

/-- The event of asking a routine. -/
def called (routine : Routine) (declaration : Nat) (c : Constraint) (value : Value) : Event :=
  .called ⟨routine.name, c, declaration, value, s.context, routine.check value c s.context⟩

theorem judge_apply (leaf? : Option Bean) (routine : Routine) (declaration : Nat) (c : Constraint)
    (value : Value) :
    judge leaf? routine declaration c value s =
      match routine.check value c s.context with
      | .ok true => (.ok (), s.record (called s routine declaration c value))
      | .ok false =>
        (.ok (), ((s.record (called s routine declaration c value)).record
          (.logged (.violated s.context.path c.kind))).insert
            (.of s.context leaf? declaration c value))
      | .error e =>
        (.error (.evaluation c.kind s.context.path e),
          s.record (called s routine declaration c value)) := by
  simp only [judge, ask, violate, bind_apply, context_apply, record_apply, called]
  cases routine.check value c s.context with
  | error e => rfl
  | ok valid => cases valid <;> rfl

@[simp] theorem context_judge (leaf? : Option Bean) (routine : Routine) (declaration : Nat)
    (c : Constraint) (value : Value) :
    (judge leaf? routine declaration c value s).2.context = s.context := by
  rw [judge_apply]
  split <;> rfl

end Call

namespace Walk

variable {α β : Type}

/-! ## Steps as walks -/

theorem ofStep_bind (x : Step α) (f : α → Step β) :
    ofStep (x >>= f) = ofStep x >>= fun a => ofStep (f a) := by
  funext s
  rw [bind_apply, ofStep_apply, Call.bind_apply, ofStep_apply]
  obtain ⟨_ | _, _⟩ := x s <;> rfl

theorem ofStep_forM (f : α → Step Unit) (l : List α) :
    ofStep (l.forM f) = l.forM fun a => ofStep (f a) := by
  induction l with
  | nil => rfl
  | cons a l ih =>
    show ofStep (f a >>= fun _ => l.forM f) = _
    rw [ofStep_bind, ih]
    rfl

theorem ofStep_feed (x : Extractor) (heap : Heap) (container : Value)
    (receiver : Extracted → Step Unit) :
    ofStep (x.feed heap container receiver) =
      (x heap container).forM fun e => ofStep (receiver e) := by
  rw [← ofStep_forM, Extractor.feed_eq_forM]

/-- A step that is known to go well passes on to what follows it. -/
theorem ofStep_bind_apply {x : Step α} {f : α → Walk β} {s t : Progress} {a : α}
    (hx : x s = (.ok a, t)) : (ofStep x >>= f) s = f a t := by
  rw [bind_apply, ofStep_apply, hx]

@[simp] theorem ofStep_below (name : String) (x : Step α) :
    ofStep (below name x) = below name (ofStep x) := rfl

/-! ## Assertions -/

/-- `P` holds of how the walk ends and of the state it leaves, or it has no end and `D` holds. -/
def Leads (x : Walk α) (s : Progress) (P : Except Failure α → Progress → Prop) (D : Prop) : Prop :=
  match x s with
  | some (r, t) => P r t
  | none => D

variable {s : Progress} {P : Except Failure α → Progress → Prop} {D : Prop}

theorem Leads.of_eq_some {x : Walk α} (h : x.Leads s P D) {r : Except Failure α} {t : Progress}
    (hx : x s = some (r, t)) : P r t := by
  unfold Leads at h
  rwa [hx] at h

theorem leads_iff {x : Walk α} :
    x.Leads s P D ↔ (∀ r t, x s = some (r, t) → P r t) ∧ (x s = none → D) := by
  unfold Leads
  cases x s with
  | none => simp
  | some o =>
    obtain ⟨r, t⟩ := o
    refine ⟨fun h => ⟨fun r' t' e => ?_, nofun⟩, fun h => h.1 r t rfl⟩
    cases e
    exact h

theorem Leads.mono {x : Walk α} {P' : Except Failure α → Progress → Prop} (h : x.Leads s P D)
    (hP : ∀ r t, P r t → P' r t) : x.Leads s P' D := by
  unfold Leads at h ⊢
  split
  · rename_i hx
    rw [hx] at h
    exact hP _ _ h
  · rename_i hx
    rwa [hx] at h

theorem leads_pure {a : α} (h : P (.ok a) s) : (pure a : Walk α).Leads s P D := h

theorem leads_ofStep {x : Step α} : (ofStep x).Leads s P D ↔ P (x s).1 (x s).2 := Iff.rfl

theorem Leads.bind {x : Walk α} {f : α → Walk β} {P' : Except Failure β → Progress → Prop}
    (hx : x.Leads s P D) (hok : ∀ a t, P (.ok a) t → (f a).Leads t P' D)
    (herror : ∀ e t, P (.error e) t → P' (.error e) t) : (x >>= f).Leads s P' D := by
  unfold Leads at hx ⊢
  rw [bind_apply]
  cases hs : x s with
  | none => rwa [hs] at hx
  | some o =>
    rw [hs] at hx
    obtain ⟨e | a, t⟩ := o
    · exact herror e t hx
    · exact hok a t hx

theorem leads_bind_ofStep {x : Step β} {f : β → Walk α} {b : β} {t : Progress}
    (hx : x s = (.ok b, t)) : (ofStep x >>= f).Leads s P D ↔ (f b).Leads t P D := by
  unfold Leads
  rw [ofStep_bind_apply hx]

theorem Leads.below {name : String} {x : Walk α}
    (h : x.Leads (s.push name) (fun r t => P r t.pop) D) : Leads (below name x) s P D := by
  unfold Leads at h ⊢
  simp only [Call.below, Option.map_eq_map]
  cases hx : x (s.push name) with
  | none => rwa [hx] at h
  | some o => rwa [hx] at h

theorem leads_forM {f : β → Walk Unit} {l : List β} {P : Except Failure Unit → Progress → Prop}
    (hs : P (.ok ()) s) (hf : ∀ b ∈ l, ∀ t, P (.ok ()) t → (f b).Leads t P D) :
    (l.forM f).Leads s P D := by
  induction l generalizing s with
  | nil => exact hs
  | cons b l ih =>
    refine Leads.bind (hf b List.mem_cons_self s hs) (fun _ t ht => ?_) fun _ _ h => h
    exact ih ht fun b' hb' => hf b' (List.mem_cons_of_mem _ hb')

/-- What a walk leads to it leads to as what it comes to. -/
theorem Leads.and_run {x : Walk α} (h : x.Leads s P D) :
    x.Leads s (fun r t => P r t ∧ x s = some (r, t)) D :=
  leads_iff.2 ⟨fun _ _ hx => ⟨h.of_eq_some hx, hx⟩, (leads_iff.1 h).2⟩

theorem forM_append_singleton {f : β → Walk Unit} {l : List β} {b : β} {t : Progress}
    (hl : l.forM f s = some (.ok (), t)) : (l ++ [b]).forM f s = f b t := by
  have happend : (l ++ [b]).forM f = l.forM f >>= fun _ => [b].forM f := List.forM_append
  have hsingle : [b].forM f = f b := bind_pure (f b)
  rw [happend, bind_apply, hl, hsingle]

/-- A turn of a loop begins in the state that the turns before it leave. -/
theorem leads_forM_prefix {f : β → Walk Unit} {l : List β}
    {P : Except Failure Unit → Progress → Prop} (hs : P (.ok ()) s)
    (hf : ∀ before b after t, l = before ++ b :: after → before.forM f s = some (.ok (), t) →
      P (.ok ()) t → (f b).Leads t P D) :
    (l.forM f).Leads s P D := by
  have rest (done rest : List β) (t : Progress) (hl : l = done ++ rest)
      (hdone : done.forM f s = some (.ok (), t)) (ht : P (.ok ()) t) :
      (rest.forM f).Leads t P D := by
    induction rest generalizing done t with
    | nil => exact ht
    | cons b rest ih =>
      refine Leads.bind (hf done b rest t hl hdone ht).and_run (fun _ u ⟨hu, hb⟩ => ?_)
        fun _ _ h => h.1
      exact ih (done ++ [b]) u (by simpa using hl) ((forM_append_singleton hdone).trans hb) hu
  exact rest [] l s rfl rfl hs

end Walk

end BeanGraph
