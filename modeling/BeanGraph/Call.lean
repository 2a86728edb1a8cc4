import BeanGraph.Event
import BeanGraph.Extraction.Basic
import BeanGraph.Failure
import BeanGraph.Introspection.Basic
import BeanGraph.Routine.Basic
import BeanGraph.Violation

/-!
# Parts of a call

A part of a validation call moves the state of the call on, and may end it with a failure; a failure
keeps the state that it arose in.  A `Step` always comes to an end.  A `Walk` goes below beans as
far as there are any, and on a graph without end it has no outcome.

`Walk.Le` compares walks by what they come to.  Every way of putting walks together respects it,
which is what a walk that is defined through itself rests on.
-/

namespace BeanGraph

/-- The state of a call. -/
structure Progress where
  context : Context
  /-- The number of copies made by getters so far. -/
  copies : Nat
  violations : ViolationSet
  events : Array Event

/-- A part of a call, whose outcome comes in `m`. -/
abbrev CallT (m : Type → Type) := ExceptT Failure (StateT Progress m)

/-- A part of a call that comes to an end. -/
abbrev Step := CallT Id

/-- A part of a call that may have no end. -/
abbrev Walk := CallT Option

/-- How a part of a call ended, and the state it left. -/
abbrev Outcome (α : Type) := Except Failure α × Progress

/-- A step as a part of a walk. -/
def Walk.ofStep (step : Step α) : Walk α := fun s => some (step s)

/-- Steps stand in walks as they are. -/
instance : MonadLift Step Walk := ⟨Walk.ofStep⟩

namespace Progress

/-- The state with an event more. -/
def record (s : Progress) (e : Event) : Progress := { s with events := s.events.push e }

/-- The state with another context. -/
def changeContext (s : Progress) (f : Context → Context) : Progress :=
  { s with context := f s.context }

/-- The state below a node for a property. -/
def push (s : Progress) (name : String) : Progress := s.changeContext (·.push name)

/-- The state with the last node left. -/
def pop (s : Progress) : Progress := s.changeContext Context.pop

/-- The state with a violation more, unless an equal one is there. -/
def insert (s : Progress) (x : Violation) : Progress :=
  { s with violations := s.violations.insert x }

end Progress

namespace Call

/-! ## Steps -/

/-- Adds an event. -/
def record (e : Event) : Step Unit := modify (·.record e)

/-- Adds a line to the log. -/
def log (e : LogEntry) : Step Unit := record (.logged e)

/-- The context in force. -/
def context : Step Context := do return (← get).context

/-- Changes the context. -/
def changeContext (f : Context → Context) : Step Unit := modify (·.changeContext f)

/-- Runs a part of a call below a node for a property, and leaves that node however it ends. -/
def below [Monad m] (name : String) (part : CallT m α) : CallT m α := fun s =>
  (fun done => (done.1, done.2.pop)) <$> part (s.push name)

/-- Reads a property of a bean. -/
def read (heap : Heap) (i : Introspection) (p : Property) (b : Bean) : Step Value := do
  let (v, copies) := i.read p heap b (← get).copies
  modify fun s => { s with copies }
  return v

/-- Asks a routine about a value; its failure is the failure of the call. -/
def ask (routine : Routine) (declaration : Nat) (c : Constraint) (value : Value) : Step Bool := do
  let context ← context
  let answer := routine.check value c context
  record (.called ⟨routine.name, c, declaration, value, context, answer⟩)
  match answer with
  | .ok valid => return valid
  | .error e => throw (.evaluation c.kind context.path e)

/-- Records that a value did not satisfy a constraint. -/
def violate (leaf? : Option Bean) (declaration : Nat) (c : Constraint) (value : Value) :
    Step Unit := do
  let context ← context
  log (.violated context.path c.kind)
  modify (·.insert (.of context leaf? declaration c value))

/-- Asks a routine whether a value satisfies a declared constraint, and records it if not. -/
def judge (leaf? : Option Bean) (routine : Routine) (declaration : Nat) (c : Constraint)
    (value : Value) : Step Unit := do
  unless ← ask routine declaration c value do
    violate leaf? declaration c value

end Call

namespace Walk

/-! ## What walks come to -/

/-- Whatever the one walk comes to, the other one does. -/
def Le (x y : Walk α) : Prop := ∀ s o, x s = some o → y s = some o

theorem Le.refl (x : Walk α) : Le x x := fun _ _ h => h

/-- An order is flat: an outcome is below itself alone, and no outcome below all. -/
structure Flat (below : Option γ → Option γ → Prop) : Prop where
  none_below : ∀ o, below none o
  refl : ∀ o, below o o
  eq_of_below : ∀ a o, below (some a) o → o = some a

/-- By a flat order one walk is below another everywhere if the other comes to what it comes to. -/
theorem Flat.le_iff {below : Option (Outcome α) → Option (Outcome α) → Prop} (flat : Flat below)
    {x y : Walk α} : Le x y ↔ ∀ s, below (x s) (y s) := by
  constructor
  · intro h s
    cases hx : x s with
    | none => exact flat.none_below _
    | some o =>
      rw [h s o hx]
      exact flat.refl _
  · intro h s o hx
    exact flat.eq_of_below o _ (hx ▸ h s)

@[simp] theorem ofStep_apply (step : Step α) (s : Progress) : ofStep step s = some (step s) := rfl

theorem bind_apply (x : Walk α) (f : α → Walk β) (s : Progress) :
    (x >>= f) s =
      match x s with
      | some (.ok a, t) => f a t
      | some (.error e, t) => some (.error e, t)
      | none => none := by
  simp only [bind, ExceptT.bind, ExceptT.mk, StateT.bind, ExceptT.bindCont]
  cases x s with
  | none => rfl
  | some o => obtain ⟨_ | _, _⟩ := o <;> rfl

theorem Le.bind {x y : Walk α} {f g : α → Walk β} (hx : Le x y) (hf : ∀ a, Le (f a) (g a)) :
    Le (x >>= f) (y >>= g) := by
  intro s o h
  rw [bind_apply] at h ⊢
  cases hs : x s with
  | none => simp [hs] at h
  | some out =>
    rw [hs] at h
    rw [hx s out hs]
    obtain ⟨_ | a, t⟩ := out
    · exact h
    · exact hf a t o h

theorem Le.below {x y : Walk α} (name : String) (h : Le x y) :
    Le (Call.below name x) (Call.below name y) := by
  intro s o hs
  obtain ⟨out, hx, rfl⟩ := Option.map_eq_some_iff.1 hs
  exact Option.map_eq_some_iff.2 ⟨out, h _ _ hx, rfl⟩

/-- What follows a step matters only for the values that the step gives. -/
theorem Le.bind_ofStep {x : Step α} {f g : α → Walk β}
    (h : ∀ s a t, x s = (.ok a, t) → Le (f a) (g a)) : Le (ofStep x >>= f) (ofStep x >>= g) := by
  intro s o ho
  rw [bind_apply, ofStep_apply] at ho ⊢
  rcases hx : x s with ⟨e | a, t⟩
  · rwa [hx] at ho
  · rw [hx] at ho
    exact h s a t hx t o ho

theorem Le.forM {f g : α → Walk Unit} {l : List α} (h : ∀ a ∈ l, Le (f a) (g a)) :
    Le (l.forM f) (l.forM g) := by
  induction l with
  | nil => exact Le.refl _
  | cons a l ih =>
    exact Le.bind (h a List.mem_cons_self) fun _ => ih fun b hb => h b (List.mem_cons_of_mem _ hb)

theorem Le.feed {f g : Extracted → Walk Unit} (h : ∀ e, Le (f e) (g e)) (x : Extractor)
    (heap : Heap) (container : Value) :
    Le (x.feed heap container f) (x.feed heap container g) := by
  simp only [Extractor.feed_eq_forM]
  exact Le.forM fun e _ => h e

end Walk

end BeanGraph
