import BeanGraph.Introspection.Basic

/-!
# Building introspections

An introspection is built from a script of steps.  A step for a property begins its declaration, and
the constraints and cascade marks that follow belong to it; before the first property they are
ignored.  A property that is declared again keeps its first place and loses all else.
-/

namespace BeanGraph.Introspection

/-- A step of a script. -/
inductive Step
  | property (name : String) (declaredType : TypeTag) (getter : Getter)
  | constraint (c : Constraint)
  | cascade

/-- The finished declarations, and the one that the next steps belong to. -/
structure Draft where
  finished : List Property := []
  current : Option Property := none

namespace Draft

/-- Puts a property in the place of the one with its name, or at the end. -/
def put (p : Property) : List Property → List Property
  | [] => [p]
  | q :: rest => if q.name = p.name then p :: rest else q :: put p rest

/-- The draft with the current declaration finished. -/
def finish (d : Draft) : Draft :=
  match d.current with
  | some p => ⟨put p d.finished, none⟩
  | none => d

/-- The draft after a step. -/
def take (d : Draft) : Step → Draft
  | .property name declaredType getter =>
    { d.finish with current := some { name, declaredType, getter } }
  | .constraint c =>
    { d with current := d.current.map fun p => { p with constraints := p.constraints ++ [c] } }
  | .cascade => { d with current := d.current.map fun p => { p with cascade := true } }

/-- No two finished properties have one name. -/
def Distinct (d : Draft) : Prop := (d.finished.map (·.name)).Nodup

theorem mem_names_put {p : Property} {ps : List Property} {name : String} :
    name ∈ (put p ps).map (·.name) ↔ name = p.name ∨ name ∈ ps.map (·.name) := by
  induction ps with
  | nil => simp [put]
  | cons q rest ih =>
    unfold put
    split
    · rename_i h
      simp [h]
    · rw [List.map_cons, List.mem_cons, ih, List.map_cons, List.mem_cons]
      exact or_left_comm

theorem nodup_names_put {p : Property} {ps : List Property} (h : (ps.map (·.name)).Nodup) :
    ((put p ps).map (·.name)).Nodup := by
  induction ps with
  | nil => simp [put]
  | cons q rest ih =>
    obtain ⟨hq, hrest⟩ := List.nodup_cons.1 h
    unfold put
    split
    · rename_i e
      exact List.nodup_cons.2 ⟨fun hp => hq (e.symm ▸ hp : q.name ∈ _), hrest⟩
    · rename_i e
      refine List.nodup_cons.2 ⟨fun hmem => ?_, ih hrest⟩
      rcases mem_names_put.1 hmem with hp | hr
      · exact e hp
      · exact hq hr

theorem Distinct.finish {d : Draft} (h : d.Distinct) : d.finish.Distinct := by
  unfold Draft.finish
  split
  · exact nodup_names_put h
  · exact h

theorem Distinct.take {d : Draft} (h : d.Distinct) (step : Step) : (d.take step).Distinct := by
  cases step with
  | property name declaredType getter => exact h.finish
  | constraint c => exact h
  | cascade => exact h

theorem Distinct.foldl_take {d : Draft} (h : d.Distinct) (steps : List Step) :
    (steps.foldl Draft.take d).Distinct := by
  induction steps generalizing d with
  | nil => exact h
  | cons step steps ih => exact ih (h.take step)

end Draft

/-- The introspection that a script describes. -/
def build (beanType : BeanType) (steps : List Step) : Introspection :=
  ⟨beanType, (steps.foldl Draft.take {}).finish.finished,
    (Draft.Distinct.foldl_take (d := {}) List.nodup_nil steps).finish⟩

end BeanGraph.Introspection
