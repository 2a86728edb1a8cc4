import BeanGraph.Proofs.Tour

/-!
# Walks that make a tour

With routines that do not look at the context, the verdict on what a tour inspects says how a walk
that makes the tour comes out.  There are two things to say of a walk: that it makes a given tour
(`Performs`), and that it makes one of some tours whatever it comes to (`Accounts`).  There is a
rule for each way of putting walks together.

* `Completes`: an outcome is as the stages of a tour say;
* `Performs.bind`, `Accounts.bind`: one walk after another makes one tour after another;
* `Defers`: steps that add nothing can be left out.
-/

namespace BeanGraph

open Call

/-! ## Moving on -/

/-- A state that another one leads to: some beans are visited now, and violations and entries have
been added. -/
structure Progress.Moves (s : Progress) (visited : List Bean) (found : List Violation)
    (entries : List (Bean × Path)) (t : Progress) : Prop where
  context : t.context = { s.context with visited }
  violations : t.violations = s.violations.insertAll found
  entries : t.entries = s.entries ++ entries

namespace Progress

variable {s t u : Progress} {visited visited' : List Bean} {xs ys : List Violation}
  {es es' : List (Bean × Path)}

theorem Adds.moves (h : s.Adds xs t) : s.Moves s.context.visited xs [] t where
  context := h.context
  violations := h.violations
  entries := h.entries.trans (List.append_nil _).symm

theorem Moves.trans (h : s.Moves visited xs es t) (h' : t.Moves visited' ys es' u) :
    s.Moves visited' (xs ++ ys) (es ++ es') u where
  context := by rw [h'.context, h.context]
  violations := by rw [h'.violations, h.violations, ViolationSet.insertAll_append]
  entries := by rw [h'.entries, h.entries, List.append_assoc]

theorem Moves.pop {hop : Hop} (h : (s.hop hop).Moves visited xs es t)
    (hs : s.context.pending = none) : s.Moves visited xs es t.pop where
  context := by
    show t.context.pop = _
    rw [h.context, context_hop hs, Context.pop, Path.parent?_descend, Option.getD_some, ← hs]
  violations := h.violations
  entries := h.entries

end Progress

/-! ## The verdict on a tour -/

/-- A routine that does not look at the context answers alike whatever groups are asked for and
whatever beans are visited. -/
theorem Routine.Plain.verdict_during {routine : Routine} (plain : routine.Plain) (root : Bean)
    (groups : List Group) (path : Path) (visited : List Bean) (leaf? : Option Bean)
    (declaration : Nat) (c : Constraint) (u : Value) :
    routine.verdict (.during root groups path visited) leaf? declaration c u =
      routine.verdict (.during root [] path []) leaf? declaration c u := by
  unfold Routine.verdict
  rw [plain u c _ (.during root [] path [])]
  rfl

namespace Validator

variable (v : Validator) (heap : Heap) (root : Bean) (groups : List Group)

/-- No routine looks at the context. -/
def Plain : Prop :=
  ∀ kind tag routine, v.routines.find? kind tag = some routine → routine.Plain

/-- The verdict on a value that is inspected. -/
def inspect (x : Inspection) : Verdict :=
  v.verdict (.during root groups x.path []) (some x.leaf) x.property x.value

/-- The verdict on all that is inspected on a tour. -/
def verdicts (stages : List Stage) : Verdict :=
  .all ((Stage.inspections stages).map (v.inspect root groups))

/-- An outcome from a state is as the stages of a tour say: the failure of the first inspection that
fails, or else all violations found, with the tour not broken off. -/
def Completes (stages : List Stage) (left? : Option (List Bean)) (s : Progress)
    (done : Outcome Unit) : Prop :=
  match v.verdicts root groups stages with
  | .ok found => done.1 = .ok () ∧
    ∃ visited, left? = some visited ∧ s.Moves visited found (Stage.entries stages) done.2
  | .error e => done.1 = .error e

/-- The stages of a tour say how it ends: it is not broken off, or an inspection fails. -/
def Decided (stages : List Stage) (left? : Option (List Bean)) : Prop :=
  left? = none → ∃ e, v.verdicts root groups stages = .error e

/-- A walk that is begun at a path with some beans visited goes through the stages of a tour. -/
def Performs (x : Walk Unit) (path : Path) (visited : List Bean) (stages : List Stage)
    (left? : Option (List Bean)) : Prop :=
  ∀ s : Progress, s.context = .during root groups path visited →
    v.Decided root groups stages left? →
    ∃ done, x s = some done ∧ v.Completes root groups stages left? s done

/-- Whatever a walk that is begun at a path with some beans visited comes to, it went through the
stages of a tour that is one of those allowed. -/
def Accounts (x : Walk Unit) (path : Path) (visited : List Bean)
    (allowed : List Stage → Option (List Bean) → Prop) : Prop :=
  ∀ (s : Progress) (done : Outcome Unit), s.context = .during root groups path visited →
    x s = some done → ∃ stages left?, allowed stages left? ∧
      v.Completes root groups stages left? s done

variable {v heap root groups}
variable {s t : Progress} {path : Path} {visited visited' : List Bean} {stages stages' : List Stage}
  {left? : Option (List Bean)} {x y : Walk Unit} {done : Outcome Unit}
  {allowed allowed' : List Stage → Option (List Bean) → Prop}

theorem verdicts_append (stages stages' : List Stage) :
    v.verdicts root groups (stages ++ stages') =
      (v.verdicts root groups stages).andThen (v.verdicts root groups stages') := by
  rw [verdicts, Stage.inspections_append, List.map_append, Verdict.all_append]
  rfl

theorem verdicts_append_of_error {e : Failure} (h : v.verdicts root groups stages = .error e)
    (stages' : List Stage) : v.verdicts root groups (stages ++ stages') = .error e := by
  rw [verdicts_append, h]
  rfl

theorem verdict_during (plain : v.Plain) (visited : List Bean) (x : Inspection) :
    v.verdict (.during root groups x.path visited) (some x.leaf) x.property x.value =
      v.inspect root groups x := by
  unfold inspect verdict
  refine congrArg Verdict.all (List.map_congr_left fun (routine, declaration, c) hasking => ?_)
  have hroutine := plain _ _ routine (mem_askings.1 hasking).2
  dsimp only
  rw [hroutine.verdict_during, hroutine.verdict_during root groups x.path []]

/-! ## Outcomes -/

theorem completes_of_error {e : Failure} (h : v.verdicts root groups stages = .error e) :
    v.Completes root groups stages left? s done ↔ done.1 = .error e := by
  rw [Completes, h]

theorem completes_of_ok {found : List Violation} (h : v.verdicts root groups stages = .ok found) :
    v.Completes root groups stages left? s done ↔ done.1 = .ok () ∧ ∃ visited,
      left? = some visited ∧ s.Moves visited found (Stage.entries stages) done.2 := by
  rw [Completes, h]

theorem Completes.verdicts_error {e : Failure}
    (h : v.Completes root groups stages left? s (.error e, t)) :
    v.verdicts root groups stages = .error e := by
  cases hverdict : v.verdicts root groups stages with
  | error e' =>
    obtain rfl := Except.error.inj ((completes_of_error hverdict).1 h)
    rfl
  | ok found => cases ((completes_of_ok hverdict).1 h).1

theorem Completes.verdicts_ok (h : v.Completes root groups stages left? s (.ok (), t)) :
    ∃ found, v.verdicts root groups stages = .ok found := by
  cases hverdict : v.verdicts root groups stages with
  | error e => cases (completes_of_error hverdict).1 h
  | ok found => exact ⟨found, rfl⟩

/-- A part of a call that ended well can be gone on from. -/
theorem Completes.next (h : v.Completes root groups stages left? s (.ok (), t)) :
    ∃ visited, left? = some visited ∧ t.context = { s.context with visited } ∧
      ∀ {stages' left?' done}, v.Completes root groups stages' left?' t done →
        v.Completes root groups (stages ++ stages') left?' s done := by
  obtain ⟨found, hfound⟩ := h.verdicts_ok
  obtain ⟨-, visited, hleft, hmoves⟩ := (completes_of_ok hfound).1 h
  refine ⟨visited, hleft, hmoves.context, fun {stages' left?' done} h' => ?_⟩
  have hsum : v.verdicts root groups (stages ++ stages') =
      Verdict.andThen (.ok found) (v.verdicts root groups stages') := by
    rw [verdicts_append, hfound]
  cases hverdict' : v.verdicts root groups stages' with
  | error e =>
    rw [hverdict'] at hsum
    exact (completes_of_error hsum).2 ((completes_of_error hverdict').1 h')
  | ok found' =>
    rw [hverdict'] at hsum
    obtain ⟨hok, visited', hleft', hmoves'⟩ := (completes_of_ok hverdict').1 h'
    refine (completes_of_ok hsum).2 ⟨hok, visited', hleft', ?_⟩
    rw [Stage.entries_append]
    exact hmoves.trans hmoves'

/-! ## Rules for walks -/

theorem performs_halt : v.Performs root groups x path visited [] none := by
  intro s _ decided
  obtain ⟨e, he⟩ := decided rfl
  cases he

theorem Performs.bind (hx : v.Performs root groups x path visited stages (some visited'))
    (hy : v.Performs root groups y path visited' stages' left?) :
    v.Performs root groups (x >>= fun _ => y) path visited (stages ++ stages') left? := by
  intro s hs decided
  obtain ⟨⟨r, t⟩, hxs, hdone⟩ := hx s hs nofun
  rw [Walk.bind_apply, hxs]
  cases r with
  | error e =>
    have hverdict := verdicts_append_of_error hdone.verdicts_error stages'
    exact ⟨_, rfl, (completes_of_error hverdict).2 rfl⟩
  | ok _ =>
    obtain ⟨_, ⟨⟩, hcontext, next⟩ := hdone.next
    have decided' : v.Decided root groups stages' left? := by
      intro hleft
      obtain ⟨e, he⟩ := decided hleft
      obtain ⟨found, hfound⟩ := hdone.verdicts_ok
      rw [verdicts_append, hfound] at he
      cases hverdict' : v.verdicts root groups stages' with
      | error e' => exact ⟨e', rfl⟩
      | ok found' =>
        rw [hverdict'] at he
        cases he
    obtain ⟨done, hyt, hdone'⟩ := hy t (by rw [hcontext, hs]; rfl) decided'
    exact ⟨done, hyt, next hdone'⟩

theorem Performs.bind_none (hx : v.Performs root groups x path visited stages none) :
    v.Performs root groups (x >>= fun _ => y) path visited stages none := by
  intro s hs decided
  obtain ⟨⟨r, t⟩, hxs, hdone⟩ := hx s hs decided
  obtain ⟨e, he⟩ := decided rfl
  obtain rfl := (completes_of_error he).1 hdone
  rw [Walk.bind_apply, hxs]
  exact ⟨_, rfl, hdone⟩

/-- A walk that goes through the stages of a tour to its end comes to nothing else. -/
theorem Performs.accounts (hx : v.Performs root groups x path visited stages (some visited'))
    (h : allowed stages (some visited')) : v.Accounts root groups x path visited allowed := by
  intro s done hs hdone
  obtain ⟨done', hdone', hcompletes⟩ := hx s hs nofun
  obtain rfl := Option.some.inj (hdone.symm.trans hdone')
  exact ⟨stages, _, h, hcompletes⟩

theorem Accounts.mono (hx : v.Accounts root groups x path visited allowed)
    (h : ∀ stages left?, allowed stages left? → allowed' stages left?) :
    v.Accounts root groups x path visited allowed' := by
  intro s done hs hdone
  obtain ⟨stages, left?, hallowed, hcompletes⟩ := hx s done hs hdone
  exact ⟨stages, left?, h _ _ hallowed, hcompletes⟩

theorem Accounts.bind (hx : v.Accounts root groups x path visited allowed)
    (hy : ∀ stages visited', allowed stages (some visited') →
      v.Accounts root groups y path visited' fun stages' left? =>
        allowed' (stages ++ stages') left?)
    (broken : ∀ stages left? e, allowed stages left? → v.verdicts root groups stages = .error e →
      allowed' stages none) :
    v.Accounts root groups (x >>= fun _ => y) path visited allowed' := by
  intro s done hs hdone
  rw [Walk.bind_apply] at hdone
  cases hxs : x s with
  | none =>
    rw [hxs] at hdone
    cases hdone
  | some middle =>
    obtain ⟨r, t⟩ := middle
    rw [hxs] at hdone
    obtain ⟨stages, left?, hallowed, hmiddle⟩ := hx s _ hs hxs
    cases r with
    | error e =>
      obtain rfl := Option.some.inj hdone
      have hverdict := hmiddle.verdicts_error
      exact ⟨stages, none, broken _ _ _ hallowed hverdict, (completes_of_error hverdict).2 rfl⟩
    | ok _ =>
      obtain ⟨visited', rfl, hcontext, next⟩ := hmiddle.next
      obtain ⟨stages', left?', hallowed', hdone'⟩ :=
        hy stages visited' hallowed t done (by rw [hcontext, hs]; rfl) hdone
      exact ⟨_, _, hallowed', next hdone'⟩

/-- What goes through some stages and ends well is followed by what comes after it. -/
theorem Performs.bind_accounts
    (hx : v.Performs root groups x path visited stages (some visited'))
    (hy : v.Accounts root groups y path visited' fun stages' left? =>
      allowed (stages ++ stages') left?)
    (broken : ∀ e, v.verdicts root groups stages = .error e → allowed stages none) :
    v.Accounts root groups (x >>= fun _ => y) path visited allowed := by
  have first : v.Accounts root groups x path visited fun stages' left? =>
      stages' = stages ∧ left? = some visited' := hx.accounts ⟨rfl, rfl⟩
  refine first.bind ?_ ?_
  · rintro _ _ ⟨rfl, ⟨⟩⟩
    exact hy
  · rintro _ _ e ⟨rfl, -⟩ he
    exact broken e he

theorem Completes.after {u : Progress} (h : s.Adds [] u)
    (hdone : v.Completes root groups stages left? u done) :
    v.Completes root groups stages left? s done := by
  have start : v.Completes root groups [] (some s.context.visited) s (.ok (), u) :=
    (completes_of_ok rfl).2 ⟨rfl, _, rfl, h.moves⟩
  obtain ⟨_, -, -, next⟩ := start.next
  exact next hdone

theorem Completes.pop {hop : Hop} (hs : s.context.pending = none)
    (h : v.Completes root groups stages left? (s.hop hop) done) :
    v.Completes root groups stages left? s (done.1, done.2.pop) := by
  cases hverdict : v.verdicts root groups stages with
  | error e =>
    have hfailed : done.1 = .error e := (completes_of_error hverdict).1 h
    exact (completes_of_error hverdict).2 hfailed
  | ok found =>
    obtain ⟨hok, visited, hleft, hmoves⟩ := (completes_of_ok hverdict).1 h
    exact (completes_of_ok hverdict).2 ⟨hok, visited, hleft, hmoves.pop hs⟩

/-- A walk does what another one does after steps that add nothing. -/
def Defers (root : Bean) (groups : List Group) (path : Path) (visited : List Bean)
    (x y : Walk Unit) : Prop :=
  ∀ s : Progress, s.context = .during root groups path visited →
    ∃ u, s.Adds [] u ∧ x s = y u

theorem Performs.of_defers (h : Defers root groups path visited x y)
    (hy : v.Performs root groups y path visited stages left?) :
    v.Performs root groups x path visited stages left? := by
  intro s hs decided
  obtain ⟨u, hadds, hxy⟩ := h s hs
  obtain ⟨done, hdone, hcompletes⟩ := hy u (hadds.context.trans hs) decided
  exact ⟨done, hxy.trans hdone, hcompletes.after hadds⟩

theorem Accounts.of_defers (h : Defers root groups path visited x y)
    (hy : v.Accounts root groups y path visited allowed) :
    v.Accounts root groups x path visited allowed := by
  intro s done hs hdone
  obtain ⟨u, hadds, hxy⟩ := h s hs
  obtain ⟨stages, left?, hallowed, hcompletes⟩ :=
    hy u done (hadds.context.trans hs) (hxy.symm.trans hdone)
  exact ⟨stages, left?, hallowed, hcompletes.after hadds⟩

/-! ## What is found on a tour -/

/-- What is kept of many lists is in the lists that are kept, if each is kept as a whole or not. -/
theorem filter_flatMap_of_forall {α β : Type} {f : α → List β} {keep : β → Bool} {keep' : α → Bool}
    {l : List α} (h : ∀ a ∈ l, ∀ y ∈ f a, keep y = keep' a) :
    (l.flatMap f).filter keep = (l.filter keep').flatMap f := by
  induction l with
  | nil => rfl
  | cons a l ih =>
    obtain ⟨ha, hl⟩ := List.forall_mem_cons.1 h
    rw [List.flatMap_cons, List.filter_append, ih hl, List.filter_cons]
    by_cases hkeep : keep' a = true
    · rw [if_pos hkeep, List.flatMap_cons, List.filter_eq_self.2 fun y hy => (ha y hy).trans hkeep]
    · rw [if_neg hkeep, List.filter_eq_nil_iff.2 fun y hy => by rwa [ha y hy], List.nil_append]

/-- The violations found by inspections, in order. -/
def recorded (v : Validator) (root : Bean) (groups : List Group) (xs : List Inspection) :
    List Violation :=
  xs.flatMap fun x => (v.inspect root groups x).found

theorem recorded_append (xs ys : List Inspection) :
    v.recorded root groups (xs ++ ys) = v.recorded root groups xs ++ v.recorded root groups ys :=
  List.flatMap_append

theorem all_inspect_eq_ok_iff {xs : List Inspection} {found : List Violation} :
    Verdict.all (xs.map (v.inspect root groups)) = .ok found ↔
      (∀ x ∈ xs, ∃ ys, v.inspect root groups x = .ok ys) ∧ found = v.recorded root groups xs := by
  rw [Verdict.all_eq_ok_iff, List.forall_mem_map, List.flatMap_map]
  rfl

theorem mem_found {x : Inspection} {y : Violation} (h : y ∈ (v.inspect root groups x).found) :
    ∃ d c, x.property.constraints[d]? = some c ∧
      y = .of (.during root groups x.path []) (some x.leaf) d c x.value := by
  rw [inspect] at h
  cases hall : v.verdict (.during root groups x.path []) (some x.leaf) x.property x.value with
  | error e =>
    have hnone : y ∈ Verdict.found (.error e) := hall ▸ h
    cases hnone
  | ok ys =>
    have hy : y ∈ Verdict.found (.ok ys) := hall ▸ h
    obtain ⟨-, rfl⟩ := Verdict.all_eq_ok_iff.1 hall
    rw [Verdict.found_ok, List.flatMap_map, List.mem_flatMap] at hy
    obtain ⟨⟨routine, d, c⟩, hasking, hy⟩ := hy
    have hdeclared := (Property.mem_applicable.1 (mem_askings.1 hasking).1).1
    exact ⟨d, c, hdeclared, Routine.eq_of_mem_verdict hy⟩

theorem of_mem_found {x : Inspection} {y : Violation} (h : y ∈ (v.inspect root groups x).found) :
    y.leaf? = some x.leaf ∧ y.path = x.path := by
  obtain ⟨d, c, -, rfl⟩ := mem_found h
  exact ⟨rfl, rfl⟩

/-- Violations found where they belong are one and the same if they compare as equal: they are of
one declaration. -/
theorem eq_of_beq_of_mem_found {x x' : Inspection} {y y' : Violation} (hx : v.Sited x)
    (hx' : v.Sited x') (hy : y ∈ (v.inspect root groups x).found)
    (hy' : y' ∈ (v.inspect root groups x').found) (h : (y == y') = true) : y = y' := by
  obtain ⟨d, c, hc, rfl⟩ := mem_found hy
  obtain ⟨d', c', hc', rfl⟩ := mem_found hy'
  obtain ⟨hleaf, hpath, -, hdeclaration⟩ := Violation.agrees_of_beq h
  obtain rfl : d = d' := hdeclaration
  rw [hx.property_eq hx' (Option.some.inj hleaf) hpath, hc'] at hc
  obtain rfl := Option.some.inj hc
  obtain ⟨c'', -, hviolation⟩ := Violation.beq_iff.1 h
  obtain rfl : c' = c'' := congrArg Violation.constraint hviolation
  exact hviolation.symm

/-- Every violation that is found where it belongs is kept. -/
theorem mem_items_of_mem_recorded {xs : List Inspection} (sited : ∀ x ∈ xs, v.Sited x)
    {y : Violation} (hy : y ∈ v.recorded root groups xs) :
    y ∈ (ViolationSet.insertAll .empty (v.recorded root groups xs)).items := by
  have hcontains : (ViolationSet.insertAll .empty (v.recorded root groups xs)).contains y = true :=
    ViolationSet.contains_insertAll.2 (.inr ⟨y, hy, BEq.rfl⟩)
  obtain ⟨z, hz, hyz⟩ := ViolationSet.contains_iff.1 hcontains
  have hz' : z ∈ v.recorded root groups xs := (ViolationSet.mem_insertAll hz).resolve_left nofun
  obtain ⟨x, hx, hyx⟩ := List.mem_flatMap.1 hy
  obtain ⟨x', hx', hzx⟩ := List.mem_flatMap.1 hz'
  rwa [eq_of_beq_of_mem_found (sited x hx) (sited x' hx') hyx hzx hyz]

/-- What is kept of the violations found is what some of the inspections find, if it goes by leaf
and path. -/
theorem filter_recorded {keep : Violation → Bool} {keep' : Inspection → Bool}
    (h : ∀ x y, y.leaf? = some x.leaf → y.path = x.path → keep y = keep' x)
    (xs : List Inspection) :
    (v.recorded root groups xs).filter keep = v.recorded root groups (xs.filter keep') :=
  filter_flatMap_of_forall fun x _ y hy => h x y (of_mem_found hy).1 (of_mem_found hy).2

end Validator

theorem Ring.plain : Ring.validator.Plain := by
  intro kind tag routine h
  rw [Ring.routine_eq_notNull h]
  exact Routine.plain_ofPredicate _ _

end BeanGraph
