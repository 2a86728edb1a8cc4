import BeanGraph.Extraction.Basic

/-!
# What extraction hands over

A receiver is called on the elements of a container in their order, each of them once, in the state
that the call before left.  Its first failure is the last call.

* `deliver_calls`: which calls are made, and how they end;
* `extractors_fold`: the elements of lists, sets, maps and optionals.
-/

namespace BeanGraph.Extractor

variable {ε σ : Type} {receiver : Receiver Id ε σ} {s t : σ} {r : Except ε Unit} {e : Extracted}
  {es called : List Extracted}

namespace Receiver

/-- The state after calls on values in turn, whatever they are answered. -/
def after (receiver : Receiver Id ε σ) (s : σ) (es : List Extracted) : σ :=
  es.foldl (fun s e => (receiver e s).2) s

/-- The answer to a call on a value after calls on others. -/
def answer (receiver : Receiver Id ε σ) (s : σ) (before : List Extracted) (e : Extracted) :
    Except ε Unit :=
  (receiver e (receiver.after s before)).1

/-- None of the calls on values in turn fails. -/
def Accepts (receiver : Receiver Id ε σ) (s : σ) (es : List Extracted) : Prop :=
  ∀ before e rest, es = before ++ e :: rest → receiver.answer s before e = .ok ()

/-- A receiver that writes down what it is called on. -/
def logged (receiver : Receiver Id ε σ) : Receiver Id ε (List Extracted × σ) :=
  fun e (calls, s) =>
    let (r, s) := receiver e s
    (r, (calls ++ [e], s))

/-- How a receiver takes values: it is called on all of them and accepts them, or it is called on
those up to the first one that it fails on, and this failure is the answer. -/
inductive Takes (receiver : Receiver Id ε σ) (s : σ) (es : List Extracted) :
    Except ε Unit → List Extracted → Prop
  | all (accepted : receiver.Accepts s es) : Takes receiver s es (.ok ()) es
  | upTo {before e rest err} (split : es = before ++ e :: rest)
      (accepted : receiver.Accepts s before) (failed : receiver.answer s before e = .error err) :
      Takes receiver s es (.error err) (before ++ [e])

theorem accepts_nil : receiver.Accepts s [] := by
  intro before e rest h
  cases before <;> cases h

theorem accepts_cons (h : receiver e s = (.ok (), t)) (hes : receiver.Accepts t es) :
    receiver.Accepts s (e :: es) := by
  intro before x rest hsplit
  obtain ⟨rfl, heq⟩ | ⟨before, rfl, heq⟩ := List.cons_eq_append_iff.1 hsplit
  · obtain ⟨rfl, -⟩ := List.cons.inj heq
    exact congrArg Prod.fst h
  · have hnext := hes before x rest heq
    rwa [← show (receiver e s).2 = t from congrArg Prod.snd h] at hnext

/-- A value that is accepted is followed by the others, in the state that it leaves. -/
theorem Takes.cons (h : receiver e s = (.ok (), t)) (hes : receiver.Takes t es r called) :
    receiver.Takes s (e :: es) r (e :: called) := by
  cases hes with
  | all accepted => exact .all (accepts_cons h accepted)
  | @upTo before x rest err split accepted failed =>
    rw [← show (receiver e s).2 = t from congrArg Prod.snd h] at failed
    have hsplit : e :: es = (e :: before) ++ x :: rest := congrArg (e :: ·) split
    exact .upTo hsplit (accepts_cons h accepted) failed

/-- A value that a receiver fails on is the last one. -/
theorem Takes.last {err : ε} (h : receiver e s = (.error err, t)) :
    receiver.Takes s (e :: es) (.error err) [e] :=
  have hsplit : e :: es = [] ++ e :: es := rfl
  .upTo hsplit accepts_nil (congrArg Prod.fst h)

end Receiver

theorem deliver_of_ok (h : receiver e s = (.ok (), t)) :
    deliver receiver (e :: es) s = deliver receiver es t := by
  simp only [deliver]
  rw [h]
  rfl

theorem deliver_of_error {err : ε} (h : receiver e s = (.error err, t)) :
    deliver receiver (e :: es) s = (.error err, t) := by
  simp only [deliver]
  rw [h]
  rfl

theorem logged_apply (h : receiver e s = (r, t)) (calls : List Extracted) :
    receiver.logged e (calls, s) = (r, (calls ++ [e], t)) := by
  rw [Receiver.logged, h]

/-- The calls on values that are handed to a receiver in turn, and what they come to. -/
theorem deliver_calls (receiver : Receiver Id ε σ) (s : σ) (es : List Extracted) :
    ∃ r called, receiver.Takes s es r called ∧
      deliver receiver es s = (r, receiver.after s called) ∧
      ∀ calls, deliver receiver.logged es (calls, s) =
        (r, (calls ++ called, receiver.after s called)) := by
  induction es generalizing s with
  | nil =>
    refine ⟨.ok (), [], .all Receiver.accepts_nil, rfl, fun calls => ?_⟩
    rw [List.append_nil]
    rfl
  | cons e es ih =>
    rcases hcall : receiver e s with ⟨err | _, t⟩
    · have hafter : receiver.after s [e] = t := congrArg Prod.snd hcall
      refine ⟨.error err, [e], .last hcall, ?_, fun calls => ?_⟩
      · rw [deliver_of_error hcall, hafter]
      · rw [deliver_of_error (logged_apply hcall calls), hafter]
    · obtain ⟨r, called, htakes, hdeliver, hlogged⟩ := ih t
      have hafter : receiver.after s (e :: called) = receiver.after t called :=
        congrArg (receiver.after · called) (congrArg Prod.snd hcall)
      refine ⟨r, e :: called, htakes.cons hcall, ?_, fun calls => ?_⟩
      · rw [deliver_of_ok hcall, hdeliver, hafter]
      · rw [deliver_of_ok (logged_apply hcall calls), hlogged, hafter, List.append_assoc]
        rfl

/-! ## Containers -/

/-- An extractor hands the elements of a container to any receiver, one after the other until it
fails.  For a receiver with a state these are the calls that it takes, and the state in the end is
the one that they leave. -/
structure Folds (x : Extractor) (container : Value) (es : List Extracted) : Prop where
  forM : ∀ (heap : Heap) {m : Type → Type} [Monad m] {ε σ : Type} (receiver : Receiver m ε σ),
    x.feed heap container receiver = es.forM receiver
  calls : ∀ (heap : Heap) {ε σ : Type} (receiver : Receiver Id ε σ) (s : σ), ∃ r called,
    receiver.Takes s es r called ∧
      x.feed heap container receiver s = (r, receiver.after s called) ∧
      x.feed heap container receiver.logged ([], s) = (r, (called, receiver.after s called))

theorem folds_of_eq {x : Extractor} {container : Value} (h : ∀ heap, x heap container = es) :
    x.Folds container es where
  forM heap _ _ _ _ receiver := by rw [feed_eq_forM, h]
  calls heap _ _ receiver s := by
    obtain ⟨r, called, htakes, hdeliver, hlogged⟩ := deliver_calls receiver s es
    refine ⟨r, called, htakes, ?_, ?_⟩
    · rw [feed, h, hdeliver]
    · rw [feed, h, hlogged, List.nil_append]

/-- Lists, sets, maps and optionals are folded from the left: the elements of a list with their
indices, the values of a map with their keys, those of a set and of an optional without a place.  Of
values of other shapes there is nothing to hand over. -/
theorem extractors_fold :
    (∀ items, list.Folds (.list items) (items.mapIdx fun i v => ⟨.indexed i, v⟩)) ∧
    (∀ items, set.Folds (.set items) (items.map fun v => ⟨.iterable, v⟩)) ∧
    (∀ entries, map.Folds (.map entries) (entries.map fun (k, v) => ⟨.keyed k, v⟩)) ∧
    (∀ inner, optional.Folds (.optional inner) (inner.toList.map fun v => ⟨.single, v⟩)) ∧
    ∀ v : Value, ((∀ items, v ≠ .list items) → list.Folds v []) ∧
      ((∀ items, v ≠ .set items) → set.Folds v []) ∧
      ((∀ entries, v ≠ .map entries) → map.Folds v []) ∧
      ((∀ inner, v ≠ .optional inner) → optional.Folds v []) := by
  refine ⟨fun items => ?_, fun items => ?_, fun entries => ?_, fun inner => ?_, fun v => ?_⟩
  · exact folds_of_eq fun _ => by rw [list, List.mapIdx_eq_zipIdx_map]
  · exact folds_of_eq fun _ => rfl
  · exact folds_of_eq fun _ => rfl
  · exact folds_of_eq fun _ => by cases inner <;> rfl
  · refine ⟨fun h => folds_of_eq fun _ => ?_, fun h => folds_of_eq fun _ => ?_,
      fun h => folds_of_eq fun _ => ?_, fun h => folds_of_eq fun _ => ?_⟩
    · cases v with
      | list items => exact absurd rfl (h items)
      | _ => rfl
    · cases v with
      | set items => exact absurd rfl (h items)
      | _ => rfl
    · cases v with
      | map entries => exact absurd rfl (h entries)
      | _ => rfl
    · cases v with
      | optional inner => exact absurd rfl (h inner)
      | _ => rfl

/-- A receiver that counts its calls and fails on the second one. -/
def impatient : Receiver Id String Nat := fun _ n =>
  (if n = 1 then .error "second" else .ok (), n + 1)

/-- Of three items the last one is not handed over, and of a truth value nothing is. -/
theorem last_item_left_out :
    (∀ items, Value.bool true ≠ .list items) ∧ list.Folds (.bool true) [] ∧
      list.Folds (.list [.null, .bool true, .null])
        [⟨.indexed 0, .null⟩, ⟨.indexed 1, .bool true⟩, ⟨.indexed 2, .null⟩] ∧
      list.feed {} (.list [.null, .bool true, .null]) impatient.logged ([], 0) =
        (.error "second", ([⟨.indexed 0, .null⟩, ⟨.indexed 1, .bool true⟩], 2)) := by
  have hshape : ∀ items, Value.bool true ≠ .list items := fun _ => nofun
  obtain ⟨hlist, -, -, -, hother⟩ := extractors_fold
  exact ⟨hshape, (hother (.bool true)).1 hshape, hlist [.null, .bool true, .null], rfl⟩

end BeanGraph.Extractor
