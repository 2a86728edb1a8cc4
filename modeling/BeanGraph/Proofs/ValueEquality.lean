import BeanGraph.Proofs.WholePattern
import BeanGraph.Routine.Registry
import BeanGraph.Value.Equality
import BeanGraph.Value.Text

/-!
# Equal values cannot be told apart

What a value gives to a hash function begins with its shape and says how much it holds, so it ends
where the value does: a value can be read back off the front of what was given.  Two values are
equal exactly when they give the same.  Equal values then agree in all their views, as text, and
before every routine, and a hash set finds a value new when it is equal to none of those before it.

* `feed_append_inj`: sequences that begin with two values and are the same begin with the same;
* `getElem?_firsts`: what a hash set finds new, by any hash function that respects equality;
* `equality_is_congruence`: the laws of equality, and what equal values have in common.
-/

namespace BeanGraph

namespace Value

/-! ## Reading back what was hashed -/

theorem words_append_inj {as bs : List UInt8} {r r' : List Datum} (hlength : as.length = bs.length)
    (h : (as.map fun b => Datum.word b.toUInt64) ++ r =
      (bs.map fun b => Datum.word b.toUInt64) ++ r') : as = bs ∧ r = r' := by
  obtain ⟨hwords, hrest⟩ := List.append_inj h (by simpa using hlength)
  refine ⟨(List.map_inj_right fun a b hab => ?_).1 hwords, hrest⟩
  exact UInt8.toUInt64_inj.1 (Datum.word.inj hab)

mutual

/-- What two values give to a hash function tells them apart, whatever it is given after them. -/
theorem feed_append_inj (v w : Value) {r r' : List Datum} (h : v.feed ++ r = w.feed ++ r') :
    v = w ∧ r = r' := by
  cases v with
  | null =>
    cases w with
    | null => exact ⟨rfl, (List.cons.inj h).2⟩
    | _ => simp [feed] at h
  | bool a =>
    cases w with
    | bool b => cases a <;> cases b <;> simp_all [feed]
    | _ => simp [feed] at h
  | int a =>
    cases w with
    | int b =>
      obtain ⟨a⟩ := a
      obtain ⟨b⟩ := b
      simpa [feed] using h
    | _ => simp [feed] at h
  | float a =>
    cases w with
    | float b =>
      obtain ⟨a⟩ := a
      obtain ⟨b⟩ := b
      simpa [feed] using h
    | _ => simp [feed] at h
  | str a =>
    cases w with
    | str b => simpa [feed] using h
    | _ => simp [feed] at h
  | bytes as =>
    cases w with
    | bytes bs =>
      simp only [feed, List.cons_append, List.cons.injEq, Datum.count.injEq, true_and] at h
      obtain ⟨rfl, rfl⟩ := words_append_inj h.1 h.2
      exact ⟨rfl, rfl⟩
    | _ => simp [feed] at h
  | list as =>
    cases w with
    | list bs =>
      simp only [feed, List.cons_append, List.cons.injEq, Datum.count.injEq, true_and] at h
      obtain ⟨rfl, rfl⟩ := feedItems_append_inj as bs h.1 h.2
      exact ⟨rfl, rfl⟩
    | _ => simp [feed] at h
  | set as =>
    cases w with
    | set bs =>
      simp only [feed, List.cons_append, List.cons.injEq, Datum.count.injEq, true_and] at h
      obtain ⟨rfl, rfl⟩ := feedItems_append_inj as bs h.1 h.2
      exact ⟨rfl, rfl⟩
    | _ => simp [feed] at h
  | map as =>
    cases w with
    | map bs =>
      simp only [feed, List.cons_append, List.cons.injEq, Datum.count.injEq, true_and] at h
      obtain ⟨rfl, rfl⟩ := feedEntries_append_inj as bs h.1 h.2
      exact ⟨rfl, rfl⟩
    | _ => simp [feed] at h
  | optional a =>
    cases w with
    | optional b =>
      obtain ⟨rfl, rfl⟩ := feedInner_append_inj a b (List.cons.inj h).2
      exact ⟨rfl, rfl⟩
    | _ => simp [feed] at h
  | bean a =>
    cases w with
    | bean b => simpa [feed] using h
    | _ => simp [feed] at h

theorem feedItems_append_inj (vs ws : List Value) {r r' : List Datum}
    (hlength : vs.length = ws.length) (h : feedItems vs ++ r = feedItems ws ++ r') :
    vs = ws ∧ r = r' := by
  match vs, ws with
  | [], [] => exact ⟨rfl, h⟩
  | [], _ :: _ => cases hlength
  | _ :: _, [] => cases hlength
  | v :: vs, w :: ws =>
    simp only [feedItems, List.append_assoc] at h
    obtain ⟨rfl, hrest⟩ := feed_append_inj v w h
    obtain ⟨rfl, rfl⟩ := feedItems_append_inj vs ws (Nat.succ.inj hlength) hrest
    exact ⟨rfl, rfl⟩

theorem feedEntries_append_inj (vs ws : List (String × Value)) {r r' : List Datum}
    (hlength : vs.length = ws.length) (h : feedEntries vs ++ r = feedEntries ws ++ r') :
    vs = ws ∧ r = r' := by
  match vs, ws with
  | [], [] => exact ⟨rfl, h⟩
  | [], _ :: _ => cases hlength
  | _ :: _, [] => cases hlength
  | (k, v) :: vs, (l, w) :: ws =>
    simp only [feedEntries, List.cons_append, List.append_assoc, List.cons.injEq,
      Datum.text.injEq] at h
    obtain ⟨rfl, hvalues⟩ := h
    obtain ⟨rfl, hrest⟩ := feed_append_inj v w hvalues
    obtain ⟨rfl, rfl⟩ := feedEntries_append_inj vs ws (Nat.succ.inj hlength) hrest
    exact ⟨rfl, rfl⟩

theorem feedInner_append_inj (v w : Option Value) {r r' : List Datum}
    (h : feedInner v ++ r = feedInner w ++ r') : v = w ∧ r = r' := by
  match v, w with
  | none, none => exact ⟨rfl, (List.cons.inj h).2⟩
  | none, some _ => simp [feedInner] at h
  | some _, none => simp [feedInner] at h
  | some v, some w =>
    obtain ⟨rfl, rfl⟩ := feed_append_inj v w (List.cons.inj h).2
    exact ⟨rfl, rfl⟩

end

/-- Values are equal when they give the same to a hash function. -/
theorem beq_iff_feed_eq (v w : Value) : beq v w = true ↔ v.feed = w.feed := by
  rw [beq_iff_eq]
  refine ⟨congrArg feed, fun h => ?_⟩
  have happend : v.feed ++ [] = w.feed ++ [] := by rw [h]
  exact (feed_append_inj v w happend).1

/-! ## Hash functions -/

/-- A hash function that is given its data part by part: the state it starts from, what each part
makes of it, and the hash in the end. -/
structure Hasher where
  State : Type
  start : State
  take : State → Datum → State
  finish : State → UInt64

/-- The hash of a value. -/
def Hasher.hash (h : Hasher) (v : Value) : UInt64 := h.finish (v.feed.foldl h.take h.start)

end Value

/-- For each element, put into a hash set after the ones before it, whether it was new there. -/
def firsts {α : Type} [BEq α] [Hashable α] (seen : Std.HashSet α) : List α → List Bool
  | [] => []
  | a :: rest => (!seen.contains a) :: firsts (seen.insert a) rest

/-- An element is new if it is equal to none that was in the set and to none before it. -/
theorem getElem?_firsts {α : Type} [BEq α] [Hashable α] [EquivBEq α] [LawfulHashable α]
    (seen : Std.HashSet α) (as : List α) (i : Nat) :
    (firsts seen as)[i]? =
      as[i]?.map fun a => !seen.contains a && (as.take i).all fun b => !(b == a) := by
  induction as generalizing seen i with
  | nil => rfl
  | cons a rest ih =>
    cases i with
    | zero => simp [firsts]
    | succ i =>
      simp only [firsts, List.getElem?_cons_succ, ih, List.take_succ_cons, List.all_cons]
      refine congrArg (Option.map · rest[i]?) (funext fun b => ?_)
      rw [Std.HashSet.contains_insert]
      cases seen.contains b <;> cases a == b <;> rfl

theorem Value.beq_eq_beq (v w : Value) : (v == w) = Value.beq v w := by
  rw [Bool.eq_iff_iff, beq_iff_eq]
  exact ⟨eq_of_beq, fun h => h ▸ BEq.rfl⟩

namespace Value

/-- For each value, put into a hash set that goes by a hash function, whether it was new there. -/
def Hasher.novelties (h : Hasher) (vs : List Value) : List Bool :=
  let _ : Hashable Value := ⟨h.hash⟩
  firsts {} vs

theorem novelties_eq_firsts (vs : List Value) : novelties vs = firsts {} vs := by
  have go : ∀ (seen : Std.HashSet Value), novelties.go seen vs = firsts seen vs := by
    induction vs with
    | nil => exact fun _ => rfl
    | cons v rest ih => exact fun seen => congrArg ((!seen.contains v) :: ·) (ih (seen.insert v))
  exact go {}

/-- By any hash function a value is new if it is equal to none before it. -/
theorem Hasher.getElem?_novelties (h : Hasher) (vs : List Value) (i : Nat) :
    (h.novelties vs)[i]? = vs[i]?.map fun v => (vs.take i).all fun u => !beq u v := by
  let _ : Hashable Value := ⟨h.hash⟩
  have hfirsts := getElem?_firsts (α := Value) {} vs i
  simpa [novelties, beq_eq_beq] using hfirsts

theorem getElem?_novelties (vs : List Value) (i : Nat) :
    (novelties vs)[i]? = vs[i]?.map fun v => (vs.take i).all fun u => !beq u v := by
  rw [novelties_eq_firsts, getElem?_firsts]
  simp [beq_eq_beq]

/-! ## What equal values have in common -/

/-- Values that cannot be told apart: they have the same type, size, identity, number and text, give
the same hash by any hash function, and get the same answer or error from every built-in routine for
every constraint, and from the routine for patterns whatever it has kept of earlier checks. -/
structure Indistinguishable (v w : Value) : Prop where
  type : v.runtimeType? = w.runtimeType?
  size : v.size? = w.size?
  identity : v.bean? = w.bean?
  number : v.float? = w.float?
  text : v.text = w.text
  hash : ∀ h : Hasher, h.hash v = h.hash w
  routine : ∀ engine kind tag routine,
    (RoutineRegistry.builtIn engine).find? kind tag = some routine →
      ∀ c x, routine.check v c x = routine.check w c x
  pattern : ∀ engine checks c x,
    ((PatternCache.after engine checks).check v c).1 = (Routine.pattern engine).check w c x

theorem indistinguishable_of_beq {v w : Value} (h : beq v w = true) : v.Indistinguishable w := by
  obtain rfl := (beq_iff_eq v w).1 h
  exact ⟨rfl, rfl, rfl, rfl, rfl, fun _ => rfl, fun _ _ _ _ _ _ _ => rfl,
    fun _ checks c x => PatternCache.check_eq_pattern checks v c x⟩

/-- Equality of values is a congruence.  It is reflexive, symmetric and transitive; values are equal
exactly when they give the same to every hash function, so a value put into a hash set after others
is new there, whatever the hash function, exactly when it is equal to none of them; and equal values
cannot be told apart. -/
theorem equality_is_congruence :
    ((∀ v, beq v v = true) ∧ (∀ v w, beq v w = true → beq w v = true) ∧
      ∀ u v w, beq u v = true → beq v w = true → beq u w = true) ∧
    (∀ v w, beq v w = true ↔ v.feed = w.feed) ∧
    (∀ vs i, (novelties vs)[i]? = vs[i]?.map fun v => (vs.take i).all fun u => !beq u v) ∧
    (∀ (h : Hasher) vs, h.novelties vs = novelties vs) ∧
    ∀ v w, beq v w = true → v.Indistinguishable w := by
  refine ⟨⟨?_, ?_, ?_⟩, beq_iff_feed_eq, getElem?_novelties, ?_,
    fun _ _ => indistinguishable_of_beq⟩
  · exact fun v => (beq_iff_eq v v).2 rfl
  · exact fun v w h => (beq_iff_eq w v).2 ((beq_iff_eq v w).1 h).symm
  · exact fun u v w h h' =>
      (beq_iff_eq u w).2 (((beq_iff_eq u v).1 h).trans ((beq_iff_eq v w).1 h'))
  · exact fun h vs => List.ext_getElem? fun i =>
      (h.getElem?_novelties vs i).trans (getElem?_novelties vs i).symm

/-! ### A map made in two ways -/

namespace Limits

/-- Limits that are no number and a negative zero. -/
def limits : Value := .list [.float ⟨0x7ff8000000000000⟩, .float Binary64.zero.neg]

/-- An owner, who is there. -/
def owner : Value := .optional (some (.bean { label := "first", type := ⟨"Item", "model::Item"⟩ }))

/-- Limits with their owner. -/
def written : Value := .map [("limits", limits), ("owner", owner)]

/-- Limits that are set after the owner, and so keep the place that they had before. -/
def reset : Value := ofEntries [("limits", .null), ("owner", owner), ("limits", limits)]

end Limits

open Limits

/-- Values that were made in two ways are equal, also with what is no number in them; the two zeros
are not. -/
theorem reset_is_written :
    beq written reset = true ∧ written.Indistinguishable reset ∧ beq reset written = true ∧
      (novelties [written, .float .zero, .float Binary64.zero.neg, reset])[2]? = some true ∧
      (novelties [written, .float .zero, .float Binary64.zero.neg, reset])[3]? = some false := by
  have hequal : beq written reset = true := by decide +kernel
  obtain ⟨⟨-, hsymm, -⟩, -, hnew, -, halike⟩ := equality_is_congruence
  refine ⟨hequal, halike _ _ hequal, hsymm _ _ hequal, (hnew _ 2).trans ?_, (hnew _ 3).trans ?_⟩
  · decide +kernel
  · decide +kernel

end Value

end BeanGraph
