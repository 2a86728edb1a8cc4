import BeanGraph.Heap
import BeanGraph.Path
import BeanGraph.Value.Equality

/-!
# Extraction

An `Extractor` says which values a container holds, each with its place in the container.
`Extractor.feed` hands them to a receiver one after the other; the receiver carries a state along,
and its first error ends the extraction.
-/

namespace BeanGraph

/-- A value that a container holds. -/
structure Extracted where
  element : Element
  value : Value
deriving DecidableEq

/-- The values that a container holds, in order. -/
abbrev Extractor := Heap → Value → List Extracted

namespace Extractor

/-! ## Containers -/

/-- The items of a list with their indices. -/
def list : Extractor
  | _, .list items => items.zipIdx.map fun (v, i) => ⟨.indexed i, v⟩
  | _, _ => []

/-- The items of a set. -/
def set : Extractor
  | _, .set items => items.map fun v => ⟨.iterable, v⟩
  | _, _ => []

/-- The values of a map with their keys. -/
def map : Extractor
  | _, .map entries => entries.map fun (k, v) => ⟨.keyed k, v⟩
  | _, _ => []

/-- The value that an optional wraps. -/
def optional : Extractor
  | _, .optional (some v) => [⟨.single, v⟩]
  | _, _ => []

/-! ## Receivers -/

/-- What a receiver of values does: it moves on from a state, and may end the extraction. -/
abbrev Receiver (m : Type → Type) (ε σ : Type) := Extracted → ExceptT ε (StateT σ m) Unit

/-- Hands values to a receiver until it fails. -/
def deliver [Monad m] (receiver : Receiver m ε σ) : List Extracted → ExceptT ε (StateT σ m) Unit
  | [] => fun s => pure (.ok (), s)
  | e :: rest => fun s => do
    match ← receiver e s with
    | (.ok (), s) => deliver receiver rest s
    | (.error err, s) => pure (.error err, s)

/-- Hands the values that a container holds to a receiver until it fails. -/
def feed [Monad m] (x : Extractor) (heap : Heap) (container : Value) (receiver : Receiver m ε σ) :
    ExceptT ε (StateT σ m) Unit :=
  deliver receiver (x heap container)

theorem deliver_eq_forM [Monad m] (receiver : Receiver m ε σ) (es : List Extracted) :
    deliver receiver es = es.forM receiver := by
  induction es with
  | nil => rfl
  | cons e es ih =>
    show _ = (receiver e >>= fun _ => es.forM receiver)
    funext s
    simp only [deliver, ih, bind, ExceptT.bind, ExceptT.mk, StateT.bind, ExceptT.bindCont]
    refine congrArg (Bind.bind (receiver e s)) (funext fun answer => ?_)
    obtain ⟨_ | _, _⟩ := answer <;> rfl

/-- Values are handed over one after the other in the monad of the receiver, whose failure ends the
rest. -/
theorem feed_eq_forM [Monad m] (x : Extractor) (heap : Heap) (container : Value)
    (receiver : Receiver m ε σ) :
    x.feed heap container receiver = (x heap container).forM receiver :=
  deliver_eq_forM receiver _

end Extractor

end BeanGraph
