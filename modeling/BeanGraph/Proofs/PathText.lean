import BeanGraph.Violation
import Mathlib.Data.List.Forall2

/-!
# What the text of a path tells

The text of a path is read from the front.  A name ends at the first point or opening bracket, what
stands in brackets ends at the first closing one, and a node ends at a point or with the text.  So
with ordinary names and keys the text tells the nodes apart, and of each of them its name, its index
and its key.  It does not tell whether a node without brackets is a property or what a wrapper held.

* `PathNode.alike_of_append`: what the text of one node tells, whatever nodes follow;
* `Path.text_eq_iff`: paths have one text when they are at the same positions;
* `texts_tell_positions`: what follows for the violations found at a text.
-/

namespace BeanGraph

/-- Texts that agree, each with a first character of some kind after a part without such, agree in
these parts and in what comes after them. -/
theorem append_inj_of_first {p : Char → Bool} {as bs r r' : List Char} (has : ∀ c ∈ as, p c = false)
    (hbs : ∀ c ∈ bs, p c = false) (hr : ∀ c ∈ r.head?, p c = true)
    (hr' : ∀ c ∈ r'.head?, p c = true) (h : as ++ r = bs ++ r') : as = bs ∧ r = r' := by
  have front : ∀ {cs rest : List Char}, (∀ c ∈ cs, p c = false) →
      (∀ c ∈ rest.head?, p c = true) → (cs ++ rest).takeWhile (!p ·) = cs := by
    intro cs rest hcs hrest
    rw [List.takeWhile_append_of_pos fun c hc => by simp [hcs c hc]]
    cases rest with
    | nil => rw [List.takeWhile_nil, List.append_nil]
    | cons c rest => rw [List.takeWhile_cons_of_neg (by simp [hrest c rfl]), List.append_nil]
  have heq : as = bs := by rw [← front has hr, h, front hbs hr']
  subst heq
  exact ⟨rfl, List.append_cancel_left h⟩

namespace PathNode

variable {m n : PathNode} {r r' : List Char}

/-! ## Positions -/

/-- Nodes at the same position: of one name, one index and one key, and written with brackets both
or neither. -/
structure Alike (m n : PathNode) : Prop where
  name : m.name = n.name
  index : m.index? = n.index?
  key : m.key? = n.key?
  bracketed : m.bracket = "" ↔ n.bracket = ""

/-- The name of a node is not empty and has neither points nor opening brackets, and its key, if
there is one, has no closing bracket and has a character that is no digit. -/
structure Ordinary (n : PathNode) : Prop where
  name_ne : n.name ≠ ""
  name_chars : ∀ c ∈ n.name.toList, c ≠ '.' ∧ c ≠ '['
  key_chars : ∀ k ∈ n.key?, ∀ c ∈ k.toList, c ≠ ']'
  key_text : ∀ k ∈ n.key?, ∃ c ∈ k.toList, c.isDigit = false

/-- Whether a node is ordinary, by a pass over its name and its key. -/
def isOrdinary (n : PathNode) : Bool :=
  n.name != "" && n.name.toList.all (fun c => c != '.' && c != '[') &&
    n.key?.all fun k => k.toList.all (· != ']') && k.toList.any fun c => !c.isDigit

theorem isOrdinary_iff (n : PathNode) : n.isOrdinary = true ↔ n.Ordinary := by
  have hkeys : (n.key?.all fun k => k.toList.all (· != ']') && k.toList.any fun c => !c.isDigit) =
      true ↔ (∀ k ∈ n.key?, ∀ c ∈ k.toList, c ≠ ']') ∧
        ∀ k ∈ n.key?, ∃ c ∈ k.toList, c.isDigit = false := by
    cases n.key? <;> simp
  rw [isOrdinary, Bool.and_eq_true, Bool.and_eq_true, hkeys]
  constructor
  · rintro ⟨⟨hname, hchars⟩, hkey, htext⟩
    exact ⟨by simpa using hname, by simpa using hchars, hkey, htext⟩
  · rintro ⟨hname, hchars, hkey, htext⟩
    exact ⟨⟨by simpa using hname, by simpa using hchars⟩, hkey, htext⟩

/-- Decided by `isOrdinary`: a quantifier over characters may be decided by trying every character
there is. -/
instance (n : PathNode) : Decidable n.Ordinary := decidable_of_iff _ n.isOrdinary_iff

/-! ## Brackets -/

/-- What stands in the brackets of a node; there may be no brackets. -/
def inBrackets? (n : PathNode) : Option String :=
  match n.kind with
  | .property => none
  | .element (.index i) => some (toString i)
  | .element (.key k) => some k
  | .element .none => if n.inIterable then some "" else none

theorem bracket_eq (n : PathNode) :
    n.bracket = n.inBrackets?.elim "" fun s => "[" ++ s ++ "]" := by
  obtain ⟨name, kind, inIterable⟩ := n
  match kind with
  | .property | .element (.index _) | .element (.key _) => rfl
  | .element .none => cases inIterable <;> rfl

theorem toList_bracket (n : PathNode) :
    n.bracket.toList = n.inBrackets?.elim [] fun s => '[' :: (s.toList ++ [']']) := by
  rw [bracket_eq]
  cases n.inBrackets? <;> simp

/-- The brackets of a node say its index or its key, if it has one. -/
theorem bracket_eq_of_place (n : PathNode) :
    n.bracket =
      match n.index?, n.key? with
      | some i, _ => "[" ++ toString i ++ "]"
      | none, some k => "[" ++ k ++ "]"
      | none, none => if n.bracket = "" then "" else "[]" := by
  obtain ⟨name, kind, inIterable⟩ := n
  match kind with
  | .property | .element (.index _) | .element (.key _) => rfl
  | .element .none => cases inIterable <;> rfl

theorem Alike.text_eq (h : m.Alike n) : m.text = n.text := by
  rw [text, text, h.name, bracket_eq_of_place m, bracket_eq_of_place n, h.index, h.key]
  simp only [h.bracketed]

theorem isDigit_of_mem_toString {i : Nat} {c : Char} (h : c ∈ (toString i).toList) :
    c.isDigit = true := by
  rw [Nat.toString_eq_repr, Nat.toList_repr] at h
  exact Nat.isDigit_of_mem_toDigits (by omega) (by omega) h

/-- The key of a node is what stands in its brackets, if some of it is no digit. -/
theorem Ordinary.key?_eq (h : n.Ordinary) :
    n.key? = n.inBrackets?.filter fun s => s.toList.any (!·.isDigit) := by
  obtain ⟨name, kind, inIterable⟩ := n
  match kind with
  | .property => rfl
  | .element .none => cases inIterable <;> rfl
  | .element (.index i) =>
    have hdigits : (toString i).toList.any (!·.isDigit) = false := by
      rw [List.any_eq_false]
      exact fun c hc => by rw [isDigit_of_mem_toString hc]; decide
    simp only [key?, inBrackets?, Option.filter_some, hdigits]
    rfl
  | .element (.key k) =>
    have hkey : k.toList.any (!·.isDigit) = true := by
      obtain ⟨c, hc, hdigit⟩ := h.key_text k rfl
      exact List.any_eq_true.2 ⟨c, hc, by rw [hdigit]; rfl⟩
    simp only [key?, inBrackets?, Option.filter_some, hkey, if_true]

/-- The index of a node is the number in its brackets, if there are digits alone. -/
theorem Ordinary.index?_eq (h : n.Ordinary) :
    n.index? =
      (n.inBrackets?.filter fun s => !s.toList.isEmpty && s.toList.all Char.isDigit).map
        fun s => Nat.ofDigitChars 10 s.toList 0 := by
  obtain ⟨name, kind, inIterable⟩ := n
  match kind with
  | .property => rfl
  | .element .none => cases inIterable <;> rfl
  | .element (.index i) =>
    have hdigits : (toString i).toList.all Char.isDigit = true :=
      List.all_eq_true.2 fun c hc => isDigit_of_mem_toString hc
    have hne : (toString i).toList.isEmpty = false := by
      rw [Nat.toString_eq_repr, Nat.toList_repr, List.isEmpty_eq_false_iff]
      exact Nat.toDigits_ne_nil
    have hvalue : Nat.ofDigitChars 10 (toString i).toList 0 = i := by
      rw [Nat.toString_eq_repr, Nat.toList_repr, Nat.ofDigitChars_toDigits (by omega) (by omega)]
    simp only [index?, inBrackets?, Option.filter_some, hdigits, hne, Bool.not_false, Bool.and_true,
      if_true, Option.map_some, hvalue]
  | .element (.key k) =>
    have hkey : k.toList.all Char.isDigit = false := by
      obtain ⟨c, hc, hdigit⟩ := h.key_text k rfl
      exact List.all_eq_false.2 ⟨c, hc, by rw [hdigit]; decide⟩
    simp only [index?, inBrackets?, Option.filter_some, hkey, Bool.and_false]
    rfl

theorem Ordinary.inBrackets?_chars (h : n.Ordinary) :
    ∀ s ∈ n.inBrackets?, ∀ c ∈ s.toList, (c == ']') = false := by
  intro s hs c hc
  rw [beq_eq_false_iff_ne]
  obtain ⟨name, kind, inIterable⟩ := n
  match kind with
  | .property => cases hs
  | .element .none =>
    cases inIterable with
    | false => cases hs
    | true =>
      cases hs
      cases hc
  | .element (.index i) =>
    cases hs
    rintro rfl
    exact absurd (isDigit_of_mem_toString hc) (by decide)
  | .element (.key k) => exact h.key_chars s hs c hc

/-! ## Reading a node -/

/-- A text that is over, or goes on with a point. -/
def AtPoint (r : List Char) : Prop := ∀ c ∈ r.head?, c = '.'

theorem AtPoint.ne_bracket (h : AtPoint r) (cs : List Char) : r ≠ '[' :: cs := by
  rintro rfl
  exact absurd (h '[' rfl) (by decide)

/-- What stands in brackets is read up to the first closing bracket. -/
theorem inBrackets?_of_append (hm : m.Ordinary) (hn : n.Ordinary) (hr : AtPoint r)
    (hr' : AtPoint r') (h : m.bracket.toList ++ r = n.bracket.toList ++ r') :
    m.inBrackets? = n.inBrackets? ∧ r = r' := by
  have hchars := hm.inBrackets?_chars
  have hchars' := hn.inBrackets?_chars
  rw [toList_bracket, toList_bracket] at h
  cases hs : m.inBrackets? with
  | none =>
    cases ht : n.inBrackets? with
    | none =>
      rw [hs, ht] at h
      exact ⟨rfl, h⟩
    | some t =>
      rw [hs, ht] at h
      exact absurd h (hr.ne_bracket _)
  | some s =>
    cases ht : n.inBrackets? with
    | none =>
      rw [hs, ht] at h
      exact absurd h.symm (hr'.ne_bracket _)
    | some t =>
      rw [hs, ht] at h
      simp only [Option.elim_some, List.cons_append, List.append_assoc, List.nil_append,
        List.cons.injEq, true_and] at h
      obtain ⟨hst, hrest⟩ := append_inj_of_first (p := (· == ']')) (hchars s hs) (hchars' t ht)
        (fun c hc => by cases hc; rfl) (fun c hc => by cases hc; rfl) h
      exact ⟨by rw [String.toList_injective hst], (List.cons.inj hrest).2⟩

theorem head?_bracket_append (n : PathNode) (hr : AtPoint r) :
    ∀ c ∈ (n.bracket.toList ++ r).head?, (c == '.' || c == '[') = true := by
  intro c hc
  rw [toList_bracket] at hc
  cases hs : n.inBrackets? with
  | none =>
    rw [hs] at hc
    simp [hr c hc]
  | some s =>
    rw [hs] at hc
    cases hc
    rfl

theorem Ordinary.name_stop (h : n.Ordinary) :
    ∀ c ∈ n.name.toList, (c == '.' || c == '[') = false := fun c hc => by
  simp [h.name_chars c hc]

/-- Two nodes that are read off the same text, each up to a point or the end, are at the same
position, and the same text is left. -/
theorem alike_of_append (hm : m.Ordinary) (hn : n.Ordinary) (hr : AtPoint r) (hr' : AtPoint r')
    (h : m.text.toList ++ r = n.text.toList ++ r') : m.Alike n ∧ r = r' := by
  rw [text, text, String.toList_append, String.toList_append, List.append_assoc,
    List.append_assoc] at h
  obtain ⟨hname, hrest⟩ := append_inj_of_first hm.name_stop hn.name_stop
    (m.head?_bracket_append hr) (n.head?_bracket_append hr') h
  obtain ⟨hbrackets, rfl⟩ := inBrackets?_of_append hm hn hr hr' hrest
  refine ⟨⟨String.toList_injective hname, ?_, ?_, ?_⟩, rfl⟩
  · rw [hm.index?_eq, hn.index?_eq, hbrackets]
  · rw [hm.key?_eq, hn.key?_eq, hbrackets]
  · rw [bracket_eq, bracket_eq, hbrackets]

theorem Ordinary.text_ne (h : n.Ordinary) : n.text ≠ "" := fun htext =>
  h.name_ne (String.append_eq_empty_iff.1 htext).1

end PathNode

namespace Path

variable {p q : Path} {ms ns : List PathNode}

/-! ## Reading a path -/

/-- All nodes have ordinary names and keys. -/
def Ordinary (p : Path) : Prop := ∀ n ∈ p.nodes, n.Ordinary

/-- A path is ordinary if its nodes are, one by one. -/
instance (p : Path) : Decidable p.Ordinary :=
  inferInstanceAs (Decidable (∀ n ∈ p.nodes, n.Ordinary))

/-- The nodes of both paths are at the same positions, one by one. -/
def Alike (p q : Path) : Prop := List.Forall₂ PathNode.Alike p.nodes q.nodes

/-- The text of nodes below others, with a point before each. -/
def pointed (ns : List PathNode) : List Char := ns.flatMap fun n => '.' :: n.text.toList

theorem atPoint_pointed (ns : List PathNode) : PathNode.AtPoint (pointed ns) := by
  intro c hc
  cases ns with
  | nil => cases hc
  | cons n ns =>
    cases hc
    rfl

theorem toList_text_cons (n : PathNode) (ns : List PathNode) :
    (Path.mk (n :: ns)).text.toList = n.text.toList ++ pointed ns := by
  induction ns generalizing n with
  | nil => simp [text, pointed]
  | cons m ns ih =>
    have hcons : (Path.mk (n :: m :: ns)).text = n.text ++ "." ++ (Path.mk (m :: ns)).text :=
      String.intercalate_cons_cons
    rw [hcons, String.toList_append, String.toList_append, ih]
    simp [pointed]

theorem alike_of_pointed_eq (hms : ∀ m ∈ ms, m.Ordinary) (hns : ∀ n ∈ ns, n.Ordinary)
    (h : pointed ms = pointed ns) : List.Forall₂ PathNode.Alike ms ns := by
  induction ms generalizing ns with
  | nil =>
    cases ns with
    | nil => exact .nil
    | cons n ns => cases h
  | cons m ms ih =>
    cases ns with
    | nil => cases h
    | cons n ns =>
      obtain ⟨hm, hms⟩ := List.forall_mem_cons.1 hms
      obtain ⟨hn, hns⟩ := List.forall_mem_cons.1 hns
      obtain ⟨halike, hrest⟩ := PathNode.alike_of_append hm hn (atPoint_pointed ms)
        (atPoint_pointed ns) (List.cons.inj h).2
      exact .cons halike (ih hms hns hrest)

theorem Ordinary.text_ne {n : PathNode} (h : n.Ordinary) (ns : List PathNode) :
    (Path.mk (n :: ns)).text ≠ "" := by
  intro htext
  have hlist := toList_text_cons n ns
  rw [htext] at hlist
  exact h.text_ne (String.toList_injective (List.append_eq_nil_iff.1 hlist.symm).1)

theorem alike_of_text_eq (hp : p.Ordinary) (hq : q.Ordinary) (h : p.text = q.text) :
    p.Alike q := by
  obtain ⟨ms⟩ := p
  obtain ⟨ns⟩ := q
  cases ms with
  | nil =>
    cases ns with
    | nil => exact List.Forall₂.nil
    | cons n ns => exact absurd h.symm (Ordinary.text_ne (hq n List.mem_cons_self) ns)
  | cons m ms =>
    cases ns with
    | nil => exact absurd h (Ordinary.text_ne (hp m List.mem_cons_self) ms)
    | cons n ns =>
      -- with a point before the first node too, all nodes are read alike
      refine alike_of_pointed_eq hp hq ?_
      have hlists := congrArg String.toList h
      rw [toList_text_cons, toList_text_cons] at hlists
      exact congrArg ('.' :: ·) hlists

theorem Alike.text_eq (h : p.Alike q) : p.text = q.text := by
  have htexts : p.nodes.map PathNode.text = q.nodes.map PathNode.text := by
    refine List.forall₂_eq_eq_eq ▸ ?_
    rw [List.forall₂_map_left_iff, List.forall₂_map_right_iff]
    exact h.imp fun _ _ hnodes => hnodes.text_eq
  rw [text, text, htexts]

/-- Paths with ordinary names and keys have one text exactly if they are at the same positions. -/
theorem text_eq_iff (hp : p.Ordinary) (hq : q.Ordinary) : p.text = q.text ↔ p.Alike q :=
  ⟨alike_of_text_eq hp hq, Alike.text_eq⟩

end Path

/-! ## Violations at a text -/

theorem ViolationSet.mem_atPath {s : ViolationSet} {text : String} {x : Violation} :
    x ∈ s.atPath text ↔ x ∈ s.items ∧ x.path.text = text := by
  simp [ViolationSet.atPath]

/-- Paths with ordinary names and keys, however they were made, have one text exactly if they are at
the same positions: they have as many nodes, and node by node the same name, the same index, the
same key, and brackets in both or neither.  So of violations with such paths those found at a text
are the ones at the positions of any of them. -/
theorem texts_tell_positions {p q : Path} (hp : p.Ordinary) (hq : q.Ordinary) :
    (p.text = q.text ↔ p.Alike q) ∧
    ∀ s : ViolationSet, (∀ x ∈ s.items, x.path.Ordinary) → ∀ text, ∀ x ∈ s.atPath text,
      ∀ y ∈ s.items, (y ∈ s.atPath text ↔ x.path.Alike y.path) := by
  refine ⟨Path.text_eq_iff hp hq, fun s hs text x hx y hy => ?_⟩
  obtain ⟨hxs, rfl⟩ := ViolationSet.mem_atPath.1 hx
  rw [ViolationSet.mem_atPath, and_iff_right hy, eq_comm, Path.text_eq_iff (hs x hxs) (hs y hy)]

namespace Prices

/-- The net amount of a price, by a key with a point and a bracket in it. -/
def net : Path := ⟨[.element "prices" (.keyed "eur.[net"), .property "net"]⟩

/-- The net amount as what a wrapper holds. -/
def wrappedNet : Path := ⟨[.element "prices" (.keyed "eur.[net"), .element "net" .single]⟩

/-- The violation of a missing value at a path. -/
def missingAt (path : Path) : Violation :=
  .of { Context.detached ⟨"Order", "model::Order"⟩ [] with path } none 0 (.ofKind .notNull) .null

/-- The net amount is missing, and so is that of the first price. -/
def missing : ViolationSet :=
  .insertAll .empty
    [missingAt net, missingAt ⟨[.element "prices" (.indexed 0), .property "net"]⟩,
      missingAt wrappedNet]

end Prices

open Prices

theorem net_amounts_alike :
    net.Ordinary ∧ wrappedNet.Ordinary ∧ net ≠ wrappedNet ∧ net.Alike wrappedNet ∧
      (∀ x ∈ missing.items, x.path.Ordinary) ∧ missing.items.length = 3 ∧
      ∀ y ∈ missing.items, (y ∈ missing.atPath net.text ↔ net.Alike y.path) := by
  have hnet : net.Ordinary := by decide
  have hwrapped : wrappedNet.Ordinary := by decide
  have hmissing : ∀ x ∈ missing.items, x.path.Ordinary := by decide +kernel
  have hmem : missingAt net ∈ missing.atPath net.text := by
    refine ViolationSet.mem_atPath.2 ⟨?_, rfl⟩
    exact ViolationSet.subset_insert _ _ (ViolationSet.subset_insert _ _ List.mem_cons_self)
  obtain ⟨halike, hat⟩ := texts_tell_positions hnet hwrapped
  exact ⟨hnet, hwrapped, by decide, halike.1 (by decide), hmissing, by decide +kernel,
    hat missing hmissing net.text (missingAt net) hmem⟩

end BeanGraph
