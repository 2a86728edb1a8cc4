/-!
# Registries

A `Table` keeps the first entry registered for each key and refuses any later one.

* `find?_register`: a registration changes the one look-up, of its own key;
* `register?_eq_none_iff`: it is refused exactly when the key is there;
* `keys_register`: it puts its key after those that are there.
-/

namespace BeanGraph

/-- A key at the end counts only if it is not there before. -/
theorem eraseDups_concat {κ : Type} [BEq κ] [LawfulBEq κ] (keys : List κ) (key : κ) :
    (keys ++ [key]).eraseDups =
      if keys.contains key then keys.eraseDups else keys.eraseDups ++ [key] := by
  rw [List.eraseDups_append, List.removeAll]
  by_cases h : keys.contains key = true <;> simp_all [List.eraseDups_cons]

/-- Entries by key, in the order they were registered. -/
structure Table (κ α : Type) where
  entries : List (κ × α) := []

namespace Table

variable {κ α : Type} [DecidableEq κ]

/-- The entry of a key. -/
def find? (t : Table κ α) (key : κ) : Option α := t.entries.lookup key

/-- The table has an entry of a key. -/
def contains (t : Table κ α) (key : κ) : Bool := (t.find? key).isSome

/-- Adds an entry; a key that is there already is refused. -/
def register? (t : Table κ α) (key : κ) (a : α) : Option (Table κ α) :=
  if t.contains key then none else some ⟨t.entries ++ [(key, a)]⟩

/-- The number of entries. -/
def size (t : Table κ α) : Nat := t.entries.length

/-- The table of the given entries, the first one of each key counting. -/
def ofList (entries : List (κ × α)) : Table κ α := ⟨entries⟩

theorem find?_ofList_cons (key k : κ) (a : α) (rest : List (κ × α)) :
    (ofList ((k, a) :: rest)).find? key = if key = k then some a else (ofList rest).find? key := by
  rw [find?, find?, ofList, List.lookup_cons]
  by_cases h : key = k
  · rw [if_pos h, beq_iff_eq.2 h]
  · rw [if_neg h, beq_eq_false_iff_ne.2 h, ofList]

theorem mem_of_find? {t : Table κ α} {key : κ} {a : α} (h : t.find? key = some a) :
    (key, a) ∈ t.entries := by
  obtain ⟨l, l', hentries, -⟩ := List.lookup_eq_some_iff.1 h
  rw [hentries]
  exact List.mem_append_right l List.mem_cons_self

theorem register?_eq_none_iff {t : Table κ α} {key : κ} {a : α} :
    t.register? key a = none ↔ t.contains key = true := by
  simp [register?]

theorem find?_register {t u : Table κ α} {key : κ} {a : α} (h : t.register? key a = some u)
    (k : κ) : u.find? k = if k = key then some a else t.find? k := by
  unfold register? at h
  split at h
  · simp at h
  · rename_i hc
    cases h
    simp only [find?, List.lookup_append]
    by_cases hk : k = key
    · subst hk
      simp only [contains, find?, Bool.not_eq_true, Option.isSome_eq_false_iff,
        Option.isNone_iff_eq_none] at hc
      simp [hc]
    · have : (k == key) = false := by simp [hk]
      simp [hk, List.lookup_cons, this]

/-- The keys in the order they were registered. -/
def keys (t : Table κ α) : List κ := t.entries.map (·.1)

omit [DecidableEq κ] in
theorem size_eq_length_keys (t : Table κ α) : t.size = t.keys.length := (List.length_map _).symm

theorem contains_iff_mem_keys {t : Table κ α} {key : κ} : t.contains key = true ↔ key ∈ t.keys := by
  rw [contains, Option.isSome_iff_exists]
  constructor
  · rintro ⟨a, ha⟩
    exact List.mem_map.2 ⟨(key, a), mem_of_find? ha, rfl⟩
  · intro h
    obtain ⟨⟨_, a⟩, hmem, rfl⟩ := List.mem_map.1 h
    refine Option.ne_none_iff_exists'.1 fun hnone => ?_
    have hne := List.lookup_eq_none_iff.1 hnone _ hmem
    simp at hne

theorem keys_register {t u : Table κ α} {key : κ} {a : α} (h : t.register? key a = some u) :
    u.keys = t.keys ++ [key] := by
  unfold register? at h
  split at h
  · simp at h
  · cases h
    rw [keys, List.map_append]
    rfl

end Table

end BeanGraph
