/-!
# Keyed lists

Lists of pairs that are read like a table: `List.lookup` finds the value of the first pair with a key, and
`Keyed.put` writes one.  A write changes what is found under its own key and nothing else
(`lookup_put_self`, `lookup_put_of_ne`); a key that is there already keeps its place, and a new one comes
last (`map_fst_put`).
-/

namespace EntityScaffold.Keyed

variable {α β : Type} [BEq α]

/-- Write a value to a key. -/
def put (key : α) (value : β) : List (α × β) → List (α × β)
  | [] => [(key, value)]
  | (k, v) :: rest => if k == key then (k, value) :: rest else (k, v) :: put key value rest

/-- The table that a sequence of writes builds. -/
def ofWrites (writes : List (α × β)) : List (α × β) :=
  writes.foldl (fun entries (key, value) => put key value entries) []

variable [LawfulBEq α]

/-- What is found stands in the table, under the key. -/
theorem mem_of_lookup {key : α} {value : β} {entries : List (α × β)} (h : entries.lookup key = some value) :
    (key, value) ∈ entries := by
  obtain ⟨before, after, hentries, -⟩ := List.lookup_eq_some_iff.1 h
  rw [hentries]
  exact List.mem_append_right before List.mem_cons_self

/-- A new key comes last. -/
theorem put_of_notMem {key : α} {entries : List (α × β)} (h : key ∉ entries.map (·.1)) (value : β) :
    put key value entries = entries ++ [(key, value)] := by
  induction entries with
  | nil => rfl
  | cons entry rest ih =>
    simp only [List.map_cons, List.mem_cons, not_or] at h
    have hkey : (entry.1 == key) = false := beq_false_of_ne (Ne.symm h.1)
    simp [put, hkey, ih h.2]

/-- What was written is found. -/
@[simp] theorem lookup_put_self (key : α) (value : β) (entries : List (α × β)) :
    (put key value entries).lookup key = some value := by
  induction entries with
  | nil => simp [put]
  | cons entry rest ih =>
    obtain ⟨k, v⟩ := entry
    by_cases h : k = key
    · simp [put, h]
    · have hk : (key == k) = false := beq_false_of_ne (Ne.symm h)
      simp [put, h, List.lookup_cons, hk, ih]

/-- Under other keys nothing changes. -/
theorem lookup_put_of_ne {key other : α} (h : other ≠ key) (value : β) (entries : List (α × β)) :
    (put key value entries).lookup other = entries.lookup other := by
  have ho : (other == key) = false := beq_false_of_ne h
  induction entries with
  | nil => simp [put, List.lookup_cons, ho]
  | cons entry rest ih =>
    obtain ⟨k, v⟩ := entry
    by_cases hk : k = key
    · simp [put, hk, List.lookup_cons, ho]
    · simp [put, hk, List.lookup_cons, ih]

/-- Keys keep their places, and a new one comes last. -/
theorem map_fst_put (key : α) (value : β) (entries : List (α × β)) :
    (put key value entries).map (·.1) =
      if key ∈ entries.map (·.1) then entries.map (·.1) else entries.map (·.1) ++ [key] := by
  induction entries with
  | nil => simp [put]
  | cons entry rest ih =>
    obtain ⟨k, v⟩ := entry
    by_cases h : k = key
    · simp [put, h]
    · by_cases hm : key ∈ rest.map (·.1) <;> simp_all [put, Ne.symm h]

end EntityScaffold.Keyed
