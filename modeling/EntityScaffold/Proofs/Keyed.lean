import Mathlib.Data.List.Induction
import Mathlib.Data.List.Nodup
import EntityScaffold.Keyed
/-!
# Tables that are built by writes

A table that a sequence of writes builds has each key once (`nodup_ofWrites`), holds nothing that was not written
(`mem_of_mem_ofWrites`), and has every key that was (`mem_keys_ofWrites_iff`).  A list of pairs in which no key
occurs twice is the table of its own pairs (`ofWrites_eq_self`), so that writing a table again changes nothing.
-/

namespace EntityScaffold.Keyed

variable {α β : Type} [BEq α] [LawfulBEq α] {key : α} {value : β} {entries writes : List (α × β)}

/-- In a table, every pair is what is found under its key. -/
theorem lookup_of_mem (hnodup : (entries.map (·.1)).Nodup) (hmem : (key, value) ∈ entries) :
    entries.lookup key = some value := by
  induction entries with
  | nil => cases hmem
  | cons entry rest ih =>
    obtain ⟨k, v⟩ := entry
    obtain ⟨hk, hrest⟩ := List.nodup_cons.1 hnodup
    rcases List.mem_cons.1 hmem with heq | hmem
    · cases heq
      simp
    · have hne : (key == k) = false := by
        refine beq_false_of_ne fun heq => hk ?_
        rw [← heq]
        exact List.mem_map.2 ⟨_, hmem, rfl⟩
      rw [List.lookup_cons, hne]
      exact ih hrest hmem

/-- A key is found exactly if it is in the table. -/
theorem exists_lookup_iff : (∃ v, entries.lookup key = some v) ↔ key ∈ entries.map (·.1) := by
  rw [← Option.isSome_iff_exists, List.lookup_isSome_iff, List.mem_map]
  simp

lemma mem_of_mem_put {entry : α × β} (h : entry ∈ put key value entries) :
    entry = (key, value) ∨ entry ∈ entries := by
  induction entries with
  | nil => exact .inl (List.mem_singleton.1 h)
  | cons first rest ih =>
    obtain ⟨k, v⟩ := first
    by_cases hk : k = key
    · rw [put, if_pos (beq_iff_eq.2 hk), List.mem_cons, hk] at h
      exact h.imp_right (List.mem_cons_of_mem _)
    · rw [put, if_neg (by simpa using hk), List.mem_cons] at h
      rcases h with rfl | h
      · exact .inr List.mem_cons_self
      · exact (ih h).imp_right (List.mem_cons_of_mem _)

lemma nodup_put (h : (entries.map (·.1)).Nodup) : ((put key value entries).map (·.1)).Nodup := by
  rw [map_fst_put]
  by_cases hkey : key ∈ entries.map (·.1)
  · rwa [if_pos hkey]
  · rw [if_neg hkey]
    exact h.append (List.nodup_singleton key) (by simpa using hkey)

omit [LawfulBEq α] in
lemma ofWrites_concat (writes : List (α × β)) (key : α) (value : β) :
    ofWrites (writes ++ [(key, value)]) = put key value (ofWrites writes) := by
  rw [ofWrites, List.foldl_append]
  rfl

/-- No key is in a table twice. -/
theorem nodup_ofWrites (writes : List (α × β)) : ((ofWrites writes).map (·.1)).Nodup := by
  induction writes using List.reverseRecOn with
  | nil => exact List.nodup_nil
  | append_singleton writes write ih =>
    rw [ofWrites_concat]
    exact nodup_put ih

/-- What is in a table was written. -/
theorem mem_of_mem_ofWrites {entry : α × β} (h : entry ∈ ofWrites writes) : entry ∈ writes := by
  induction writes using List.reverseRecOn with
  | nil => exact h
  | append_singleton writes write ih =>
    rw [ofWrites_concat] at h
    rcases mem_of_mem_put h with rfl | h
    · exact List.mem_append_right _ (List.mem_singleton_self _)
    · exact List.mem_append_left _ (ih h)

/-- The keys of a table are those that were written. -/
theorem mem_keys_ofWrites_iff : key ∈ (ofWrites writes).map (·.1) ↔ key ∈ writes.map (·.1) := by
  induction writes using List.reverseRecOn with
  | nil => rfl
  | append_singleton writes write ih =>
    obtain ⟨k, v⟩ := write
    rw [ofWrites_concat, map_fst_put, List.map_append, List.mem_append, ← ih, List.map_singleton,
      List.mem_singleton]
    by_cases hk : k ∈ (ofWrites writes).map (·.1)
    · rw [if_pos hk]
      constructor
      · exact .inl
      · rintro (h | rfl)
        · exact h
        · exact hk
    · rw [if_neg hk, List.mem_append, List.mem_singleton]

/-- A list without repeated keys is the table of its own pairs. -/
theorem ofWrites_eq_self (h : (writes.map (·.1)).Nodup) : ofWrites writes = writes := by
  induction writes using List.reverseRecOn with
  | nil => rfl
  | append_singleton writes write ih =>
    rw [List.map_append, List.map_singleton, List.nodup_append] at h
    obtain ⟨hwrites, -, hnew⟩ := h
    have hkey : write.1 ∉ writes.map (·.1) := by
      intro hmem
      exact hnew _ hmem _ (List.mem_singleton_self _) rfl
    rw [ofWrites_concat, ih hwrites, put_of_notMem hkey]

/-! ## Parts of a table -/

omit [LawfulBEq α] in
/-- The pairs of a table under some keys, in the order of the keys. -/
def select (table : List (α × β)) (keys : List α) : List (α × β) :=
  keys.filterMap fun key => (table.lookup key).map (key, ·)

variable {table : List (α × β)} {keys : List α}

omit [LawfulBEq α] in
lemma lookup_of_mem_select {entry : α × β} (h : entry ∈ select table keys) :
    table.lookup entry.1 = some entry.2 := by
  obtain ⟨key, -, hentry⟩ := List.mem_filterMap.1 h
  obtain ⟨value, hvalue, rfl⟩ := Option.map_eq_some_iff.1 hentry
  exact hvalue

omit [LawfulBEq α] in
/-- Pairs that are found in a table are selected by their keys. -/
lemma select_map_fst (h : ∀ entry ∈ entries, table.lookup entry.1 = some entry.2) :
    select table (entries.map (·.1)) = entries := by
  rw [select, List.filterMap_map]
  have hentry : ∀ entry ∈ entries,
      ((fun key => (table.lookup key).map (key, ·)) ∘ (·.1)) entry = some entry := by
    intro entry hmem
    simp [h entry hmem]
  exact (List.filterMap_congr hentry).trans List.filterMap_some

end EntityScaffold.Keyed
