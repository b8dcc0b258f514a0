import Mathlib.Tactic.Lemma
import EntityScaffold.Text.Basic
/-!
# Joined texts

Joining puts a separator between neighbours only, so that the pieces between the separators of a text are
joined to the text again (`join_pieces`), and texts without separators are the pieces of what they are joined to
(`pieces_join`).  A text without separators that is put behind another is a part of its last
piece (`pieces_append_of_notMem`).
-/

namespace EntityScaffold.Text

lemma join_cons_cons (sep first second : String) (more : List String) :
    join sep (first :: second :: more) = first ++ sep ++ join sep (second :: more) := rfl

/-- What stands before and after one of the joined texts. -/
theorem join_append_cons (sep : String) (before : List String) (s : String) (after : List String) :
    join sep (before ++ s :: after) =
      String.join (before.map (· ++ sep)) ++ s ++ String.join (after.map (sep ++ ·)) := by
  induction before with
  | nil =>
    induction after generalizing s with
    | nil => simp [join]
    | cons t after ih =>
      have ht := ih t
      simp only [List.nil_append, List.map_nil, String.join_nil, String.empty_append] at ht ⊢
      rw [join_cons_cons, ht]
      simp [String.append_assoc]
  | cons b before ih =>
    obtain ⟨t, more, hmore⟩ : ∃ t more, before ++ s :: after = t :: more := by
      cases before <;> exact ⟨_, _, rfl⟩
    rw [List.cons_append, hmore, join_cons_cons, ← hmore, ih]
    simp [String.append_assoc]

lemma join_concat {init : List String} (h : init ≠ []) (sep last : String) :
    join sep (init ++ [last]) = join sep init ++ sep ++ last := by
  obtain ⟨first, more, rfl⟩ := List.exists_cons_of_ne_nil h
  induction more generalizing first with
  | nil => rfl
  | cons second more ih =>
    rw [List.cons_append, List.cons_append, join_cons_cons, join_cons_cons, ← List.cons_append,
      ih second (List.cons_ne_nil _ _)]
    simp only [String.append_assoc]

/-- A comma and a blank between texts is a comma between them, and a blank before all but the first. -/
lemma join_comma_blank (first : String) (more : List String) :
    join ", " (first :: more) = join "," (first :: more.map (" " ++ ·)) := by
  have hsep : ", " = "," ++ " " := by decide
  induction more generalizing first with
  | nil => rfl
  | cons second more ih =>
    rw [List.map_cons, join_cons_cons, join_cons_cons, ih, hsep]
    cases more with
    | nil => simp only [List.map_nil, join, String.append_assoc]
    | cons third more => simp only [List.map_cons, join_cons_cons, String.append_assoc]

lemma toList_join (sep : String) (items : List String) :
    (join sep items).toList = sep.toList.intercalate (items.map String.toList) := by
  induction items with
  | nil => rfl
  | cons first more ih =>
    cases more with
    | nil => simp [join]
    | cons second more =>
      rw [join_cons_cons, String.toList_append, String.toList_append, ih]
      simp [List.append_assoc]

theorem join_pieces (s : String) : join "\\" (pieces '\\' s) = s := by
  rw [← String.toList_inj, toList_join, pieces, piecesBy, List.map_map]
  have hid : (String.toList ∘ String.ofList) = id := funext fun cs => String.toList_ofList
  rw [hid, List.map_id]
  exact List.intercalate_splitOn '\\'

/-- What is in a joined text is in one of the texts, or between two of them. -/
theorem mem_join {sep : String} {items : List String} {c : Char} (h : c ∈ (join sep items).toList) :
    c ∈ sep.toList ∨ ∃ item ∈ items, c ∈ item.toList := by
  induction items with
  | nil => cases h
  | cons first more ih =>
    cases more with
    | nil => exact .inr ⟨first, List.mem_cons_self, h⟩
    | cons second more =>
      rw [join_cons_cons, String.toList_append, String.toList_append, List.mem_append, List.mem_append] at h
      rcases h with (h | h) | h
      · exact .inr ⟨first, List.mem_cons_self, h⟩
      · exact .inl h
      · obtain hsep | ⟨item, hitem, hc⟩ := ih h
        · exact .inl hsep
        · exact .inr ⟨item, List.mem_cons_of_mem _ hitem, hc⟩

/-! ## Separators -/

/-- What is in a piece is in the list, and is no separator. -/
lemma of_mem_splitOnP {α : Type} {p : α → Bool} {cs piece : List α} (h : piece ∈ cs.splitOnP p) :
    ∀ c ∈ piece, c ∈ cs ∧ p c = false := by
  induction cs generalizing piece with
  | nil =>
    rw [List.splitOnP_nil, List.mem_singleton] at h
    rw [h]
    exact List.forall_mem_nil _
  | cons c cs ih =>
    have hrest {piece : List α} (hpiece : piece ∈ cs.splitOnP p) : ∀ d ∈ piece, d ∈ c :: cs ∧ p d = false :=
      fun d hd => (ih hpiece d hd).imp_left (List.mem_cons_of_mem c)
    rw [List.splitOnP_cons_eq_if_modifyHead] at h
    split at h
    · rcases List.mem_cons.1 h with rfl | h
      · exact List.forall_mem_nil _
      · exact hrest h
    · next hc =>
      obtain ⟨first, more, hsplit⟩ := List.exists_cons_of_ne_nil (List.splitOnP_ne_nil p cs)
      rw [hsplit] at hrest h
      rcases List.mem_cons.1 h with rfl | h
      · exact List.forall_mem_cons.2 ⟨⟨List.mem_cons_self, eq_false_of_ne_true hc⟩, hrest List.mem_cons_self⟩
      · exact hrest (List.mem_cons_of_mem first h)

lemma notMem_of_mem_pieces {sep : Char} {s piece : String} (h : piece ∈ pieces sep s) : sep ∉ piece.toList := by
  obtain ⟨cs, hcs, rfl⟩ := List.mem_map.1 h
  rw [String.toList_ofList]
  intro hmem
  exact absurd (of_mem_splitOnP hcs sep hmem).2 (by simp)

/-- Texts without separators are the pieces of the text to which they are joined. -/
theorem pieces_join {sep : Char} {items : List String} (hne : items ≠ []) (h : ∀ item ∈ items, sep ∉ item.toList) :
    pieces sep (join (.singleton sep) items) = items := by
  have hsplit : (join (.singleton sep) items).toList.splitOn sep = items.map String.toList := by
    rw [toList_join, String.toList_singleton]
    exact List.splitOn_intercalate sep (List.forall_mem_map.2 h) (mt List.map_eq_nil_iff.1 hne)
  have hid : (String.ofList ∘ String.toList) = id := funext fun s => String.ofList_toList
  rw [List.splitOn] at hsplit
  rw [pieces, piecesBy, hsplit, List.map_map, hid, List.map_id]

/-- There is always a last piece. -/
theorem pieces_eq_concat (sep : Char) (s : String) :
    pieces sep s = (pieces sep s).dropLast ++ [(pieces sep s).getLastD ""] := by
  have hne : pieces sep s ≠ [] := by simp [pieces, piecesBy]
  rw [List.getLastD_eq_getLast?, List.getLast?_eq_some_getLast hne, Option.getD_some, List.dropLast_concat_getLast]

lemma lastPiece_mem_pieces (sep : Char) (s : String) : (pieces sep s).getLastD "" ∈ pieces sep s := by
  rw [pieces_eq_concat, List.getLastD_concat]
  exact List.mem_concat_self

/-! ## Pieces of longer texts -/

/-- What is put behind a list without separators gets to the last piece. -/
lemma exists_splitOnP_append {α : Type} (p : α → Bool) (cs : List α) :
    ∃ init last, ∀ ds : List α, (∀ d ∈ ds, p d = false) → (cs ++ ds).splitOnP p = init ++ [last ++ ds] := by
  induction cs with
  | nil =>
    refine ⟨[], [], fun ds hds => ?_⟩
    rw [List.nil_append, List.splitOnP_eq_singleton hds]
    rfl
  | cons c cs ih =>
    obtain ⟨init, last, hsplit⟩ := ih
    by_cases hc : p c = true
    · refine ⟨[] :: init, last, fun ds hds => ?_⟩
      rw [List.cons_append, List.splitOnP_cons_eq_if_modifyHead, if_pos hc, hsplit ds hds]
      rfl
    · cases init with
      | nil =>
        refine ⟨[], c :: last, fun ds hds => ?_⟩
        rw [List.cons_append, List.splitOnP_cons_eq_if_modifyHead, if_neg hc, hsplit ds hds]
        rfl
      | cons first more =>
        refine ⟨(c :: first) :: more, last, fun ds hds => ?_⟩
        rw [List.cons_append, List.splitOnP_cons_eq_if_modifyHead, if_neg hc, hsplit ds hds]
        rfl

/-- What is put behind a text without separators gets to the last piece. -/
theorem pieces_append_of_notMem {sep : Char} {s t : String} (h : sep ∉ t.toList) :
    pieces sep (s ++ t) = (pieces sep s).dropLast ++ [(pieces sep s).getLastD "" ++ t] := by
  obtain ⟨init, last, hsplit⟩ := exists_splitOnP_append (· == sep) s.toList
  have hself : s.toList.splitOnP (· == sep) = init ++ [last] := by
    simpa using hsplit [] (List.forall_mem_nil _)
  have hends : ∀ c ∈ t.toList, (c == sep) = false := by
    intro c hc
    refine beq_false_of_ne ?_
    rintro rfl
    exact h hc
  rw [pieces, pieces, piecesBy, piecesBy, String.toList_append, hsplit _ hends, hself]
  simp [String.ofList_append]

end EntityScaffold.Text
