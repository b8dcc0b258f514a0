import EntityScaffold.Proofs.Source.Layout
/-!
# The comments inside a class

Only the comments of members and methods are written at one level of indentation behind a star, so a line of that
form can be traced back to one of them (`exists_comment_of_mem_lines`).  That no other line looks like it is read off
the first characters of each kind of line.
-/

namespace EntityScaffold.SourceUnit

open Text Source

/-- The beginning of a line of a comment inside a class. -/
def innerStar : String := margin ++ " * "

/-- A line that begins like one of a comment inside a class. -/
def IsInnerNote (line : String) : Prop := innerStar.toList <+: line.toList

instance (line : String) : Decidable (IsInnerNote line) := inferInstanceAs (Decidable (_ <+: _))

variable {u : SourceUnit} {line text start rest : String} {block : List String} {blocks : List (List String)}

/-- A text that begins otherwise does not begin in some way, however it goes on. -/
theorem not_prefix_append (h : ¬ text.toList <+: start.toList ∧ ¬ start.toList <+: text.toList) :
    ¬ text.toList <+: (start ++ rest).toList := by
  intro hprefix
  rw [String.toList_append] at hprefix
  exact (List.prefix_or_prefix_of_prefix hprefix (List.prefix_append _ _)).elim h.1 h.2

lemma not_isInnerNote_append (h : ¬ innerStar.toList <+: start.toList ∧ ¬ start.toList <+: innerStar.toList) :
    ¬ IsInnerNote (start ++ rest) := not_prefix_append h

lemma prefix_trimEnd (s : String) : (trimEnd s).toList <+: s.toList := by
  rw [trimEnd, toList_through]
  exact List.rdropWhile_prefix isBlank s.toList

/-- What is written of a comment begins as it does. -/
lemma prefix_of_trimEnd_note {comment : String} (h : trimEnd (margin ++ " * " ++ comment) = innerStar ++ text) :
    text.toList <+: comment.toList := by
  have hprefix := prefix_trimEnd (margin ++ " * " ++ comment)
  rw [h, String.toList_append, String.toList_append] at hprefix
  exact (List.prefix_append_right_inj innerStar.toList).1 hprefix

lemma mem_separate (h : line ∈ separate blocks) : line = "" ∨ ∃ block ∈ blocks, line ∈ block := by
  induction blocks with
  | nil => cases h
  | cons block rest ih =>
    cases rest with
    | nil => exact .inr ⟨block, List.mem_cons_self, h⟩
    | cons second rest =>
      simp only [separate, List.mem_append, List.mem_cons] at h
      rcases h with hblock | hempty | hrest
      · exact .inr ⟨block, List.mem_cons_self, hblock⟩
      · exact .inl hempty
      · obtain hempty | ⟨other, hother, hline⟩ := ih hrest
        · exact .inl hempty
        · exact .inr ⟨other, List.mem_cons_of_mem block hother, hline⟩

lemma mem_separate_of_mem (hblock : block ∈ blocks) (hline : line ∈ block) : line ∈ separate blocks := by
  induction blocks with
  | nil => cases hblock
  | cons first rest ih =>
    cases rest with
    | nil =>
      rw [List.mem_singleton] at hblock
      exact hblock ▸ hline
    | cons second rest =>
      simp only [separate, List.mem_append, List.mem_cons]
      rcases List.mem_cons.1 hblock with rfl | hrest
      · exact .inl hline
      · exact .inr (.inr (ih hrest))

/-- A comment of a member is printed. -/
lemma mem_lines_of_comment {m : Member} {comment : String} (hm : m ∈ u.declaration.members)
    (hcomment : comment ∈ m.comments) : trimEnd (margin ++ " * " ++ comment) ∈ u.lines := by
  have hnone : m.comments.isEmpty = false := by
    cases hcomments : m.comments with
    | nil => rw [hcomments] at hcomment; cases hcomment
    | cons first rest => rfl
  have hline : trimEnd (margin ++ " * " ++ comment) ∈ u.memberLines m := by
    refine List.mem_append_left _ ?_
    rw [commentsBefore, hnone]
    exact List.mem_append_left _ (List.mem_cons_of_mem _ (List.mem_map.2 ⟨comment, hcomment, rfl⟩))
  have hblock : u.memberLines m ∈ u.blocks :=
    List.mem_append_left _ (List.mem_append_right _ (List.mem_map_of_mem hm))
  rw [lines_eq, classLines]
  refine List.mem_append_right _ (List.mem_cons_of_mem _ (List.mem_append_right _ ?_))
  exact List.mem_append_left _ (List.mem_append_right _ (mem_separate_of_mem hblock hline))

/-! ## Kinds of lines -/

lemma exists_comment_of_mem_commentsBefore {comments : List String} (h : line ∈ commentsBefore comments margin)
    (hnote : IsInnerNote line) : ∃ comment ∈ comments, line = trimEnd (margin ++ " * " ++ comment) := by
  rw [commentsBefore] at h
  split at h
  · cases h
  · simp only [commentLines, List.mem_append, List.mem_cons, List.mem_map, List.not_mem_nil, or_false] at h
    rcases h with (rfl | ⟨comment, hcomment, rfl⟩) | rfl
    · exact absurd hnote (by decide)
    · exact ⟨comment, hcomment, rfl⟩
    · exact absurd hnote (by decide)

lemma not_isInnerNote_keyword (v : Visibility) : ¬ IsInnerNote (margin ++ v.keyword ++ rest) := by
  cases v <;> exact not_isInnerNote_append (by decide)

lemma exists_comment_of_mem_memberLines {m : Member} (h : line ∈ u.memberLines m) (hnote : IsInnerNote line) :
    ∃ comment ∈ m.comments, line = trimEnd (margin ++ " * " ++ comment) := by
  rw [memberLines, List.mem_append, List.mem_singleton] at h
  rcases h with hcomment | rfl
  · exact exists_comment_of_mem_commentsBefore hcomment hnote
  · simp only [String.append_assoc] at hnote
    rw [← String.append_assoc] at hnote
    exact absurd hnote (not_isInnerNote_keyword _)

lemma exists_comment_of_mem_methodLines {m : Method} (h : line ∈ u.methodLines m) (hnote : IsInnerNote line) :
    ∃ comment ∈ m.comments, line = trimEnd (margin ++ " * " ++ comment) := by
  have hhead : ∀ line ∈ u.methodHead m, ¬ IsInnerNote line := by
    have hopening (rest : String) : ¬ IsInnerNote (margin ++ (m.visibility.keyword ++ rest)) := by
      rw [← String.append_assoc]
      exact not_isInnerNote_keyword _
    simp only [methodHead, String.append_assoc]
    split
    · simp only [List.cons_append, List.forall_mem_cons, List.forall_mem_append, List.forall_mem_map]
      refine ⟨hopening _, fun p _ => ?_, ?_, List.forall_mem_nil _⟩
      · rw [← String.append_assoc]
        exact not_isInnerNote_append (by decide)
      · rw [← String.append_assoc]
        exact not_isInnerNote_append (by decide)
    · exact List.forall_mem_cons.2 ⟨hopening _, List.forall_mem_singleton.2 (by decide)⟩
  have hbody : ∀ line ∈ (bodyLines m.body).map bodyLine, ¬ IsInnerNote line := by
    refine List.forall_mem_map.2 fun line _ => ?_
    rw [bodyLine]
    split
    · decide
    · exact not_isInnerNote_append (by decide)
  simp only [methodLines, List.mem_append, List.mem_singleton] at h
  rcases h with ((hcomment | hline) | hline) | rfl
  · exact exists_comment_of_mem_commentsBefore hcomment hnote
  · exact absurd hnote (hhead line hline)
  · exact absurd hnote (hbody line hline)
  · exact absurd hnote (by decide)

lemma not_isInnerNote_header (u : SourceUnit) : ¬ IsInnerNote u.header := by
  simp only [header, String.append_assoc]
  split
  · exact not_isInnerNote_append (by decide)
  · split
    · exact not_isInnerNote_append (by decide)
    · rw [String.empty_append]
      exact not_isInnerNote_append (by decide)

lemma not_isInnerNote_topLines (u : SourceUnit) : ∀ line ∈ u.topLines, ¬ IsInnerNote line := by
  have hspace : ¬ IsInnerNote ("namespace " ++ u.space ++ ";") := by
    rw [String.append_assoc]
    exact not_isInnerNote_append (by decide)
  have huse (entry : String) : ¬ IsInnerNote ("use " ++ entry ++ ";") := by
    rw [String.append_assoc]
    exact not_isInnerNote_append (by decide)
  rw [topLines, List.forall_mem_append]
  constructor
  · simp only [List.forall_mem_cons]
    exact ⟨by decide, by decide, by decide, by decide, hspace, List.forall_mem_nil _⟩
  · split
    · exact List.forall_mem_nil _
    · exact List.forall_mem_cons.2 ⟨by decide, List.forall_mem_map.2 fun entry _ => huse entry⟩

lemma not_isInnerNote_commentsBefore (comments : List String) :
    ∀ line ∈ commentsBefore comments "", ¬ IsInnerNote line := by
  -- The star of a comment on the class stands at the margin, and is no blank that could be cut off.
  have hline (comment : String) : ¬ IsInnerNote (trimEnd ("" ++ " * " ++ comment)) := by
    intro hnote
    have hstart := hnote.trans (prefix_trimEnd ("" ++ " * " ++ comment))
    exact not_isInnerNote_append (by decide) hstart
  rw [commentsBefore]
  split
  · exact List.forall_mem_nil _
  · simp only [commentLines, List.forall_mem_append, List.forall_mem_cons, List.forall_mem_map]
    exact ⟨⟨by decide, fun comment _ => hline comment⟩, by decide, List.forall_mem_nil _⟩

/-- A line that looks like a comment inside the class is one of a member or of a method. -/
theorem exists_comment_of_mem_lines (h : innerStar ++ text ∈ u.lines) :
    ∃ comment ∈ u.declaration.members.flatMap (·.comments) ++ u.declaration.methods.flatMap (·.comments),
      text.toList <+: comment.toList := by
  have hnote : IsInnerNote (innerStar ++ text) := by
    rw [IsInnerNote, String.toList_append]
    exact List.prefix_append _ _
  have htraits : ∀ line ∈ u.traitLines, ¬ IsInnerNote line := by
    refine List.forall_mem_map.2 fun t _ => ?_
    rw [String.append_assoc]
    exact not_isInnerNote_append (by decide)
  rw [lines_eq, List.mem_append, List.mem_cons, classLines, List.mem_append, List.mem_append, List.mem_append] at h
  rcases h with htop | hempty | hcomment | (hheader | hblocks) | hclosing
  · exact absurd hnote (not_isInnerNote_topLines u _ htop)
  · exact absurd hnote (hempty ▸ by decide)
  · exact absurd hnote (not_isInnerNote_commentsBefore _ _ hcomment)
  · rcases List.mem_pair.1 hheader with heq | heq
    · exact absurd (heq ▸ hnote) (not_isInnerNote_header u)
    · exact absurd (heq ▸ hnote) (by decide)
  · obtain hempty | ⟨block, hblock, hline⟩ := mem_separate hblocks
    · exact absurd hnote (hempty ▸ by decide)
    · simp only [blocks, List.mem_append, List.mem_map] at hblock
      rcases hblock with (htrait | ⟨m, hm, rfl⟩) | ⟨m, hm, rfl⟩
      · split at htrait
        · cases htrait
        · rw [List.mem_singleton] at htrait
          exact absurd hnote (htraits _ (htrait ▸ hline))
      · obtain ⟨comment, hcomment, heq⟩ := exists_comment_of_mem_memberLines hline hnote
        exact ⟨comment, List.mem_append_left _ (List.mem_flatMap.2 ⟨m, hm, hcomment⟩),
          prefix_of_trimEnd_note heq.symm⟩
      · obtain ⟨comment, hcomment, heq⟩ := exists_comment_of_mem_methodLines hline hnote
        exact ⟨comment, List.mem_append_right _ (List.mem_flatMap.2 ⟨m, hm, hcomment⟩),
          prefix_of_trimEnd_note heq.symm⟩
  · exact absurd hnote (List.mem_singleton.1 hclosing ▸ by decide)

end EntityScaffold.SourceUnit
