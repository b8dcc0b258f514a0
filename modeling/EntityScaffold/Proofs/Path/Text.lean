import EntityScaffold.Proofs.Path
/-!
# Paths as texts

A path that was read from a text is in normal form (`isNormal_ofString`): none of its names is empty or a single dot,
and no name holds a slash.  A path in normal form is read back from its own text (`ofString_toString`).  The text of
a path is therefore as good as the path, although many texts are read as the same path.
-/

namespace EntityScaffold.Path

open Text

variable {names : List String} {p : Path}

/-- A path in normal form: all its names are names. -/
def IsNormal (p : Path) : Prop := ∀ name ∈ p.components, isComponent name = true ∧ '/' ∉ name.toList

instance : DecidablePred IsNormal := fun _ => inferInstanceAs (Decidable (∀ _ ∈ _, _))

/-- What is read from a text is in normal form. -/
theorem isNormal_ofString (s : String) : (ofString s).IsNormal := by
  intro name hname
  obtain ⟨hpiece, hcomponent⟩ := List.mem_filter.1 hname
  exact ⟨hcomponent, notMem_of_mem_pieces hpiece⟩

/-- The slashes of a root stand before the pieces of the text after them, and name nothing. -/
lemma filter_pieces_append (root : Root) (s : String) :
    (pieces '/' (root.text ++ s)).filter isComponent = (pieces '/' s).filter isComponent := by
  have hslash (t : String) : (pieces '/' ("/" ++ t)).filter isComponent = (pieces '/' t).filter isComponent := by
    have hchars : ("/" ++ t).toList = '/' :: t.toList := String.toList_append
    rw [pieces, piecesBy, hchars, List.splitOnP_cons_eq_if_modifyHead]
    rfl
  cases root with
  | relative => rw [Root.text, String.empty_append]
  | single => exact hslash s
  | double =>
    have htwo : "//" ++ s = "/" ++ ("/" ++ s) := by rw [← String.append_assoc]; rfl
    rw [Root.text, htwo, hslash, hslash]

/-- A root is read from its slashes, when no slash comes after them. -/
lemma rootOf_append (root : Root) {cs : List Char} (h : cs.head? ≠ some '/') :
    rootOf (root.text.toList ++ cs) = root := by
  cases root with
  | relative => exact rootOf_eq_relative_iff.2 h
  | single =>
    show rootOf ('/' :: cs) = .single
    cases cs with
    | nil => rfl
    | cons c cs =>
      rw [rootOf]
      all_goals simp_all
  | double =>
    show rootOf ('/' :: '/' :: cs) = .double
    cases cs with
    | nil => rfl
    | cons c cs =>
      rw [rootOf]
      all_goals simp_all

/-- The text of names does not begin with a slash. -/
lemma head?_join_ne (hne : names ≠ []) (h : ∀ name ∈ names, isComponent name = true ∧ '/' ∉ name.toList) :
    (join "/" names).toList.head? ≠ some '/' := by
  obtain ⟨name, more, rfl⟩ := List.exists_cons_of_ne_nil hne
  obtain ⟨hname, hslash⟩ := h name List.mem_cons_self
  have hnonempty : name.toList ≠ [] := by
    intro hnil
    rw [String.toList_eq_nil_iff] at hnil
    rw [hnil] at hname
    cases hname
  obtain ⟨c, cs, hcs⟩ := List.exists_cons_of_ne_nil hnonempty
  have hc : c ≠ '/' := by
    rintro rfl
    exact hslash (by rw [hcs]; exact List.mem_cons_self)
  cases more with
  | nil => simpa [join, hcs] using hc
  | cons second more => simpa [join_cons_cons, hcs] using hc

/-- A path in normal form is read back from its text. -/
theorem ofString_toString (h : p.IsNormal) : ofString p.toString = p := by
  obtain ⟨root, names⟩ := p
  by_cases hne : names = []
  · subst hne
    cases root <;> decide
  · have htext : (Path.mk root names).toString = root.text ++ join "/" names := by
      cases root <;> cases names <;> first | rfl | exact absurd rfl hne
    have hfilter : names.filter isComponent = names := List.filter_eq_self.2 fun name hname => (h name hname).1
    have hpieces : pieces '/' (join "/" names) = names := pieces_join hne fun name hname => (h name hname).2
    rw [htext, ofString, String.toList_append, rootOf_append root (head?_join_ne hne h), filter_pieces_append, hpieces,
      hfilter]

end EntityScaffold.Path
