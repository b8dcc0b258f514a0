import EntityScaffold.Proofs.Naming.ProperName
import EntityScaffold.Proofs.Resolver.Growth
/-!
# Which class a short name stands for

Several classes may go by one short name, and a resolver takes the first of them that is there: classes in the
namespaces, in the order of these, then the known classes by code point (`resolve_eq_firstThere_tried`).  So a class
among those that are tried is the one exactly if none of those before it is there, and the search does not get stuck
on one of them (`resolve_eq_iff_earlier`).

For a known class this is where it can be hidden.  Known classes are tried last, and another class of the same short
name hides it wherever that is found earlier.
-/

namespace EntityScaffold.Resolver

open ClassName Text

variable {r : Resolver} {names : List String} {name c target : String}

/-! ## The first class that is there -/

lemma firstThere_append (r : Resolver) (before after : List String) :
    r.firstThere (before ++ after) =
      match r.firstThere before with
      | .ok none => r.firstThere after
      | found => found := by
  induction before with
  | nil => rfl
  | cons c before ih =>
    rw [List.cons_append, firstThere_cons, firstThere_cons]
    cases r.isThere c with
    | error f => rfl
    | ok there =>
      cases there with
      | true => rfl
      | false => exact ih

lemma firstThere_of_forall (h : ∀ c ∈ names, r.isThere c = .ok true) : r.firstThere names = .ok names.head? := by
  cases names with
  | nil => rfl
  | cons c rest => rw [firstThere_cons, h c List.mem_cons_self, List.head?_cons]

/-- A class that is there is the first exactly if all those before it are missing. -/
lemma firstThere_eq_iff_takeWhile (hmem : c ∈ names) (hthere : r.isThere c = .ok true) :
    r.firstThere names = .ok (some c) ↔ ∀ b ∈ names.takeWhile (· != c), r.isThere b = .ok false := by
  induction names with
  | nil => cases hmem
  | cons d rest ih =>
    rw [firstThere_cons]
    by_cases hd : d = c
    · subst hd
      simp [hthere]
    · have hrest : c ∈ rest := (List.mem_cons.1 hmem).resolve_left (Ne.symm hd)
      rw [List.takeWhile_cons_of_pos (by simpa using hd), List.forall_mem_cons, ← ih hrest]
      cases r.isThere d with
      | error f => simp
      | ok there => cases there <;> simp [hd]

/-! ## The order of the classes -/

/-- The classes that a short name is tried for: those in the namespaces, then the known ones that go by it. -/
def tried (r : Resolver) (name : String) : List String :=
  r.candidates name ++ (sorted r.knownClasses).filter (shortName · == name)

/-- The classes that are tried before one of them. -/
def earlier (r : Resolver) (name target : String) : List String := (r.tried name).takeWhile (· != target)

lemma mem_sorted {items : List String} {s : String} : s ∈ sorted items ↔ s ∈ items :=
  (List.mergeSort_perm _ _).mem_iff

/-- A class that is known is there. -/
theorem isThere_of_known (hbare : r.IsBare) (h : c ∈ r.knownClasses) : r.isThere c = .ok true := by
  refine if_pos ?_
  rw [hbare.known c h]
  exact List.contains_iff_mem.2 h

/-- A short name is searched in the namespaces, and then among the known classes. -/
theorem searched_of_isSegment (r : Resolver) (hname : IsSegment name) :
    r.searched name = r.candidates name ∧ r.fallback name = r.knownAs name := by
  have hself : bare name = name := bare_of_isProper hname.isProper
  have hinner : ¬ name.toList.contains '\\' = true := by
    rw [List.contains_iff_mem]
    exact fun h => (hname.2 _ h).1 rfl
  constructor
  · rw [searched, hself, if_neg hname.1, if_neg hinner]
  · rw [fallback, hself, if_neg hname.1, if_neg hinner]

theorem resolve_eq_firstThere_tried (hbare : r.IsBare) (hname : IsSegment name) :
    r.resolve name = r.firstThere (r.tried name) := by
  obtain ⟨hsearched, hfallback⟩ := r.searched_of_isSegment hname
  have hknown : r.firstThere ((sorted r.knownClasses).filter (shortName · == name)) = .ok (r.knownAs name) := by
    rw [firstThere_of_forall, knownAs, List.head?_filter]
    exact fun c hc => isThere_of_known hbare (mem_sorted.1 (List.mem_filter.1 hc).1)
  rw [resolve_eq, tried, firstThere_append, hsearched, hfallback, hknown]
  cases r.firstThere (r.candidates name) with
  | error f => rfl
  | ok found => cases found <;> rfl

/-- A short name stands for a class that is there exactly if the classes that are tried before it are missing. -/
theorem resolve_eq_iff_earlier (hbare : r.IsBare) (hname : IsSegment name) (hmem : target ∈ r.tried name)
    (hthere : r.isThere target = .ok true) :
    r.resolve name = .ok (some target) ↔ ∀ b ∈ r.earlier name target, r.isThere b = .ok false := by
  rw [resolve_eq_firstThere_tried hbare hname]
  exact firstThere_eq_iff_takeWhile hmem hthere

/-- A short name for which a class is there stands for one, unless the search gets stuck. -/
lemma resolve_of_mem_tried (hbare : r.IsBare) (hname : IsSegment name) (hmem : c ∈ r.tried name)
    (hthere : r.isThere c = .ok true) :
    (∃ fault, r.GetsStuck name fault) ∨
      ∃ target, r.resolve name = .ok (some target) ∧ target ∈ r.tried name ∧ r.isThere target = .ok true := by
  cases hresolve : r.resolve name with
  | error f =>
    obtain ⟨fault, -, hstuck⟩ := resolve_eq_error_iff.1 hresolve
    exact .inl ⟨fault, hstuck⟩
  | ok found =>
    right
    rw [resolve_eq_firstThere_tried hbare hname] at hresolve
    cases found with
    | some target => exact ⟨target, rfl, of_firstThere hresolve⟩
    | none =>
      rw [isThere_of_firstThere_eq_none hresolve c hmem] at hthere
      cases hthere

/-- A qualified name without backslashes around it stands for itself if it is there. -/
lemma resolve_of_isThere (hself : bare name = name) (hinner : '\\' ∈ name.toList)
    (hthere : r.isThere name = .ok true) : r.resolve name = .ok (some name) := by
  have hempty : name ≠ "" := by
    rintro rfl
    cases hinner
  simp only [resolve, hself, if_neg hempty, List.contains_iff_mem.2 hinner, hthere]
  rfl

lemma resolve_of_isProper (hproper : IsProper name) (hinner : '\\' ∈ name.toList)
    (hthere : r.isThere name = .ok true) : r.resolve name = .ok (some name) :=
  resolve_of_isThere (bare_of_isProper hproper) hinner hthere

end EntityScaffold.Resolver
