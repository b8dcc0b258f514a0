import EntityScaffold.Proofs.FileTree.Writing
import EntityScaffold.Proofs.Resolver
/-!
# Resolving a name again

A run of the program looks for classes among the files that it writes itself.  A class that is there stays there,
so a name that stands for a class stands for one afterwards too (`resolve_lookingAt_cases`).  It need not be the same
one: the classes are looked for in order, and one of those that were missed may have come into being.

`resolve_lookingAt_iff` says when it is the same one: exactly if none of the missed classes is there now.  The one
exception is a qualified name in a namespace, which stands for itself whether its class is there or not.
-/

namespace EntityScaffold.Resolver

open ClassName FileTree

variable {r : Resolver} {tree : FileTree} {names : List String} {name c target : String} {found : Option String}
  {f : Failure}

/-- The resolver that looks at other files. -/
def lookingAt (r : Resolver) (tree : FileTree) : Resolver := { r with files := tree }

/-- A resolver whose namespaces and classes have no backslashes around them. -/
structure IsBare (r : Resolver) : Prop where
  namespaces : ∀ space ∈ r.namespaces, bare space = space ∧ space ≠ ""
  known : ∀ c ∈ r.knownClasses, bare c = c

lemma isBare_make (namespaces knownClasses : List String) (appDir : Option Path) (fileExtension : String)
    (files : FileTree) : (make namespaces knownClasses appDir fileExtension files).IsBare where
  namespaces space hspace := by
    obtain ⟨hmem, hne⟩ := List.mem_filter.1 hspace
    obtain ⟨given, -, rfl⟩ := List.mem_map.1 hmem
    exact ⟨bare_bare given, by simpa using hne⟩
  known c hc := by
    obtain ⟨given, -, rfl⟩ := List.mem_map.1 hc
    exact bare_bare given

/-! ## The search -/

/-- A class that is there is there in a tree that has grown. -/
lemma isThere_lookingAt (hgrows : Grows r.files tree) (h : r.isThere c = .ok true) :
    (r.lookingAt tree).isThere c = .ok true := by
  by_cases hknown : r.knownClasses.contains (bare c) = true
  · exact if_pos hknown
  · have hknown' : ¬ (r.lookingAt tree).knownClasses.contains (bare c) = true := hknown
    rw [isThere, if_neg hknown] at h
    rw [isThere, if_neg hknown']
    split at h
    · cases h
    · next appDir happDir =>
      have happDir' : (r.lookingAt tree).appDir = some appDir := happDir
      split at h
      · cases h
      · next path hpath =>
        have hpath' : path? (bare c) appDir (r.lookingAt tree).fileExtension = some path := hpath
        have hfile : r.files.isFile path = .ok true := by
          cases hlook : r.files.isFile path with
          | error fault => simp [hlook, ofFiles, Except.mapError] at h
          | ok there =>
            rw [hlook] at h
            cases h
            rfl
        have hfile' : (r.lookingAt tree).files.isFile path = .ok true := hgrows.isFile hfile
        simp only [happDir', hpath', hfile']
        rfl

lemma of_firstThere (h : r.firstThere names = .ok (some c)) : c ∈ names ∧ r.isThere c = .ok true := by
  induction names with
  | nil => cases h
  | cons d rest ih =>
    rw [firstThere_cons] at h
    split at h
    · cases h
    · next hd =>
      cases h
      exact ⟨List.mem_cons_self, hd⟩
    · obtain ⟨hmem, hc⟩ := ih h
      exact ⟨List.mem_cons_of_mem d hmem, hc⟩

lemma isThere_of_firstThere_eq_none (h : r.firstThere names = .ok none) :
    ∀ c ∈ names, r.isThere c = .ok false := by
  induction names with
  | nil => nofun
  | cons d rest ih =>
    rw [firstThere_cons] at h
    split at h
    · cases h
    · cases h
    · next hd => exact List.forall_mem_cons.2 ⟨hd, ih h⟩

/-- The search comes to the same end exactly if it misses the same classes before. -/
lemma firstThere_lookingAt_iff (hgrows : Grows r.files tree) (h : r.firstThere names = .ok found) :
    (r.lookingAt tree).firstThere names = .ok found ↔
      ∀ c ∈ names.takeWhile fun c => r.isThere c = .ok false, (r.lookingAt tree).isThere c = .ok false := by
  induction names with
  | nil =>
    cases h
    simp [firstThere]
  | cons c rest ih =>
    rw [firstThere_cons] at h ⊢
    split at h
    · cases h
    · next hc =>
      cases h
      simp [hc, isThere_lookingAt hgrows hc]
    · next hc =>
      rw [List.takeWhile_cons_of_pos (by simp [hc]), List.forall_mem_cons]
      split
      · next hc' => simp [hc']
      · next hc' =>
        have hne : found ≠ some c := by
          rintro rfl
          rw [(of_firstThere h).2] at hc
          cases hc
        simp [hc', hne.symm]
      · next hc' =>
        rw [ih h]
        simp [hc']

/-! ## The class behind a name -/

/-- The classes that are looked for in vain to find the one that a name stands for. -/
def missed (r : Resolver) (name : String) : List String :=
  (r.searched name).takeWhile fun c => r.isThere c = .ok false

lemma isThere_of_mem_missed (h : c ∈ r.missed name) : r.isThere c = .ok false := by
  simpa using List.mem_takeWhile_imp h

/-- The class that a name stands for when none of the classes that are looked for is there. -/
def fallback (r : Resolver) (name : String) : Option String :=
  if bare name = "" then none
  else if (bare name).toList.contains '\\' then if r.isInside (bare name) then some (bare name) else none
  else r.knownAs (bare name)

lemma resolve_eq (r : Resolver) (name : String) :
    r.resolve name = (r.firstThere (r.searched name)).map fun found => found.or (r.fallback name) := by
  simp only [resolve, searched, fallback]
  split_ifs with hempty hinner
  · rfl
  · rw [firstThere_cons]
    cases r.isThere (bare name) with
    | error f => rfl
    | ok there => cases there <;> simp [firstThere, Except.map, *]
  · rw [firstThere_cons]
    cases r.isThere (bare name) with
    | error f => rfl
    | ok there => cases there <;> simp [firstThere, Except.map, *]
  · cases r.firstThere (r.candidates (bare name)) with
    | error f => rfl
    | ok found => cases found <;> rfl

lemma resolve_eq_some_iff : r.resolve name = .ok (some target) ↔
    ∃ found, r.firstThere (r.searched name) = .ok found ∧ found.or (r.fallback name) = some target := by
  rw [resolve_eq]
  cases r.firstThere (r.searched name) with
  | error f => simp [Except.map]
  | ok found => simp [Except.map]

/-- A class that is known is there, and a qualified name is the only one that is looked for. -/
lemma of_fallback (hbare : r.IsBare) (h : r.fallback name = some target) :
    r.isThere target = .ok true ∨ r.searched name = [target] := by
  unfold fallback at h
  split_ifs at h with hempty hinner hinside
  · cases h
    right
    rw [searched, if_neg hempty, if_pos hinner]
  · left
    have hc : target ∈ r.knownClasses := (List.mergeSort_perm _ _).mem_iff.1 (List.mem_of_find?_eq_some h)
    have hcontains : r.knownClasses.contains (bare target) = true := by
      rw [hbare.known target hc]
      exact List.contains_iff_mem.2 hc
    exact if_pos hcontains

/-- In a tree that has grown, a name that stood for a class stands for one, unless a path hides what it leads to. -/
theorem resolve_lookingAt_cases (hgrows : Grows r.files tree) (h : r.resolve name = .ok (some target)) :
    (∃ fault, fault.Hides ∧ (r.lookingAt tree).resolve name = .error (.file fault)) ∨
      ∃ target', (r.lookingAt tree).resolve name = .ok (some target') := by
  obtain ⟨found, hfound, htarget⟩ := resolve_eq_some_iff.1 h
  cases hfound' : (r.lookingAt tree).firstThere (r.searched name) with
  | error f =>
    have hagain : (r.lookingAt tree).resolve name = .error f := resolve_eq_error_iff_firstThere.2 hfound'
    obtain ⟨fault, rfl, hstuck⟩ := resolve_eq_error_iff.1 hagain
    exact .inl ⟨fault, hstuck.hides, hagain⟩
  | ok found' =>
    right
    cases found' with
    | some target' => exact ⟨target', resolve_eq_some_iff.2 ⟨_, hfound', rfl⟩⟩
    | none =>
      cases found with
      | none => exact ⟨target, resolve_eq_some_iff.2 ⟨_, hfound', htarget⟩⟩
      | some d =>
        obtain ⟨hmem, hthere⟩ := of_firstThere hfound
        have hmissed := isThere_of_firstThere_eq_none hfound' d hmem
        rw [isThere_lookingAt hgrows hthere] at hmissed
        cases hmissed

/-- What the missed classes must be like for a class that is there to stay the one that is found. -/
lemma forall_missed_iff_of_isThere (h : r.isThere target = .ok true) :
    (∀ c ∈ r.missed name, (r.lookingAt tree).isThere c = .ok false ∨
      (r.lookingAt tree).isThere c = .ok true ∧ c = target) ↔
        ∀ c ∈ r.missed name, (r.lookingAt tree).isThere c = .ok false := by
  refine forall₂_congr fun c hc => or_iff_left ?_
  rintro ⟨-, rfl⟩
  rw [isThere_of_mem_missed hc] at h
  cases h

/-- A class that is there is found again exactly if the search comes to the same end. -/
lemma resolve_lookingAt_iff_firstThere (hgrows : Grows r.files tree) (hthere : r.isThere target = .ok true)
    (hfound : r.firstThere (r.searched name) = .ok found) (htarget : found.or (r.fallback name) = some target) :
    (r.lookingAt tree).resolve name = .ok (some target) ↔
      (r.lookingAt tree).firstThere (r.searched name) = .ok found := by
  rw [resolve_eq_some_iff]
  constructor
  · rintro ⟨found', hfound', htarget'⟩
    cases found with
    | some d =>
      obtain rfl := Option.some.inj htarget
      cases found' with
      | some d' =>
        cases htarget'
        exact hfound'
      | none =>
        have hgone := isThere_of_firstThere_eq_none hfound' d (of_firstThere hfound).1
        rw [isThere_lookingAt hgrows hthere] at hgone
        cases hgone
    | none =>
      cases found' with
      | none => exact hfound'
      | some d' =>
        cases htarget'
        rw [isThere_of_firstThere_eq_none hfound _ (of_firstThere hfound').1] at hthere
        cases hthere
  · intro hfound'
    exact ⟨found, hfound', htarget⟩

/-- A qualified name that is the only one that is looked for stands for itself, unless a path is too long to look. -/
lemma resolve_lookingAt_iff_of_searched (hmissed : r.isThere target = .ok false)
    (hsearched : r.searched name = [target]) (htarget : r.fallback name = some target) :
    (r.lookingAt tree).resolve name = .ok (some target) ↔
      ∀ c ∈ r.missed name, (r.lookingAt tree).isThere c = .ok false ∨
        (r.lookingAt tree).isThere c = .ok true ∧ c = target := by
  have hsearched' : (r.lookingAt tree).searched name = [target] := hsearched
  have hfallback : (r.lookingAt tree).fallback name = some target := htarget
  have hone : r.missed name = [target] := by simp [missed, hsearched, hmissed]
  rw [hone, List.forall_mem_singleton, resolve_eq_some_iff, hsearched', firstThere_cons, hfallback]
  cases (r.lookingAt tree).isThere target with
  | error f => simp
  | ok there => cases there <;> simp [firstThere]

/-- In a tree that has grown, a name stands for the same class exactly if every class that was missed is missed again,
or is the one that the name stands for. -/
theorem resolve_lookingAt_iff (hbare : r.IsBare) (hgrows : Grows r.files tree)
    (h : r.resolve name = .ok (some target)) :
    (r.lookingAt tree).resolve name = .ok (some target) ↔
      ∀ c ∈ r.missed name, (r.lookingAt tree).isThere c = .ok false ∨
        (r.lookingAt tree).isThere c = .ok true ∧ c = target := by
  obtain ⟨found, hfound, htarget⟩ := resolve_eq_some_iff.1 h
  have hstays (hthere : r.isThere target = .ok true) : (r.lookingAt tree).resolve name = .ok (some target) ↔
      ∀ c ∈ r.missed name, (r.lookingAt tree).isThere c = .ok false ∨
        (r.lookingAt tree).isThere c = .ok true ∧ c = target := by
    rw [forall_missed_iff_of_isThere hthere, resolve_lookingAt_iff_firstThere hgrows hthere hfound htarget]
    exact firstThere_lookingAt_iff hgrows hfound
  cases found with
  | some d =>
    obtain rfl := Option.some.inj htarget
    exact hstays (of_firstThere hfound).2
  | none =>
    obtain hthere | hsearched := of_fallback hbare htarget
    · exact hstays hthere
    · have hmissed := isThere_of_firstThere_eq_none hfound target (by simp [hsearched])
      exact resolve_lookingAt_iff_of_searched hmissed hsearched htarget

lemma bare_of_mem_candidates (hbare : r.IsBare) (hempty : name ≠ "") (hinner : '\\' ∉ name.toList)
    (h : c ∈ r.candidates name) : bare c = c := by
  obtain ⟨space, hspace, hc⟩ := List.mem_flatMap.1 h
  obtain ⟨hself, hne⟩ := hbare.namespaces space hspace
  have hname : name.toList ≠ [] := by simpa using hempty
  have hqualify (inner : String) : qualify space inner = space ++ "\\" ++ inner := by
    rw [qualify_of_bare_ne_empty (by rwa [hself]), hself]
  have hfirst (rest : List Char) : ∀ h : name.toList ++ rest ≠ [], (name.toList ++ rest).head h ≠ '\\' := by
    intro h heq
    rw [List.head_append_of_ne_nil hname] at heq
    exact hinner (heq ▸ List.head_mem hname)
  have hlast (front : List Char) : ∀ h : front ++ name.toList ≠ [], (front ++ name.toList).getLast h ≠ '\\' := by
    intro h heq
    rw [List.getLast_append_of_ne_nil _ hname] at heq
    exact hinner (heq ▸ List.getLast_mem hname)
  rcases List.mem_pair.1 hc with rfl | rfl
  · rw [← hqualify]
    refine bare_qualify ?_ (hlast []) hempty
    simpa using hfirst []
  · have hdouble : space ++ "\\" ++ name ++ "\\" ++ name = qualify space (name ++ "\\" ++ name) := by
      rw [hqualify]
      simp only [String.append_assoc]
    rw [hdouble]
    refine bare_qualify ?_ ?_ (by simp)
    · rw [String.toList_append, String.toList_append, List.append_assoc]
      exact hfirst _
    · rw [String.toList_append]
      exact hlast _

/-- A class that a name stands for has no backslashes around it. -/
theorem bare_of_resolve (hbare : r.IsBare) (h : r.resolve name = .ok (some target)) : bare target = target := by
  obtain ⟨found, hfound, htarget⟩ := resolve_eq_some_iff.1 h
  cases found with
  | some d =>
    cases htarget
    obtain ⟨hmem, -⟩ := of_firstThere hfound
    unfold searched at hmem
    split_ifs at hmem with hempty hinner
    · cases hmem
    · rw [List.mem_singleton.1 hmem, bare_bare]
    · exact bare_of_mem_candidates hbare hempty (mt List.contains_iff_mem.2 hinner) hmem
  | none =>
    rw [Option.none_or] at htarget
    unfold fallback at htarget
    split_ifs at htarget
    · cases htarget
      exact bare_bare name
    · exact hbare.known target ((List.mergeSort_perm _ _).mem_iff.1 (List.mem_of_find?_eq_some htarget))

end EntityScaffold.Resolver
