import EntityScaffold.Proofs.Resolver.Answers
import EntityScaffold.Proofs.Scaffold.Discovery
/-!
# Resolving what was resolved

The class that a resolver answers with is a name, and may be looked up again: the answer is the same class
(`resolve_resolve`).  This is not the same search.  A short name is searched in the namespaces, and what it stands for
is mostly a qualified name, which stands for itself where it is there; a known class of the global namespace is the
one answer that is a short name again, and then it is the name that was asked for (`resolve_cases`).

Whatever is looked for on the way has a file that can be asked for (`path?_ne_none_of_mem_searched`), so the one
reason why there may be no answer is a path that hides what it leads to: it is too long to be followed, or it leads
through a directory that may not be searched.  That happens even for a class that is known
(`long_known_class_is_not_resolved`), since known classes come last.
-/

namespace EntityScaffold.Resolver

open ClassName FileTree Text

variable {r : Resolver} {name c : String}

lemma resolve_bare (r : Resolver) (name : String) : r.resolve (bare name) = r.resolve name := by
  simp only [resolve, bare_bare]

/-- Everything that is looked for is a qualified name. -/
lemma backslash_mem_of_mem_searched (h : c ∈ r.searched name) : '\\' ∈ c.toList := by
  unfold searched at h
  split_ifs at h with hempty hinner
  · cases h
  · rw [List.mem_singleton.1 h]
    exact List.contains_iff_mem.1 hinner
  · obtain ⟨space, -, hc⟩ := List.mem_flatMap.1 h
    rcases List.mem_pair.1 hc with rfl | rfl <;> simp

/-- A class that a name stands for is that name, but for backslashes around it, or a qualified name that is there. -/
theorem resolve_cases (hbare : r.IsBare) (h : r.resolve name = .ok (some c)) :
    c = bare name ∨ '\\' ∈ c.toList ∧ r.isThere c = .ok true := by
  obtain ⟨found, hfound, hc⟩ := resolve_eq_some_iff.1 h
  cases found with
  | some d =>
    obtain rfl : d = c := Option.some.inj hc
    obtain ⟨hmem, hthere⟩ := of_firstThere hfound
    exact .inr ⟨backslash_mem_of_mem_searched hmem, hthere⟩
  | none =>
    rw [Option.none_or] at hc
    unfold fallback at hc
    split_ifs at hc with hempty hinner hinside
    · exact .inl (Option.some.inj hc).symm
    · have hknown : c ∈ r.knownClasses := mem_sorted.1 (List.mem_of_find?_eq_some hc)
      have hshort : shortName c = bare name := by simpa using List.find?_some hc
      by_cases hqualified : '\\' ∈ c.toList
      · exact .inr ⟨hqualified, isThere_of_known hbare hknown⟩
      · left
        rw [← hshort, (parts_of_notMem (by rwa [hbare.known c hknown])).2, hbare.known c hknown]

/-- What a name stands for stands for itself. -/
theorem resolve_resolve (hbare : r.IsBare) (h : r.resolve name = .ok (some c)) : r.resolve c = .ok (some c) := by
  rcases resolve_cases hbare h with rfl | ⟨hinner, hthere⟩
  · rw [resolve_bare]
    exact h
  · exact resolve_of_isThere (bare_of_resolve hbare h) hinner hthere

/-- Nothing is looked for that has no file. -/
theorem path?_ne_none_of_mem_searched (h : c ∈ r.searched name) (appDir : Path) (fileExtension : String) :
    path? (bare c) appDir fileExtension ≠ none := by
  rw [ne_eq, path?_eq_none_iff, ← bare_eq_empty_iff, bare_bare]
  exact bare_ne_empty_of_mem_searched h

/-- The class that a name stands for stands for itself; nothing is looked for that has no file, and there is an answer
for every name, unless the search comes to a path that is too long to be followed or leads through a directory that may
not be searched. -/
theorem resolved_classes_are_fixed (namespaces known : List String) (appDir : Option Path) (fileExtension : String)
    (files : FileTree) (name : String) :
    let r := make namespaces known appDir fileExtension files
    (∀ c, r.resolve name = .ok (some c) → r.resolve c = .ok (some c)) ∧
      (∀ c ∈ r.searched name, ∀ directory, path? (bare c) directory fileExtension ≠ none) ∧
      ((∃ found, r.resolve name = .ok found) ∨
        ∃ fault, (fault = .tooLong ∨ fault = .denied) ∧ r.resolve name = .error (.file fault)) ∧
      ∀ fault, r.resolve name = .error (.file fault) ↔ r.GetsStuck name fault := by
  intro r
  have hbare : r.IsBare := isBare_make namespaces known appDir fileExtension files
  refine ⟨fun c => resolve_resolve hbare, fun c hc directory => path?_ne_none_of_mem_searched hc directory _, ?_, ?_⟩
  · cases hresolve : r.resolve name with
    | ok found => exact .inl ⟨found, rfl⟩
    | error f =>
      obtain ⟨fault, rfl, hstuck⟩ := resolve_eq_error_iff.1 hresolve
      exact .inr ⟨fault, hstuck.hides, rfl⟩
  · intro fault
    rw [resolve_eq_error_iff]
    simp

/-- An application of one namespace and one class with a file, besides which one class is known. -/
def shop (known : String) : Resolver :=
  make ["App"] [known] (some ⟨.relative, ["app"]⟩) ".php"
    { home := [], nodes := [(["app"], .directory), (["app", "User.php"], .file "")] }

/-- A class with a file, a known one of the global namespace, and one that is nowhere, but has its full name. -/
theorem shop_classes_are_fixed :
    ((shop "Cat").resolve "User" = .ok (some "App\\User") ∧
        (shop "Cat").resolve "App\\User" = .ok (some "App\\User")) ∧
      ((shop "Cat").resolve "\\Cat" = .ok (some "Cat") ∧ (shop "Cat").resolve "Cat" = .ok (some "Cat")) ∧
      ((shop "Cat").resolve "\\App\\Ghost\\" = .ok (some "App\\Ghost") ∧
        (shop "Cat").resolve "App\\Ghost" = .ok (some "App\\Ghost")) ∧
      "App\\User" ∈ (shop "Cat").searched "User" ∧ path? (bare "App\\User") ⟨.relative, ["app"]⟩ ".php" ≠ none := by
  have hfixed (name : String) := resolved_classes_are_fixed ["App"] ["Cat"] (some ⟨.relative, ["app"]⟩) ".php"
    { home := [], nodes := [(["app"], .directory), (["app", "User.php"], .file "")] } name
  have huser : (shop "Cat").resolve "User" = .ok (some "App\\User") := by decide
  have hghost : (shop "Cat").resolve "\\App\\Ghost\\" = .ok (some "App\\Ghost") := by decide
  have hcat : (shop "Cat").resolve "\\Cat" = .ok (some "Cat") := by
    have hsearch : (shop "Cat").firstThere ((shop "Cat").searched "\\Cat") = .ok none := by decide
    have hknown : (shop "Cat").knownAs (bare "\\Cat") = some "Cat" :=
      find?_sorted_eq_some_iff.2 ⟨by decide, by decide, by decide⟩
    rw [resolve_eq, hsearch, fallback, if_neg (by decide), if_neg (by decide)]
    exact congrArg Except.ok hknown
  have hmem : "App\\User" ∈ (shop "Cat").searched "User" := by decide
  exact ⟨⟨huser, (hfixed "User").1 _ huser⟩, ⟨hcat, (hfixed "\\Cat").1 _ hcat⟩,
    ⟨hghost, (hfixed "\\App\\Ghost\\").1 _ hghost⟩, hmem, (hfixed "User").2.1 _ hmem _⟩

section

variable {far : String} (hfar : isIdentifier far = true)

include hfar

lemma path?_shop :
    path? (qualify "App" far) ⟨.relative, ["app"]⟩ ".php" = some ⟨.relative, ["app", far ++ ".php"]⟩ := by
  have hsegments : properSegments (qualify "App" far) = ["App"] ++ [far] := by
    rw [properSegments_qualify, properSegments_of_isIdentifier hfar, properSegments_of_isIdentifier (by decide)]
  have hfile : Path.ofString (far ++ ".php") = ⟨.relative, [far ++ ".php"]⟩ :=
    Path.ofString_append_of_not_mem hfar (by decide)
  rw [path?, placeBelow?_eq hsegments, Option.map_some]
  show some (Path.append _ (Path.ofString (far ++ ".php"))) = _
  rw [hfile]
  rfl

/-- The file of a class with a long name cannot be looked for in a directory that is there. -/
lemma isThere_shop (hlong : Path.isLongName far = true) :
    (shop far).isThere (qualify "App" far) = .error (.file .tooLong) := by
  have hlongFile : Path.isLongName (far ++ ".php") = true := by
    have hfarSize : Path.longestName < far.utf8ByteSize := of_decide_eq_true hlong
    rw [Path.isLongName, String.utf8ByteSize_append]
    exact decide_eq_true (Nat.lt_add_right _ hfarSize)
  have hnull : Path.hasNull ⟨.relative, ["app", far ++ ".php"]⟩ = false := by
    have hfarNull : '\x00' ∉ far.toList := Scaffold.null_notMem_of_isIdentifier hfar
    simp [Path.hasNull, hfarNull]
  have hfile : (shop far).files.isFile ⟨.relative, ["app", far ++ ".php"]⟩ = .error .tooLong :=
    Scaffold.isFile_of_isLongName rfl (by decide) rfl rfl hlongFile hnull
  have hunknown : ¬ (shop far).knownClasses.contains (bare (qualify "App" far)) = true := by
    have hself : bare (qualify "App" far) = qualify "App" far :=
      bare_of_isProper (isProper_qualify (.inr (by decide)) (isSegment_of_isIdentifier hfar)).1
    show ¬ [bare far].contains _ = true
    rw [hself, bare_of_isProper (isSegment_of_isIdentifier hfar).isProper, List.contains_iff_mem, List.mem_singleton]
    intro heq
    have hinner : '\\' ∈ far.toList := by
      rw [← heq, qualify_of_bare_ne_empty (by decide)]
      simp
    exact ((isSegment_of_isIdentifier hfar).2 _ hinner).1 rfl
  rw [Scaffold.isThere_eq_isFile hunknown rfl (path?_shop hfar), hfile]
  rfl

lemma getsStuck_shop (hlong : Path.isLongName far = true) : (shop far).GetsStuck far .tooLong := by
  have hspaces : (shop far).namespaces = ["App"] := by
    show (["App"].map bare).filter (· != "") = ["App"]
    decide
  have hsearched : (shop far).searched far = qualify "App" far :: [qualify "App" far ++ "\\" ++ far] := by
    obtain ⟨hcandidates, -⟩ := (shop far).searched_of_isSegment (isSegment_of_isIdentifier hfar)
    rw [hcandidates, candidates, hspaces, qualify_of_bare_ne_empty (by decide)]
    rfl
  exact ⟨[], _, _, hsearched, List.forall_mem_nil _, isThere_shop hfar hlong⟩

end

/-- A class is known, and yet there is no answer for its name: in the namespace it would have too long a path. -/
theorem long_known_class_is_not_resolved :
    let name := Scaffold.segmentOf 256
    name ∈ (shop name).knownClasses ∧ ¬ ∃ found, (shop name).resolve name = .ok found := by
  intro name
  have hname : isIdentifier name = true := Scaffold.isIdentifier_segmentOf (by decide)
  have hlong : Path.isLongName name = true := Scaffold.isLongName_segmentOf (by decide)
  have hself : bare name = name := bare_of_isProper (isSegment_of_isIdentifier hname).isProper
  constructor
  · show name ∈ [bare name]
    rw [hself]
    exact List.mem_singleton_self name
  · rintro ⟨found, hfound⟩
    cases hfound.symm.trans (resolve_eq_error_iff.2 ⟨_, rfl, getsStuck_shop hname hlong⟩)

/-- Where the directory of the application may not be searched, there is no answer for a known class either. -/
example : (make ["App"] ["Cat"] (some ⟨.relative, ["app"]⟩) ".php"
    { home := [], nodes := [(["app"], .directory)], closed := [["app"]] }).resolve "Cat" = .error (.file .denied) := by
  decide

end EntityScaffold.Resolver
