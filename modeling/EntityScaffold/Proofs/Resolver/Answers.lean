import EntityScaffold.Proofs.Resolver.Order
import EntityScaffold.Proofs.Text.Order
/-!
# What the answer of a resolver says

A resolver answers with a class or with nothing, and either answer can be relied on.  A class has the short name that
was asked for and exists, unless it was asked for by its full name and lies in a namespace of the resolver; nothing
means that no class exists that a short name could stand for (`answers_are_sound_and_complete`).

The known classes are a set to the resolver: one short name may belong to several of them, and then the first by code
point is taken, in whatever order they are listed (`find?_sorted_congr`).  The namespaces are a list, and their order
counts; but what is found in one of them is found before any namespace that comes later is looked at.
-/

namespace EntityScaffold

open Text

/-! ## First texts by code point -/

namespace Text

variable {items : List String} {p : String → Bool} {s t : String}

/-- What is found among sorted texts is the least of those with the property. -/
lemma le_of_find?_sorted (h : (sorted items).find? p = some s) (ht : t ∈ items) (hp : p t = true) : s ≤ t := by
  obtain ⟨-, before, after, hsorted, hbefore⟩ := List.find?_eq_some_iff_append.1 h
  have hpairwise := pairwise_sorted items
  rw [hsorted, List.pairwise_append, List.pairwise_cons] at hpairwise
  obtain ⟨-, ⟨hafter, -⟩, -⟩ := hpairwise
  rw [← Resolver.mem_sorted, hsorted, List.mem_append, List.mem_cons] at ht
  rcases ht with ht | rfl | ht
  · -- what stands before the first does not have the property
    have hnot := hbefore t ht
    rw [hp] at hnot
    cases hnot
  · exact String.le_refl t
  · exact hafter t ht

lemma find?_sorted_eq_some_iff :
    (sorted items).find? p = some s ↔ s ∈ items ∧ p s = true ∧ ∀ t ∈ items, p t = true → s ≤ t := by
  constructor
  · intro h
    exact ⟨Resolver.mem_sorted.1 (List.mem_of_find?_eq_some h), List.find?_some h, fun t => le_of_find?_sorted h⟩
  · rintro ⟨hs, hp, hleast⟩
    obtain ⟨t, ht⟩ : ∃ t, (sorted items).find? p = some t := by
      rw [← Option.isSome_iff_exists, List.find?_isSome]
      exact ⟨s, Resolver.mem_sorted.2 hs, hp⟩
    have hle : s ≤ t := hleast t (Resolver.mem_sorted.1 (List.mem_of_find?_eq_some ht)) (List.find?_some ht)
    rw [ht, String.le_antisymm (le_of_find?_sorted ht hs hp) hle]

/-- Which text is found does not hang on how the texts are listed. -/
theorem find?_sorted_congr {others : List String} (h : ∀ s, s ∈ others ↔ s ∈ items) (p : String → Bool) :
    (sorted others).find? p = (sorted items).find? p := by
  refine Option.ext fun s => ?_
  simp only [find?_sorted_eq_some_iff, h]

end Text

namespace Resolver

open ClassName

variable {r r' : Resolver} {names : List String} {name space c : String}

/-! ## Short names -/

/-- Every class that a short name is tried for in a namespace goes by it. -/
lemma shortName_of_mem_candidates (hbare : r.IsBare) (hempty : name ≠ "") (hinner : '\\' ∉ name.toList)
    (h : c ∈ r.candidates name) : shortName c = name := by
  have hself := bare_of_mem_candidates hbare hempty hinner h
  obtain ⟨space, -, hc⟩ := List.mem_flatMap.1 h
  rcases List.mem_pair.1 hc with rfl | rfl
  · exact (parts_of_bare_eq hself hinner).2
  · exact (parts_of_bare_eq hself hinner).2

/-! ## Classes that exist -/

/-- A class exists if it is known, or if the file that stands for it below the application directory is there. -/
def HasClass (r : Resolver) (c : String) : Prop :=
  bare c ∈ r.knownClasses ∨ ∃ appDir path, r.appDir = some appDir ∧
    path? (bare c) appDir r.fileExtension = some path ∧ r.files.isFile path = .ok true

lemma isThere_eq_true_iff : r.isThere c = .ok true ↔ r.HasClass c := by
  simp only [isThere, HasClass, List.contains_iff_mem]
  split
  · next hknown => simp [hknown]
  · next hknown =>
    rw [or_iff_right hknown]
    cases r.appDir with
    | none => simp
    | some appDir =>
      cases hpath : path? (bare c) appDir r.fileExtension with
      | none => simp [hpath]
      | some path => cases hfile : r.files.isFile path <;> simp [hpath, hfile, ofFiles, Except.mapError]

lemma not_hasClass_of_isThere (h : r.isThere c = .ok false) : ¬ r.HasClass c := by
  rw [← isThere_eq_true_iff, h]
  nofun

/-! ## Soundness and completeness -/

/-- The full name of a class in a namespace of the resolver. -/
def IsQualified (r : Resolver) (name : String) : Prop :=
  '\\' ∈ name.toList ∧ ∃ space ∈ r.namespaces, (space ++ "\\").toList <+: name.toList

/-- A class that a name is resolved to has the same short name, and exists unless it was asked for by its full name. -/
lemma of_resolve_eq_some (hbare : r.IsBare) (h : r.resolve name = .ok (some c)) :
    shortName c = shortName name ∧ (r.HasClass c ∨ r.IsQualified (bare name) ∧ c = bare name) := by
  obtain ⟨found, hfound, hc⟩ := resolve_eq_some_iff.1 h
  cases found with
  | some d =>
    obtain rfl : d = c := Option.some.inj hc
    obtain ⟨hmem, hthere⟩ := of_firstThere hfound
    refine ⟨?_, .inl (isThere_eq_true_iff.1 hthere)⟩
    unfold searched at hmem
    split_ifs at hmem with hempty hinner
    · cases hmem
    · rw [List.mem_singleton.1 hmem, shortName_bare]
    · rw [List.contains_iff_mem] at hinner
      rw [shortName_of_mem_candidates hbare hempty hinner hmem, (parts_of_notMem hinner).2]
  | none =>
    rw [Option.none_or] at hc
    unfold fallback at hc
    split_ifs at hc with hempty hinner hinside
    · obtain rfl := Option.some.inj hc
      obtain ⟨space, hspace, hprefix⟩ := List.any_eq_true.1 hinside
      exact ⟨shortName_bare name,
        .inr ⟨⟨List.contains_iff_mem.1 hinner, space, hspace, List.isPrefixOf_iff_prefix.1 hprefix⟩, rfl⟩⟩
    · rw [List.contains_iff_mem] at hinner
      have hmem : c ∈ r.knownClasses := mem_sorted.1 (List.mem_of_find?_eq_some hc)
      have hshort : shortName c = bare name := by simpa using List.find?_some hc
      rw [hshort, (parts_of_notMem hinner).2]
      exact ⟨rfl, .inl (isThere_eq_true_iff.1 (isThere_of_known hbare hmem))⟩

/-- A short name that is resolved to nothing is that of no class that it could stand for. -/
lemma of_resolve_eq_none (h : r.resolve name = .ok none) (hempty : bare name ≠ "")
    (hinner : '\\' ∉ (bare name).toList) :
    (∀ c ∈ r.candidates (bare name), ¬ r.HasClass c) ∧ ∀ c ∈ r.knownClasses, shortName c ≠ bare name := by
  have hinner' : ¬ (bare name).toList.contains '\\' = true := by rwa [List.contains_iff_mem]
  have hsearched : r.searched name = r.candidates (bare name) := by rw [searched, if_neg hempty, if_neg hinner']
  have hfallback : r.fallback name = r.knownAs (bare name) := by rw [fallback, if_neg hempty, if_neg hinner']
  rw [resolve_eq, hsearched, hfallback] at h
  cases hfound : r.firstThere (r.candidates (bare name)) with
  | error f => simp [hfound, Except.map] at h
  | ok found =>
    cases found with
    | some c => simp [hfound, Except.map] at h
    | none =>
      have hknown : r.knownAs (bare name) = none := by simpa [hfound, Except.map] using h
      refine ⟨fun c hc => not_hasClass_of_isThere (isThere_of_firstThere_eq_none hfound c hc), fun c hc => ?_⟩
      have hnot := List.find?_eq_none.1 hknown c (mem_sorted.2 hc)
      simpa using hnot

/-! ## Other resolvers -/

/-- Only what is there counts for the search. -/
lemma firstThere_congr (h : ∀ c ∈ names, r'.isThere c = r.isThere c) : r'.firstThere names = r.firstThere names := by
  induction names with
  | nil => rfl
  | cons c rest ih =>
    obtain ⟨hc, hrest⟩ := List.forall_mem_cons.1 h
    rw [firstThere_cons, firstThere_cons, hc, ih hrest]

/-- What is there is a matter of the known classes, as a set, and of the files. -/
lemma isThere_congr (r : Resolver) (namespaces : List String) {known : List String}
    (h : ∀ c, c ∈ known ↔ c ∈ r.knownClasses) (c : String) :
    (⟨namespaces, known, r.appDir, r.fileExtension, r.files⟩ : Resolver).isThere c = r.isThere c := by
  have hcontains : known.contains (bare c) = r.knownClasses.contains (bare c) := by
    rw [Bool.eq_iff_iff, List.contains_iff_mem, List.contains_iff_mem, h]
  simp only [isThere, hcontains]

/-- The resolver that knows other classes. -/
def knowing (r : Resolver) (known : List String) : Resolver := { r with knownClasses := known }

/-- The known classes may be listed in any order, and more than once. -/
lemma resolve_knowing {known : List String} (h : ∀ c, c ∈ known ↔ c ∈ r.knownClasses) (name : String) :
    (r.knowing known).resolve name = r.resolve name := by
  have hsearch : (r.knowing known).firstThere (r.searched name) = r.firstThere (r.searched name) :=
    firstThere_congr fun c _ => isThere_congr r _ h c
  have hfallback : (r.knowing known).fallback name = r.fallback name := by
    have hknown (name : String) : (r.knowing known).knownAs name = r.knownAs name := find?_sorted_congr h _
    rw [fallback, fallback, hknown]
    rfl
  rw [resolve_eq, resolve_eq, hfallback, ← hsearch]
  rfl

/-- The resolver with more namespaces behind its own. -/
def searchingAlso (r : Resolver) (more : List String) : Resolver := { r with namespaces := r.namespaces ++ more }

lemma candidates_searchingAlso (r : Resolver) (more : List String) (name : String) :
    (r.searchingAlso more).candidates name =
      r.candidates name ++ ({ r with namespaces := more } : Resolver).candidates name := by
  simp only [candidates, searchingAlso, List.flatMap_append]

lemma firstThere_searchingAlso (r : Resolver) (more names : List String) :
    (r.searchingAlso more).firstThere names = r.firstThere names :=
  firstThere_congr fun c _ => isThere_congr r _ (fun _ => Iff.rfl) c

/-- What a qualified name stands for is not changed by more namespaces. -/
lemma resolve_searchingAlso_of_mem (h : r.resolve name = .ok (some c)) (hinner : '\\' ∈ (bare name).toList)
    (more : List String) : (r.searchingAlso more).resolve name = .ok (some c) := by
  have hempty : bare name ≠ "" := by
    intro hempty
    rw [hempty] at hinner
    cases hinner
  have hinner' : (bare name).toList.contains '\\' = true := List.contains_iff_mem.2 hinner
  have hsearched (r : Resolver) : r.searched name = [bare name] := by rw [searched, if_neg hempty, if_pos hinner']
  obtain ⟨found, hfound, hc⟩ := resolve_eq_some_iff.1 h
  rw [hsearched] at hfound
  refine resolve_eq_some_iff.2 ⟨found, by rw [hsearched, firstThere_searchingAlso, hfound], ?_⟩
  cases found with
  | some d => rwa [Option.some_or] at hc ⊢
  | none =>
    rw [Option.none_or, fallback, if_neg hempty, if_pos hinner'] at hc ⊢
    split_ifs at hc with hinside
    have hinside' : (r.searchingAlso more).isInside (bare name) = true := by
      rw [isInside, searchingAlso, List.any_append, Bool.or_eq_true]
      exact .inl hinside
    rw [if_pos hinside', hc]

/-- A class that a short name is found for in a namespace is found before more namespaces are searched. -/
lemma resolve_searchingAlso_of_mem_candidates (hbare : r.IsBare) (h : r.resolve name = .ok (some c))
    (hinner : '\\' ∉ (bare name).toList) (hc : c ∈ r.candidates (bare name)) (more : List String) :
    (r.searchingAlso more).resolve name = .ok (some c) := by
  have hinner' : ¬ (bare name).toList.contains '\\' = true := by rwa [List.contains_iff_mem]
  obtain ⟨found, hfound, hor⟩ := resolve_eq_some_iff.1 h
  have hempty : bare name ≠ "" := by
    intro hempty
    rw [searched, if_pos hempty] at hfound
    cases hfound
    rw [Option.none_or, fallback, if_pos hempty] at hor
    cases hor
  have hsearched (r : Resolver) : r.searched name = r.candidates (bare name) := by
    rw [searched, if_neg hempty, if_neg hinner']
  rw [hsearched] at hfound
  cases found with
  | none =>
    -- what is found among the known classes would have been found in its namespace
    rw [Option.none_or, fallback, if_neg hempty, if_neg hinner'] at hor
    have hthere := isThere_of_known hbare (mem_sorted.1 (List.mem_of_find?_eq_some hor))
    rw [isThere_of_firstThere_eq_none hfound c hc] at hthere
    cases hthere
  | some d =>
    rw [Option.some_or] at hor
    refine resolve_eq_some_iff.2 ⟨some d, ?_, by rw [Option.some_or, hor]⟩
    rw [hsearched, candidates_searchingAlso, firstThere_append, firstThere_searchingAlso, hfound]

/-! ## Answers -/

lemma make_knowing {known others : List String} (h : ∀ c, c ∈ others ↔ c ∈ known) (namespaces : List String)
    (appDir : Option Path) (fileExtension : String) (files : FileTree) (name : String) :
    (make namespaces others appDir fileExtension files).resolve name =
      (make namespaces known appDir fileExtension files).resolve name := by
  have hbare (c : String) : c ∈ others.map bare ↔ c ∈ known.map bare := by
    simp only [List.mem_map, h]
  have hmake : make namespaces others appDir fileExtension files =
      (make namespaces known appDir fileExtension files).knowing (others.map bare) := rfl
  rw [hmake]
  exact resolve_knowing hbare name

lemma make_searchingAlso (namespaces more known : List String) (appDir : Option Path) (fileExtension : String)
    (files : FileTree) :
    make (namespaces ++ more) known appDir fileExtension files =
      (make namespaces known appDir fileExtension files).searchingAlso ((more.map bare).filter (· != "")) := by
  rw [make, List.map_append, List.filter_append]
  rfl

/-- The class that a name is resolved to has its short name and exists, or the name is the full name of a class in a
namespace; a short name is resolved to nothing only if it is that of no class; and nothing else can happen but that the
search gets stuck.  The known classes may be reordered and repeated, and what is found in a namespace stays what is
found when namespaces are added behind. -/
theorem answers_are_sound_and_complete (namespaces known : List String) (appDir : Option Path)
    (fileExtension : String) (files : FileTree) (name : String) :
    let r := make namespaces known appDir fileExtension files
    (∀ c, r.resolve name = .ok (some c) →
      shortName c = shortName name ∧ (r.HasClass c ∨ r.IsQualified (bare name) ∧ c = bare name)) ∧
    (r.resolve name = .ok none → bare name ≠ "" → '\\' ∉ (bare name).toList →
      (∀ space ∈ r.namespaces, ¬ r.HasClass (space ++ "\\" ++ bare name) ∧
        ¬ r.HasClass (space ++ "\\" ++ bare name ++ "\\" ++ bare name)) ∧
      ∀ c ∈ r.knownClasses, shortName c ≠ bare name) ∧
    (∀ f, r.resolve name = .error f ↔ ∃ fault, f = .file fault ∧ r.GetsStuck name fault) ∧
    (∀ others, (∀ c, c ∈ others ↔ c ∈ known) →
      (make namespaces others appDir fileExtension files).resolve name = r.resolve name) ∧
    ∀ c more, r.resolve name = .ok (some c) →
      ('\\' ∈ (bare name).toList ∨ ∃ space ∈ r.namespaces,
        c = space ++ "\\" ++ bare name ∨ c = space ++ "\\" ++ bare name ++ "\\" ++ bare name) →
      (make (namespaces ++ more) known appDir fileExtension files).resolve name = .ok (some c) := by
  intro r
  have hbare : r.IsBare := isBare_make namespaces known appDir fileExtension files
  refine ⟨fun c => of_resolve_eq_some hbare, fun hnone hempty hinner => ?_, fun f => resolve_eq_error_iff,
    fun others h => make_knowing h namespaces appDir fileExtension files name, fun c more hfound hwhere => ?_⟩
  · obtain ⟨hcandidates, hknown⟩ := of_resolve_eq_none hnone hempty hinner
    refine ⟨fun space hspace => ?_, hknown⟩
    have hmem {c : String} (hc : c = space ++ "\\" ++ bare name ∨
        c = space ++ "\\" ++ bare name ++ "\\" ++ bare name) : ¬ r.HasClass c :=
      hcandidates c (List.mem_flatMap.2 ⟨space, hspace, List.mem_pair.2 hc⟩)
    exact ⟨hmem (.inl rfl), hmem (.inr rfl)⟩
  · rw [make_searchingAlso]
    by_cases hinner : '\\' ∈ (bare name).toList
    · exact resolve_searchingAlso_of_mem hfound hinner _
    · obtain ⟨space, hspace, hc⟩ := hwhere.resolve_left hinner
      exact resolve_searchingAlso_of_mem_candidates hbare hfound hinner
        (List.mem_flatMap.2 ⟨space, hspace, List.mem_pair.2 hc⟩) _

/-- A resolver that has no files to look at. -/
def library (namespaces known : List String) : Resolver := make namespaces known none ".php" (.empty [])

theorem user_is_found_in_lib :
    (library ["App", "\\Lib\\"] ["Lib\\User", "Zoo\\Cat"]).resolve "\\User" = .ok (some "Lib\\User") ∧
      shortName "Lib\\User" = shortName "\\User" ∧
      (library ["App", "\\Lib\\"] ["Zoo\\Cat", "Lib\\User", "Zoo\\Cat"]).resolve "\\User" =
        .ok (some "Lib\\User") ∧
      (library ["App", "\\Lib\\", "Zoo"] ["Lib\\User", "Zoo\\Cat"]).resolve "\\User" = .ok (some "Lib\\User") ∧
      (library ["App", "\\Lib\\"] ["Lib\\User", "Zoo\\Cat"]).resolve "Ghost" = .ok none ∧
      ¬ (library ["App", "\\Lib\\"] ["Lib\\User", "Zoo\\Cat"]).HasClass "App\\Ghost" := by
  set r := library ["App", "\\Lib\\"] ["Lib\\User", "Zoo\\Cat"]
  have hfound : r.resolve "\\User" = .ok (some "Lib\\User") := by decide
  have hghost : r.resolve "Ghost" = .ok none := by
    have hknown : r.knownAs "Ghost" = none := by
      rw [knownAs, List.find?_eq_none]
      simp only [mem_sorted]
      decide
    have hsearch : r.firstThere (r.searched "Ghost") = .ok none := by decide
    rw [resolve_eq, hsearch, fallback, if_neg (by decide), if_neg (by decide)]
    exact congrArg Except.ok hknown
  obtain ⟨hsound, -, -, hordered, happended⟩ :=
    answers_are_sound_and_complete ["App", "\\Lib\\"] ["Lib\\User", "Zoo\\Cat"] none ".php" (.empty []) "\\User"
  obtain ⟨-, hcomplete, -⟩ :=
    answers_are_sound_and_complete ["App", "\\Lib\\"] ["Lib\\User", "Zoo\\Cat"] none ".php" (.empty []) "Ghost"
  refine ⟨hfound, (hsound _ hfound).1, (hordered _ ?_).trans hfound,
    happended _ ["Zoo"] hfound (.inr ⟨"Lib", by decide, .inl rfl⟩), hghost, ?_⟩
  · intro c
    simp only [List.mem_cons, List.not_mem_nil, or_false]
    tauto
  · exact ((hcomplete hghost (by decide) (by decide)).1 "App" (by decide)).1

end Resolver

end EntityScaffold
