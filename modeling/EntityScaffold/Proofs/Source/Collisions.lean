import EntityScaffold.Proofs.Source.UseClause
/-!
# Names in one file

The `use` lines of a file, the class that it declares, and the classes of its own namespace share one set of
names, and a compiler turns a file down in which two of them are the same but for case.  A unit is
`CollisionFree` if its file has no such names; then no two classes are printed alike
(`CollisionFree.eq_of_plainType`).

The lines are those that are printed, as a compiler reads them.  Of a unit that imports classes without aliases
it is enough to compare the short names of its imports from other namespaces (`collisionFree_iff`).
-/

namespace EntityScaffold.SourceUnit

open Text ClassName Source

/-- The types in a unit: behind `extends`, `implements` and `use`, and of members, parameters and results. -/
def types (u : SourceUnit) : List String :=
  let d := u.declaration
  d.parent.toList ++ d.interfaces ++ d.traits ++ d.members.filterMap (·.type) ++
    d.methods.flatMap fun m => m.parameters.filterMap (·.type) ++ m.returnType.toList

/-- The types in a unit that are classes. -/
def classes (u : SourceUnit) : List String := u.types.filter fun type => !builtinTypes.contains (lower type)

/-- What a compiler reads in the `use` lines of a file. -/
def clauses (u : SourceUnit) : List UseClause := u.importLines.filterMap UseClause.read?

/-- The names in a file differ, without regard to case: those of its `use` lines from each other, from the class
that it declares, and from those of other classes of its own namespace that it refers to. -/
structure CollisionFree (u : SourceUnit) : Prop where
  names : (u.clauses.map fun clause => foldCase clause.name).Nodup
  declared : ∀ clause ∈ u.clauses, foldCase clause.name ≠ foldCase u.declaration.name
  own : ∀ clause ∈ u.clauses, ∀ c ∈ u.classes, namespaceOf c = u.space → clause.target ≠ c →
    foldCase clause.name ≠ foldCase (shortName c)

variable {u : SourceUnit} {c d : String}

lemma mem_classes_iff : c ∈ u.classes ↔ c ∈ u.types ∧ lower c ∉ builtinTypes := by
  simp [classes]

/-! ## Lines -/

lemma nodup_importLines (u : SourceUnit) : u.importLines.Nodup := by
  rw [importLines]
  exact (List.mergeSort_perm _ _).nodup_iff.2 (nodup_distinct _)

section

variable (hentries : ∀ entry ∈ u.uses, IsEntry entry)

include hentries

lemma clauses_of_isEntry : u.clauses = u.importLines.map clauseOf := by
  rw [clauses, ← List.filterMap_eq_map]
  exact List.filterMap_congr (read?_of_mem_importLines hentries)

theorem collisionFree_iff : u.CollisionFree ↔
    (∀ e ∈ u.importLines, ∀ e' ∈ u.importLines,
      foldCase (Import.read e).shortName = foldCase (Import.read e').shortName → e = e') ∧
    (∀ e ∈ u.importLines, foldCase (Import.read e).shortName ≠ foldCase u.declaration.name) ∧
    ∀ e ∈ u.importLines, ∀ c ∈ u.classes, namespaceOf c = u.space → (Import.read e).target ≠ c →
      foldCase (Import.read e).shortName ≠ foldCase (shortName c) := by
  have hclauses := clauses_of_isEntry hentries
  have hnames : (u.clauses.map fun clause => foldCase clause.name).Nodup ↔
      ∀ e ∈ u.importLines, ∀ e' ∈ u.importLines,
        foldCase (Import.read e).shortName = foldCase (Import.read e').shortName → e = e' := by
    rw [hclauses, List.map_map]
    exact List.nodup_map_iff_inj_on u.nodup_importLines
  constructor
  · intro h
    refine ⟨hnames.1 h.names, fun e he => ?_, fun e he => ?_⟩
    · exact h.declared (clauseOf e) (by rw [hclauses]; exact List.mem_map_of_mem he)
    · exact h.own (clauseOf e) (by rw [hclauses]; exact List.mem_map_of_mem he)
  · rintro ⟨himports, hdeclared, hown⟩
    refine ⟨hnames.2 himports, fun clause hclause => ?_, fun clause hclause => ?_⟩
    · rw [hclauses] at hclause
      obtain ⟨e, he, rfl⟩ := List.mem_map.1 hclause
      exact hdeclared e he
    · rw [hclauses] at hclause
      obtain ⟨e, he, rfl⟩ := List.mem_map.1 hclause
      exact hown e he

end

/-! ## Imports without aliases -/

lemma mem_importLines_of_isProper (hplain : ∀ c ∈ u.uses, IsProper c) :
    c ∈ u.importLines ↔ c ∈ u.uses ∧ namespaceOf c ≠ u.space := by
  rw [mem_importLines_of_isEntry fun entry hentry => .plain (hplain entry hentry)]
  refine and_congr_right fun hc => ?_
  rw [isPrintedImport, Import.read_of_isProper (hplain c hc)]
  simp

lemma read_of_isProper (hc : IsProper c) :
    (Import.read c).target = c ∧ (Import.read c).shortName = shortName c := by
  rw [Import.read_of_isProper hc]
  exact ⟨rfl, rfl⟩

/-- Of a unit without aliases, each class from another namespace is compared with the others, the declared one, and
those of the unit's namespace. -/
theorem collisionFree_iff_of_isProper (hplain : ∀ c ∈ u.uses, IsProper c) : u.CollisionFree ↔
    ∀ c ∈ u.uses, namespaceOf c ≠ u.space →
      (∀ d ∈ u.uses, namespaceOf d ≠ u.space → foldCase (shortName c) = foldCase (shortName d) → c = d) ∧
        foldCase (shortName c) ≠ foldCase u.declaration.name ∧
          ∀ d ∈ u.classes, namespaceOf d = u.space → foldCase (shortName c) ≠ foldCase (shortName d) := by
  have hlines {c : String} : c ∈ u.importLines ↔ c ∈ u.uses ∧ namespaceOf c ≠ u.space :=
    mem_importLines_of_isProper hplain
  have hname {c : String} (hc : c ∈ u.importLines) : (Import.read c).shortName = shortName c :=
    (read_of_isProper (hplain c (hlines.1 hc).1)).2
  have htarget {c : String} (hc : c ∈ u.importLines) : (Import.read c).target = c :=
    (read_of_isProper (hplain c (hlines.1 hc).1)).1
  rw [collisionFree_iff fun entry hentry => .plain (hplain entry hentry)]
  constructor
  · rintro ⟨himports, hdeclared, hown⟩ c hc hforeign
    have hline := hlines.2 ⟨hc, hforeign⟩
    refine ⟨fun d hd hforeign' heq => ?_, ?_, fun d hd hspace => ?_⟩
    · have hline' := hlines.2 ⟨hd, hforeign'⟩
      exact himports c hline d hline' (by rwa [hname hline, hname hline'])
    · rw [← hname hline]
      exact hdeclared c hline
    · rw [← hname hline]
      refine hown c hline d hd hspace ?_
      rw [htarget hline]
      rintro rfl
      exact hforeign hspace
  · intro h
    refine ⟨fun c hc d hd heq => ?_, fun c hc => ?_, fun c hc d hd hspace _ => ?_⟩
    · rw [hname hc, hname hd] at heq
      exact (h c (hlines.1 hc).1 (hlines.1 hc).2).1 d (hlines.1 hd).1 (hlines.1 hd).2 heq
    · rw [hname hc]
      exact (h c (hlines.1 hc).1 (hlines.1 hc).2).2.1
    · rw [hname hc]
      exact (h c (hlines.1 hc).1 (hlines.1 hc).2).2.2 d hd hspace

/-- An import with an alias adds a name, which has to differ from all other names. -/
lemma collisionFree_alias_iff {target name : String} {plain : List String} (htarget : IsProper target)
    (hname : IsSegment name) (hplain : ∀ c ∈ plain, IsProper c)
    (huses : ∀ entry, entry ∈ u.uses ↔ entry = target ++ " as " ++ name ∨ entry ∈ plain) :
    u.CollisionFree ↔ SourceUnit.CollisionFree { u with uses := plain } ∧
      (∀ c ∈ plain, namespaceOf c ≠ u.space → foldCase name ≠ foldCase (shortName c)) ∧
        foldCase name ≠ foldCase u.declaration.name ∧
          ∀ c ∈ u.classes, namespaceOf c = u.space → target ≠ c → foldCase name ≠ foldCase (shortName c) := by
  let v : SourceUnit := { u with uses := plain }
  have halias : Import.read (target ++ " as " ++ name) = ⟨target, some name⟩ := Import.read_aliased htarget hname
  have hshort : (Import.read (target ++ " as " ++ name)).shortName = name := by
    rw [halias]
    exact if_neg hname.1
  have hplain' {c : String} (hc : c ∈ plain) : (Import.read c).shortName = shortName c :=
    (read_of_isProper (hplain c hc)).2
  have hentries : ∀ entry ∈ u.uses, IsEntry entry := by
    intro entry hentry
    obtain rfl | hentry := (huses entry).1 hentry
    · exact .aliased htarget hname
    · exact .plain (hplain entry hentry)
  have hforeign {c : String} : c ∈ v.importLines ↔ c ∈ plain ∧ namespaceOf c ≠ u.space :=
    mem_importLines_of_isProper (u := v) hplain
  have hlines {entry : String} : entry ∈ u.importLines ↔
      entry = target ++ " as " ++ name ∨ entry ∈ v.importLines := by
    rw [mem_importLines_of_isEntry hentries, huses, or_and_right,
      mem_importLines_of_isEntry fun c hc => .plain (hplain c hc)]
    refine or_congr_left ⟨And.left, fun heq => ⟨heq, ?_⟩⟩
    rw [heq, isPrintedImport, halias]
    rfl
  -- with a blank in it, the entry is none of the others
  have hne {c : String} (hc : c ∈ plain) : target ++ " as " ++ name ≠ c := by
    rintro rfl
    exact absurd (isBlank_of_isProper (hplain _ hc) ' ' (by simp)) (by decide)
  rw [collisionFree_iff hentries, collisionFree_iff (u := v) fun c hc => .plain (hplain c hc)]
  constructor
  · rintro ⟨himports, hdeclared, hown⟩
    have hfirst := hlines.2 (.inl rfl)
    refine ⟨⟨fun e he e' he' => himports e (hlines.2 (.inr he)) e' (hlines.2 (.inr he')),
      fun e he => hdeclared e (hlines.2 (.inr he)), fun e he => hown e (hlines.2 (.inr he))⟩,
      fun c hc hspace heq => ?_, ?_, fun c hc hspace htarget => ?_⟩
    · refine hne hc (himports _ hfirst c (hlines.2 (.inr (hforeign.2 ⟨hc, hspace⟩))) ?_)
      rw [hshort, hplain' hc, heq]
    · rw [← hshort]
      exact hdeclared _ hfirst
    · rw [← hshort]
      exact hown _ hfirst c hc hspace (by rwa [halias])
  · rintro ⟨⟨himports, hdeclared, hown⟩, hothers, hdeclared', hown'⟩
    have hothers' {c : String} (hc : c ∈ v.importLines) :
        foldCase (Import.read (target ++ " as " ++ name)).shortName ≠ foldCase (Import.read c).shortName := by
      rw [hshort, hplain' (hforeign.1 hc).1]
      exact hothers c (hforeign.1 hc).1 (hforeign.1 hc).2
    refine ⟨fun e he e' he' heq => ?_, fun e he => ?_, fun e he => ?_⟩
    · obtain rfl | he := hlines.1 he <;> obtain rfl | he' := hlines.1 he'
      · rfl
      · exact absurd heq (hothers' he')
      · exact absurd heq.symm (hothers' he)
      · exact himports e he e' he' heq
    · obtain rfl | he := hlines.1 he
      · rwa [hshort]
      · exact hdeclared e he
    · obtain rfl | he := hlines.1 he
      · rwa [hshort, halias]
      · exact hown e he

/-! ## Printed classes -/

/-- How a class can be printed: by the name of a `use` line, by its own short name in its namespace, or rooted. -/
inductive IsPrintedAs (u : SourceUnit) (c : String) : String → Prop
  | line {entry : String} (h : entry ∈ u.importLines) (htarget : (Import.read entry).target = c) :
    IsPrintedAs u c (Import.read entry).shortName
  | own (hspace : namespaceOf c = u.space) : IsPrintedAs u c (shortName c)
  | rooted : IsPrintedAs u c ("\\" ++ c)

/-- An import that has no `use` line is a class of the unit's namespace under its own name. -/
lemma isPrintedAs_plainType (hentries : ∀ entry ∈ u.uses, IsEntry entry) (hc : IsProper c)
    (hword : lower c ∉ builtinTypes) : u.IsPrintedAs c (u.plainType c) := by
  have hprinted := u.isPlain_plainType c
  have hbare := bare_of_isProper hc
  generalize u.plainType c = printed at hprinted ⊢
  cases hprinted with
  | builtin hbuiltin => exact absurd hbuiltin hword
  | @imported entry _ hentry htarget =>
    rw [hbare] at htarget
    by_cases hline : u.isPrintedImport entry = true
    · exact .line ((mem_importLines_of_isEntry hentries).2 ⟨hentry, hline⟩) htarget
    · obtain ⟨hspace, hshort⟩ := own_of_not_isPrintedImport hline
      rw [htarget] at hspace hshort
      rw [hshort]
      exact .own hspace
  | own _ _ hspace =>
    rw [hbare] at hspace ⊢
    exact .own hspace
  | rooted =>
    rw [hbare]
    exact .rooted

lemma segment_ne_rooted {name : String} (h : IsSegment name) : name ≠ "\\" ++ c := by
  rintro rfl
  exact (h.2 '\\' (by simp)).1 rfl

/-- In a file without collisions, different classes are printed differently. -/
theorem CollisionFree.eq_of_plainType (h : u.CollisionFree) (hentries : ∀ entry ∈ u.uses, IsEntry entry)
    (hproper : ∀ c ∈ u.classes, IsProper c) (hc : c ∈ u.classes) (hd : d ∈ u.classes)
    (heq : u.plainType c = u.plainType d) : c = d := by
  obtain ⟨himports, -, hown⟩ := (collisionFree_iff hentries).1 h
  have hline {entry : String} (hentry : entry ∈ u.importLines) : IsSegment (Import.read entry).shortName :=
    (hentries entry ((mem_importLines_of_isEntry hentries).1 hentry).1).read.2
  -- a line that gives the short name of a class of the namespace is a line for that class
  have htarget {entry c : String} (hentry : entry ∈ u.importLines) (hc : c ∈ u.classes)
      (hspace : namespaceOf c = u.space) (heq : (Import.read entry).shortName = shortName c) :
      (Import.read entry).target = c := by
    by_contra hne
    exact hown entry hentry c hc hspace hne (congrArg foldCase heq)
  have hprinted {c : String} (hc : c ∈ u.classes) : u.IsPrintedAs c (u.plainType c) :=
    isPrintedAs_plainType hentries (hproper c hc) (mem_classes_iff.1 hc).2
  have hc' := hprinted hc
  have hd' := hprinted hd
  generalize u.plainType c = printed at heq hc'
  generalize u.plainType d = printed' at heq hd'
  cases hc' with
  | line hentry hc' =>
    cases hd' with
    | line hentry' hd' =>
      rw [← hc', ← hd', himports _ hentry _ hentry' (congrArg foldCase heq)]
    | own hspace => rw [← hc', htarget hentry hd hspace heq]
    | rooted => exact absurd heq (segment_ne_rooted (hline hentry))
  | own hspace =>
    cases hd' with
    | line hentry hd' => rw [← hd', htarget hentry hc hspace heq.symm]
    | own hspace' =>
      rw [← qualify_namespaceOf (hproper c hc), ← qualify_namespaceOf (hproper d hd), hspace, hspace', heq]
    | rooted => exact absurd heq (segment_ne_rooted (isSegment_shortName (hproper c hc)))
  | rooted =>
    cases hd' with
    | line hentry hd' => exact absurd heq.symm (segment_ne_rooted (hline hentry))
    | own hspace => exact absurd heq.symm (segment_ne_rooted (isSegment_shortName (hproper d hd)))
    | rooted => exact (String.append_right_inj _).1 heq

end EntityScaffold.SourceUnit
