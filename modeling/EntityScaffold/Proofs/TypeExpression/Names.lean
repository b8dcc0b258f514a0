import EntityScaffold.Proofs.Naming.Words
import EntityScaffold.Proofs.Resolver.Order
import EntityScaffold.Proofs.Text.Case
import EntityScaffold.TypeExpression.Outcome
/-!
# Class names as type expressions

A type expression may be a class name and nothing else, perhaps with the mark of nullability.  Such an expression
is taken apart whatever flags are recognized (`split_named`), so what becomes of it is decided by what its base
stands for (`TypeReader.read_named`); and a name in a namespace is never the keyword of a primitive type.

A short name for which some class is there is always read as an entity, unless the search gets stuck
(`read_short_cases`), and which one it is hangs on the order in which classes are tried (`read_short_iff`).
-/

namespace EntityScaffold

open Text

namespace ClassName

variable {name s t : String}

/-- A class name of identifiers, with backslashes between them only. -/
def IsName (name : String) : Prop := ∀ piece ∈ pieces '\\' name, isIdentifier piece = true

instance : DecidablePred IsName := fun _ => inferInstanceAs (Decidable (∀ _ ∈ _, isIdentifier _ = true))

lemma isSegment_of_isIdentifier (h : isIdentifier s = true) : IsSegment s := by
  refine ⟨ne_empty_of_isIdentifier h, fun c hc => ?_⟩
  exact Naming.of_isIdentifierChar (P := fun c => c ≠ '\\' ∧ isBlank c = false) (by decide)
    (isIdentifierChar_of_isIdentifier h c hc)

lemma IsName.isProper (h : IsName name) : IsProper name :=
  fun piece hpiece => isSegment_of_isIdentifier (h piece hpiece)

lemma isName_of_isIdentifier (h : isIdentifier s = true) : IsName s := by
  rw [IsName, pieces_of_isSegment (isSegment_of_isIdentifier h)]
  exact List.forall_mem_singleton.2 h

lemma isName_append_iff : IsName (s ++ "\\" ++ t) ↔ IsName s ∧ IsName t := by
  rw [IsName, pieces_append, List.forall_mem_append, IsName, IsName]

/-- Names are written with the characters of identifiers and with backslashes. -/
lemma IsName.char (h : IsName name) {c : Char} (hc : c ∈ name.toList) : c = '\\' ∨ isIdentifierChar c = true := by
  rw [← join_pieces name] at hc
  obtain hc | ⟨piece, hpiece, hc⟩ := mem_join hc
  · exact .inl (List.mem_singleton.1 hc)
  · exact .inr (isIdentifierChar_of_isIdentifier (h piece hpiece) c hc)

/-- A character that is neither a backslash nor one of an identifier does not stand in a name. -/
theorem IsName.ne (h : IsName name) {c d : Char} (hc : c ∈ name.toList) (hd : isIdentifierChar d = false)
    (hslash : d ≠ '\\') : c ≠ d := by
  rcases h.char hc with rfl | hc
  · exact hslash.symm
  · exact ne_of_isIdentifierChar hc hd

end ClassName

open ClassName

/-- A name with a backslash in it is no keyword. -/
lemma primitive?_of_backslash {name : String} (h : '\\' ∈ name.toList) : primitive? name = none := by
  have hlower : '\\' ∈ (lower name).toList := by
    rw [lower, toList_through]
    exact mem_lowerAfter (by decide) (by decide) h
  have hkeywords : ∀ entry ∈ primitives, '\\' ∉ entry.1.toList := by decide
  rw [primitive?, List.lookup_eq_none_iff]
  intro entry hentry
  have hne : lower name ≠ entry.1 := fun heq => hkeywords entry hentry (heq ▸ hlower)
  simpa using hne

namespace TypeExpression

variable {base : String}

/-- The expression that is a name and nothing else, but for the mark of nullability. -/
def named (nullable : Bool) (base : String) : String := if nullable then "?" ++ base else base

lemma toList_named (nullable : Bool) (base : String) :
    (named nullable base).toList = (if nullable then ['?'] else []) ++ base.toList := by
  cases nullable <;> simp [named]

lemma isClassName_of_isName (h : IsName base) : isClassName base.toList = true := by
  obtain ⟨c, cs, hbase, hc⟩ := h.isProper.exists_cons
  have hpieces : (base.toList.splitOnP (· == '\\')).all isIdentifierChars = true := by
    rw [List.all_eq_true]
    intro piece hpiece
    have hidentifier := h (String.ofList piece) (List.mem_map_of_mem hpiece)
    rwa [isIdentifier, String.toList_ofList] at hidentifier
  rw [hbase] at hpieces ⊢
  simpa [isClassName, hc] using hpieces

lemma readHead_of_isName (h : IsName base) : readHead base.toList = .ok (base, {}) := by
  have hcut : cutAt? '|' base.toList = none := by
    have hall : base.toList.dropWhile (· != '|') = [] := by
      rw [List.dropWhile_eq_nil_iff]
      intro c hc
      exact bne_iff_ne.2 (h.ne hc (by decide) (by decide))
    rw [cutAt?, hall]
  have hne : base.toList ≠ [] := by simpa using ne_empty_of_isProper h.isProper
  simp [readHead, hcut, readBase, hne, isClassName_of_isName h]

/-- A name is a type expression, which asks for nothing besides. -/
theorem split_named (h : IsName base) (recognized : List String) (nullable : Bool) :
    split recognized (named nullable base) = .ok ⟨nullable, base, {}⟩ := by
  have hblank : ∀ c ∈ (named nullable base).toList, isBlank c = false := by
    intro c hc
    rw [toList_named, List.mem_append] at hc
    rcases hc with hc | hc
    · have hmark : c = '?' := by cases nullable <;> simp_all
      rw [hmark]
      decide
    · exact isBlank_of_isProper h.isProper c hc
  have hne : (named nullable base).toList ≠ [] := by
    rw [toList_named]
    exact List.append_ne_nil_of_right_ne_nil _ (by simpa using ne_empty_of_isProper h.isProper)
  have hnullable : readNullable (named nullable base).toList = (nullable, base.toList) := by
    obtain ⟨c, cs, hbase, -⟩ := h.isProper.exists_cons
    have hc : c ≠ '?' := h.ne (hbase ▸ List.mem_cons_self) (by decide) (by decide)
    rw [toList_named]
    cases nullable with
    | true => rfl
    | false =>
      rw [if_neg Bool.false_ne_true, List.nil_append, hbase, readNullable]
      rintro rest ⟨⟩
      exact hc rfl
  rw [split, wordsOf_of_noBlank hne hblank, ofWords]
  simp [readFlags, hnullable, readHead_of_isName h]

end TypeExpression

namespace TypeReader

open TypeExpression

variable {reader : TypeReader} {base : String} {fault : FileFault}

/-- A name is read as what it stands for. -/
theorem read_named (h : IsName base) (reader : TypeReader) (nullable : Bool) :
    reader.read (named nullable base) =
      (reader.sense (some (named nullable base)) base).map fun sense => ⟨sense, nullable, {}⟩ := by
  rw [TypeReader.read, readToken, TypeExpression.read, Option.getD_some, split_named h, ok_bind]
  cases reader.sense (some (named nullable base)) base <;> rfl

/-- A name that is no keyword is an entity, if there is a class for it. -/
lemma read_named_of_resolve {target : String} (h : IsName base) (hprimitive : primitive? base = none)
    (hresolve : reader.resolver.resolve base = .ok (some target)) (nullable : Bool) :
    reader.read (named nullable base) = .ok ⟨.entity (shortName base) target, nullable, {}⟩ := by
  rw [read_named h, sense, hprimitive]
  simp only [hresolve, ok_bind]
  rfl

/-- A name that is no keyword is not read where looking for its class gets stuck. -/
lemma read_named_of_getsStuck (h : IsName base) (hprimitive : primitive? base = none)
    (hstuck : reader.resolver.GetsStuck base fault) (nullable : Bool) :
    reader.read (named nullable base) = .error (.file fault) := by
  rw [read_named h, sense, hprimitive]
  simp only [Resolver.resolve_eq_error_iff.2 ⟨fault, rfl, hstuck⟩]
  rfl

/-! ## Short names -/

variable {name target : String}

lemma shortName_of_isIdentifier (h : isIdentifier name = true) : shortName name = name := by
  have hshort := (isProper_qualify (.inl rfl) (isSegment_of_isIdentifier h)).2.2
  rwa [qualify_of_bare_eq_empty (by decide)] at hshort

lemma read_short_of_resolve (hname : isIdentifier name = true) (hprimitive : primitive? name = none)
    (hresolve : reader.resolver.resolve name = .ok (some target)) (nullable : Bool) :
    reader.read (named nullable name) = .ok ⟨.entity name target, nullable, {}⟩ := by
  have hread := read_named_of_resolve (isName_of_isIdentifier hname) hprimitive hresolve nullable
  rwa [shortName_of_isIdentifier hname] at hread

/-- A short name for which a class is there is read as an entity, unless the search for it gets stuck. -/
theorem read_short_cases (hbare : reader.resolver.IsBare) (hname : isIdentifier name = true)
    (hprimitive : primitive? name = none) (hmem : target ∈ reader.resolver.tried name)
    (hthere : reader.resolver.isThere target = .ok true) (nullable : Bool) :
    (∃ fault, reader.read (named nullable name) = .error (.file fault) ∧ reader.resolver.GetsStuck name fault) ∨
      ∃ found, reader.read (named nullable name) = .ok ⟨.entity name found, nullable, {}⟩ ∧
        bare found = found ∧ reader.resolver.isThere found = .ok true := by
  obtain ⟨fault, hstuck⟩ | ⟨found, hresolve, -, hfound⟩ :=
    Resolver.resolve_of_mem_tried hbare (isSegment_of_isIdentifier hname) hmem hthere
  · exact .inl ⟨fault, read_named_of_getsStuck (isName_of_isIdentifier hname) hprimitive hstuck nullable, hstuck⟩
  · exact .inr ⟨found, read_short_of_resolve hname hprimitive hresolve nullable,
      Resolver.bare_of_resolve hbare hresolve, hfound⟩

/-- A short name is read as a class that is there exactly if every class that is tried before is missing. -/
theorem read_short_iff (hbare : reader.resolver.IsBare) (hname : isIdentifier name = true)
    (hprimitive : primitive? name = none) (hmem : target ∈ reader.resolver.tried name)
    (hthere : reader.resolver.isThere target = .ok true) (nullable : Bool) :
    reader.read (named nullable name) = .ok ⟨.entity name target, nullable, {}⟩ ↔
      ∀ c ∈ reader.resolver.earlier name target, reader.resolver.isThere c = .ok false := by
  have hsegment : IsSegment name := isSegment_of_isIdentifier hname
  rw [← Resolver.resolve_eq_iff_earlier hbare hsegment hmem hthere]
  constructor
  · intro hread
    obtain ⟨fault, hstuck⟩ | ⟨found, hresolve, -, -⟩ := Resolver.resolve_of_mem_tried hbare hsegment hmem hthere
    · cases (read_named_of_getsStuck (isName_of_isIdentifier hname) hprimitive hstuck nullable).symm.trans hread
    · cases (read_short_of_resolve hname hprimitive hresolve nullable).symm.trans hread
      exact hresolve
  · intro hresolve
    exact read_short_of_resolve hname hprimitive hresolve nullable

end TypeReader

end EntityScaffold
