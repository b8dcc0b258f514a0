import EntityScaffold.Proofs.Naming.ProperName
import EntityScaffold.Proofs.Record.Inconsistency
import EntityScaffold.Proofs.Scaffold.Siblings
/-!
# Generation fails as the check does

A property is a scalar or a relation by its type, so that a member can be made of it by cases and nothing can go
wrong.  Looked at by its parts it is less safe: the relation and the primitive type may each be missing, and who
asks for one that is missing gets a failure.  `Guarded.units` makes the units in this second way, and takes the
last piece of a class name as an item that may not be there either.

The two ways give the same result (`Guarded.units_eq`): where a part is asked for, it is there.  What is left to
fail after the check are the lookups of the repository, which find their properties, and the numbers of columns, which
may have too many digits to be shown.  So the units of a record fail exactly if its check does, in the same way, or if
it passes the check and has such a number.
-/

namespace EntityScaffold.Scaffold

open Source Text Artifact

variable {config : Config} {r : Record}

/-! ## Parts that may be missing -/

namespace Guarded

/-- The last piece of a class name. -/
def lastPiece (name : String) : Except Failure String :=
  match (pieces '\\' name).getLast? with
  | some piece => .ok piece
  | none => .error .noItem

lemma lastPiece_eq (name : String) : lastPiece name = .ok ((pieces '\\' name).getLastD "") := by
  rw [lastPiece, pieces_eq_concat, List.getLast?_concat, List.getLastD_concat]

/-- One of the two parts of a property is there. -/
lemma requiredType_eq (p : Property) : p.requiredType = .ok p.typeHint := by
  unfold Property.requiredType Property.typeHint Property.relation? Property.primitive?
  cases p.kind with
  | scalar type default => rfl
  | relation relation => rfl

lemma requiredRelation_eq {p : Property} {relation : Relation} (h : p.relation? = some relation) :
    p.requiredRelation = .ok relation := by
  rcases hkind : p.kind with ⟨type, default⟩ | found
  · rw [Property.relation?, hkind] at h
    cases h
  · rw [Property.relation?, hkind] at h
    cases h
    rw [Property.requiredRelation, hkind]

/-! ## The entity -/

/-- The member of a property. -/
def entityMember (r : Record) (p : Property) : Except Failure Member :=
  match p.relation? with
  | none =>
    do pure { name := p.name, type := p.primitive?, nullable := p.nullable, comments := [← Mapping.column p] }
  | some relation =>
    if p.isCollection then do
      let comment := Mapping.ofRelation r.entityName (← p.requiredRelation)
      let item ← lastPiece (← p.requiredRelation).target
      pure
        { name := p.name, type := some collection, comments := [comment, "@var Collection|" ++ item ++ "[]"] }
    else do
      let comment := Mapping.ofRelation r.entityName (← p.requiredRelation)
      let column := Mapping.joinColumn p.nullable (← p.requiredRelation)
      pure
        { name := p.name, type := some relation.target, nullable := p.nullable, comments := [comment, column] }

/-- The getter of a property. -/
def entityGetter (p : Property) : Except Failure Method := do
  let type ← if p.isCollection then pure collection else p.requiredType
  pure
    { name := "get" ++ capitalize p.name, returnType := some type
      returnNullable := p.nullable && !p.isCollection, body := [.give (.own p.name)] }

/-- The imports of the entity. -/
def entityUses (config : Config) (r : Record) : Except Failure (List String) := do
  let types ← r.properties.mapM (·.requiredType)
  pure (importsOf
    ([mappingImport] ++
      (if r.properties.any (·.isCollection) then [collection, arrayCollection] else []) ++
      foreignClasses [config.idTypeHint] r.space ++ foreignClasses types r.space ++ r.traitClasses))

/-- The entity class. -/
def entity (config : Config) (r : Record) : Except Failure SourceUnit := do
  let uses ← entityUses config r
  let members ← r.properties.mapM (entityMember r)
  let getters ← r.properties.mapM entityGetter
  pure
    { space := r.space
      uses
      declaration :=
        { name := r.className .entity
          comments := ["@ORM\\Entity",
            "@ORM\\Table(name=" ++ Mapping.inQuotes (Naming.snake r.entityName) ++ ")"]
          traits := r.traitClasses
          members := Entity.idMember config :: members
          methods :=
            [Entity.constructor config r] ++ (if r.features.edit then [Entity.edit r, Entity.getData r] else []) ++
              [Entity.getId config] ++ getters } }

/-- The member of a scalar has a column, if its numbers can be shown. -/
lemma entityMember_eq {p : Property} (r : Record) (h : p.isRelation = false → p.modifiers.isShowable = true) :
    entityMember r p = .ok (Entity.member r p) := by
  rcases hkind : p.kind with ⟨type, default⟩ | relation
  · have hscalar : p.isRelation = false := by
      rw [Property.isRelation, Property.relation?, hkind]
      rfl
    simp only [entityMember, Entity.member, Property.relation?, Property.primitive?, hkind,
      Mapping.column_eq_ok (h hscalar), ok_bind]
    rfl
  · have hrelation : p.relation? = some relation := by
      rw [Property.relation?, hkind]
    have hmany : p.isCollection = relation.kind.isToMany := by
      rw [Property.isCollection, hrelation]
      rfl
    simp only [entityMember, Entity.member, hrelation, hmany, requiredRelation_eq hrelation, ok_bind, hkind,
      lastPiece_eq]
    split
    · rfl
    · rfl

lemma entityMember_error {p : Property} {f : Failure} (h : entityMember r p = .error f) : f = .ofSize .shown := by
  by_contra hf
  have hshown : p.isRelation = false → p.modifiers.isShowable = true := by
    intro hscalar
    by_contra hlong
    refine hf ?_
    rcases hkind : p.kind with ⟨type, default⟩ | relation
    · simp only [entityMember, Property.relation?, hkind, Mapping.column_eq_error hlong, error_bind] at h
      exact (Except.error.inj h).symm
    · rw [Property.isRelation, Property.relation?, hkind] at hscalar
      cases hscalar
  rw [entityMember_eq r hshown] at h
  cases h

lemma exists_entityMember_error (h : ¬ ShowsNumbers r) :
    ∃ p ∈ r.properties, entityMember r p = .error (.ofSize .shown) := by
  unfold ShowsNumbers at h
  push Not at h
  obtain ⟨p, hp, hscalar, hlong⟩ := h
  refine ⟨p, hp, ?_⟩
  rcases hkind : p.kind with ⟨type, default⟩ | relation
  · simp only [entityMember, Property.relation?, hkind, Mapping.column_eq_error hlong, error_bind]
  · rw [Property.isRelation, Property.relation?, hkind] at hscalar
    cases hscalar

lemma entityGetter_eq (p : Property) : entityGetter p = .ok (Entity.getter p) := by
  rw [entityGetter, Entity.getter, requiredType_eq]
  split
  · rfl
  · rfl

lemma mapM_requiredType (properties : List Property) :
    properties.mapM (·.requiredType) = .ok (properties.map (·.typeHint)) :=
  mapM_eq_ok_map fun p _ => requiredType_eq p

lemma entity_eq (config : Config) (r : Record) : entity config r = Entity.write config r := by
  have huses : entityUses config r = .ok (Entity.uses config r) := by
    rw [entityUses, mapM_requiredType]
    rfl
  by_cases hshown : ShowsNumbers r
  · have hmembers : r.properties.mapM (entityMember r) = .ok (r.properties.map (Entity.member r)) :=
      mapM_eq_ok_map fun p hp => entityMember_eq r (hshown p hp)
    have hgetters : r.properties.mapM entityGetter = .ok (r.properties.map Entity.getter) :=
      mapM_eq_ok_map fun p _ => entityGetter_eq p
    rw [write_eq hshown, entity, huses, ok_bind, hmembers, ok_bind, hgetters]
    rfl
  · have hmembers : r.properties.mapM (entityMember r) = .error (.ofSize .shown) :=
      mapM_eq_error (exists_entityMember_error hshown) fun p _ f => entityMember_error
    rw [write_eq_error hshown, entity, huses, ok_bind, hmembers]
    rfl

/-! ## The data object -/

/-- The member of a property. -/
def dataMember (p : Property) : Except Failure Member := do
  if p.isCollection then
    let item ← lastPiece (ClassName.bare (← p.requiredRelation).target)
    pure
      { name := p.name, type := some "array", visibility := .isPublic, default := some "[]"
        comments := ["@var " ++ item ++ "[]"] }
  else
    pure
      { name := p.name, type := some (← p.requiredType), nullable := p.nullable, visibility := .isPublic
        default := Data.initialValue p }

/-- The data object. -/
def data (r : Record) : Except Failure SourceUnit := do
  let types ← r.properties.mapM (·.requiredType)
  let members ← r.properties.mapM dataMember
  pure
    { space := r.space
      uses := importsOf (foreignClasses types r.space)
      declaration := { name := r.className .data, isFinal := true, members } }

/-- A property that refers to any number of entities has a relation. -/
lemma exists_relation {p : Property} (h : p.isCollection = true) :
    ∃ relation, p.relation? = some relation ∧ p.typeHint = relation.target := by
  rcases hkind : p.kind with ⟨type, default⟩ | relation
  · rw [Property.isCollection, Property.relation?, hkind] at h
    cases h
  · exact ⟨relation, by rw [Property.relation?, hkind], by rw [Property.typeHint, hkind]⟩

lemma dataMember_eq (p : Property) : dataMember p = .ok (Data.member p) := by
  rw [dataMember, Data.member]
  by_cases hmany : p.isCollection = true
  · obtain ⟨relation, hrelation, htype⟩ := exists_relation hmany
    rw [if_pos hmany, if_pos hmany, requiredRelation_eq hrelation, ok_bind, lastPiece_eq, htype]
    rfl
  · rw [if_neg hmany, if_neg hmany, requiredType_eq]
    rfl

lemma data_eq (r : Record) : data r = .ok (Data.unit r) := by
  have hmembers : r.properties.mapM dataMember = .ok (r.properties.map Data.member) :=
    mapM_eq_ok_map fun p _ => dataMember_eq p
  rw [data, mapM_requiredType, ok_bind, hmembers]
  rfl

/-! ## All units -/

/-- The unit of an artifact; the artifacts that look at no property are made as ever. -/
def unit (config : Config) (r : Record) : Artifact → Except Failure SourceUnit
  | .entity => entity config r
  | .data => data r
  | a => Scaffold.unit config r a

/-- The units of a consistent record. -/
def units (config : Config) (r : Record) : Except Failure (List (Artifact × SourceUnit)) := do
  r.validate
  (artifacts r).mapM fun a => do pure (a, ← unit config r a)

lemma unit_eq (config : Config) (r : Record) (a : Artifact) : unit config r a = Scaffold.unit config r a := by
  cases a with
  | entity => exact entity_eq config r
  | data => exact data_eq r
  | _ => rfl

/-- Whatever part is asked for is there. -/
theorem units_eq (config : Config) (r : Record) : units config r = Scaffold.units config r := by
  simp only [units, Scaffold.units, unit_eq]

end Guarded

/-! ## Failures -/

/-- Where an event has a class, there is a first event. -/
lemma exists_firstEvent {name : String} (h : .event name ∈ artifacts r) :
    ∃ first, r.firstEvent = .ok first := by
  have hname : name ∈ r.events := mem_events_of_mem_artifacts h
  unfold Record.firstEvent
  split
  · next first _ _ => exact ⟨first, rfl⟩
  · next hevents =>
    rw [hevents] at hname
    cases hname

/-- A record in which even the entity has no name. -/
def nameless : Record := { space := "", entityName := "", events := ["created", "put_aside"] }

end EntityScaffold.Scaffold
