import EntityScaffold.Proofs.Definition
import EntityScaffold.Proofs.Record.Malformed
import EntityScaffold.Proofs.TypeExpression.Reading
/-!
# Definitions that are wrong

A definition may hold anything anywhere, and what is wrong with it is to be told to the person who wrote it.  The name
and the namespace, the entries of properties, relations and features are looked at before they are used, so whatever
stands there ends in a record or a rejection.  Lookups, events and traits are not: they are gone through as lists of
texts.  Beside them a definition breaks only for the size of a number in a type or a default, and for a class that
cannot be looked for, as the path to it is too long or leads through a directory that may not be searched.

`Definition.Fault` lists the ways to break in the order in which the parts are looked at, with the failure that comes
out.  A definition is reported exactly if it has none of these faults (`definitions_are_reported_iff`).
-/

namespace EntityScaffold.Definition

open Document Schema

variable {config : Config} {files : FileTree} {reader : TypeReader} {fields entry : Fields} {value : Value}
  {name expression : String} {f : Failure}

/-! ## Parts that are looked at -/

/-- A text that is required is there or is missed. -/
lemma not_breaks_requiredText {key : String} : ¬ Breaks (requiredText fields key) f := by
  unfold requiredText
  split
  · split
    · exact not_breaks_reject _
    · exact not_breaks_ok _
  · exact not_breaks_reject _

lemma not_breaks_typeText : ¬ Breaks (typeText name fields) f := by
  unfold typeText
  split
  · exact not_breaks_ok _
  · exact not_breaks_ok _
  · exact not_breaks_reject _

lemma not_breaks_propertyEntries : ¬ Breaks (propertyEntries value) f := by
  unfold propertyEntries
  split
  · exact not_breaks_ok _
  · exact not_breaks_ok _
  · next items =>
    cases listedEntries items with
    | none => exact not_breaks_reject _
    | some entries => exact not_breaks_ok entries
  · exact not_breaks_reject _

lemma not_breaks_features : ¬ Breaks (Definition.features value) f := by
  unfold Definition.features
  split
  · exact not_breaks_ok _
  · exact not_breaks_reject _

/-- The block of a relation is described or turned down, and so is the kind in it. -/
lemma not_breaks_relationOf {target : String} : ¬ Breaks (relationOf name target value) f := by
  have hkind (token : Option String) : ¬ Breaks (RelationKind.read token) f := by
    unfold RelationKind.read
    split
    · exact not_breaks_ok _
    · exact not_breaks_reject _
  have hblock (fields : Fields) : ¬ Breaks (relationOf name target (.mapping fields)) f := by
    rw [relationOf, ok_bind]
    dsimp only
    split
    · next block =>
      rw [RelationBlock.relation, breaks_bind_iff]
      rintro (h | ⟨kind, -, h⟩)
      · exact hkind _ h
      · exact not_breaks_pure _ h
    · exact not_breaks_reject _
  unfold relationOf
  split
  · exact hblock []
  · exact hblock _
  · exact not_breaks_reject _

/-- Once its type is read, a property is made or turned down: a relation is only asked for where there is one. -/
lemma not_breaks_complete {block : Value} {default : Option String} {outcome : TypeOutcome} :
    ¬ Breaks (complete name expression block default outcome) f := by
  have hname : ¬ Breaks (Property.checkName name) f :=
    not_breaks_of_rejected fun f h => (Property.checkName_error h).elim fun fault hf => ⟨_, hf⟩
  unfold complete
  split
  · next primitive hsense =>
    split
    · rw [Property.build, breaks_bind_iff]
      rintro (h | ⟨⟨⟩, -, h⟩)
      · exact hname h
      · rw [hsense] at h
        exact not_breaks_ok _ h
    · exact not_breaks_reject _
  · next entity target hsense =>
    split
    · exact not_breaks_reject _
    · rw [breaks_bind_iff]
      rintro (h | ⟨relation, -, h⟩)
      · exact not_breaks_relationOf h
      · rw [Property.build, breaks_bind_iff] at h
        rcases h with h | ⟨⟨⟩, -, h⟩
        · exact hname h
        · rw [hsense] at h
          exact not_breaks_ok _ h

/-! ## Types and defaults -/

/-- A type breaks exactly if it can be neither read nor turned down. -/
lemma breaks_read_iff {token : String} :
    Breaks (reader.read token) f ↔ reader.read token = .error f ∧ reader.CannotRead token := by
  constructor
  · rintro ⟨h, hrejected⟩
    refine ⟨h, ?_⟩
    by_contra hread
    obtain ⟨fault, rfl⟩ := TypeReader.read_error h hread
    exact hrejected _ rfl
  · rintro ⟨h, hread⟩
    refine ⟨h, ?_⟩
    rintro rejection rfl
    rcases TypeReader.read_of_cannotRead hread with ⟨size, hsize⟩ | ⟨fault, -, hfault⟩
    · rw [h] at hsize
      cases hsize
    · rw [h] at hfault
      cases hfault

/-- A default breaks exactly if it holds a number that is too large to be shown. -/
lemma breaks_defaultText_iff : Breaks (defaultText value) f ↔ value.isShowable = false ∧ f = .ofSize .shown := by
  unfold defaultText
  split
  · simp [Value.isShowable, Scalar.isShowable]
  · simp [Value.isShowable, Scalar.isShowable]
  · split
    · next h => simp [h]
    · next h =>
      have hshowable : value.isShowable = false := by simpa using h
      simp only [hshowable, true_and]
      constructor
      · rintro ⟨h, -⟩
        cases h
        rfl
      · rintro rfl
        exact ⟨rfl, fun rejection h => by cases h⟩

/-- What keeps the entry of a property from being read or turned down. -/
inductive EntryFault (reader : TypeReader) (entry : Fields) : Failure → Prop
  | type {name expression : String} {f : Failure} (hname : requiredText entry "name" = .ok name)
      (htype : typeText name entry = .ok expression) (h : reader.read expression = .error f)
      (hread : reader.CannotRead expression) : EntryFault reader entry f
  | default {name expression : String} {outcome : TypeOutcome} (hname : requiredText entry "name" = .ok name)
      (htype : typeText name entry = .ok expression) (hread : reader.read expression = .ok outcome)
      (hdefault : (get entry "default").isShowable = false) : EntryFault reader entry (.ofSize .shown)

/-- The last step of reading an entry is to complete it. -/
lemma property_eq_complete (reader : TypeReader) (entry : Fields) : property reader entry = (do
    let name ← requiredText entry "name"
    let expression ← typeText name entry
    let outcome ← reader.read expression
    let default ← defaultText (get entry "default")
    complete name expression (get entry "relation") default outcome) := rfl

lemma breaks_property_iff : Breaks (property reader entry) f ↔ EntryFault reader entry f := by
  rw [property_eq_complete]
  simp only [breaks_bind_iff, not_breaks_requiredText, not_breaks_typeText, not_breaks_complete, breaks_read_iff,
    breaks_defaultText_iff, false_or, and_false, exists_false, or_false]
  constructor
  · rintro ⟨name, hname, expression, htype, ⟨h, hread⟩ | ⟨outcome, hread, hdefault, rfl⟩⟩
    · exact .type hname htype h hread
    · exact .default hname htype hread hdefault
  · rintro (⟨hname, htype, h, hread⟩ | ⟨hname, htype, hread, hdefault⟩)
    · exact ⟨_, hname, _, htype, .inl ⟨h, hread⟩⟩
    · exact ⟨_, hname, _, htype, .inr ⟨_, hread, hdefault, rfl⟩⟩

/-! ## Definitions -/

/-- The draft that the fields of a definition describe. -/
def draftOf (config : Config) (files : FileTree) (fields : Fields) : Except Failure Draft := do
  let entity ← requiredText fields "entity"
  let space ← requiredText fields "namespace"
  let entries ← propertyEntries (get fields "properties")
  let properties ← entries.mapM (property (readerOf config files (.mapping fields)))
  let features ← Definition.features (get fields "features")
  pure
    { space := ClassName.bare space, entityName := entity, properties, features
      getBy := get fields "get_by"
      getAllBy := get fields "get_all_by"
      events := get fields "events"
      traits := traitList (get fields "traits") }

/-- A definition is read by making a draft and assembling it. -/
lemma ofFields_eq_draftOf (config : Config) (files : FileTree) (fields : Fields) :
    ofFields config files fields = draftOf config files fields >>= fun draft => draft.assemble config := by
  unfold ofFields draftOf
  cases hentity : requiredText fields "entity" with
  | error f => rfl
  | ok entity =>
    cases hspace : requiredText fields "namespace" with
    | error f => rfl
    | ok space =>
      rw [readerOf_mapping hentity hspace]
      simp only [ok_bind, bind_assoc, pure_bind]

/-- The ways in which a document is neither a definition nor turned down, in the order in which its parts are looked
at. -/
inductive Fault (config : Config) (files : FileTree) : Value → Failure → Prop
  /-- An entry of a property, after others that were read. -/
  | property {fields entry : Fields} {before after : List Fields} {entity space : String} {f : Failure}
      (hentity : requiredText fields "entity" = .ok entity) (hspace : requiredText fields "namespace" = .ok space)
      (hentries : propertyEntries (get fields "properties") = .ok (before ++ entry :: after))
      (hbefore : ∀ earlier ∈ before, ∃ p, property (readerOf config files (.mapping fields)) earlier = .ok p)
      (h : EntryFault (readerOf config files (.mapping fields)) entry f) : Fault config files (.mapping fields) f
  /-- A list, after everything that is looked at before it is used. -/
  | draft {fields : Fields} {draft : Draft} {f : Failure} (hdraft : draftOf config files fields = .ok draft)
      (h : draft.Fault config f) : Fault config files (.mapping fields) f

lemma breaks_draftOf_iff : Breaks (draftOf config files fields) f ↔
    ∃ entity space before entry after, requiredText fields "entity" = .ok entity ∧
      requiredText fields "namespace" = .ok space ∧
        propertyEntries (get fields "properties") = .ok (before ++ entry :: after) ∧
          (∀ earlier ∈ before, ∃ p, property (readerOf config files (.mapping fields)) earlier = .ok p) ∧
            EntryFault (readerOf config files (.mapping fields)) entry f := by
  unfold draftOf
  simp only [breaks_bind_iff, not_breaks_requiredText, not_breaks_propertyEntries, not_breaks_features,
    not_breaks_pure, breaks_mapM_iff, breaks_property_iff, false_or, and_false, exists_false, or_false]
  constructor
  · rintro ⟨entity, hentity, space, hspace, entries, hentries, before, entry, after, rfl, hbefore, h⟩
    exact ⟨entity, space, before, entry, after, hentity, hspace, hentries, hbefore, h⟩
  · rintro ⟨entity, space, before, entry, after, hentity, hspace, hentries, hbefore, h⟩
    exact ⟨entity, hentity, space, hspace, _, hentries, before, entry, after, rfl, hbefore, h⟩

lemma breaks_ofValue_iff : Breaks (ofValue config files value) f ↔ Fault config files value f := by
  have hmapping (fields : Fields) :
      Breaks (ofFields config files fields) f ↔ Fault config files (.mapping fields) f := by
    rw [ofFields_eq_draftOf, breaks_bind_iff, breaks_draftOf_iff]
    simp only [Draft.breaks_assemble_iff]
    constructor
    · rintro (⟨entity, space, before, entry, after, hentity, hspace, hentries, hbefore, h⟩ | ⟨draft, hdraft, h⟩)
      · exact .property hentity hspace hentries hbefore h
      · exact .draft hdraft h
    · rintro (⟨hentity, hspace, hentries, hbefore, h⟩ | ⟨hdraft, h⟩)
      · exact .inl ⟨_, _, _, _, _, hentity, hspace, hentries, hbefore, h⟩
      · exact .inr ⟨_, hdraft, h⟩
  cases value with
  | mapping fields => exact hmapping fields
  | scalar s =>
    refine ⟨fun h => absurd h (not_breaks_reject _), ?_⟩
    rintro ⟨⟩
  | list items =>
    refine ⟨fun h => absurd h (not_breaks_reject _), ?_⟩
    rintro ⟨⟩

/-- A definition that breaks does so for a value of the wrong kind, for an item that is no text, for the size of a
number, or for a path that hides what it leads to: never for a name that is not declared, nor for a document that does
not pass a check. -/
theorem Fault.cases (h : Fault config files value f) :
    f = .wrongKind ∨ f = .notText ∨ (∃ size, f = .ofSize size) ∨ ∃ fault, fault.Hides ∧ f = .file fault := by
  have hfields {listed : Value} (h : FieldsFault listed f) : f = .wrongKind ∨ f = .notText := by
    cases h with
    | scalar hnull htext => exact .inl rfl
    | item hitems hitem hvoid htext => exact .inr rfl
  have htraits {listed : Value} (h : TraitsFault config listed f) : f = .wrongKind ∨ ∃ size, f = .ofSize size := by
    rcases h with ⟨hnull, htext⟩ | ⟨hitems, hbefore, hitem⟩
    · exact .inl rfl
    · cases hitem with
      | list items => exact .inl rfl
      | mapping entries => exact .inl rfl
      | scalar h => exact .inr ⟨_, rfl⟩
  have hlist (h : f = .wrongKind ∨ f = .notText) :
      f = .wrongKind ∨ f = .notText ∨ (∃ size, f = .ofSize size) ∨ ∃ fault, fault.Hides ∧ f = .file fault := by
    rcases h with h | h
    · exact .inl h
    · exact .inr (.inl h)
  rcases h with ⟨-, -, -, -, h⟩ | ⟨-, h⟩
  · rcases h with ⟨-, -, herror, hread⟩ | ⟨-, -, -, -⟩
    · rcases TypeReader.read_of_cannotRead hread with ⟨size, hsize⟩ | ⟨fault, hhides, hfault⟩
      · rw [herror] at hsize
        exact .inr (.inr (.inl ⟨size, Except.error.inj hsize⟩))
      · rw [herror] at hfault
        exact .inr (.inr (.inr ⟨fault, hhides, Except.error.inj hfault⟩))
    · exact .inr (.inr (.inl ⟨_, rfl⟩))
  · rcases h with h | ⟨-, h⟩ | ⟨-, -, -, h⟩ | ⟨-, -, -, -, h⟩
    · exact hlist (hfields h)
    · exact hlist (hfields h)
    · exact hlist (hfields h)
    · rcases htraits h with h | h
      · exact .inl h
      · exact .inr (.inr (.inl h))

/-- Whatever a document holds, it is a record or turned down exactly if it has none of the faults: values that cannot
be gone through where a list is expected, sizes out of bounds, and classes that cannot be looked for.  The failure of
any other document is the one of its fault. -/
theorem definitions_are_reported_iff (config : Config) (files : FileTree) (value : Value) :
    (IsReported (ofValue config files value) ↔ ∀ f, ¬ Fault config files value f) ∧
      (∀ f, (ofValue config files value = .error f ∧ ∀ rejection, f ≠ .rejected rejection) ↔
        Fault config files value f) ∧
        ∀ f, Fault config files value f →
          f = .wrongKind ∨ f = .notText ∨ (∃ size, f = .ofSize size) ∨ ∃ fault, fault.Hides ∧ f = .file fault := by
  refine ⟨?_, fun f => breaks_ofValue_iff, fun f h => h.cases⟩
  rw [isReported_iff]
  simp only [breaks_ofValue_iff]

/-- A user without properties, with something to look it up by. -/
def lookedUpUser (getBy : Value) : Value :=
  .mapping [(.text "entity", .text "User"), (.text "namespace", .text "App\\Model"), (.text "get_by", getBy)]

/-- A number is not turned down as a list of fields, and neither is a list with a number in it. -/
theorem user_looked_up_by_number :
    ofValue {} (.empty []) (lookedUpUser (.int 5)) = .error .wrongKind ∧
      ofValue {} (.empty []) (lookedUpUser (.list [.int 1])) = .error .notText ∧
        ¬ IsReported (ofValue {} (.empty []) (lookedUpUser (.int 5))) := by
  have hnumber : ofValue {} (.empty []) (lookedUpUser (.int 5)) = .error .wrongKind := rfl
  refine ⟨hnumber, rfl, ?_⟩
  rw [hnumber]
  rintro (⟨r, h⟩ | ⟨rejection, h⟩)
  · cases h
  · cases h

end EntityScaffold.Definition
