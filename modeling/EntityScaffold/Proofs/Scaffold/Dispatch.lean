import EntityScaffold.Proofs.Record.Assembly
import EntityScaffold.Proofs.Scaffold.References
/-!
# Which events a facade dispatches

An event is known by the stem of its class name without regard to case (`eventKey`), and the first spelling of it
names its class.  A facade looks for the three events of the lifecycle by the texts of `lifecycle`, so it finds an
event of the same key only if it is spelled in the same way.

`facade_dispatches_iff` says that this is the one thing that can go wrong: a method dispatches what it should exactly
where the selected events with the key of its event are spelled like it.  Everything else follows: the event is
dispatched once, its class has a unit of its own, and the facade imports it.
-/

namespace EntityScaffold

namespace Source

/-! ## Calls of one method -/

namespace Expr

mutual

/-- The arguments of each call of a method in an expression. -/
def argumentsTo (method : String) : Expr → List (List Expr)
  | .member object _ => object.argumentsTo method
  | .item array _ => array.argumentsTo method
  | .call object name args =>
    (if name = method then [args] else []) ++ (object.argumentsTo method ++ argumentsToIn method args)
  | .create _ args => argumentsToIn method args
  | .orElse value _ => value.argumentsTo method
  | .var _ | .staticCall .. | .classOf _ | .text _ => []

/-- The arguments of each call of a method in the arguments of another call. -/
def argumentsToIn (method : String) : List Expr → List (List Expr)
  | [] => []
  | e :: rest => e.argumentsTo method ++ argumentsToIn method rest

end

end Expr

/-- The arguments of each call of a method in a statement. -/
def Statement.argumentsTo (method : String) : Statement → List (List Expr)
  | .assign target value => target.argumentsTo method ++ value.argumentsTo method
  | .run e | .give e => e.argumentsTo method
  | .find .. | .throwIfNull .. | .note .. | .blank | .line _ => []

/-- What is dispatched in some statements. -/
def dispatchedIn (body : List Statement) : List (List Expr) := body.flatMap (·.argumentsTo "dispatch")

lemma dispatchedIn_append (body rest : List Statement) :
    dispatchedIn (body ++ rest) = dispatchedIn body ++ dispatchedIn rest :=
  List.flatMap_append

end Source

namespace Scaffold

open Source Artifact

attribute [local irreducible] ClassName.qualify

variable {config : Config} {r : Record} {m : Method} {event other : String}

/-! ## Bodies of the facade -/

/-- What a facade dispatches for an event. -/
def dispatchOf (r : Record) (event : String) : List (List Expr) :=
  if event ∈ r.events then [[.create (r.className (.event event)) [Facade.entityVar r]]] else []

lemma dispatchedIn_dispatch (r : Record) (event : String) :
    dispatchedIn (Facade.dispatch r event) = dispatchOf r event := by
  unfold Facade.dispatch dispatchOf
  by_cases hevent : event ∈ r.events
  · rw [if_pos (List.contains_iff_mem.2 hevent), if_pos hevent]
    rfl
  · rw [if_neg (mt List.contains_iff_mem.1 hevent), if_neg hevent]
    rfl

lemma dispatchedIn_createBody (r : Record) : dispatchedIn (Facade.createBody r) = dispatchOf r "created" := by
  rw [Facade.createBody, dispatchedIn_append, dispatchedIn_append, dispatchedIn_dispatch]
  exact List.append_nil _

lemma dispatchedIn_editBody (r : Record) : dispatchedIn (Facade.editBody r) = dispatchOf r "updated" := by
  rw [Facade.editBody, dispatchedIn_append, dispatchedIn_append, dispatchedIn_dispatch]
  exact List.append_nil _

lemma dispatchedIn_deleteBody (r : Record) : dispatchedIn (Facade.deleteBody r) = dispatchOf r "deleted" := by
  rw [Facade.deleteBody, dispatchedIn_append, dispatchedIn_dispatch]
  rfl

/-! ## Methods of the facade -/

/-- The events of the lifecycle, each with the method in which it happens. -/
def handlers : List (String × String) := [("created", "create"), ("updated", "edit"), ("deleted", "delete")]

lemma map_fst_handlers : handlers.map (·.1) = lifecycle := rfl

lemma mem_methods_facade_iff : m ∈ Facade.methods config r ↔ m = Facade.constructor r ∨ m = Facade.create r ∨
    (r.features.edit = true ∧ m = Facade.edit config r) ∨
      (r.features.delete = true ∧ m = Facade.delete config r) := by
  have hite {c : Bool} {n : Method} : (m ∈ if c = true then [n] else []) ↔ c = true ∧ m = n := by
    cases c <;> simp
  simp only [Facade.methods, List.mem_append, List.mem_pair, hite, or_assoc]

/-- Every method that handles an event dispatches it if it is selected as it is spelled in the lifecycle. -/
lemma dispatchedIn_body (hm : m ∈ Facade.methods config r) {handler : String × String}
    (hhandler : handler ∈ handlers) (hname : m.name = handler.2) :
    dispatchedIn m.body = dispatchOf r handler.1 := by
  simp only [handlers, List.mem_cons, List.not_mem_nil, or_false] at hhandler
  rcases mem_methods_facade_iff.1 hm with rfl | rfl | ⟨-, rfl⟩ | ⟨-, rfl⟩
  · rcases hhandler with rfl | rfl | rfl <;> exact absurd hname (by simp [Facade.constructor])
  · rcases hhandler with rfl | rfl | rfl
    · exact dispatchedIn_createBody r
    all_goals exact absurd hname (by simp [Facade.create])
  · rcases hhandler with rfl | rfl | rfl
    · exact absurd hname (by simp [Facade.edit])
    · exact dispatchedIn_editBody r
    · exact absurd hname (by simp [Facade.edit])
  · rcases hhandler with rfl | rfl | rfl
    · exact absurd hname (by simp [Facade.delete])
    · exact absurd hname (by simp [Facade.delete])
    · exact dispatchedIn_deleteBody r

/-- The facade can create, and edit and delete where that is wanted. -/
lemma mem_methodNames_facade (config : Config) (r : Record) :
    "create" ∈ (Facade.unit config r).declaration.methodNames ∧
      ("edit" ∈ (Facade.unit config r).declaration.methodNames ↔ r.features.edit = true) ∧
        ("delete" ∈ (Facade.unit config r).declaration.methodNames ↔ r.features.delete = true) := by
  have hnames (name : String) : name ∈ (Facade.unit config r).declaration.methodNames ↔
      name = "__construct" ∨ name = "create" ∨ (r.features.edit = true ∧ name = "edit") ∨
        (r.features.delete = true ∧ name = "delete") := by
    show name ∈ (Facade.methods config r).map (·.name) ↔ _
    rw [List.mem_map]
    constructor
    · rintro ⟨m, hm, rfl⟩
      rcases mem_methods_facade_iff.1 hm with rfl | rfl | ⟨hedit, rfl⟩ | ⟨hdelete, rfl⟩
      · exact .inl rfl
      · exact .inr (.inl rfl)
      · exact .inr (.inr (.inl ⟨hedit, rfl⟩))
      · exact .inr (.inr (.inr ⟨hdelete, rfl⟩))
    · rintro (rfl | rfl | ⟨hedit, rfl⟩ | ⟨hdelete, rfl⟩)
      · exact ⟨_, mem_methods_facade_iff.2 (.inl rfl), rfl⟩
      · exact ⟨_, mem_methods_facade_iff.2 (.inr (.inl rfl)), rfl⟩
      · exact ⟨_, mem_methods_facade_iff.2 (.inr (.inr (.inl ⟨hedit, rfl⟩))), rfl⟩
      · exact ⟨_, mem_methods_facade_iff.2 (.inr (.inr (.inr ⟨hdelete, rfl⟩))), rfl⟩
  simp [hnames]

/-! ## Events by their keys -/

/-- Events of a record that have one key are the same. -/
lemma eq_of_eventKey (h : r.validate = .ok ()) (hevent : event ∈ r.events) (hother : other ∈ r.events)
    (hkey : eventKey other = eventKey event) : other = event := by
  obtain ⟨hstems, hnodup⟩ := Record.stems_of_validate h
  have hok : eventKey event = .ok (Text.lower (Naming.pascal event)) := eventKey_eq_ok_iff.2 ⟨hstems event hevent, rfl⟩
  obtain ⟨-, hlower⟩ := eventKey_eq_ok_iff.1 (hkey.trans hok)
  exact List.inj_on_of_nodup_map hnodup hother hevent hlower

/-- A method dispatches an event of the lifecycle as it is selected.  If a selected event has its key, there is one
dispatch, of a new object of the class that is generated for the selected event, and the facade imports this class.
Otherwise there is none. -/
structure DispatchesSelected (r : Record) (us : List (Artifact × SourceUnit)) (facade : SourceUnit) (event : String)
    (m : Method) : Prop where
  selected : ∀ other ∈ r.events, eventKey other = eventKey event →
    ∃ v, (.event other, v) ∈ us ∧ v.qualifiedName ∈ facade.uses ∧
      ∃ args, dispatchedIn m.body = [[.create v.declaration.name args]]
  unselected : (∀ other ∈ r.events, eventKey other ≠ eventKey event) → dispatchedIn m.body = []

/-- The class of an event of the lifecycle that is selected is imported by the facade. -/
lemma qualifiedName_event_mem_uses (hlifecycle : event ∈ lifecycle) (hevent : event ∈ r.events) :
    r.qualifiedName (.event event) ∈ (Facade.unit config r).uses := by
  have hdispatched : event ∈ Facade.dispatched r := List.mem_filter.2 ⟨hlifecycle, List.contains_iff_mem.2 hevent⟩
  refine mem_importsOf_iff.2 ⟨?_, Record.qualifiedName_ne_empty (by simp [Artifact.place])⟩
  exact List.mem_append_right _ (List.mem_map_of_mem hdispatched)

/-- The methods of a facade dispatch the selected events of the lifecycle exactly where these are spelled as there; only
where a number cannot be shown there is no facade. -/
theorem facade_dispatches_iff (config : Config) (draft : Draft) (r : Record) (hr : draft.assemble config = .ok r) :
    HasUnits config r fun us => ∃ facade, (.facade, facade) ∈ us ∧
      ("create" ∈ facade.declaration.methodNames ∧
        ("edit" ∈ facade.declaration.methodNames ↔ r.features.edit = true) ∧
          ("delete" ∈ facade.declaration.methodNames ↔ r.features.delete = true)) ∧
        ∀ handler ∈ handlers, ∀ m ∈ facade.declaration.methods, m.name = handler.2 →
          (DispatchesSelected r us facade handler.1 m ↔
            ∀ other ∈ r.events, eventKey other = eventKey handler.1 → other = handler.1) := by
  have hvalid := Draft.validate_of_assemble hr
  have hconsistent := Record.isConsistent_of_validate hvalid
  have hmem {a : Artifact} (ha : a ∈ artifacts r) :
      (a, unitAt config r a) ∈ (artifacts r).map fun a => (a, unitAt config r a) := List.mem_map_of_mem ha
  refine hasUnits hvalid config ⟨Facade.unit config r, hmem (mem_artifacts_of_isFixed rfl),
    mem_methodNames_facade config r, ?_⟩
  intro handler hhandler m hm hname
  have hbody := dispatchedIn_body hm hhandler hname
  constructor
  · intro h other hother hkey
    obtain ⟨v, -, -, args, hdispatched⟩ := h.selected other hother hkey
    have hevent : handler.1 ∈ r.events := by
      by_contra hmissing
      rw [hbody, dispatchOf, if_neg hmissing] at hdispatched
      cases hdispatched
    exact eq_of_eventKey hvalid hevent hother hkey
  · intro hspelled
    refine ⟨fun other hother hkey => ?_, fun hnone => ?_⟩
    · obtain rfl := hspelled other hother hkey
      have hlifecycle : handler.1 ∈ lifecycle := map_fst_handlers ▸ List.mem_map_of_mem hhandler
      refine ⟨_, hmem (event_mem_artifacts hother), ?_, [Facade.entityVar r], ?_⟩
      · rw [qualifiedName_unitAt hconsistent]
        exact qualifiedName_event_mem_uses hlifecycle hother
      · rw [name_unitAt hconsistent, hbody, dispatchOf, if_pos hother]
    · have hmissing : handler.1 ∉ r.events := fun hevent => hnone _ hevent rfl
      rw [hbody, dispatchOf, if_neg hmissing]

/-- A letter with two events, one of them spelled with a capital. -/
def letter : Draft where
  space := "App\\Model"
  entityName := "Letter"
  properties :=
    [{ name := "title", expression := "string", kind := .scalar "string" none, storage := some "string"
       nullable := false, modifiers := {} }]
  events := .list [.text "created", .text "Updated"]

/-- The record of a letter. -/
def letterRecord : Record where
  space := "App\\Model"
  entityName := "Letter"
  properties := letter.properties
  events := ["created", "Updated"]
  traits := [("Timestampable", "Gedmo\\Timestampable\\Traits\\TimestampableEntity")]

theorem letter_dispatches_created_only : letter.assemble {} = .ok letterRecord ∧
    ∃ us facade, units {} letterRecord = .ok us ∧ (.facade, facade) ∈ us ∧
      ∀ m ∈ facade.declaration.methods,
        (m.name = "create" → DispatchesSelected letterRecord us facade "created" m) ∧
          (m.name = "edit" → ¬ DispatchesSelected letterRecord us facade "updated" m) := by
  have hassembled : letter.assemble {} = .ok letterRecord := by decide +kernel
  have hcreated : ∀ other ∈ letterRecord.events, eventKey other = eventKey "created" → other = "created" := by
    decide +kernel
  have hupdated : ¬ ∀ other ∈ letterRecord.events, eventKey other = eventKey "updated" → other = "updated" := by
    decide +kernel
  obtain ⟨us, hunits, -, facade, hfacade, -, hmethods⟩ :=
    (facade_dispatches_iff {} letter letterRecord hassembled).exists_units (by decide)
  refine ⟨hassembled, us, facade, hunits, hfacade, fun m hm => ⟨fun hname => ?_, fun hname => ?_⟩⟩
  · exact (hmethods ("created", "create") (by decide) m hm hname).2 hcreated
  · exact mt (hmethods ("updated", "edit") (by decide) m hm hname).1 hupdated

/-- The event with the capital is selected, and the method in which it happens dispatches nothing. -/
theorem letter_is_edited_silently : letter.assemble {} = .ok letterRecord ∧
    ∃ us facade, units {} letterRecord = .ok us ∧ (.facade, facade) ∈ us ∧
      (∃ event ∈ letterRecord.events, eventKey event = eventKey "updated") ∧
        ∃ m ∈ facade.declaration.methods, m.name = "edit" ∧ dispatchedIn m.body = [] := by
  have hassembled : letter.assemble {} = .ok letterRecord := by decide +kernel
  have hvalid := Draft.validate_of_assemble hassembled
  have hfacade : Artifact.facade ∈ artifacts letterRecord := mem_artifacts_of_isFixed rfl
  have hedit : Facade.edit {} letterRecord ∈ Facade.methods {} letterRecord :=
    mem_methods_facade_iff.2 (.inr (.inr (.inl ⟨rfl, rfl⟩)))
  have hhandler : ("updated", "edit") ∈ handlers := by decide
  refine ⟨hassembled, _, _, units_eq hvalid (by decide) {}, List.mem_map_of_mem hfacade,
    ⟨"Updated", by decide, by decide +kernel⟩, Facade.edit {} letterRecord, hedit, rfl, ?_⟩
  rw [dispatchedIn_body hedit hhandler rfl, dispatchOf, if_neg (by decide)]

end Scaffold

end EntityScaffold
