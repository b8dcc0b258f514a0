import EntityScaffold.Artifact.Vocabulary
/-!
# Event classes

One class for each event, which carries the entity it is about.
-/

namespace EntityScaffold.Artifact.Event

open Source Text

/-- The methods of an event. -/
def methods (r : Record) : List Method :=
  let entity := r.qualifiedName .entity
  [{ name := "__construct"
     parameters := [{ name := variableOf r, type := some entity, promoted := some .isPrivate }] },
    { name := "get" ++ capitalize (variableOf r), returnType := some entity
      body := [.give (.own (variableOf r))] }]

/-- The class of an event. -/
def unit (config : Config) (r : Record) (name : String) : SourceUnit :=
  let base := ClassName.bare config.eventBase
  { space := r.spaceOf (.event name)
    uses := [r.qualifiedName .entity, base]
    declaration :=
      { name := r.className (.event name), isFinal := true, parent := some base
        methods := methods r } }

/-- The class of the first event. -/
def first (config : Config) (r : Record) : Except Failure SourceUnit :=
  match r.events with
  | name :: _ => .ok (unit config r name)
  | [] => .error (.misused (.noEvents r.entityName))

end EntityScaffold.Artifact.Event
