import EntityScaffold.Failure
import EntityScaffold.Naming.ClassName
import EntityScaffold.Text.Blank
import EntityScaffold.Text.Case
/-!
# Relations

How a property refers to another entity: the cardinality of the relation seen from the entity that declares
it, the target, whether the target knows of it, and what is cascaded.  Only one-to-one and many-to-one
relations have a foreign key, so only they can cascade deletes in the database; `Relation.build` drops the
wish for it from the others.
-/

namespace EntityScaffold

open Text

/-- Cardinality of a relation, seen from the entity that declares it. -/
inductive RelationKind where
  | oneToOne
  | manyToOne
  | oneToMany
  | manyToMany
  deriving DecidableEq, Repr, Inhabited

namespace RelationKind

/-- Whether this side holds the foreign key. -/
def isOwning : RelationKind → Bool
  | .oneToOne | .manyToOne => true
  | .oneToMany | .manyToMany => false

/-- Whether there may be several targets. -/
def isToMany (kind : RelationKind) : Bool := !kind.isOwning

/-- The name of a kind. -/
def name : RelationKind → String
  | .oneToOne => "one-to-one"
  | .manyToOne => "many-to-one"
  | .oneToMany => "one-to-many"
  | .manyToMany => "many-to-many"

/-- The name of the mapping annotation of a kind. -/
def mappingName : RelationKind → String
  | .oneToOne => "OneToOne"
  | .manyToOne => "ManyToOne"
  | .oneToMany => "OneToMany"
  | .manyToMany => "ManyToMany"

/-- The kinds by name. -/
def byName : List (String × RelationKind) :=
  [.oneToOne, .manyToOne, .oneToMany, .manyToMany].map fun kind => (kind.name, kind)

/-- The kinds by the tokens that stand for them in answers, in lower case. -/
def byToken : List (String × RelationKind) :=
  [("1:1", .oneToOne), ("m:1", .manyToOne), ("1:m", .oneToMany), ("n:m", .manyToMany)]

/-- The token of the kind that is meant when nothing is said. -/
def defaultToken : String := "M:1"

/-- The kind that a token stands for, in whatever case and with blanks around it. -/
def read (token : Option String) : Except Failure RelationKind :=
  match byToken.lookup (lower (trim (token.getD ""))) with
  | some kind => .ok kind
  | none => reject (.relationKind token)

end RelationKind

/-- Operations that are cascaded to the target. -/
inductive Cascade where
  | persist
  | remove
  | all
  deriving DecidableEq, Repr, Inhabited

namespace Cascade

/-- The name of a cascade. -/
def name : Cascade → String
  | .persist => "persist"
  | .remove => "remove"
  | .all => "all"

/-- The cascades by name. -/
def byName : List (String × Cascade) := [.persist, .remove, .all].map fun c => (c.name, c)

/-- The cascade that an answer stands for; any other answer means none. -/
def read (answer : Option String) : Option Cascade :=
  answer.bind fun s => byName.lookup (lower (trim s))

end Cascade

/-- A reference to another entity. -/
structure Relation where
  kind : RelationKind
  target : String
  bidirectional : Bool
  cascade : Option Cascade
  /-- Whether the database deletes this side together with the target. -/
  onDeleteCascade : Bool
  deriving DecidableEq, Repr, Inhabited

namespace Relation

/-- A relation as it was asked for, without a delete cascade that it cannot have. -/
def build (target : String) (kind : RelationKind) (bidirectional : Bool) (cascade : Option Cascade)
    (onDeleteCascade : Bool) : Relation :=
  ⟨kind, ClassName.bare target, bidirectional, cascade, onDeleteCascade && kind.isOwning⟩

/-- A delete cascade needs a foreign key. -/
theorem build_onDeleteCascade {target : String} {kind : RelationKind} {bidirectional : Bool}
    {cascade : Option Cascade} {onDeleteCascade : Bool} :
    (build target kind bidirectional cascade onDeleteCascade).onDeleteCascade =
      (onDeleteCascade && kind.isOwning) := rfl

end Relation

end EntityScaffold
