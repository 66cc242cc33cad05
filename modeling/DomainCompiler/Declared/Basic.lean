import DomainCompiler.Value.Basic

/-!
# Declarations

A description as it was written, once its form is known to be right: aggregates with their
entities, value objects and enums. Names are kept in the spelling of the description.
-/

namespace DomainCompiler

/-- How many of its target a relationship joins to its owner. -/
inductive RelationshipKind where
  | oneToMany
  | manyToOne
  | oneToOne
  | manyToMany
  deriving DecidableEq, Repr

namespace RelationshipKind

def name : RelationshipKind → String
  | .oneToMany => "OneToMany"
  | .manyToOne => "ManyToOne"
  | .oneToOne => "OneToOne"
  | .manyToMany => "ManyToMany"

def all : List RelationshipKind := [.oneToMany, .manyToOne, .oneToOne, .manyToMany]

/-- Whether the owner holds many targets. -/
def isToMany : RelationshipKind → Bool
  | .oneToMany => true
  | .manyToMany => true
  | .manyToOne => false
  | .oneToOne => false

/-- The kind of the other side that a back-reference implies, where one is implied. -/
def inverse? : RelationshipKind → Option RelationshipKind
  | .oneToMany => some .manyToOne
  | .oneToOne => some .oneToOne
  | .manyToOne => none
  | .manyToMany => none

end RelationshipKind

/-- When the target of a relationship is fetched. -/
inductive FetchMode where
  | lazy
  | eager
  deriving DecidableEq, Repr

namespace FetchMode

def name : FetchMode → String
  | .lazy => "LAZY"
  | .eager => "EAGER"

def all : List FetchMode := [.lazy, .eager]

end FetchMode

/-- A bound of a constraint. -/
inductive Bound where
  | int (n : Int)
  | float (x : Binary64)
  | text (s : String)
  deriving DecidableEq, Repr

namespace Declared

/-- A constraint on the values of a field: the name of its annotation and the attributes. -/
structure Constraint where
  kind : String
  message : Option String
  value : Option Bound
  min : Option Bound
  max : Option Bound
  regexp : Option String
  integer : Option Int
  fraction : Option Int
  inclusive : Option Bool
  deriving DecidableEq, Repr

structure Field where
  name : String
  type : String
  /-- The values of the enum that the field declares itself. -/
  enumValues : Option (List String) := none
  isValueObject : Bool := false
  isEmbedded : Bool := false
  readOnly : Bool := false
  hidden : Bool := false
  constraints : List Constraint := []
  annotations : List String := []
  description : Option String := none
  deriving DecidableEq, Repr

/-- From any of the source states to the target state. -/
structure Transition where
  sources : List String
  target : String
  deriving DecidableEq, Repr

structure EnumType where
  name : String
  values : List String
  transitions : Option (List Transition)
  initialValue : Option String
  description : Option String
  deriving DecidableEq, Repr

/-- The audit block of an entity; `enabled` is absent where the block does not say it. -/
structure Audit where
  enabled : Option Bool
  trackUser : Bool
  deriving DecidableEq, Repr

structure Relationship where
  kind : RelationshipKind
  target : Option String
  /-- The field of the target that refers back. -/
  mappedBy : Option String
  joinColumn : Option String
  cascade : List String
  fetch : FetchMode
  description : Option String
  deriving DecidableEq, Repr

structure Entity where
  name : String
  isRoot : Bool
  tableName : Option String
  audit : Option Audit
  /-- The older way to ask for audit fields. -/
  auditable : Option Bool
  fields : List Field
  relationships : List Relationship
  description : Option String
  deriving DecidableEq, Repr

namespace Entity

/-- Whether audit fields are wanted: the audit block decides where it says so. -/
def auditEnabled (e : Entity) : Bool :=
  match e.audit with
  | some { enabled := some b, .. } => b
  | _ => e.auditable == some true

def tracksUser (e : Entity) : Bool :=
  match e.audit with
  | some a => a.trackUser
  | none => false

end Entity

/-- A method written by hand; its parameters are not looked into. -/
structure Method where
  name : String
  returnType : String
  parameters : List Value
  body : String
  deriving Repr

structure ValueObject where
  name : String
  fields : List Field
  methods : List Method
  /-- Rules that are passed on as they are. -/
  validation : List Value
  description : Option String
  deriving Repr

structure Aggregate where
  name : String
  package : Option String
  entities : List Entity
  valueObjects : List ValueObject
  enums : List EnumType
  description : Option String
  deriving Repr

structure Document where
  aggregates : List Aggregate
  deriving Repr

namespace Aggregate

/-- The names and fields of the entities, then those of the value objects. -/
def fieldOwners (a : Aggregate) : List (String × List Field) :=
  a.entities.map (fun e => (e.name, e.fields)) ++ a.valueObjects.map fun v => (v.name, v.fields)

end Aggregate

end Declared

end DomainCompiler
