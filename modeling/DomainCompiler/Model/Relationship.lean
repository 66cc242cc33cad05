import DomainCompiler.Issue.Basic
import DomainCompiler.Declared.Basic
import DomainCompiler.Naming.Inflection
import DomainCompiler.Naming.Spelling

/-!
# Resolved relationships and their inverse sides

A relationship that names the field of its target which refers back implies the other side. The
inverse sides are collected over all entities of an aggregate before any entity is resolved, so
that the order of the entities does not matter, and each is dropped where the target declares a
relationship of that field name itself.
-/

namespace DomainCompiler.Model

open DomainCompiler.Naming

structure Relationship where
  kind : RelationshipKind
  /-- The class name of the target. -/
  target : String
  fieldName : String
  resolvedType : String
  persistenceType : String
  mappedBy : Option String
  joinColumn : Option String
  cascade : List String
  fetch : FetchMode
  /-- Implied by a relationship of the target. -/
  isInverse : Bool
  isCollection : Bool
  deriving DecidableEq, Repr

/-- Why a declaration cannot be resolved. -/
inductive ResolveError where
  | missingRoot (aggregate : String)
  | manyRoots (aggregate : String) (roots : List String)
  | missingTarget (owner : String)
  | trackUserWithoutAudit (entity : String)
  deriving DecidableEq, Repr

namespace ResolveError

def code : ResolveError → String
  | .missingRoot _ => "E001"
  | .manyRoots .. => "E002"
  | .missingTarget _ => "E003"
  | .trackUserWithoutAudit _ => "E004"

def message : ResolveError → String
  | .missingRoot aggregate =>
    "Aggregate '" ++ aggregate ++ "' must have one entity with isRoot: true"
  | .manyRoots aggregate roots =>
    "Aggregate '" ++ aggregate ++ "' has " ++ Decimal.ofInt roots.length ++ " root entities (" ++
      ", ".intercalate roots ++ "); exactly one is allowed"
  | .missingTarget owner =>
    "Relationship in entity '" ++ owner ++ "' is missing 'target' or 'targetEntity' field"
  | .trackUserWithoutAudit entity =>
    "Entity '" ++ entity ++ "': audit.trackUser requires audit.enabled to be true"

def path : ResolveError → String
  | .missingRoot aggregate => "aggregates." ++ aggregate ++ ".entities"
  | .manyRoots aggregate _ => "aggregates." ++ aggregate ++ ".entities"
  | .missingTarget owner => "entities." ++ owner ++ ".relationships"
  | .trackUserWithoutAudit entity => "entities." ++ entity ++ ".audit"

def suggestion : ResolveError → String
  | .missingRoot _ => "Mark the aggregate root entity with 'isRoot: true'"
  | .manyRoots .. => "Keep 'isRoot: true' on a single entity"
  | .missingTarget _ => "Name the target entity with 'target: <EntityName>'"
  | .trackUserWithoutAudit _ => "Set 'audit.enabled: true' or remove 'trackUser'"

def issue (e : ResolveError) : Issue :=
  .error e.code e.message e.path (some e.suggestion)

def isConfiguration : ResolveError → Bool
  | .missingTarget _ => true
  | _ => false

def failure (e : ResolveError) : Failure :=
  { findings := [e.issue], configuration := e.isConfiguration }

end ResolveError

namespace Relationship

def fieldType (kind : RelationshipKind) (element : String) : String :=
  if kind.isToMany then "List<" ++ element ++ ">" else element

/-- The column that a back-reference is joined by when none is named. -/
def defaultJoinColumn (mappedBy : String) : String :=
  mappedBy ++ "_id"

def backReference? (d : Declared.Relationship) : Option String :=
  d.mappedBy.filter (!·.isEmpty)

def target? (d : Declared.Relationship) : Option String :=
  d.target.filter (!·.isEmpty)

/-- The resolved relationship to a declared target. -/
def toTarget (suffix : String) (d : Declared.Relationship) (declared : String) : Relationship :=
  let target := pascal declared
  { kind := d.kind
    target
    fieldName := camel (if d.kind.isToMany then plural declared else declared)
    resolvedType := fieldType d.kind target
    persistenceType := fieldType d.kind (target ++ suffix)
    mappedBy := d.mappedBy
    joinColumn := d.joinColumn <|> (backReference? d).map defaultJoinColumn
    cascade := d.cascade
    fetch := d.fetch
    isInverse := false
    isCollection := d.kind.isToMany }

/-- Resolves a relationship of the entity `owner`. -/
def resolve (owner suffix : String) (d : Declared.Relationship) :
    Except ResolveError Relationship :=
  match target? d with
  | none => .error (.missingTarget owner)
  | some declared => .ok (toTarget suffix d declared)

/-- The inverse side that a relationship of the class `owner` implies, with the class it is on. -/
def inverse? (owner suffix : String) (d : Declared.Relationship) : Option (String × Relationship) :=
  match backReference? d, target? d, d.kind.inverse? with
  | some mappedBy, some target, some kind =>
    some (pascal target,
      { kind
        target := owner
        fieldName := mappedBy
        resolvedType := fieldType kind owner
        persistenceType := fieldType kind (owner ++ suffix)
        mappedBy := none
        joinColumn := some ((d.joinColumn.filter (!·.isEmpty)).getD (defaultJoinColumn mappedBy))
        cascade := []
        fetch := d.fetch
        isInverse := true
        isCollection := false })
  | _, _, _ => none

/-- The inverse sides that the entities imply, each with the class it is on, in order. -/
def allInverse (suffix : String) (entities : List Declared.Entity) : List (String × Relationship) :=
  entities.flatMap fun e => e.relationships.filterMap (inverse? (pascal e.name) suffix)

/-- The inverse sides gathered by class, in the order in which the classes are first met. -/
def gathered (inverse : List (String × Relationship)) : List (String × List Relationship) :=
  let names := inverse.foldl (fun ns e => if ns.contains e.1 then ns else ns ++ [e.1]) []
  names.map fun name => (name, (inverse.filter fun e => e.1 == name).map (·.2))

def inverseOf (name : String) (inverse : List (String × Relationship)) : List Relationship :=
  (inverse.filter fun e => e.1 == name).map (·.2)

/-- The declared relationships, then the inverse ones whose field name none of them has. -/
def merge (declared inverse : List Relationship) : List Relationship :=
  declared ++ inverse.filter fun r => !(declared.map (·.fieldName)).contains r.fieldName

end Relationship

end DomainCompiler.Model
