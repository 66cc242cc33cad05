import DomainCompiler.Check.Finding
import DomainCompiler.Declared.Basic
import DomainCompiler.Model.Entity

/-!
# The rules of descriptions

Each rule looks at a whole description and lists its findings in the order of the description.
-/

namespace DomainCompiler.Check

open DomainCompiler.Declared
open DomainCompiler.Naming
open DomainCompiler.Model (TypeRef)

/-- The names that occur again, each once, in the order of their second occurrences. -/
def duplicatesFrom (seen found : List String) : List String → List String
  | [] => found
  | name :: rest =>
    duplicatesFrom (name :: seen)
      (if seen.contains name && !found.contains name then found ++ [name] else found) rest

def duplicates (names : List String) : List String := duplicatesFrom [] [] names

def numbered {α : Type} : Nat → List α → List (Nat × α)
  | _, [] => []
  | n, x :: rest => (n, x) :: numbered (n + 1) rest

def entityNames (a : Aggregate) : List String :=
  NameSet.ofList (a.entities.map fun e => pascal e.name)

def uniqueAggregateNames (d : Document) : List Finding :=
  (duplicates (d.aggregates.map fun a => pascal a.name)).map .duplicateAggregate

/-- Every aggregate has exactly one root. -/
def singleRoot (d : Document) : List Finding :=
  d.aggregates.flatMap fun a =>
    match (a.entities.filter (·.isRoot)).map (·.name) with
    | [] => [.missingRoot a.name]
    | [_] => []
    | roots => [.manyRoots a.name roots]

def uniqueEntityNames (d : Document) : List Finding :=
  d.aggregates.flatMap fun a =>
    (duplicates (a.entities.map fun e => pascal e.name)).map (.duplicateEntity a.name)

/-- The names of the fields that the audit settings of an entity add. -/
def auditFieldNames (e : Entity) : List String :=
  (Model.Audit.addedFields e.auditEnabled e.tracksUser).map (·.1)

/-- The fields of an owner have different names, those that audit settings add included. -/
def uniqueFieldNames (d : Document) : List Finding :=
  d.aggregates.flatMap fun a =>
    (a.fieldOwners.flatMap fun o =>
      (duplicates (o.2.map fun f => camel f.name)).map (.duplicateField a.name o.1)) ++
    a.entities.flatMap fun e =>
      ((auditFieldNames e).filter ((e.fields.map fun f => camel f.name).contains ·)).map
        (.auditFieldDeclared a.name e.name)

/-- Users are recorded only with the times, and the older audit flag is told about. -/
def auditSettings (d : Document) : List Finding :=
  d.aggregates.flatMap fun a =>
    a.entities.flatMap fun e =>
      (if e.tracksUser && !e.auditEnabled then [.trackUserWithoutAudit a.name e.name] else []) ++
        if e.auditable == some true then [.deprecatedAuditable a.name e.name] else []

def statesOf (t : Transition) : List String := t.sources ++ [t.target]

/-- Initial values and transitions name values of their enum. -/
def enumStates (d : Document) : List Finding :=
  d.aggregates.flatMap fun a =>
    a.enums.flatMap fun e =>
      (match e.initialValue with
        | some v =>
          if e.values.contains v then [] else [.initialValueUndefined a.name e.name v e.values]
        | none => []) ++
      (numbered 0 (e.transitions.getD [])).flatMap fun (index, t) =>
        ((statesOf t).filter fun s => !e.values.contains s).map
          (.stateUndefined a.name e.name index · e.values)

/-- The values of an enum are different, also where a field declares them. -/
def uniqueEnumValues (d : Document) : List Finding :=
  d.aggregates.flatMap fun a =>
    (a.enums.flatMap fun e =>
      (duplicates e.values).map
        (.duplicateEnumValue e.name · ("aggregates." ++ a.name ++ ".enums." ++ e.name))) ++
    a.fieldOwners.flatMap fun o =>
      o.2.flatMap fun f =>
        (duplicates (f.enumValues.getD [])).map
          (.duplicateEnumValue (pascal f.type) ·
            ("aggregates." ++ a.name ++ "." ++ o.1 ++ ".fields." ++ f.name ++ ".enumValues"))

/-- Relationships name a target, which is an entity of their aggregate. -/
def relationshipTargets (d : Document) : List Finding :=
  d.aggregates.flatMap fun a =>
    a.entities.flatMap fun e =>
      (numbered 0 e.relationships).flatMap fun (index, r) =>
        match Model.Relationship.target? r with
        | none => [.missingTarget a.name e.name index]
        | some target =>
          if (entityNames a).contains (pascal target) then []
          else [.unknownTarget a.name e.name index r.kind.name target (entityNames a)]

/-- A back-reference makes an inverse side only for the kinds that have one. -/
def backReferences (d : Document) : List Finding :=
  d.aggregates.flatMap fun a =>
    a.entities.flatMap fun e =>
      (numbered 0 e.relationships).flatMap fun (index, r) =>
        if (Model.Relationship.backReference? r).isSome &&
            [RelationshipKind.manyToMany, .manyToOne].contains r.kind then
          [.backReferenceIgnored a.name e.name index r.kind.name]
        else []

def referencedName? (f : Field) : Option String :=
  (TypeRef.resolve f.type f.enumValues).declaredName?

/-- Value objects hold no entities of their aggregate. -/
def valueObjectReferences (d : Document) : List Finding :=
  d.aggregates.flatMap fun a =>
    a.valueObjects.flatMap fun v =>
      v.fields.flatMap fun f =>
        match referencedName? f with
        | some name =>
          if (entityNames a).contains name then [.valueObjectHoldsEntity a.name v.name f.name name]
          else []
        | none => []

/-- The names that the types of fields may rest on. -/
def knownNames (d : Document) : List String :=
  Model.Imports.typeImports.map (·.1) ++
    d.aggregates.flatMap fun a =>
      a.entities.map (fun e => pascal e.name) ++ a.valueObjects.map (fun v => pascal v.name) ++
        a.enums.map (fun e => pascal e.name) ++
        a.fieldOwners.flatMap fun o =>
          (o.2.filter (·.enumValues.isSome)).map fun f => pascal f.type

/-- The types of fields rest on names that the description declares. -/
def typeReferences (d : Document) : List Finding :=
  let known := knownNames d
  d.aggregates.flatMap fun a =>
    a.fieldOwners.flatMap fun o =>
      o.2.flatMap fun f =>
        match referencedName? f with
        | some name =>
          if known.contains name then [] else [.unresolvedType a.name o.1 f.name f.type name]
        | none => []

/-- The rules by name. -/
inductive Rule where
  | uniqueAggregateName
  | rootEntity
  | uniqueEntityName
  | uniqueFieldName
  | auditConfig
  | enumState
  | uniqueEnumValue
  | relationshipTarget
  | mappedBy
  | valueObjectReference
  | typeReference
  deriving DecidableEq, Repr

namespace Rule

def all : List Rule :=
  [.uniqueAggregateName, .rootEntity, .uniqueEntityName, .uniqueFieldName, .auditConfig, .enumState,
    .uniqueEnumValue, .relationshipTarget, .mappedBy, .valueObjectReference, .typeReference]

def findings : Rule → Document → List Finding
  | .uniqueAggregateName => uniqueAggregateNames
  | .rootEntity => singleRoot
  | .uniqueEntityName => uniqueEntityNames
  | .uniqueFieldName => uniqueFieldNames
  | .auditConfig => auditSettings
  | .enumState => enumStates
  | .uniqueEnumValue => uniqueEnumValues
  | .relationshipTarget => relationshipTargets
  | .mappedBy => backReferences
  | .valueObjectReference => valueObjectReferences
  | .typeReference => typeReferences

def issues (rules : List Rule) (d : Document) : Findings :=
  rules.flatMap fun r => (r.findings d).map Finding.issue

end Rule

def examine (d : Document) : Findings := Rule.issues Rule.all d

/-- The findings of a description that can be compiled; warnings are enough to fail when strict. -/
def accept (strict : Bool) (d : Document) : Except Failure Findings :=
  let found := examine d
  if !found.isValid || (strict && !found.warnings.isEmpty) then .error { findings := found }
  else .ok found

end DomainCompiler.Check
