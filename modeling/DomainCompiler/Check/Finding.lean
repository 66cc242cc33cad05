import DomainCompiler.Issue.Basic

/-!
# What the checks find

One constructor for each way in which a description can be wrong although its form is right, with
the names that are involved; and the issue by which each is reported.
-/

namespace DomainCompiler.Check

/-- A finding of a check on a description. -/
inductive Finding where
  | duplicateAggregate (name : String)
  | missingRoot (aggregate : String)
  | manyRoots (aggregate : String) (roots : List String)
  | duplicateEntity (aggregate name : String)
  | duplicateField (aggregate owner name : String)
  | auditFieldDeclared (aggregate entity name : String)
  | trackUserWithoutAudit (aggregate entity : String)
  | deprecatedAuditable (aggregate entity : String)
  | initialValueUndefined (aggregate enum value : String) (values : List String)
  | stateUndefined (aggregate enum : String) (transition : Nat) (state : String)
      (values : List String)
  /-- The last name is the path to the enum's values. -/
  | duplicateEnumValue (enum value path : String)
  | missingTarget (aggregate entity : String) (index : Nat)
  | unknownTarget (aggregate entity : String) (index : Nat) (kind target : String)
      (entities : List String)
  | backReferenceIgnored (aggregate entity : String) (index : Nat) (kind : String)
  | valueObjectHoldsEntity (aggregate valueObject field entity : String)
  | unresolvedType (aggregate owner field type name : String)
  deriving DecidableEq, Repr

namespace Finding

def code : Finding → String
  | .missingRoot _ => "E001"
  | .manyRoots .. => "E002"
  | .missingTarget .. => "E003"
  | .trackUserWithoutAudit .. => "E004"
  | .initialValueUndefined .. => "E005"
  | .stateUndefined .. => "E005"
  | .valueObjectHoldsEntity .. => "E006"
  | .duplicateAggregate _ => "E100"
  | .duplicateEntity .. => "E101"
  | .duplicateEnumValue .. => "E102"
  | .duplicateField .. => "E103"
  | .auditFieldDeclared .. => "E103"
  | .unresolvedType .. => "W001"
  | .unknownTarget .. => "W002"
  | .backReferenceIgnored .. => "W003"
  | .deprecatedAuditable .. => "W004"

/-- Whether the finding only warns. -/
def isWarning : Finding → Bool
  | .unresolvedType .. => true
  | .unknownTarget .. => true
  | .backReferenceIgnored .. => true
  | .deprecatedAuditable .. => true
  | _ => false

def message : Finding → String
  | .duplicateAggregate name => "Aggregate '" ++ name ++ "' is declared more than once"
  | .missingRoot aggregate =>
    "Aggregate '" ++ aggregate ++ "' must have one entity with isRoot: true"
  | .manyRoots aggregate roots =>
    "Aggregate '" ++ aggregate ++ "' has " ++ Decimal.ofInt roots.length ++ " root entities (" ++
      ", ".intercalate roots ++ "); exactly one is allowed"
  | .duplicateEntity aggregate name =>
    "Aggregate '" ++ aggregate ++ "' declares entity '" ++ name ++ "' more than once"
  | .duplicateField _ owner name =>
    "'" ++ owner ++ "' declares field '" ++ name ++ "' more than once"
  | .auditFieldDeclared _ entity name =>
    "'" ++ entity ++ "' declares field '" ++ name ++ "', which audit settings already add"
  | .trackUserWithoutAudit _ entity =>
    "Entity '" ++ entity ++ "': audit.trackUser requires audit.enabled to be true"
  | .deprecatedAuditable _ entity =>
    "Entity '" ++ entity ++ "': 'auditable: true' is deprecated. " ++
      "Use 'audit: \x7b enabled: true \x7d' instead."
  | .initialValueUndefined _ enum value _ =>
    "Enum '" ++ enum ++ "' initialValue '" ++ value ++ "' is not one of its values"
  | .stateUndefined _ enum _ state _ =>
    "Enum '" ++ enum ++ "' transition references undefined state '" ++ state ++ "'"
  | .duplicateEnumValue enum value _ =>
    "Enum '" ++ enum ++ "' declares value '" ++ value ++ "' more than once"
  | .missingTarget _ entity _ =>
    "Relationship in entity '" ++ entity ++ "' is missing 'target' or 'targetEntity' field"
  | .unknownTarget aggregate entity _ kind target _ =>
    "Relationship '" ++ kind ++ "' in entity '" ++ entity ++ "' targets '" ++ target ++
      "', which is not an entity of aggregate '" ++ aggregate ++ "'"
  | .backReferenceIgnored _ entity _ kind =>
    "'mappedBy' on " ++ kind ++ " relationship in entity '" ++ entity ++
      "' is ignored; no inverse side is generated"
  | .valueObjectHoldsEntity _ valueObject field entity =>
    "Value object '" ++ valueObject ++ "' field '" ++ field ++ "' references entity '" ++ entity ++
      "'"
  | .unresolvedType _ owner field type _ =>
    "Field '" ++ field ++ "' of '" ++ owner ++ "' has type '" ++ type ++
      "', which matches no scalar, entity, value object or enum"

def indexed (n : Nat) : String := "[" ++ Decimal.ofInt n ++ "]"

def entityPath (aggregate entity : String) : String :=
  "aggregates." ++ aggregate ++ ".entities." ++ entity

def path : Finding → String
  | .duplicateAggregate name => "aggregates." ++ name
  | .missingRoot aggregate => "aggregates." ++ aggregate ++ ".entities"
  | .manyRoots aggregate _ => "aggregates." ++ aggregate ++ ".entities"
  | .duplicateEntity aggregate name => entityPath aggregate name
  | .duplicateField aggregate owner name =>
    "aggregates." ++ aggregate ++ "." ++ owner ++ ".fields." ++ name
  | .auditFieldDeclared aggregate entity name =>
    "aggregates." ++ aggregate ++ "." ++ entity ++ ".fields." ++ name
  | .trackUserWithoutAudit aggregate entity => entityPath aggregate entity ++ ".audit"
  | .deprecatedAuditable aggregate entity => entityPath aggregate entity ++ ".auditable"
  | .initialValueUndefined aggregate enum _ _ =>
    "aggregates." ++ aggregate ++ ".enums." ++ enum ++ ".initialValue"
  | .stateUndefined aggregate enum transition _ _ =>
    "aggregates." ++ aggregate ++ ".enums." ++ enum ++ ".transitions" ++ indexed transition
  | .duplicateEnumValue _ _ path => path
  | .missingTarget aggregate entity index =>
    entityPath aggregate entity ++ ".relationships" ++ indexed index
  | .unknownTarget aggregate entity index _ _ _ =>
    entityPath aggregate entity ++ ".relationships" ++ indexed index ++ ".target"
  | .backReferenceIgnored aggregate entity index _ =>
    entityPath aggregate entity ++ ".relationships" ++ indexed index ++ ".mappedBy"
  | .valueObjectHoldsEntity aggregate valueObject field _ =>
    "aggregates." ++ aggregate ++ ".valueObjects." ++ valueObject ++ ".fields." ++ field
  | .unresolvedType aggregate owner field _ _ =>
    "aggregates." ++ aggregate ++ "." ++ owner ++ ".fields." ++ field ++ ".type"

def suggestion : Finding → String
  | .duplicateAggregate _ => "Each aggregate must have a unique name"
  | .missingRoot _ => "Mark the aggregate root entity with 'isRoot: true'"
  | .manyRoots .. => "Keep 'isRoot: true' on a single entity"
  | .duplicateEntity .. => "Each entity must have a unique name within its aggregate"
  | .duplicateField .. => "Rename or remove one of the fields"
  | .auditFieldDeclared .. => "Remove the field or disable audit"
  | .trackUserWithoutAudit .. => "Set 'audit.enabled: true' or remove 'trackUser'"
  | .deprecatedAuditable .. => "Replace with 'audit: \x7b enabled: true \x7d'"
  | .initialValueUndefined _ _ _ values => "Use one of: " ++ ", ".intercalate values
  | .stateUndefined _ _ _ _ values => "Use one of: " ++ ", ".intercalate values
  | .duplicateEnumValue .. => "Enum values must be unique"
  | .missingTarget .. => "Name the target entity with 'target: <EntityName>'"
  | .unknownTarget aggregate _ _ _ target _ =>
    "Declare '" ++ target ++ "' in aggregate '" ++ aggregate ++ "'"
  | .backReferenceIgnored .. => "Declare the other side explicitly"
  | .valueObjectHoldsEntity .. => "Value objects may only hold scalars, enums or value objects"
  | .unresolvedType _ _ _ _ name => "Declare '" ++ name ++ "' or fix the type name"

def context : Finding → List (String × Value)
  | .manyRoots _ roots => [("roots", Value.texts roots)]
  | .stateUndefined _ _ _ state _ => [("state", .text state)]
  | .unknownTarget _ _ _ _ _ entities => [("available_entities", Value.texts entities)]
  | .unresolvedType _ _ _ _ name => [("referenced_type", .text name)]
  | _ => []

/-- The issue by which the finding is reported. -/
def issue (f : Finding) : Issue :=
  { code := f.code
    message := f.message
    severity := if f.isWarning then .warning else .error
    location := some { path := f.path }
    suggestion := some f.suggestion
    context := f.context }

end Finding

end DomainCompiler.Check
