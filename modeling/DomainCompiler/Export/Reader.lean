import DomainCompiler.Export.Plain

/-!
# Models from plain data

Reads back what a model was written as. Attributes are found by their names, in whatever order they
stand; the shape of a type is told by its `kind`, and that of a statement by the set of its
attributes, which is all that a statement says of it.
-/

namespace DomainCompiler

namespace Value

/-- The value of an attribute of a record. -/
def attribute? (name : String) : Value → Option Value
  | .map entries => entry? name entries
  | _ => none

theorem sizeOf_entry?_lt {name : String} {entries : List (Value × Value)} {v : Value}
    (h : entry? name entries = some v) : sizeOf v < sizeOf entries := by
  induction entries with
  | nil => cases h
  | cons e rest ih =>
    obtain ⟨key, value⟩ := e
    have hrest : ∀ w, entry? name rest = some w → w = v →
        sizeOf v < sizeOf ((key, value) :: rest) := by
      rintro w hw rfl
      have hlt := ih hw
      simp only [List.cons.sizeOf_spec]
      omega
    have hfirst : sizeOf value < sizeOf ((key, value) :: rest) := by
      simp only [List.cons.sizeOf_spec, Prod.mk.sizeOf_spec]
      omega
    cases key with
    | text s =>
      rw [entry?_cons_text] at h
      split at h
      · cases h
        exact hfirst
      · exact hrest v h rfl
    | _ => exact hrest v h rfl

theorem sizeOf_attribute?_lt {name : String} {v w : Value} (h : v.attribute? name = some w) :
    sizeOf w < sizeOf v := by
  cases v with
  | map entries =>
    have hlt := sizeOf_entry?_lt h
    simp only [map.sizeOf_spec]
    omega
  | _ => cases h

/-- The names of the attributes of a record, as a set. -/
def attributeSet : Value → List String
  | .map entries => NameSet.ofList <| entries.filterMap fun e =>
      match e.1 with
      | .text s => some s
      | _ => none
  | _ => []

def text? : Value → Option String
  | .text s => some s
  | _ => none

def bool? : Value → Option Bool
  | .bool b => some b
  | _ => none

def items? : Value → Option (List Value)
  | .list items => some items
  | _ => none

variable {α : Type}

/-- What the reader makes of an attribute. -/
def read (v : Value) (name : String) (reader : Value → Option α) : Option α :=
  (v.attribute? name).bind reader

def listOf (reader : Value → Option α) (v : Value) : Option (List α) :=
  v.items?.bind (·.mapM reader)

/-- Null stands for an attribute without a value. -/
def optionOf (reader : Value → Option α) : Value → Option (Option α)
  | .null => some none
  | v => (reader v).map some

def texts? : Value → Option (List String) := listOf text?

def textOrNull? : Value → Option (Option String) := optionOf text?

/-- The one of the things whose name is the text. -/
def oneOf? (name : α → String) (all : List α) (v : Value) : Option α :=
  v.text?.bind fun s => all.find? fun a => name a == s

end Value

namespace Model

open DomainCompiler.Value

/-- The type that the record writes, told by its `kind`. -/
def TypeRef.ofPlain? (v : Value) : Option TypeRef :=
  match v.read "kind" text? with
  | some "known" => (v.read "name" text?).map .known
  | some "user_defined" => do
    return .userDefined (← v.read "name" text?) (← v.read "inline_enum" bool?)
  | some "collection" =>
    match _h : v.attribute? "element" with
    | some element =>
      if v.read "container" text? = some "List" then (ofPlain? element).map .collection else none
    | none => none
  | _ => none
termination_by sizeOf v
decreasing_by exact sizeOf_attribute?_lt _h

def Edge.ofPlain? (v : Value) : Option Edge := do
  return { sources := ← v.read "from_states" texts?, target := ← v.read "to" text? }

def EnumType.ofPlain? (v : Value) : Option EnumType := do
  return {
    name := ← v.read "name" text?
    values := ← v.read "values" texts?
    transitions := ← v.read "transitions" (optionOf (listOf Edge.ofPlain?))
    initialValue := ← v.read "initial_value" textOrNull? }

/-- A state with its targets. -/
def Adjacency.entryOfPlain? : Value → Option (String × List String)
  | .list [state, targets] => do
    return (← state.text?, ← targets.texts?)
  | _ => none

def Adjacency.ofPlain? : Value → Option Adjacency := listOf entryOfPlain?

def StateMachine.ofPlain? (v : Value) : Option StateMachine := do
  return {
    edges := ← v.read "transitions" (listOf Edge.ofPlain?)
    initialValue := ← v.read "initial_value" textOrNull?
    adjacency := ← v.read "transition_map" Adjacency.ofPlain?
    values := ← v.read "enum_values" texts? }

def Field.ofPlain? (v : Value) : Option Field := do
  return {
    name := ← v.read "name" text?
    originalName := ← v.read "original_name" text?
    declaredType := ← v.read "declared_type" text?
    typeRef := ← v.read "type_ref" TypeRef.ofPlain?
    resolvedType := ← v.read "resolved_type" text?
    persistenceType := ← v.read "persistence_type" text?
    isCollection := ← v.read "is_collection" bool?
    collectionElementType := ← v.read "collection_element_type" textOrNull?
    isValueObject := ← v.read "is_value_object" bool?
    isEmbedded := ← v.read "is_embedded" bool?
    isEnum := ← v.read "is_enum" bool?
    readOnly := ← v.read "read_only" bool?
    hidden := ← v.read "hidden" bool?
    constraintAnnotations := ← v.read "validation_annotations" texts?
    annotations := ← v.read "annotations" texts?
    columnAnnotation := ← v.read "column_annotation" textOrNull?
    stateMachine := ← v.read "transition_meta" (optionOf StateMachine.ofPlain?)
    autoInit := ← v.read "auto_init" bool?
    autoInitValue := ← v.read "auto_init_value" textOrNull?
    isSynthetic := ← v.read "is_synthetic" bool? }

def Relationship.ofPlain? (v : Value) : Option Relationship := do
  return {
    kind := ← v.read "kind" (oneOf? RelationshipKind.name RelationshipKind.all)
    target := ← v.read "target" text?
    fieldName := ← v.read "field_name" text?
    resolvedType := ← v.read "resolved_type" text?
    persistenceType := ← v.read "persistence_type" text?
    mappedBy := ← v.read "mapped_by" textOrNull?
    joinColumn := ← v.read "join_column_name" textOrNull?
    cascade := ← v.read "cascade_ops" texts?
    fetch := ← v.read "fetch_mode" (oneOf? FetchMode.name FetchMode.all)
    isInverse := ← v.read "is_inverse" bool?
    isCollection := ← v.read "is_collection" bool? }

def Audit.ofPlain? (v : Value) : Option Audit := do
  return { enabled := ← v.read "enabled" bool?, trackUser := ← v.read "track_user" bool? }

def Entity.ofPlain? (v : Value) : Option Entity := do
  return {
    name := ← v.read "name" text?
    fieldName := ← v.read "field_name" text?
    tableName := ← v.read "table_name" text?
    isRoot := ← v.read "is_root" bool?
    audit := ← v.read "audit" Audit.ofPlain?
    fields := ← v.read "fields" (listOf Field.ofPlain?)
    relationships := ← v.read "relationships" (listOf Relationship.ofPlain?)
    enums := ← v.read "enums" (listOf EnumType.ofPlain?)
    requiredImports := ← v.read "required_imports" texts?
    validationImports := ← v.read "validation_imports" texts?
    auditable := ← v.read "auditable" bool? }

/-- The parameters are frozen data, which are nested lists already. -/
def ValueObjectMethod.ofPlain? (v : Value) : Option ValueObjectMethod := do
  return {
    name := ← v.read "name" text?
    returnType := ← v.read "return_type" text?
    parameters := ← v.read "parameters" items?
    body := ← v.read "body" text? }

def ValueObject.ofPlain? (v : Value) : Option ValueObject := do
  return {
    name := ← v.read "name" text?
    fields := ← v.read "fields" (listOf Field.ofPlain?)
    methods := ← v.read "methods" (listOf ValueObjectMethod.ofPlain?)
    validation := ← v.read "validation" items?
    enums := ← v.read "enums" (listOf EnumType.ofPlain?)
    requiredImports := ← v.read "required_imports" texts? }

def Parameter.ofPlain? (v : Value) : Option Parameter := do
  return { name := ← v.read "name" text?, type := ← v.read "type" text? }

/-- The statement that the record writes, told by the set of its attributes. -/
def Statement.ofPlain? (v : Value) : Option Statement :=
  match v.attributeSet with
  | ["arguments", "entity", "variable"] => do
    return .construct (← v.read "variable" text?) (← v.read "entity" text?)
      (← v.read "arguments" texts?)
  | ["argument", "method", "receiver"] => do
    return .invokeAssign (← v.read "receiver" text?) (← v.read "method" text?)
      (← v.read "argument" text?)
  | ["argument", "method"] => do
    return .delegate (← v.read "method" text?) (← v.read "argument" text?)
  | ["field", "value"] => do
    return .assignField (← v.read "field" text?) (← v.read "value" text?)
  | ["collection", "value"] => do
    return .append (← v.read "collection" text?) (← v.read "value" text?)
  | ["collection", "id_parameter"] => do
    return .removeById (← v.read "collection" text?) (← v.read "id_parameter" text?)
  | ["collection"] => (v.read "collection" text?).map .returnView
  | _ => none

def NestedGroup.ofPlain? (v : Value) : Option NestedGroup := do
  return {
    entityName := ← v.read "entity_name" text?
    fieldName := ← v.read "field_name" text?
    assignMethod := ← v.read "assign_method" text?
    parameters := ← v.read "parameters" (listOf Parameter.ofPlain?) }

def MethodKind.all : List MethodKind :=
  [.factoryAdd, .add, .remove, .getter, .factoryAssign, .assign]

def Method.ofPlain? (v : Value) : Option Method := do
  return {
    name := ← v.read "name" text?
    kind := ← v.read "kind" (oneOf? MethodKind.name MethodKind.all)
    returnType := ← v.read "return_type" text?
    parameters := ← v.read "parameters" (listOf Parameter.ofPlain?)
    body := ← v.read "body" (listOf Statement.ofPlain?)
    relationshipField := ← v.read "relationship_field" text?
    targetEntity := ← v.read "target_entity" text?
    nestedGroups := ← v.read "nested_groups" (listOf NestedGroup.ofPlain?)
    isOverload := ← v.read "is_overload" bool? }

def Aggregate.ofPlain? (v : Value) : Option Aggregate := do
  return {
    name := ← v.read "name" text?
    rootEntity := ← v.read "root_entity" Entity.ofPlain?
    secondaryEntities := ← v.read "secondary_entities" (listOf Entity.ofPlain?)
    valueObjects := ← v.read "value_objects" (listOf ValueObject.ofPlain?)
    enums := ← v.read "enums" (listOf EnumType.ofPlain?)
    methods := ← v.read "aggregate_methods" (listOf Method.ofPlain?)
    allEntities := ← v.read "all_entities" (listOf Entity.ofPlain?)
    package := ← v.read "package" textOrNull? }

/-- The model that the plain data write. -/
def DomainModel.ofPlain? (v : Value) : Option DomainModel := do
  return {
    aggregates := ← v.read "aggregates" (listOf Aggregate.ofPlain?)
    allEnums := ← v.read "all_enums" (listOf EnumType.ofPlain?)
    packageName := ← v.read "package_name" text?
    moduleName := ← v.read "module_name" text? }

end Model

end DomainCompiler
