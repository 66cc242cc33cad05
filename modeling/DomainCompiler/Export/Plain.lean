import DomainCompiler.Model.Aggregate

/-!
# Models as plain data

Every part of a model as a mapping from attribute names to values. A type carries its shape under
`kind`; the statements of a body are told apart by their attributes alone.
-/

namespace DomainCompiler.Model

open DomainCompiler.Value (record texts textOrNull)

def plainList {α : Type} (plain : α → Value) (xs : List α) : Value := .list (xs.map plain)

def plainOption {α : Type} (plain : α → Value) : Option α → Value
  | some x => plain x
  | none => .null

def TypeRef.plain : TypeRef → Value
  | .known name => record [("kind", .text "known"), ("name", .text name)]
  | .userDefined name inlineEnum =>
    record [("kind", .text "user_defined"), ("name", .text name), ("inline_enum", .bool inlineEnum)]
  | .collection element =>
    record [("kind", .text "collection"), ("element", element.plain), ("container", .text "List")]

def Edge.plain (e : Edge) : Value :=
  record [("from_states", texts e.sources), ("to", .text e.target)]

def EnumType.plain (e : EnumType) : Value :=
  record
    [("name", .text e.name),
     ("values", texts e.values),
     ("transitions", plainOption (plainList Edge.plain) e.transitions),
     ("initial_value", textOrNull e.initialValue)]

def Adjacency.plain (m : Adjacency) : Value :=
  plainList (fun e => .list [.text e.1, texts e.2]) m

def StateMachine.plain (m : StateMachine) : Value :=
  record
    [("transitions", plainList Edge.plain m.edges),
     ("initial_value", textOrNull m.initialValue),
     ("transition_map", m.adjacency.plain),
     ("enum_values", texts m.values)]

def Field.plain (f : Field) : Value :=
  record
    [("name", .text f.name),
     ("original_name", .text f.originalName),
     ("declared_type", .text f.declaredType),
     ("type_ref", f.typeRef.plain),
     ("resolved_type", .text f.resolvedType),
     ("persistence_type", .text f.persistenceType),
     ("is_collection", .bool f.isCollection),
     ("collection_element_type", textOrNull f.collectionElementType),
     ("is_value_object", .bool f.isValueObject),
     ("is_embedded", .bool f.isEmbedded),
     ("is_enum", .bool f.isEnum),
     ("read_only", .bool f.readOnly),
     ("hidden", .bool f.hidden),
     ("validation_annotations", texts f.constraintAnnotations),
     ("annotations", texts f.annotations),
     ("column_annotation", textOrNull f.columnAnnotation),
     ("transition_meta", plainOption StateMachine.plain f.stateMachine),
     ("auto_init", .bool f.autoInit),
     ("auto_init_value", textOrNull f.autoInitValue),
     ("is_synthetic", .bool f.isSynthetic)]

def Relationship.plain (r : Relationship) : Value :=
  record
    [("kind", .text r.kind.name),
     ("target", .text r.target),
     ("field_name", .text r.fieldName),
     ("resolved_type", .text r.resolvedType),
     ("persistence_type", .text r.persistenceType),
     ("mapped_by", textOrNull r.mappedBy),
     ("join_column_name", textOrNull r.joinColumn),
     ("cascade_ops", texts r.cascade),
     ("fetch_mode", .text r.fetch.name),
     ("is_inverse", .bool r.isInverse),
     ("is_collection", .bool r.isCollection)]

def Audit.plain (a : Audit) : Value :=
  record [("enabled", .bool a.enabled), ("track_user", .bool a.trackUser)]

def Entity.plain (e : Entity) : Value :=
  record
    [("name", .text e.name),
     ("field_name", .text e.fieldName),
     ("table_name", .text e.tableName),
     ("is_root", .bool e.isRoot),
     ("audit", e.audit.plain),
     ("fields", plainList Field.plain e.fields),
     ("relationships", plainList Relationship.plain e.relationships),
     ("enums", plainList EnumType.plain e.enums),
     ("required_imports", texts e.requiredImports),
     ("validation_imports", texts e.validationImports),
     ("auditable", .bool e.auditable)]

def ValueObjectMethod.plain (m : ValueObjectMethod) : Value :=
  record
    [("name", .text m.name),
     ("return_type", .text m.returnType),
     ("parameters", .list m.parameters),
     ("body", .text m.body)]

def ValueObject.plain (v : ValueObject) : Value :=
  record
    [("name", .text v.name),
     ("fields", plainList Field.plain v.fields),
     ("methods", plainList ValueObjectMethod.plain v.methods),
     ("validation", .list v.validation),
     ("enums", plainList EnumType.plain v.enums),
     ("required_imports", texts v.requiredImports)]

def Parameter.plain (p : Parameter) : Value :=
  record [("name", .text p.name), ("type", .text p.type)]

def Statement.plain : Statement → Value
  | .construct holder entity arguments =>
    record [("variable", .text holder), ("entity", .text entity), ("arguments", texts arguments)]
  | .invokeAssign receiver method argument =>
    record [("receiver", .text receiver), ("method", .text method), ("argument", .text argument)]
  | .delegate method argument => record [("method", .text method), ("argument", .text argument)]
  | .assignField field value => record [("field", .text field), ("value", .text value)]
  | .append collection value => record [("collection", .text collection), ("value", .text value)]
  | .removeById collection idParameter =>
    record [("collection", .text collection), ("id_parameter", .text idParameter)]
  | .returnView collection => record [("collection", .text collection)]

def NestedGroup.plain (g : NestedGroup) : Value :=
  record
    [("entity_name", .text g.entityName),
     ("field_name", .text g.fieldName),
     ("assign_method", .text g.assignMethod),
     ("parameters", plainList Parameter.plain g.parameters)]

def Method.plain (m : Method) : Value :=
  record
    [("name", .text m.name),
     ("kind", .text m.kind.name),
     ("return_type", .text m.returnType),
     ("parameters", plainList Parameter.plain m.parameters),
     ("body", plainList Statement.plain m.body),
     ("relationship_field", .text m.relationshipField),
     ("target_entity", .text m.targetEntity),
     ("nested_groups", plainList NestedGroup.plain m.nestedGroups),
     ("is_overload", .bool m.isOverload)]

def Aggregate.plain (a : Aggregate) : Value :=
  record
    [("name", .text a.name),
     ("root_entity", a.rootEntity.plain),
     ("secondary_entities", plainList Entity.plain a.secondaryEntities),
     ("value_objects", plainList ValueObject.plain a.valueObjects),
     ("enums", plainList EnumType.plain a.enums),
     ("aggregate_methods", plainList Method.plain a.methods),
     ("all_entities", plainList Entity.plain a.allEntities),
     ("package", textOrNull a.package)]

def DomainModel.plain (m : DomainModel) : Value :=
  record
    [("aggregates", plainList Aggregate.plain m.aggregates),
     ("all_enums", plainList EnumType.plain m.allEnums),
     ("package_name", .text m.packageName),
     ("module_name", .text m.moduleName)]

end DomainCompiler.Model
