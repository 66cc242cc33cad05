import DomainCompiler.Model.Method

/-!
# Resolved aggregates

An aggregate is resolved as a whole: its enums and value objects first, because fields need their
names, then the inverse sides over all entities, then the entities, and last the methods of the
root with the imports that their parameters need.
-/

namespace DomainCompiler.Model

open DomainCompiler.Naming

mutual

/-- Data of a document as nested lists: a mapping becomes the list of its entries. -/
def frozen : Value → Value
  | .list items => .list (frozenItems items)
  | .map entries => .list (frozenEntries entries)
  | v => v

def frozenItems : List Value → List Value
  | [] => []
  | v :: rest => frozen v :: frozenItems rest

def frozenEntries : List (Value × Value) → List Value
  | [] => []
  | (key, v) :: rest => .list [key, frozen v] :: frozenEntries rest

end

/-- A method of a value object, passed on as it is. -/
structure ValueObjectMethod where
  name : String
  returnType : String
  parameters : List Value
  body : String
  deriving Repr

structure ValueObject where
  name : String
  fields : List Field
  methods : List ValueObjectMethod
  validation : List Value
  /-- The enums that the fields declare themselves. -/
  enums : List EnumType
  requiredImports : List String
  deriving Repr

namespace ValueObject

/-- Resolves a value object; inside one, other value objects have to be marked as such. -/
def resolve (aggregateEnums : List EnumType) (options : Options) (d : Declared.ValueObject) :
    ValueObject :=
  let fields := d.fields.map (Field.resolve [] aggregateEnums options.persistenceSuffix false)
  let enums := EnumType.inlineOf d.fields
  { name := pascal d.name
    fields
    methods := d.methods.map fun m => ⟨m.name, m.returnType, frozenItems m.parameters, m.body⟩
    validation := frozenItems d.validation
    enums
    requiredImports := Imports.ofValueObject fields (enums ++ aggregateEnums) options }

end ValueObject

structure Aggregate where
  name : String
  rootEntity : Entity
  secondaryEntities : List Entity
  valueObjects : List ValueObject
  enums : List EnumType
  methods : List Method
  allEntities : List Entity
  package : Option String
  deriving Repr

namespace Aggregate

def entity? (a : Aggregate) (name : String) : Option Entity := Entity.find? name a.allEntities

def valueObject? (a : Aggregate) (name : String) : Option ValueObject :=
  a.valueObjects.find? fun v => v.name == name

def rootNames (d : Declared.Aggregate) : List String :=
  (d.entities.filter (·.isRoot)).map (·.name)

/-- An aggregate has exactly one root. -/
def checkRoot (d : Declared.Aggregate) : Except ResolveError Unit :=
  match rootNames d with
  | [] => .error (.missingRoot d.name)
  | [_] => .ok ()
  | roots => .error (.manyRoots d.name roots)

def withImports (e : Entity) (imports : List String) : Entity :=
  if imports.isEmpty then e
  else { e with requiredImports := NameSet.ofList (e.requiredImports ++ imports) }

/-- Puts resolved parts together around the root. -/
def assemble (d : Declared.Aggregate) (options : Options) (enums : List EnumType)
    (valueObjects : List ValueObject) (entities : List Entity) (root : Entity) : Aggregate :=
  let secondary := entities.filter fun e => !e.isRoot
  let methods := Method.ofRoot root secondary
  let parameterTypes := methods.flatMap fun m => m.parameters.map (·.type)
  let imports :=
    Imports.ofParameters parameterTypes (entities.flatMap (·.enums) ++ enums) options
  let rootEntity := withImports root imports
  { name := pascal d.name
    rootEntity
    secondaryEntities := secondary
    valueObjects
    enums
    methods
    allEntities := entities.map fun e => if e.isRoot then rootEntity else e
    package := d.package }

def resolvedEnums (d : Declared.Aggregate) : List EnumType := d.enums.map EnumType.resolve

def resolvedValueObjects (options : Options) (d : Declared.Aggregate) : List ValueObject :=
  d.valueObjects.map (ValueObject.resolve (resolvedEnums d) options)

/-- Resolves an entity of the aggregate, given the inverse sides on its classes. -/
def resolveEntity (options : Options) (d : Declared.Aggregate)
    (inverse : List (String × Relationship)) : Declared.Entity → Except ResolveError Entity :=
  Entity.resolve ((resolvedValueObjects options d).map (·.name)) (resolvedEnums d) inverse options

def inverseSides (options : Options) (d : Declared.Aggregate) : List (String × Relationship) :=
  Relationship.allInverse options.persistenceSuffix d.entities

def resolve (options : Options) (d : Declared.Aggregate) : Except ResolveError Aggregate := do
  checkRoot d
  let entities ← d.entities.mapM (resolveEntity options d (inverseSides options d))
  match entities.find? (·.isRoot) with
  | some root =>
    return assemble d options (resolvedEnums d) (resolvedValueObjects options d) entities root
  | none => throw (.missingRoot d.name)

/-- All enums of an aggregate: its own, then those of entity fields and value object fields. -/
def allEnums (a : Aggregate) : List EnumType :=
  a.enums ++ a.allEntities.flatMap (·.enums) ++ a.valueObjects.flatMap (·.enums)

end Aggregate

/-- A compiled description. -/
structure DomainModel where
  aggregates : List Aggregate
  /-- Every enum of the description, the first declaration of each name. -/
  allEnums : List EnumType
  packageName : String
  moduleName : String
  deriving Repr

namespace DomainModel

def register (registry : List EnumType) (e : EnumType) : List EnumType :=
  if registry.any (·.name == e.name) then registry else registry ++ [e]

def registry (aggregates : List Aggregate) : List EnumType :=
  (aggregates.flatMap Aggregate.allEnums).foldl register []

def aggregate? (m : DomainModel) (name : String) : Option Aggregate :=
  m.aggregates.find? fun a => a.name == name

def enum? (m : DomainModel) (name : String) : Option EnumType := EnumType.find? name m.allEnums

/-- Resolves a document; the first aggregate that cannot be resolved ends it. -/
def resolve (options : Options) (d : Declared.Document) : Except ResolveError DomainModel := do
  let aggregates ← d.aggregates.mapM (Aggregate.resolve options)
  return {
    aggregates
    allEnums := registry aggregates
    packageName := options.packageName
    moduleName := options.moduleName }

end DomainModel

end DomainCompiler.Model
