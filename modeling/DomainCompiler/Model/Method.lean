import DomainCompiler.Model.Entity

/-!
# Methods of an aggregate root

The root is the only way into its aggregate. For every collection of children it gets methods to
build and add a child, to add a finished one, to remove one and to look at all of them; for every
single child that refers back, methods to build and assign it and to assign a finished one. Bodies
are lists of statements, which leaves the written form to whoever renders them.
-/

namespace DomainCompiler.Model

open DomainCompiler.Naming

/-- The role of a method. -/
inductive MethodKind where
  /-- Builds a child from its parameters and adds it. -/
  | factoryAdd
  /-- Adds a finished child. -/
  | add
  | remove
  | getter
  /-- Builds the single child from its parameters and assigns it. -/
  | factoryAssign
  /-- Assigns a finished single child. -/
  | assign
  deriving DecidableEq, Repr

namespace MethodKind

def name : MethodKind → String
  | .factoryAdd => "factory_add"
  | .add => "add"
  | .remove => "remove"
  | .getter => "getter"
  | .factoryAssign => "factory_assign"
  | .assign => "assign"

/-- Whether the method builds the child from its parameters. -/
def isFactory : MethodKind → Bool
  | .factoryAdd => true
  | .factoryAssign => true
  | _ => false

end MethodKind

structure Parameter where
  name : String
  type : String
  deriving DecidableEq, Repr

inductive Statement where
  /-- A new variable, the holder, holds an entity built from the arguments. -/
  | construct (holder entity : String) (arguments : List String)
  /-- A method of a child that was just built takes the argument. -/
  | invokeAssign (receiver method argument : String)
  /-- Another method of the root takes the argument. -/
  | delegate (method argument : String)
  | assignField (field value : String)
  | append (collection value : String)
  /-- The first element with the id leaves the collection. -/
  | removeById (collection idParameter : String)
  /-- A view of the collection that cannot change it. -/
  | returnView (collection : String)
  deriving DecidableEq, Repr

/-- The parameters of a grandchild that an adding method builds too. -/
structure NestedGroup where
  entityName : String
  /-- The field of the child that holds the grandchild. -/
  fieldName : String
  /-- The method of the child that attaches it. -/
  assignMethod : String
  parameters : List Parameter
  deriving DecidableEq, Repr

structure Method where
  name : String
  kind : MethodKind
  returnType : String
  parameters : List Parameter
  body : List Statement
  /-- The field of the root that the method works on. -/
  relationshipField : String
  targetEntity : String
  nestedGroups : List NestedGroup := []
  /-- Another method has the same name. -/
  isOverload : Bool := false
  deriving DecidableEq, Repr

namespace Parameter

/--
The parameters that create an entity. With a name in front, that name and the name of the field
in Pascal case make up the name of the parameter.
-/
def creating (front : String) (e : Entity) : List Parameter :=
  e.constructorFields.map fun f =>
    { name := if front.isEmpty then f.name else front ++ pascal f.name, type := f.resolvedType }

end Parameter

namespace NestedGroup

/-- The group of a relationship of a child, where it holds a single secondary entity. -/
def ofRelationship? (secondary : List Entity) (r : Relationship) : Option NestedGroup :=
  if r.isInverse || r.kind != .oneToOne then none
  else
    (Entity.find? r.target secondary).map fun grandchild =>
      { entityName := r.target
        fieldName := r.fieldName
        assignMethod := "assign" ++ pascal r.fieldName
        parameters := Parameter.creating (camel r.fieldName) grandchild }

def ofChild (secondary : List Entity) (child : Entity) : List NestedGroup :=
  child.relationships.filterMap (ofRelationship? secondary)

def holder (g : NestedGroup) : String := camel g.fieldName

def statements (child : String) (g : NestedGroup) : List Statement :=
  [.construct g.holder g.entityName (g.parameters.map (·.name)),
   .invokeAssign child g.assignMethod g.holder]

end NestedGroup

namespace Method

def childVariable : String := "entity"

def defaultIdType : String := "Long"

/-- Builds a child, with its grandchildren, and adds it. -/
def factoryAdd (r : Relationship) (secondary : List Entity) (child : Entity) : Method :=
  let own := Parameter.creating "" child
  let groups := NestedGroup.ofChild secondary child
  { name := "add" ++ pascal (singular r.fieldName)
    kind := .factoryAdd
    returnType := "void"
    parameters := own ++ groups.flatMap (·.parameters)
    body :=
      .construct childVariable r.target (own.map (·.name)) ::
        groups.flatMap (·.statements childVariable) ++ [.append r.fieldName childVariable]
    relationshipField := r.fieldName
    targetEntity := r.target
    nestedGroups := groups }

/-- Adds a finished child. -/
def add (r : Relationship) (isOverload : Bool) : Method :=
  let item := camel (singular r.fieldName)
  { name := "add" ++ pascal (singular r.fieldName)
    kind := .add
    returnType := "void"
    parameters := [⟨item, r.target⟩]
    body := [.append r.fieldName item]
    relationshipField := r.fieldName
    targetEntity := r.target
    isOverload }

/-- Removes the child of an id. -/
def remove (r : Relationship) (child : Option Entity) : Method :=
  let idType := ((child.bind Entity.idField?).map (·.resolvedType)).getD defaultIdType
  { name := "remove" ++ pascal (singular r.fieldName)
    kind := .remove
    returnType := "void"
    parameters := [⟨"id", idType⟩]
    body := [.removeById r.fieldName "id"]
    relationshipField := r.fieldName
    targetEntity := r.target }

/-- Shows the children. -/
def getter (r : Relationship) : Method :=
  { name := "get" ++ pascal r.fieldName
    kind := .getter
    returnType := "List<" ++ r.target ++ ">"
    parameters := []
    body := [.returnView r.fieldName]
    relationshipField := r.fieldName
    targetEntity := r.target }

/-- The methods for a collection of children; only secondary entities can be built. -/
def ofCollection (secondary : List Entity) (r : Relationship) : List Method :=
  let child := Entity.find? r.target secondary
  (child.map (factoryAdd r secondary)).toList ++ [add r child.isSome, remove r child, getter r]

/-- Builds the single child and assigns it. -/
def factoryAssign (r : Relationship) (child : Entity) : Method :=
  let name := "assign" ++ pascal r.fieldName
  let own := Parameter.creating "" child
  { name
    kind := .factoryAssign
    returnType := "void"
    parameters := own
    body := [.construct childVariable r.target (own.map (·.name)), .delegate name childVariable]
    relationshipField := r.fieldName
    targetEntity := r.target
    isOverload := true }

/-- Assigns a finished single child. -/
def assign (r : Relationship) (isOverload : Bool) : Method :=
  { name := "assign" ++ pascal r.fieldName
    kind := .assign
    returnType := "void"
    parameters := [⟨r.fieldName, r.target⟩]
    body := [.assignField r.fieldName r.fieldName]
    relationshipField := r.fieldName
    targetEntity := r.target
    isOverload }

/-- The methods for a single child; only secondary entities can be built. -/
def ofSingle (secondary : List Entity) (r : Relationship) : List Method :=
  let child := Entity.find? r.target secondary
  (child.map (factoryAssign r)).toList ++ [assign r child.isSome]

/-- A single child is assigned through the root where it refers back. -/
def isAssigned (r : Relationship) : Bool :=
  r.kind == .oneToOne && r.mappedBy.any (!·.isEmpty)

/-- All methods of a root: those of its collections, then those of its single children. -/
def ofRoot (root : Entity) (secondary : List Entity) : List Method :=
  (root.relationships.filter fun r => r.kind == .oneToMany).flatMap (ofCollection secondary) ++
    (root.relationships.filter isAssigned).flatMap (ofSingle secondary)

end Method

end DomainCompiler.Model
