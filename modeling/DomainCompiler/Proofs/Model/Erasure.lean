import DomainCompiler.Proofs.Model.Imports
import DomainCompiler.Proofs.Model.Registry

/-!
# What the options reach

The options say where the sources are generated and how classes that are stored are called. Both
are written into the model: into the imports of enums and into the types under which values are
stored. Erased of these two, what is put together from erased parts is the same for all options,
and this is carried from the fields and relationships through entities and methods to the model.
-/

namespace DomainCompiler.Model

open DomainCompiler.Naming
open DomainCompiler.Traversal

/-! ### Erasing -/

def Field.erased (f : Field) : Field := { f with persistenceType := "" }

def Relationship.erased (r : Relationship) : Relationship := { r with persistenceType := "" }

/-- The entity without the imports of the enums and the types under which values are stored. -/
def Entity.erased (o : Options) (names : List String) (e : Entity) : Entity :=
  { e with
    fields := e.fields.map Field.erased
    relationships := e.relationships.map Relationship.erased
    requiredImports := o.withoutEnums names e.requiredImports }

def ValueObject.erased (o : Options) (names : List String) (v : ValueObject) : ValueObject :=
  { v with
    fields := v.fields.map Field.erased
    requiredImports := o.withoutEnums names v.requiredImports }

def Aggregate.erased (o : Options) (names : List String) (a : Aggregate) : Aggregate :=
  { a with
    rootEntity := a.rootEntity.erased o names
    secondaryEntities := a.secondaryEntities.map (Entity.erased o names)
    valueObjects := a.valueObjects.map (ValueObject.erased o names)
    allEntities := a.allEntities.map (Entity.erased o names) }

/-- The model without anything that the options reach, the imports being those of its own enums. -/
def DomainModel.erased (o : Options) (m : DomainModel) : DomainModel :=
  { m with
    aggregates := m.aggregates.map (Aggregate.erased o (m.allEnums.map (·.name)))
    packageName := ""
    moduleName := "" }

/-! ### Fields and relationships -/

section Parts

variable {enums : List EnumType} {suffix suffix' : String}

theorem Entity.map_erased_resolvedFields (valueObjects : List String) (enums : List EnumType)
    (suffix suffix' : String) (audit : Audit) (d : Declared.Entity) :
    (resolvedFields valueObjects enums suffix audit d).map Field.erased =
      (resolvedFields valueObjects enums suffix' audit d).map Field.erased := by
  simp only [resolvedFields, List.map_append, List.map_map]
  rfl

theorem Relationship.map_erased_eq {ds : List Declared.Relationship} {rs rs' : List Relationship}
    (h : List.Forall₂ (Declares suffix) ds rs) (h' : List.Forall₂ (Declares suffix') ds rs') :
    rs.map erased = rs'.map erased := by
  refine Forall₂.map_eq (Forall₂.through h h' fun d _ r r' hr hr' => ?_) fun r r' he => he
  obtain ⟨target, htarget, rfl⟩ := hr
  obtain ⟨target', htarget', rfl⟩ := hr'
  obtain rfl := Option.some.inj (htarget.symm.trans htarget')
  rfl

/-- An inverse side without the type under which it is stored. -/
def Relationship.erasedSide : String × Relationship → String × Relationship :=
  Prod.map id Relationship.erased

theorem Relationship.map_erasedSide_inverse? (owner suffix suffix' : String)
    (d : Declared.Relationship) :
    (inverse? owner suffix d).map erasedSide = (inverse? owner suffix' d).map erasedSide := by
  unfold inverse?
  split <;> rfl

theorem Relationship.map_erasedSide_allInverse (suffix suffix' : String)
    (entities : List Declared.Entity) :
    (allInverse suffix entities).map erasedSide = (allInverse suffix' entities).map erasedSide := by
  simp only [allInverse, List.map_flatMap, List.map_filterMap]
  refine List.flatMap_congr fun e _ => List.filterMap_congr fun d _ => ?_
  exact map_erasedSide_inverse? (pascal e.name) suffix suffix' d

theorem Relationship.map_erased_inverseOf (name : String)
    (inverse : List (String × Relationship)) :
    (inverseOf name inverse).map erased = inverseOf name (inverse.map erasedSide) := by
  simp only [inverseOf, List.filter_map, List.map_map]
  rfl

theorem Relationship.map_erased_merge (declared inverse : List Relationship) :
    (merge declared inverse).map erased = merge (declared.map erased) (inverse.map erased) := by
  simp only [merge, List.map_append, List.filter_map, List.map_map]
  rfl

theorem Imports.ofEntity_map_erased (fields : List Field) (relationships : List Relationship)
    (o : Options) :
    ofEntity (fields.map Field.erased) (relationships.map Relationship.erased) enums o =
      ofEntity fields relationships enums o := by
  simp only [ofEntity, List.map_map, List.any_map]
  rfl

theorem Imports.ofValueObject_map_erased (fields : List Field) (o : Options) :
    ofValueObject (fields.map Field.erased) enums o = ofValueObject fields enums o := by
  simp only [ofValueObject, List.map_map, List.any_map]
  rfl

theorem Imports.ofConstraints_map_erased (fields : List Field) :
    ofConstraints (Entity.commandFieldsOf (fields.map Field.erased)) =
      ofConstraints (Entity.commandFieldsOf fields) := by
  simp only [ofConstraints, Entity.commandFieldsOf, List.filter_map, List.any_map]
  rfl

end Parts

/-! ### Entities and value objects -/

section Holders

variable {enums : List EnumType} {o o' : Options} {names : List String}

theorem Imports.withoutEnums_ofEntity_eq (o o' : Options) {fields fields' : List Field}
    {relationships relationships' : List Relationship}
    (hfields : fields.map Field.erased = fields'.map Field.erased)
    (hrelationships :
      relationships.map Relationship.erased = relationships'.map Relationship.erased)
    (hnames : ∀ e ∈ enums, e.name ∈ names) :
    o.withoutEnums names (ofEntity fields relationships enums o) =
      o'.withoutEnums names (ofEntity fields' relationships' enums o') := by
  rw [withoutEnums_ofEntity hnames, withoutEnums_ofEntity hnames, ← ofEntity_map_erased, hfields,
    hrelationships, ofEntity_map_erased]

theorem Imports.withoutEnums_ofValueObject_eq (o o' : Options) {fields fields' : List Field}
    (hfields : fields.map Field.erased = fields'.map Field.erased)
    (hnames : ∀ e ∈ enums, e.name ∈ names) :
    o.withoutEnums names (ofValueObject fields enums o) =
      o'.withoutEnums names (ofValueObject fields' enums o') := by
  rw [withoutEnums_ofValueObject hnames, withoutEnums_ofValueObject hnames,
    ← ofValueObject_map_erased, hfields, ofValueObject_map_erased]

theorem Imports.ofConstraints_eq {fields fields' : List Field}
    (hfields : fields.map Field.erased = fields'.map Field.erased) :
    ofConstraints (Entity.commandFieldsOf fields) =
      ofConstraints (Entity.commandFieldsOf fields') := by
  rw [← ofConstraints_map_erased, hfields, ofConstraints_map_erased]

theorem Entity.erased_assemble {valueObjects : List String}
    {inverse inverse' : List (String × Relationship)} {d : Declared.Entity} {audit : Audit}
    {declared declared' : List Relationship}
    (hinverse : inverse.map Relationship.erasedSide = inverse'.map Relationship.erasedSide)
    (hdeclared : declared.map Relationship.erased = declared'.map Relationship.erased)
    (hnames : ∀ e ∈ EnumType.inlineOf d.fields ++ enums, e.name ∈ names) :
    (assemble valueObjects enums inverse o d audit declared).erased o names =
      (assemble valueObjects enums inverse' o' d audit declared').erased o' names := by
  have hfields := map_erased_resolvedFields valueObjects enums o.persistenceSuffix
    o'.persistenceSuffix audit d
  have hrelationships :
      (Relationship.merge declared (Relationship.inverseOf (pascal d.name) inverse)).map
          Relationship.erased =
        (Relationship.merge declared' (Relationship.inverseOf (pascal d.name) inverse')).map
          Relationship.erased := by
    simp only [Relationship.map_erased_merge, Relationship.map_erased_inverseOf, hdeclared,
      hinverse]
  have himports := Imports.withoutEnums_ofEntity_eq o o' hfields hrelationships hnames
  have hvalidation := Imports.ofConstraints_eq hfields
  simp only [assemble, erased, hfields, hrelationships, himports, hvalidation]

theorem ValueObject.erased_resolve {d : Declared.ValueObject}
    (hnames : ∀ e ∈ EnumType.inlineOf d.fields ++ enums, e.name ∈ names) :
    (resolve enums o d).erased o names = (resolve enums o' d).erased o' names := by
  have hfields : (d.fields.map (Field.resolve [] enums o.persistenceSuffix false)).map
        Field.erased =
      (d.fields.map (Field.resolve [] enums o'.persistenceSuffix false)).map Field.erased := by
    rw [List.map_map, List.map_map]
    rfl
  have himports := Imports.withoutEnums_ofValueObject_eq o o' hfields hnames
  simp only [resolve, erased, hfields, himports]

end Holders

/-! ### Methods -/

section Methods

variable {o : Options} {names : List String}

theorem Entity.find?_map_erased (name : String) (entities : List Entity) :
    find? name (entities.map (erased o names)) = (find? name entities).map (erased o names) := by
  rw [find?, find?, List.find?_map]
  rfl

theorem Parameter.creating_erased (front : String) (e : Entity) :
    creating front (e.erased o names) = creating front e := by
  simp only [creating, Entity.constructorFields, Entity.commandFields, Entity.commandFieldsOf,
    Entity.erased, List.filter_map, List.map_map]
  rfl

theorem NestedGroup.ofRelationship?_erased (secondary : List Entity) (r : Relationship) :
    ofRelationship? (secondary.map (Entity.erased o names)) r.erased =
      ofRelationship? secondary r := by
  simp only [ofRelationship?, Relationship.erased, Entity.find?_map_erased, Option.map_map,
    Function.comp_def, Parameter.creating_erased]

theorem NestedGroup.ofChild_erased (secondary : List Entity) (child : Entity) :
    ofChild (secondary.map (Entity.erased o names)) (child.erased o names) =
      ofChild secondary child := by
  rw [ofChild, ofChild, Entity.erased, List.filterMap_map]
  exact List.filterMap_congr fun r _ => ofRelationship?_erased secondary r

namespace Method

variable {secondary : List Entity}

theorem factoryAdd_erased (r : Relationship) (child : Entity) :
    factoryAdd r.erased (secondary.map (Entity.erased o names)) (child.erased o names) =
      factoryAdd r secondary child := by
  rw [factoryAdd, factoryAdd, Parameter.creating_erased, NestedGroup.ofChild_erased]
  rfl

theorem factoryAssign_erased (r : Relationship) (child : Entity) :
    factoryAssign r.erased (child.erased o names) = factoryAssign r child := by
  rw [factoryAssign, factoryAssign, Parameter.creating_erased]
  rfl

theorem remove_erased (r : Relationship) (child : Option Entity) :
    remove r.erased (child.map (Entity.erased o names)) = remove r child := by
  cases child with
  | none => rfl
  | some e =>
    have hid : (e.erased o names).idField? = e.idField?.map Field.erased := by
      rw [Entity.idField?, Entity.idField?, Entity.erased, List.find?_map]
      rfl
    rw [remove, remove, Option.map_some, Option.bind_some, Option.bind_some, hid, Option.map_map]
    rfl

theorem ofCollection_erased (r : Relationship) :
    ofCollection (secondary.map (Entity.erased o names)) r.erased = ofCollection secondary r := by
  have hchild : Entity.find? r.erased.target (secondary.map (Entity.erased o names)) =
      (Entity.find? r.target secondary).map (Entity.erased o names) :=
    Entity.find?_map_erased r.target secondary
  have hfactory : factoryAdd r.erased (secondary.map (Entity.erased o names)) ∘
      Entity.erased o names = factoryAdd r secondary := funext fun e => factoryAdd_erased r e
  rw [ofCollection, ofCollection, hchild, Option.map_map, hfactory, remove_erased,
    Option.isSome_map]
  rfl

theorem ofSingle_erased (r : Relationship) :
    ofSingle (secondary.map (Entity.erased o names)) r.erased = ofSingle secondary r := by
  have hchild : Entity.find? r.erased.target (secondary.map (Entity.erased o names)) =
      (Entity.find? r.target secondary).map (Entity.erased o names) :=
    Entity.find?_map_erased r.target secondary
  have hfactory : factoryAssign r.erased ∘ Entity.erased o names = factoryAssign r :=
    funext fun e => factoryAssign_erased r e
  rw [ofSingle, ofSingle, hchild, Option.map_map, hfactory, Option.isSome_map]
  rfl

/-- Methods look neither at imports nor at how values are stored. -/
theorem ofRoot_erased (root : Entity) :
    ofRoot (root.erased o names) (secondary.map (Entity.erased o names)) =
      ofRoot root secondary := by
  have hcollection : ofCollection (secondary.map (Entity.erased o names)) ∘ Relationship.erased =
      ofCollection secondary := funext fun r => ofCollection_erased r
  have hsingle : ofSingle (secondary.map (Entity.erased o names)) ∘ Relationship.erased =
      ofSingle secondary := funext fun r => ofSingle_erased r
  rw [ofRoot, ofRoot, Entity.erased, List.filter_map, List.filter_map, List.flatMap_map,
    List.flatMap_map, ← hcollection, ← hsingle]
  rfl

end Method

end Methods

end DomainCompiler.Model
