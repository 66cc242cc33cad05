import DomainCompiler.Proofs.Model.Lookup
import DomainCompiler.Proofs.Model.Overloads

/-!
# What it takes to build a child

Whether a field can be set is decided in several places: by what it is called, by the audit
settings, by its own declaration and by the enum that its type names. What is left of the fields of
a child, and of the entities that the child holds singly, are the parameters of the methods that
build it. A value that an enum sets at the start is not among them.
-/

namespace DomainCompiler.Model

open DomainCompiler.Naming
open DomainCompiler.Traversal

/-! ### Fields that can be set -/

namespace Field

def Writable (f : Field) : Prop :=
  f.name ≠ Entity.idFieldName ∧ f.isSynthetic = false ∧ f.name ∉ Audit.allFields ∧
    f.readOnly = false

instance : DecidablePred Writable := fun _ => inferInstanceAs (Decidable (_ ∧ _))

/-- The parameter that sets the field, behind the name of the field that holds its entity. -/
def parameter (front : String) (f : Field) : Parameter :=
  { name := if front = "" then f.name else front ++ pascal f.name, type := f.resolvedType }

/-- The first enum with the name of the type says what the field starts with. -/
def StartsFrom (enums : List EnumType) (f : Field) : Prop :=
  ∃ e ∈ EnumType.find? f.resolvedType enums, e.initialValue.isSome = true

instance (enums : List EnumType) : DecidablePred (StartsFrom enums) := fun f =>
  inferInstanceAs (Decidable (∃ e ∈ EnumType.find? f.resolvedType enums, _))

/-- A declared field that nothing keeps from being set. -/
def Settable (enums : List EnumType) (y : Declared.Field) : Prop :=
  camel y.name ≠ Entity.idFieldName ∧ camel y.name ∉ Audit.allFields ∧ y.readOnly = false ∧
    (EnumType.find? (TypeRef.resolve y.type y.enumValues).render enums).bind (·.initialValue) = none

instance (enums : List EnumType) : DecidablePred (Settable enums) := fun _ =>
  inferInstanceAs (Decidable (_ ∧ _))

variable {enums : List EnumType} {valueObjects : List String} {suffix : String}

theorem readOnly_of_startsFrom {y : Declared.Field} {f : Field} (h : ResolvedFrom enums y f)
    (hstarts : f.StartsFrom enums) : f.readOnly = true := by
  obtain ⟨e, he, hinitial⟩ := hstarts
  have hvalue : f.autoInitValue.isSome = true := by
    rw [h.autoInitValue_eq, he]
    exact hinitial
  obtain ⟨_, _, _, rfl⟩ := h
  exact Bool.or_eq_true_iff.mpr (.inr hvalue)

theorem writable_resolve_iff (y : Declared.Field) :
    (resolve valueObjects enums suffix false y).Writable ↔ Settable enums y := by
  have hreadOnly : (resolve valueObjects enums suffix false y).readOnly = false ↔
      y.readOnly = false ∧
        (EnumType.find? (TypeRef.resolve y.type y.enumValues).render enums).bind
          (·.initialValue) = none := by
    rw [resolve, Bool.or_eq_false_iff, Option.isSome_eq_false_iff, Option.isNone_iff_eq_none]
  rw [Writable, hreadOnly]
  exact and_congr_right fun _ => and_iff_right rfl

theorem not_writable_resolve_synthetic (y : Declared.Field) :
    ¬(resolve valueObjects enums suffix true y).Writable := by
  intro h
  exact Bool.noConfusion h.2.1

end Field

namespace Entity

def writableFields (e : Entity) : List Field := e.fields.filter Field.Writable

theorem constructorFields_eq_writableFields (e : Entity) :
    e.constructorFields = e.writableFields := by
  rw [constructorFields, commandFields, commandFieldsOf, writableFields, List.filter_filter]
  refine List.filter_congr fun f _ => ?_
  rw [Bool.eq_iff_iff, decide_eq_true_iff, Field.Writable]
  simp only [Bool.and_eq_true, Bool.not_eq_true', bne_iff_ne, List.contains_eq_mem,
    decide_eq_false_iff_not]
  tauto

/-- What is declared and can be set is writable; of what audit settings add nothing is. -/
theorem writableFields_resolved {valueObjects : List String} {enums : List EnumType}
    {suffix : String} {audit : Audit} {x : Declared.Entity} :
    (resolvedFields valueObjects enums suffix audit x).filter Field.Writable =
      (x.fields.filter (Field.Settable enums)).map
        (Field.resolve valueObjects enums suffix false) := by
  have hadded : (audit.declarations.map (Field.resolve valueObjects enums suffix true)).filter
      Field.Writable = [] := by
    refine List.filter_eq_nil_iff.mpr fun f hf => ?_
    obtain ⟨y, -, rfl⟩ := List.mem_map.mp hf
    simpa using Field.not_writable_resolve_synthetic y
  have hdeclared : (Field.Writable · : Field → Bool) ∘ Field.resolve valueObjects enums suffix
      false = (Field.Settable enums ·) := by
    funext y
    exact decide_eq_decide.mpr (Field.writable_resolve_iff y)
  rw [resolvedFields, List.filter_append, hadded, List.append_nil, List.filter_map, hdeclared]

/-- The relationships through which an entity holds single entities. -/
def heldSingly (e : Entity) : List Relationship :=
  e.relationships.filter fun r => !r.isInverse && r.kind == .oneToOne

/-- The fields that are set where an entity is built along with those it holds, each behind the
name of the field that holds its entity. -/
def graphFields (secondary : List Entity) (e : Entity) : List (String × Field) :=
  e.writableFields.map (("", ·)) ++
    e.heldSingly.flatMap fun r =>
      (find? r.target secondary).elim [] fun g => g.writableFields.map ((camel r.fieldName, ·))

theorem mem_of_mem_graphFields {secondary : List Entity} {e : Entity} (he : e ∈ secondary)
    {front : String} {f : Field} (h : (front, f) ∈ e.graphFields secondary) :
    ∃ g ∈ secondary, f ∈ g.writableFields := by
  rcases List.mem_append.mp h with hown | hheld
  · obtain ⟨f', hf, hpair⟩ := List.mem_map.mp hown
    obtain ⟨-, rfl⟩ := Prod.mk.inj hpair
    exact ⟨e, he, hf⟩
  · obtain ⟨r, -, hr⟩ := List.mem_flatMap.mp hheld
    cases hg : find? r.target secondary with
    | none =>
      rw [hg] at hr
      cases hr
    | some g =>
      rw [hg] at hr
      obtain ⟨f', hf, hpair⟩ := List.mem_map.mp hr
      obtain ⟨-, rfl⟩ := Prod.mk.inj hpair
      exact ⟨g, (find?_eq_some hg).1, hf⟩

end Entity

/-! ### Parameters -/

theorem Parameter.creating_eq_map_writableFields (front : String) (e : Entity) :
    creating front e = e.writableFields.map (Field.parameter front) := by
  rw [creating, Entity.constructorFields_eq_writableFields]
  refine List.map_congr_left fun f _ => ?_
  simp only [Field.parameter, String.isEmpty_iff]

theorem Grandchild.flatMap_ofChild {β : Type} (secondary : List Entity) (child : Entity)
    (f : Grandchild → List β) :
    (ofChild secondary child).flatMap f =
      child.heldSingly.flatMap fun r =>
        (Entity.find? r.target secondary).elim [] fun g => f ⟨r, g⟩ := by
  rw [ofChild, Entity.heldSingly]
  induction child.relationships with
  | nil => rfl
  | cons r rest ih =>
    have hskipped : (r.isInverse || r.kind != .oneToOne) =
        !(!r.isInverse && r.kind == .oneToOne) := by
      rw [Bool.not_and, Bool.not_not]
      rfl
    rw [List.filterMap_cons, List.filter_cons, hskipped]
    cases !r.isInverse && r.kind == .oneToOne with
    | false => exact ih
    | true =>
      rw [Bool.not_true, if_neg Bool.false_ne_true, if_pos rfl, List.flatMap_cons, ← ih]
      cases Entity.find? r.target secondary <;> rfl

namespace Method

variable {a : Aggregate} {secondary : List Entity} {m : Method}

theorem parameters_factoryAdd (r : Relationship) (child : Entity) :
    (factoryAdd r secondary child).parameters =
      (child.graphFields secondary).map fun p => p.2.parameter p.1 := by
  have hgroups : (NestedGroup.ofChild secondary child).flatMap (·.parameters) =
      child.heldSingly.flatMap fun r => (Entity.find? r.target secondary).elim [] fun g =>
        Parameter.creating (camel r.fieldName) g := by
    rw [← Grandchild.map_group_ofChild, List.flatMap_map, Grandchild.flatMap_ofChild]
    rfl
  change Parameter.creating "" child ++ _ = _
  rw [hgroups, Entity.graphFields, List.map_append, List.map_map, List.map_flatMap,
    Parameter.creating_eq_map_writableFields]
  congr 1
  refine List.flatMap_congr fun s _ => ?_
  cases Entity.find? s.target secondary with
  | none => rfl
  | some g =>
    rw [Option.elim_some, Option.elim_some, List.map_map,
      Parameter.creating_eq_map_writableFields]
    rfl

/-- What an id has to be is looked up in the class of the children. -/
theorem eq_remove_of_mem_ofRoot {root : Entity} (hm : m ∈ ofRoot root secondary)
    (hkind : m.kind = .remove) : ∃ r, m = remove r (Entity.find? r.target secondary) := by
  rcases mem_ofRoot_iff.mp hm with ⟨r, -, -, hm⟩ | ⟨r, -, -, hm⟩
  · refine ⟨r, ?_⟩
    rcases List.mem_append.mp hm with hfactory | hm
    · obtain ⟨child, -, rfl⟩ := Option.map_eq_some_iff.mp (Option.mem_toList.mp hfactory)
      cases hkind
    · simp only [List.mem_cons, List.not_mem_nil, or_false] at hm
      rcases hm with rfl | rfl | rfl
      · cases hkind
      · rfl
      · cases hkind
  · rcases List.mem_append.mp hm with hfactory | hm
    · obtain ⟨child, -, rfl⟩ := Option.map_eq_some_iff.mp (Option.mem_toList.mp hfactory)
      cases hkind
    · rw [List.mem_singleton.mp hm] at hkind
      cases hkind

/-- A parameter sets a field that can be set, finds a child by its id, or is a child. -/
theorem parameter_of_made (h : Made a m) {p : Parameter} (hp : p ∈ m.parameters) :
    (∃ e ∈ a.secondaryEntities, ∃ f ∈ e.writableFields, ∃ front, p = f.parameter front) ∨
      m.kind = .remove ∨ ((m.kind = .add ∨ m.kind = .assign) ∧ p.type = m.targetEntity) := by
  cases h with
  | @factoryAdd r child hr hmanaged hchild =>
    left
    rw [parameters_factoryAdd] at hp
    obtain ⟨⟨front, f⟩, hf, rfl⟩ := List.mem_map.mp hp
    obtain ⟨e, he, hwritable⟩ := Entity.mem_of_mem_graphFields (Entity.find?_eq_some hchild).1 hf
    exact ⟨e, he, f, hwritable, front, rfl⟩
  | @factoryAssign r child hr hmanaged hchild hassign =>
    left
    rw [factoryAssign, Parameter.creating_eq_map_writableFields] at hp
    obtain ⟨f, hwritable, rfl⟩ := List.mem_map.mp hp
    exact ⟨child, (Entity.find?_eq_some hchild).1, f, hwritable, "", rfl⟩
  | add =>
    obtain rfl := List.mem_singleton.mp hp
    exact .inr (.inr ⟨.inl rfl, rfl⟩)
  | remove => exact .inr (.inl rfl)
  | getter => cases hp
  | assign =>
    obtain rfl := List.mem_singleton.mp hp
    exact .inr (.inr ⟨.inr rfl, rfl⟩)

end Method

namespace Aggregate

/-- The type of the ids of a class. -/
def idType (a : Aggregate) (target : String) : String :=
  (((Entity.find? target a.secondaryEntities).bind Entity.idField?).map (·.resolvedType)).getD
    Method.defaultIdType

/-- What the parameters of the methods of a root are made of. -/
structure TakesWritable (d : Declared.Aggregate) (a : Aggregate) : Prop where
  /-- What can be set of an entity are the declared fields that nothing excludes, in order. -/
  writable : List.Forall₂ (fun x e => List.Forall₂ (Field.ResolvedFrom a.enums)
    (x.fields.filter (Field.Settable a.enums)) e.writableFields) d.entities a.allEntities
  factoryAdd : ∀ m ∈ a.methods, m.kind = .factoryAdd → ∃ child ∈ a.secondaryEntities,
    a.entity? m.targetEntity = some child ∧
      m.parameters = (child.graphFields a.secondaryEntities).map fun p => p.2.parameter p.1
  factoryAssign : ∀ m ∈ a.methods, m.kind = .factoryAssign → ∃ child ∈ a.secondaryEntities,
    a.entity? m.targetEntity = some child ∧
      m.parameters = child.writableFields.map (Field.parameter "")
  readOnly : ∀ f ∈ a.fields, f.StartsFrom a.enums → f.readOnly = true
  /-- Only ids and finished children may be of the type of a field that an enum sets. -/
  started : ∀ f ∈ a.fields, f.StartsFrom a.enums → ∀ m ∈ a.methods, ∀ p ∈ m.parameters,
    p.type = f.resolvedType →
      (m.kind = .remove ∧ p = ⟨Entity.idFieldName, a.idType m.targetEntity⟩) ∨
        ((m.kind = .add ∨ m.kind = .assign) ∧ p.type = m.targetEntity)

variable {options : Options} {d : Declared.Aggregate} {a : Aggregate}

theorem forall₂_writableFields (h : resolve options d = .ok a) :
    List.Forall₂ (fun x e => List.Forall₂ (Field.ResolvedFrom a.enums)
      (x.fields.filter (Field.Settable a.enums)) e.writableFields) d.entities a.allEntities := by
  refine (forall₂_allEntities h).imp fun x e hx => ?_
  obtain ⟨e', imports, hresolves, rfl⟩ := hx
  rw [Entity.writableFields, withImports_fields, hresolves.fields_eq,
    Entity.writableFields_resolved, ← enums_eq h]
  exact forall₂_map_resolve _

theorem mem_fields_of_mem_writableFields (h : resolve options d = .ok a) {e : Entity}
    (he : e ∈ a.secondaryEntities) {f : Field} (hf : f ∈ e.writableFields) : f ∈ a.fields := by
  have hall := mem_allEntities_of_mem_secondaryEntities h he
  exact List.mem_append_left _ (List.mem_flatMap.mpr ⟨e, hall, List.mem_of_mem_filter hf⟩)

theorem entity?_eq_some_of_secondary (hsound : Check.Aggregate.Sound d)
    (h : resolve options d = .ok a) {name : String} {child : Entity}
    (hchild : Entity.find? name a.secondaryEntities = some child) :
    child ∈ a.secondaryEntities ∧ a.entity? name = some child := by
  obtain ⟨hmem, rfl⟩ := Entity.find?_eq_some hchild
  have hall := mem_allEntities_of_mem_secondaryEntities h hmem
  exact ⟨hmem, find?_eq_some_of_mem Entity.name (nodup_map_name_allEntities hsound h) hall⟩

theorem takesWritable_of_resolve (hsound : Check.Aggregate.Sound d)
    (h : resolve options d = .ok a) : TakesWritable d a := by
  have hmade : ∀ m ∈ a.methods, Method.Made a m :=
    fun m hm => Method.made_of_mem_methods (methods_eq h) hm
  have hreadOnly : ∀ f ∈ a.fields, f.StartsFrom a.enums → f.readOnly = true := by
    intro f hf hstarts
    obtain ⟨y, hy⟩ := exists_resolvedFrom h hf
    exact Field.readOnly_of_startsFrom hy hstarts
  constructor
  case writable => exact forall₂_writableFields h
  case factoryAdd =>
    intro m hm hkind
    cases hmade m hm with
    | @factoryAdd r child _ _ hchild =>
      obtain ⟨hmem, hentity⟩ := entity?_eq_some_of_secondary hsound h hchild
      exact ⟨child, hmem, hentity, Method.parameters_factoryAdd r child⟩
    | _ => cases hkind
  case factoryAssign =>
    intro m hm hkind
    cases hmade m hm with
    | @factoryAssign r child _ _ hchild =>
      obtain ⟨hmem, hentity⟩ := entity?_eq_some_of_secondary hsound h hchild
      exact ⟨child, hmem, hentity, Parameter.creating_eq_map_writableFields "" child⟩
    | _ => cases hkind
  case readOnly => exact hreadOnly
  case started =>
    intro f hf hstarts m hm p hp htype
    rcases Method.parameter_of_made (hmade m hm) hp with hset | hremove | hchild
    · -- A field that is set would have the same enum and hence be read-only.
      obtain ⟨e, he, g, hg, front, rfl⟩ := hset
      have htype : g.resolvedType = f.resolvedType := htype
      have hwritable : g.Writable := of_decide_eq_true (List.mem_filter.mp hg).2
      have hstarts' : g.StartsFrom a.enums := by
        rw [Field.StartsFrom, htype]
        exact hstarts
      have hread := hreadOnly g (mem_fields_of_mem_writableFields h he hg) hstarts'
      rw [hwritable.2.2.2] at hread
      cases hread
    · rw [methods_eq h] at hm
      obtain ⟨r, rfl⟩ := Method.eq_remove_of_mem_ofRoot hm hremove
      exact .inl ⟨rfl, List.mem_singleton.mp hp⟩
    · exact .inr hchild

end Aggregate

/-- In a compiled model a child is built from what can be set of it and of the entities that it
holds singly, and from nothing else. -/
theorem takesWritable_of_compileDocument {options : Options} {d : Declared.Document} {c : Compiled}
    (h : compileDocument options d = .ok c) :
    List.Forall₂ Aggregate.TakesWritable d.aggregates c.model.aggregates := by
  obtain ⟨haccepted, -, hstep⟩ := exists_compileDocument_iff.mp ⟨c, h, rfl⟩
  refine Forall₂.imp_of_mem hstep fun x hx a _ hresolve => ?_
  exact Aggregate.takesWritable_of_resolve (haccepted.1.aggregates x hx) hresolve

/-- Orders with items, some of whose fields cannot be set, and with a note for each item. -/
def orderOfStages (idType : String) : Declared.Document :=
  let stage : Declared.EnumType :=
    { name := "Stage", values := ["NEW", "DONE"], transitions := none, initialValue := some "NEW"
      description := none }
  ⟨[{ Aggregate.plainAggregate "Order"
      [Aggregate.plainEntity "order" true []
        [Aggregate.plainRelationship .oneToMany "item" none, toItem (some "order")],
       { Aggregate.plainEntity "item" false
          [{ name := "id", type := idType }, { name := "unit price", type := "BigDecimal" },
           { name := "total", type := "Long", readOnly := true },
           { name := "stage", type := "Stage" }, { name := "created-by", type := "String" }]
          [Aggregate.plainRelationship .oneToOne "note" none] with
         audit := some { enabled := some true, trackUser := false } },
       Aggregate.plainEntity "note" false
        [{ name := "id", type := "Long" }, { name := "text", type := "String" }] []] with
      enums := [stage] }]⟩

theorem takesWritable_of_compileDocument_orderOfStages :
    ∃ c, compileDocument {} (orderOfStages "UUID") = .ok c ∧
      List.Forall₂ Aggregate.TakesWritable (orderOfStages "UUID").aggregates c.model.aggregates ∧
      c.model.aggregates.flatMap (fun a => a.methods.map fun m => (m.name, m.parameters)) =
        [("addItem", [⟨"unitPrice", "BigDecimal"⟩, ⟨"noteText", "String"⟩]),
         ("addItem", [⟨"item", "Item"⟩]), ("removeItem", [⟨"id", "UUID"⟩]), ("getItems", []),
         ("assignItem", [⟨"unitPrice", "BigDecimal"⟩]), ("assignItem", [⟨"item", "Item"⟩])] :=
  ⟨_, rfl, @takesWritable_of_compileDocument {} (orderOfStages "UUID") _ rfl, by decide +kernel⟩

/-- The description is compiled even where warnings count, and a method takes, by its name and
type, a field of its target that an enum sets at the start. -/
def TakesStarted (d : Declared.Document) : Prop :=
  ∃ c, compileDocument { strict := true } d = .ok c ∧
    ∃ a ∈ c.model.aggregates, ∃ e ∈ a.secondaryEntities, ∃ f ∈ e.fields, f.StartsFrom a.enums ∧
      ∃ m ∈ a.methods, m.targetEntity = e.name ∧ f.parameter "" ∈ m.parameters

/-- An id may be of a type that an enum sets, and children are removed by it all the same. -/
theorem takesStarted_orderOfStages : TakesStarted (orderOfStages "Stage") :=
  ⟨_, rfl, by decide +kernel⟩

end DomainCompiler.Model
