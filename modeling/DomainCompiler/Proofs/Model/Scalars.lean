import DomainCompiler.Proofs.Model.EnumImports
import DomainCompiler.Proofs.Model.Root

/-!
# Fields of built-in types

A built-in type is told by its name, and so is everything that a description declares. Nothing keeps
a declaration from taking a name that is built in. The type of a field stays what it is then, but
the field counts as one of the declared value object or enum as well. What each declaration does is
listed; a field is left alone exactly where nothing in its aggregate has the name of its type.
-/

namespace DomainCompiler.Model

open DomainCompiler.Naming
open DomainCompiler.Traversal

theorem listElement?_of_scalar {type : String} (h : type ∈ scalarTypes) :
    listElement? type.toList = none := by
  have hnames : ∀ t ∈ scalarTypes, listElement? t.toList = none := by decide +kernel
  exact hnames type h

theorem TypeRef.resolve_scalar {type : String} (h : type ∈ scalarTypes) :
    resolve type none = .known type := by
  rw [resolve_none_eq_name (listElement?_of_scalar h), if_pos h]

theorem Imports.withoutList_of_scalar {type : String} (h : type ∈ scalarTypes) :
    withoutList type = type := by
  rw [withoutList, listElement?_of_scalar h]

theorem EnumType.isSome_find?_iff {name : String} {enums : List EnumType} :
    (find? name enums).isSome = true ↔ name ∈ enums.map (·.name) := by
  simp only [find?, List.find?_isSome, beq_iff_eq, List.mem_map]

/-! ### One field -/

namespace Field

/-- The declaration names a built-in type and says nothing else of what the field is. -/
def IsScalar (y : Declared.Field) : Prop :=
  y.type ∈ scalarTypes ∧ y.enumValues = none ∧ y.isValueObject = false

instance : DecidablePred IsScalar := fun _ => inferInstanceAs (Decidable (_ ∧ _ ∧ _))

/-- The field, whose owner has the imports, is of its built-in type and of nothing else. -/
def Kept (o : Options) (imports : List String) (y : Declared.Field) (f : Field) : Prop :=
  (f.resolvedType = y.type ∧ f.persistenceType = y.type) ∧
    (f.isEnum = false ∧ f.isValueObject = false ∧ f.autoInit = false) ∧
    f.readOnly = y.readOnly ∧ o.enumImport y.type ∉ imports

instance (o : Options) (imports : List String) : DecidableRel (Kept o imports) := fun _ _ =>
  inferInstanceAs (Decidable ((_ ∧ _) ∧ (_ ∧ _ ∧ _) ∧ _ ∧ _))

section Among

variable {o : Options} {valueObjects : List String} {enums : List EnumType}
  {seen : String → Prop} {imports : List String} {y : Declared.Field} {f : Field}

/-- What declarations of the same name make of a field of a built-in type: the value objects and
the enums that its type may mean, and the enums whose names its owner may import. -/
structure MeantAmong (o : Options) (valueObjects : List String) (enums : List EnumType)
    (seen : String → Prop) (imports : List String) (y : Declared.Field) (f : Field) : Prop where
  resolvedType : f.resolvedType = y.type
  isValueObject : f.isValueObject = true ↔ y.type ∈ valueObjects
  persistenceType : f.persistenceType =
    if y.type ∈ valueObjects then y.type ++ o.persistenceSuffix else y.type
  isEnum : f.isEnum = true ↔ y.type ∈ enums.map (·.name)
  autoInitValue : f.autoInitValue = (EnumType.find? y.type enums).bind (·.initialValue)
  autoInit : f.autoInit = f.autoInitValue.isSome
  readOnly : f.readOnly = (y.readOnly || f.autoInit)
  imported : o.enumImport y.type ∈ imports ↔ o.qualifiesEnums = true ∧ seen y.type

/-- No declaration has the name of the type, neither one that it may mean nor an imported one. -/
def Unnamed (o : Options) (valueObjects : List String) (enums : List EnumType)
    (seen : String → Prop) (y : Declared.Field) : Prop :=
  y.type ∉ valueObjects ∧ y.type ∉ enums.map (·.name) ∧ ¬(o.qualifiesEnums = true ∧ seen y.type)

theorem MeantAmong.kept_iff (h : f.MeantAmong o valueObjects enums seen imports y) :
    Kept o imports y f ↔ Unnamed o valueObjects enums seen y := by
  constructor
  · rintro ⟨-, ⟨hnoEnum, hnoValueObject, -⟩, -, hnoImport⟩
    refine ⟨fun hmem => ?_, fun hmem => ?_, mt h.imported.mpr hnoImport⟩
    · exact Bool.eq_false_iff.mp hnoValueObject (h.isValueObject.mpr hmem)
    · exact Bool.eq_false_iff.mp hnoEnum (h.isEnum.mpr hmem)
  · rintro ⟨hnoValueObject, hnoEnum, hnoImport⟩
    have hnone : EnumType.find? y.type enums = none :=
      Option.not_isSome_iff_eq_none.mp (mt EnumType.isSome_find?_iff.mp hnoEnum)
    have hautoInit : f.autoInit = false := by
      rw [h.autoInit, h.autoInitValue, hnone]
      rfl
    refine ⟨⟨h.resolvedType, ?_⟩, ⟨?_, ?_, hautoInit⟩, ?_, mt h.imported.mp hnoImport⟩
    · rw [h.persistenceType, if_neg hnoValueObject]
    · exact Bool.eq_false_iff.mpr (mt h.isEnum.mp hnoEnum)
    · exact Bool.eq_false_iff.mpr (mt h.isValueObject.mp hnoValueObject)
    · rw [h.readOnly, hautoInit, Bool.or_false]

/-- The field is what is meant, and left alone exactly where nothing else is. -/
structure ScalarAmong (o : Options) (valueObjects : List String) (enums : List EnumType)
    (seen : String → Prop) (imports : List String) (y : Declared.Field) (f : Field) : Prop
    extends MeantAmong o valueObjects enums seen imports y f where
  kept : Kept o imports y f ↔ Unnamed o valueObjects enums seen y

theorem MeantAmong.scalarAmong (h : f.MeantAmong o valueObjects enums seen imports y) :
    f.ScalarAmong o valueObjects enums seen imports y :=
  ⟨h, h.kept_iff⟩

end Among

/-- The field is what the declaration is resolved to, whether it was added or not. -/
def ResolvedAmong (valueObjects : List String) (enums : List EnumType) (suffix : String)
    (y : Declared.Field) (f : Field) : Prop :=
  ∃ synthetic, f = resolve valueObjects enums suffix synthetic y

theorem resolvedType_of_isScalar {valueObjects : List String} {enums : List EnumType}
    {suffix : String} {y : Declared.Field} {f : Field}
    (h : ResolvedAmong valueObjects enums suffix y f) (hscalar : IsScalar y) :
    f.resolvedType = y.type := by
  obtain ⟨synthetic, rfl⟩ := h
  rw [resolve, hscalar.2.1, TypeRef.resolve_scalar hscalar.1]
  rfl

theorem scalarAmong_of_resolvedAmong {o : Options} {valueObjects : List String}
    {enums : List EnumType} {seen : String → Prop} {imports : List String} {y : Declared.Field}
    {f : Field} (h : ResolvedAmong valueObjects enums o.persistenceSuffix y f)
    (hscalar : IsScalar y)
    (himported : o.enumImport y.type ∈ imports ↔ o.qualifiesEnums = true ∧ seen y.type) :
    f.ScalarAmong o valueObjects enums seen imports y := by
  refine MeantAmong.scalarAmong ?_
  have hresolved := resolvedType_of_isScalar h hscalar
  obtain ⟨synthetic, rfl⟩ := h
  obtain ⟨htype, hvalues, hflag⟩ := hscalar
  have href : TypeRef.resolve y.type y.enumValues = .known y.type := by
    rw [hvalues, TypeRef.resolve_scalar htype]
  constructor
  case resolvedType => exact hresolved
  case isValueObject => simp [resolve, href, hflag, TypeRef.render, TypeRef.collectionElement]
  case persistenceType => simp [resolve, href, hflag, TypeRef.persistence, TypeRef.render]
  case isEnum =>
    rw [← EnumType.isSome_find?_iff, resolve, href, hvalues]
    rfl
  case autoInitValue =>
    rw [resolve, href]
    rfl
  case autoInit => rfl
  case readOnly => rfl
  case imported => exact himported

end Field

/-! ### The fields of one aggregate -/

namespace Aggregate

/-- The enums whose names an entity may import: those of its aggregate and its own ones, and for
the types of its methods the root also sees what the other entities declare themselves. -/
def Sees (a : Aggregate) (e : Entity) (name : String) : Prop :=
  name ∈ (e.enums ++ a.enums).map (·.name) ∨
    e.isRoot = true ∧ (∃ e' ∈ a.allEntities, name ∈ e'.enums.map (·.name)) ∧
      ∃ m ∈ a.methods, ∃ p ∈ m.parameters, Imports.withoutList p.type = name

variable {o : Options} {d : Declared.Aggregate} {a : Aggregate}

theorem enumImport_mem_methodImports_iff {name : String} :
    o.enumImport name ∈ methodImports o a ↔ o.qualifiesEnums = true ∧
      ((∃ e ∈ a.allEntities, name ∈ e.enums.map (·.name)) ∨ name ∈ a.enums.map (·.name)) ∧
        ∃ m ∈ a.methods, ∃ p ∈ m.parameters, Imports.withoutList p.type = name := by
  rw [methodImports, Imports.enumImport_mem_ofParameters_iff, List.map_append, List.mem_append,
    List.map_flatMap]
  simp only [List.mem_flatMap, List.mem_map]
  grind

/-- An entity that has a field of a type imports the enum of that name exactly if it sees one. -/
theorem enumImport_mem_requiredImports_iff (h : resolve o d = .ok a) {e : Entity}
    (he : e ∈ a.allEntities) {f : Field} (hf : f ∈ e.fields) {name : String}
    (hname : Imports.withoutList f.resolvedType = name) :
    o.enumImport name ∈ e.requiredImports ↔ o.qualifiesEnums = true ∧ a.Sees e name := by
  have hofEntity : o.enumImport name ∈
      Imports.ofEntity e.fields e.relationships (e.enums ++ a.enums) o ↔
        o.qualifiesEnums = true ∧ name ∈ (e.enums ++ a.enums).map (·.name) := by
    rw [Imports.enumImport_mem_ofEntity_iff]
    exact and_congr_right fun _ => and_iff_left ⟨f, hf, hname⟩
  obtain ⟨before, root, after, haround⟩ := exists_around h
  have hmem : e = a.rootEntity ∨ e ∈ before ++ after := by
    rw [haround.allEntities] at he
    grind
  rcases hmem with rfl | hother
  · have hroot : a.rootEntity.isRoot = true := by
      rw [haround.rootEntity]
      exact haround.isRoot
    rw [requiredImports_rootEntity h, NameSet.mem_ofList, List.mem_append, hofEntity,
      enumImport_mem_methodImports_iff, ← and_or_left, Sees, and_iff_right hroot]
    refine and_congr_right fun _ => ?_
    -- What the aggregate declares is seen anyway, whether a method needs it or not.
    constructor
    · rintro (hseen | ⟨hother | hown, hmethods⟩)
      · exact .inl hseen
      · exact .inr ⟨hother, hmethods⟩
      · exact .inl (by rw [List.map_append]; exact List.mem_append_right _ hown)
    · rintro (hseen | ⟨hother, hmethods⟩)
      · exact .inl hseen
      · exact .inr ⟨.inl hother, hmethods⟩
  · have hsecondary : e.isRoot = false := haround.others e hother
    have hentities : e ∈ before ++ root :: after := by grind
    obtain ⟨x, -, hresolves⟩ := Forall₂.exists_left haround.entities hentities
    rw [hresolves.requiredImports_eq, ← enums_eq h, hofEntity, Sees, hsecondary]
    simp only [Bool.false_eq_true, false_and, or_false]

/-- What becomes of the fields of built-in types in an aggregate. -/
structure ResolvesScalars (o : Options) (d : Declared.Aggregate) (a : Aggregate) : Prop where
  /-- The fields that audit settings add are among those of the entities. -/
  entities : List.Forall₂ (fun x e => List.Forall₂ (fun y f => Field.IsScalar y →
      f.ScalarAmong o (a.valueObjects.map (·.name)) a.enums (a.Sees e) e.requiredImports y)
    (x.fields ++ (Entity.auditOf x).declarations) e.fields) d.entities a.allEntities
  /-- Inside a value object no other value object is meant. -/
  valueObjects : List.Forall₂ (fun x v => List.Forall₂ (fun y f => Field.IsScalar y →
      f.ScalarAmong o [] a.enums (· ∈ (v.enums ++ a.enums).map (·.name)) v.requiredImports y)
    x.fields v.fields) d.valueObjects a.valueObjects

theorem forall₂_resolvedAmong {valueObjects : List String} {enums : List EnumType}
    {suffix : String} (synthetic : Bool) (ds : List Declared.Field) :
    List.Forall₂ (Field.ResolvedAmong valueObjects enums suffix) ds
      (ds.map (Field.resolve valueObjects enums suffix synthetic)) :=
  List.forall₂_map_right_iff.mpr (List.forall₂_same.mpr fun _ _ => ⟨synthetic, rfl⟩)

theorem withoutList_of_isScalar {valueObjects : List String} {enums : List EnumType}
    {suffix : String} {y : Declared.Field} {f : Field}
    (h : Field.ResolvedAmong valueObjects enums suffix y f) (hscalar : Field.IsScalar y) :
    Imports.withoutList f.resolvedType = y.type := by
  rw [Field.resolvedType_of_isScalar h hscalar, Imports.withoutList_of_scalar hscalar.1]

theorem resolvesScalars_of_resolve (h : resolve o d = .ok a) : ResolvesScalars o d a := by
  constructor
  case entities =>
    refine Forall₂.imp_of_mem (forall₂_allEntities h) fun x _ e he hx => ?_
    have hfields : List.Forall₂
        (Field.ResolvedAmong (a.valueObjects.map (·.name)) a.enums o.persistenceSuffix)
        (x.fields ++ (Entity.auditOf x).declarations) e.fields := by
      obtain ⟨e', imports, hresolves, rfl⟩ := hx
      rw [withImports_fields, hresolves.fields_eq, ← enums_eq h, ← valueObjects_eq h]
      exact List.rel_append (forall₂_resolvedAmong false _) (forall₂_resolvedAmong true _)
    refine Forall₂.imp_of_mem hfields fun y _ f hf hresolved hscalar => ?_
    exact Field.scalarAmong_of_resolvedAmong hresolved hscalar
      (enumImport_mem_requiredImports_iff h he hf (withoutList_of_isScalar hresolved hscalar))
  case valueObjects =>
    rw [valueObjects_eq h, enums_eq h]
    refine List.forall₂_map_right_iff.mpr (List.forall₂_same.mpr fun x _ => ?_)
    refine Forall₂.imp_of_mem (forall₂_resolvedAmong false x.fields)
      fun y _ f hf hresolved hscalar => ?_
    refine Field.scalarAmong_of_resolvedAmong hresolved hscalar ?_
    refine Imports.enumImport_mem_ofValueObject_iff.trans (and_congr_right fun _ => ?_)
    exact and_iff_left ⟨f, hf, withoutList_of_isScalar hresolved hscalar⟩

end Aggregate

/-- In a compiled model a field of a built-in type is of that type. It counts as a value object or
an enum, and an enum of that name is imported with it, exactly where its own aggregate declares
one that has the name of the type. -/
theorem resolvesScalars_of_compileDocument {options : Options} {d : Declared.Document}
    {c : Compiled} (h : compileDocument options d = .ok c) :
    List.Forall₂ (Aggregate.ResolvesScalars options) d.aggregates c.model.aggregates := by
  obtain ⟨-, -, hstep⟩ := exists_compileDocument_iff.mp ⟨c, h, rfl⟩
  exact hstep.imp fun x a hresolve => Aggregate.resolvesScalars_of_resolve hresolve

open Aggregate (plainEntity plainAggregate)

/-- Orders with the fields, next to value objects and enums. -/
def ordersOf (fields : List Declared.Field) (valueObjects : List String)
    (enums : List Declared.EnumType) : Declared.Document :=
  ⟨[{ plainAggregate "Order" [plainEntity "order" true fields []] with
      enums
      valueObjects := valueObjects.map fun name =>
        { name, fields := [{ name := "text", type := "String" }], methods := []
          validation := [], description := none } }]⟩

/-- An enum that has the name of a built-in type. -/
def stringEnum : Declared.EnumType :=
  { name := "String", values := ["OPEN"], transitions := none, initialValue := some "OPEN"
    description := none }

theorem resolvesScalars_of_compileDocument_ordersOf :
    ∃ c, compileDocument namedOptions (ordersOf [idOf "id"] ["Long"] [stringEnum]) = .ok c ∧
      List.Forall₂ (Aggregate.ResolvesScalars namedOptions)
        (ordersOf [idOf "id"] ["Long"] [stringEnum]).aggregates c.model.aggregates ∧
      c.model.aggregates.flatMap (fun a => a.fields.map fun f =>
          (f.name, f.persistenceType, f.isValueObject, f.isEnum, f.autoInitValue)) =
        [("id", "LongJpa", true, false, none), ("text", "String", false, true, some "OPEN")] :=
  ⟨_, rfl,
    @resolvesScalars_of_compileDocument namedOptions (ordersOf [idOf "id"] ["Long"] [stringEnum])
      _ rfl,
    by decide +kernel⟩

/-! ### Fields that something else captures -/

/-- All fields of built-in types are of these types and of nothing else. -/
def Aggregate.KeepsScalars (o : Options) (d : Declared.Aggregate) (a : Aggregate) : Prop :=
  List.Forall₂ (fun x e => List.Forall₂ (fun y f => Field.IsScalar y →
      f.Kept o e.requiredImports y)
    (x.fields ++ (Entity.auditOf x).declarations) e.fields) d.entities a.allEntities ∧
  List.Forall₂ (fun x v => List.Forall₂ (fun y f => Field.IsScalar y →
      f.Kept o v.requiredImports y) x.fields v.fields) d.valueObjects a.valueObjects

instance (o : Options) : DecidableRel (Aggregate.KeepsScalars o) :=
  fun _ _ => inferInstanceAs (Decidable (_ ∧ _))

/-- The description is compiled even where warnings count, and a field is captured. -/
def CapturesScalar (d : Declared.Document) : Prop :=
  ∃ c, compileDocument namedOptions d = .ok c ∧
    ¬List.Forall₂ (Aggregate.KeepsScalars namedOptions) d.aggregates c.model.aggregates

instance : DecidablePred CapturesScalar := fun _ => inferInstanceAs (Decidable (∃ _, _ ∧ _))

/-- The name may be that of an enum or of a value object, or another field may give it to an enum
of its own. -/
theorem capturesScalar_ordersOf :
    CapturesScalar (ordersOf [{ name := "text", type := "String" }] [] [stringEnum]) ∧
      CapturesScalar (ordersOf [{ name := "id", type := "Long" }] ["Long"] []) ∧
      CapturesScalar (ordersOf [{ name := "text", type := "String" },
        { name := "state", type := "String", enumValues := some ["OPEN"] }] [] []) := by
  decide +kernel

end DomainCompiler.Model
