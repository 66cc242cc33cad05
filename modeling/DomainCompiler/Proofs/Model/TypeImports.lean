import DomainCompiler.Proofs.Model.Fields
import DomainCompiler.Proofs.Model.Methods
import DomainCompiler.Proofs.Model.Root
import DomainCompiler.Proofs.Model.ValueObjects
import DomainCompiler.Proofs.Text.Word

/-!
# What the root imports for types

A root has types of its own, those of its fields and relationships, and it has those that its
methods give back and take, which come from the fields of its children and of their children. Two
functions look at them, one of which knows about lists. They leave out relationships, whose types
are names of classes; of these a method takes the ones that the root looks after.
-/

namespace DomainCompiler.Model

open DomainCompiler.Naming
open DomainCompiler.Text
open DomainCompiler.Traversal

/-! ### Types in lists -/

namespace Imports

/-- The type is written as a list. -/
def IsList (type : String) : Prop := (listElement? type.toList).isSome = true

instance : DecidablePred IsList := fun _ => inferInstanceAs (Decidable (_ = _))

theorem isWord_of_mem_typeImports {e : String × String} (he : e ∈ typeImports) :
    IsWord e.1.toList := by
  have htable : ∀ e ∈ typeImports, IsWord e.1.toList := by decide +kernel
  exact htable e he

theorem words_list (type : String) :
    words ("List<" ++ type ++ ">").toList = "List".toList :: words type.toList := by
  have htext : ("List<" ++ type ++ ">").toList =
      "List".toList ++ '<' :: (type.toList ++ ['>']) := by
    rw [String.toList_append, String.toList_append]
    rfl
  have hlist : words "List".toList = ["List".toList] := by decide +kernel
  have hnil : words [] = [] := by decide
  rw [htext, words_append_cons (by decide), words_append_cons (by decide), hlist, hnil,
    List.append_nil]
  rfl

theorem hasWord_list {e : String × String} (he : e ∈ typeImports) (type : String) :
    hasWord e.1 ("List<" ++ type ++ ">") = hasWord e.1 type := by
  have hother : ∀ e ∈ typeImports, e.1.toList ≠ "List".toList := by decide
  have hword := isWord_of_mem_typeImports he
  rw [Bool.eq_iff_iff, hasWord_iff_mem_words hword, hasWord_iff_mem_words hword, words_list,
    List.mem_cons, or_iff_right (hother e he)]

/-- A list calls for what its elements call for. -/
theorem ofType_list (type : String) : ofType ("List<" ++ type ++ ">") = ofType type := by
  refine List.filterMap_congr fun e he => ?_
  rw [hasWord_list he]

theorem ofType_void : ofType "void" = [] := by decide +kernel

/-! ### Imports that the table gives -/

def tableImports : List String := typeImports.map (·.2)

theorem mem_tableImports_of_mem_ofType {type s : String} (h : s ∈ ofType type) :
    s ∈ tableImports := by
  obtain ⟨e, he, hs⟩ := List.mem_filterMap.mp h
  split at hs
  · exact List.mem_map.mpr ⟨e, he, Option.some.inj hs⟩
  · cases hs

section Table

variable {types : List String} {enums : List EnumType} {o : Options} {s : String}

theorem mem_ofTypes_iff (hs : s ∈ tableImports) :
    s ∈ ofTypes types enums o ↔ ∃ t ∈ types, s ∈ ofType t := by
  have hnoEnum : s ∉ ofEnums types enums o := by
    intro hmem
    obtain ⟨-, t, -, -, rfl⟩ := mem_ofEnums_iff.mp hmem
    have htable : ∀ s ∈ tableImports, dots s = 2 := by decide
    have htwo := htable _ hs
    have hthree := o.three_le_dots_enumImport (withoutList t)
    omega
  rw [ofTypes, List.mem_append, or_iff_left hnoEnum, List.mem_flatMap]

theorem mem_ofEntity_iff {fields : List Field} {relationships : List Relationship}
    (hs : s ∈ tableImports) :
    s ∈ ofEntity fields relationships enums o ↔ ∃ f ∈ fields, s ∈ ofType f.resolvedType := by
  have hnoList : ∀ needed : Bool,
      s ∉ if needed then [listImport, arrayListImport, collectionsImport] else [] := by
    have htable : ∀ s ∈ tableImports, ∀ needed : Bool,
        s ∉ if needed then [listImport, arrayListImport, collectionsImport] else [] := by decide
    exact htable s hs
  rw [ofEntity, NameSet.mem_ofList, List.mem_append, or_iff_left (hnoList _), mem_ofTypes_iff hs]
  simp only [List.mem_map, exists_exists_and_eq_and]

theorem listImport_mem_ofEntity {fields : List Field} {relationships : List Relationship}
    (h : (∃ f ∈ fields, f.isCollection = true) ∨ ∃ r ∈ relationships, r.isCollection = true) :
    listImport ∈ ofEntity fields relationships enums o := by
  have hneeded : (fields.any (·.isCollection) || relationships.any (·.isCollection)) = true := by
    simpa only [Bool.or_eq_true, List.any_eq_true] using h
  rw [ofEntity, NameSet.mem_ofList, hneeded, if_pos rfl]
  exact List.mem_append_right _ List.mem_cons_self

end Table

end Imports

/-! ### Fields -/

/-- What is written as a list is one, unless its name is taken for that of a class. -/
theorem TypeRef.of_isList_render {type : String} {values : Option (List String)}
    (h : Imports.IsList (resolve type values).render) :
    (resolve type values).isCollection = true ∨
      ∃ own, resolve type values = .userDefined (pascal type) own := by
  cases values with
  | some values => exact .inr ⟨true, rfl⟩
  | none =>
    cases hlist : listElement? type.toList with
    | some inner =>
      rw [resolve_none_eq_list hlist]
      exact .inl rfl
    | none =>
      rw [resolve_none_eq_name hlist] at h ⊢
      split at h
      · rw [render, Imports.IsList, hlist] at h
        cases h
      · next hscalar => exact .inr ⟨false, if_neg hscalar⟩

theorem Field.ResolvedFrom.of_isList {enums : List EnumType} {y : Declared.Field} {f : Field}
    (hresolved : ResolvedFrom enums y f) (h : Imports.IsList f.resolvedType) :
    f.isCollection = true ∨ ∃ own, f.typeRef = .userDefined (pascal f.declaredType) own := by
  obtain ⟨_, _, _, rfl⟩ := hresolved
  rw [resolve, TypeRef.collectionElement_isSome]
  exact TypeRef.of_isList_render h

/-! ### Relationships -/

namespace Relationship

/-- The type is made of the kind and the target. -/
structure Typed (r : Relationship) : Prop where
  resolvedType : r.resolvedType = fieldType r.kind r.target
  isCollection : r.isCollection = r.kind.isToMany

theorem typed_of_declares {suffix : String} {d : Declared.Relationship} {r : Relationship}
    (h : Declares suffix d r) : r.Typed := by
  obtain ⟨declared, -, rfl⟩ := h
  exact ⟨rfl, rfl⟩

theorem typed_of_inverse? {owner suffix : String} {d : Declared.Relationship}
    {e : String × Relationship} (h : inverse? owner suffix d = some e) : e.2.Typed := by
  rw [inverse?] at h
  split at h
  · next kind _ _ hkind =>
    cases h
    refine ⟨rfl, ?_⟩
    cases hk : d.kind <;> rw [hk] at hkind <;> cases hkind <;> rfl
  · cases h

theorem typed_of_impliedOn? {suffix name : String} {own : List String}
    {p : Declared.Entity × Declared.Relationship} {r : Relationship}
    (h : impliedOn? suffix name own p = some r) : r.Typed := by
  obtain ⟨h, -⟩ := Option.filter_eq_some_iff.mp h
  obtain ⟨e, he, rfl⟩ := Option.map_eq_some_iff.mp h
  exact typed_of_inverse? (Option.filter_eq_some_iff.mp he).1

end Relationship

/-! ### Methods -/

namespace Method

/-- What the method gives back and what it takes. -/
def types (m : Method) : List String := m.returnType :: m.parameters.map (·.type)

variable {root : Entity} {secondary : List Entity} {m : Method}

/-- Of the methods of a root those of its collections and those that build a child take more than
the class of their target. -/
theorem of_mem_ofRoot (hm : m ∈ ofRoot root secondary) :
    (∃ r ∈ root.relationships, r.kind = .oneToMany) ∨ m.kind = .factoryAssign ∨
      m.kind = .assign ∧ m.types = ["void", m.targetEntity] := by
  rcases mem_ofRoot_iff.mp hm with ⟨r, hr, hkind, -⟩ | ⟨r, -, -, hm⟩
  · exact .inl ⟨r, hr, hkind⟩
  · refine .inr ?_
    rcases List.mem_append.mp hm with hfactory | hassign
    · obtain ⟨child, -, rfl⟩ := Option.map_eq_some_iff.mp (Option.mem_toList.mp hfactory)
      exact .inl rfl
    · obtain rfl := List.mem_singleton.mp hassign
      exact .inr ⟨rfl, rfl⟩

/-- A relationship that the root looks after has a method that takes its target. -/
theorem exists_takes_target {r : Relationship} (hr : r ∈ root.relationships)
    (hmanaged : r.Managed) :
    ∃ m ∈ ofRoot root secondary, ∃ p ∈ m.parameters, p.type = r.target := by
  rcases hmanaged with hkind | hkind
  · have hadd : add r (Entity.find? r.target secondary).isSome ∈ ofCollection secondary r :=
      List.mem_append_right _ List.mem_cons_self
    exact ⟨_, mem_ofRoot_iff.mpr (.inl ⟨r, hr, hkind, hadd⟩), _, List.mem_cons_self, rfl⟩
  · have hassign : assign r (Entity.find? r.target secondary).isSome ∈ ofSingle secondary r :=
      List.mem_append_right _ List.mem_cons_self
    exact ⟨_, mem_ofRoot_iff.mpr (.inr ⟨r, hr, hkind, hassign⟩), _, List.mem_cons_self, rfl⟩

/-- What is given back is nothing, or a list of targets. -/
theorem returnType_of_made {a : Aggregate} (h : Made a m) :
    m.returnType = "void" ∨ ∃ r ∈ a.rootEntity.relationships, r.Managed ∧
      m.returnType = "List<" ++ r.target ++ ">" := by
  cases h with
  | getter hr hmanaged => exact .inr ⟨_, hr, hmanaged, rfl⟩
  | _ => exact .inl rfl

end Method

/-! ### The root -/

namespace Aggregate

open Imports (tableImports ofType listImport IsList)

/-- What the root imports for the types of its fields, its relationships and its methods. -/
structure ImportsTypes (a : Aggregate) : Prop where
  fields : ∀ f ∈ a.rootEntity.fields,
    (∀ s ∈ ofType f.resolvedType, s ∈ a.rootEntity.requiredImports) ∧
      (IsList f.resolvedType → listImport ∈ a.rootEntity.requiredImports ∨
        ∃ own, f.typeRef = .userDefined (pascal f.declaredType) own)
  relationships : ∀ r ∈ a.rootEntity.relationships,
    (r.Managed → ∀ s ∈ ofType r.resolvedType, s ∈ a.rootEntity.requiredImports) ∧
      (listImport ∈ a.rootEntity.requiredImports ∨
        r.kind.isToMany = false ∧ r.resolvedType = r.target)
  methods : ∀ m ∈ a.methods, ∀ t ∈ m.types,
    (∀ s ∈ ofType t, s ∈ a.rootEntity.requiredImports) ∧
      (IsList t → listImport ∈ a.rootEntity.requiredImports ∨
        m.kind = .assign ∧ t = m.targetEntity ∨ m.kind = .factoryAssign)
  /-- Nothing else is imported from the table. -/
  only : ∀ s ∈ tableImports, s ∈ a.rootEntity.requiredImports →
    (∃ f ∈ a.rootEntity.fields, s ∈ ofType f.resolvedType) ∨
      ∃ m ∈ a.methods, ∃ t ∈ m.types, s ∈ ofType t

variable {o : Options} {d : Declared.Aggregate} {a : Aggregate}

theorem typed_of_mem_relationships (h : resolve o d = .ok a) {e : Entity}
    (he : e ∈ a.allEntities) {r : Relationship} (hr : r ∈ e.relationships) : r.Typed := by
  obtain ⟨x, -, -, declared, hdeclared, hrelationships⟩ :=
    Forall₂.exists_left (forall₂_relationships h) he
  rw [hrelationships] at hr
  rcases List.mem_append.mp hr with hown | hinverse
  · obtain ⟨y, -, hy⟩ := Forall₂.exists_left hdeclared hown
    exact Relationship.typed_of_declares hy
  · obtain ⟨p, -, hp⟩ := List.mem_filterMap.mp hinverse
    exact Relationship.typed_of_impliedOn? hp

/-- Of the table the root imports what its fields and the parameters of its methods call for. -/
theorem mem_rootImports_iff (h : resolve o d = .ok a) {s : String} (hs : s ∈ tableImports) :
    s ∈ a.rootEntity.requiredImports ↔
      (∃ f ∈ a.rootEntity.fields, s ∈ ofType f.resolvedType) ∨
        ∃ m ∈ a.methods, ∃ p ∈ m.parameters, s ∈ ofType p.type := by
  rw [requiredImports_rootEntity h, NameSet.mem_ofList, List.mem_append,
    Imports.mem_ofEntity_iff hs, methodImports, Imports.ofParameters, NameSet.mem_ofList,
    Imports.mem_ofTypes_iff hs]
  simp only [List.mem_flatMap, List.mem_map]
  grind

theorem listImport_mem_rootImports (h : resolve o d = .ok a)
    (hcollection : (∃ f ∈ a.rootEntity.fields, f.isCollection = true) ∨
      ∃ r ∈ a.rootEntity.relationships, r.kind.isToMany = true) :
    listImport ∈ a.rootEntity.requiredImports := by
  rw [requiredImports_rootEntity h, NameSet.mem_ofList]
  refine List.mem_append_left _ (Imports.listImport_mem_ofEntity (hcollection.imp_right ?_))
  rintro ⟨r, hr, htoMany⟩
  have htyped := typed_of_mem_relationships h (rootEntity_mem_allEntities h) hr
  exact ⟨r, hr, htyped.isCollection.trans htoMany⟩

theorem ofType_target_subset (h : resolve o d = .ok a) {r : Relationship}
    (hr : r ∈ a.rootEntity.relationships) (hmanaged : r.Managed) :
    ∀ s ∈ ofType r.target, s ∈ a.rootEntity.requiredImports := by
  intro s hs
  obtain ⟨m, hm, p, hp, htype⟩ := Method.exists_takes_target hr hmanaged
  rw [← methods_eq h] at hm
  have htable := Imports.mem_tableImports_of_mem_ofType hs
  exact (mem_rootImports_iff h htable).mpr (.inr ⟨m, hm, p, hp, htype ▸ hs⟩)

theorem ofType_returnType_subset (h : resolve o d = .ok a) {m : Method} (hm : m ∈ a.methods) :
    ∀ s ∈ ofType m.returnType, s ∈ a.rootEntity.requiredImports := by
  rcases Method.returnType_of_made (Method.made_of_mem_methods (methods_eq h) hm) with
    hvoid | ⟨r, hr, hmanaged, hlist⟩
  · rw [hvoid, Imports.ofType_void]
    exact nofun
  · rw [hlist, Imports.ofType_list]
    exact ofType_target_subset h hr hmanaged

theorem importsTypes_of_resolve (h : resolve o d = .ok a) : ImportsTypes a := by
  have hroot := rootEntity_mem_allEntities h
  constructor
  case fields =>
    intro f hf
    refine ⟨fun s hs => ?_, fun hlist => ?_⟩
    · have htable := Imports.mem_tableImports_of_mem_ofType hs
      exact (mem_rootImports_iff h htable).mpr (.inl ⟨f, hf, hs⟩)
    · have hmem : f ∈ a.fields := List.mem_append_left _ (List.mem_flatMap.mpr ⟨_, hroot, hf⟩)
      obtain ⟨y, hresolved⟩ := exists_resolvedFrom h hmem
      refine (hresolved.of_isList hlist).imp_left fun hcollection => ?_
      exact listImport_mem_rootImports h (.inl ⟨f, hf, hcollection⟩)
  case relationships =>
    intro r hr
    have htyped := typed_of_mem_relationships h hroot hr
    refine ⟨fun hmanaged => ?_, ?_⟩
    · rw [htyped.resolvedType, Relationship.fieldType]
      split
      · rw [Imports.ofType_list]
        exact ofType_target_subset h hr hmanaged
      · exact ofType_target_subset h hr hmanaged
    · cases htoMany : r.kind.isToMany with
      | true => exact .inl (listImport_mem_rootImports h (.inr ⟨r, hr, htoMany⟩))
      | false =>
        rw [htyped.resolvedType, Relationship.fieldType, htoMany]
        exact .inr ⟨rfl, rfl⟩
  case methods =>
    intro m hm t ht
    refine ⟨fun s hs => ?_, fun hlist => ?_⟩
    · rcases List.mem_cons.mp ht with rfl | ht
      · exact ofType_returnType_subset h hm s hs
      · obtain ⟨p, hp, rfl⟩ := List.mem_map.mp ht
        have htable := Imports.mem_tableImports_of_mem_ofType hs
        exact (mem_rootImports_iff h htable).mpr (.inr ⟨m, hm, p, hp, hs⟩)
    · rw [methods_eq h] at hm
      rcases Method.of_mem_ofRoot hm with ⟨r, hr, hkind⟩ | hfactory | ⟨hassign, htypes⟩
      · exact .inl (listImport_mem_rootImports h (.inr ⟨r, hr, by rw [hkind]; rfl⟩))
      · exact .inr (.inr hfactory)
      · -- A method that assigns a finished child gives nothing back.
        have hvoid : ¬IsList "void" := by decide +kernel
        rw [htypes] at ht
        simp only [List.mem_cons, List.not_mem_nil, or_false] at ht
        rcases ht with rfl | rfl
        · exact absurd hlist hvoid
        · exact .inr (.inl ⟨hassign, rfl⟩)
  case only =>
    intro s htable hs
    refine ((mem_rootImports_iff h htable).mp hs).imp_right ?_
    rintro ⟨m, hm, p, hp, hs⟩
    exact ⟨m, hm, p.type, List.mem_cons_of_mem _ (List.mem_map_of_mem hp), hs⟩

end Aggregate

/-- In a compiled model the root imports what the types of its fields and its methods call for, and
nothing else of the table; lists it imports for all of them but what is left to the methods that
build a single child. -/
theorem importsTypes_of_compileDocument {options : Options} {d : Declared.Document} {c : Compiled}
    (h : compileDocument options d = .ok c) : ∀ a ∈ c.model.aggregates, a.ImportsTypes := by
  intro a ha
  obtain ⟨x, -, -, hresolve⟩ := exists_sound_of_mem_compiled h ha
  exact Aggregate.importsTypes_of_resolve hresolve

theorem importsTypes_of_compileDocument_orderWithNotes :
    ∃ c, compileDocument {} orderWithNotes = .ok c ∧ (∀ a ∈ c.model.aggregates, a.ImportsTypes) ∧
      c.model.aggregates.map (fun a => a.rootEntity.requiredImports) =
        [["java.math.BigDecimal", "java.util.ArrayList", "java.util.Collections",
          "java.util.List", "java.util.UUID"]] :=
  ⟨_, rfl, @importsTypes_of_compileDocument {} orderWithNotes _ rfl, by decide +kernel⟩

/-! ### Types that are left out -/

namespace Aggregate

/-- The types of the fields and relationships of the root, and those of its methods. -/
def rootTypes (a : Aggregate) : List String :=
  a.rootEntity.fields.map (·.resolvedType) ++ a.rootEntity.relationships.map (·.resolvedType) ++
    a.methods.flatMap Method.types

/-- The root imports what the type calls for, lists included. -/
def Imported (a : Aggregate) (type : String) : Prop :=
  (∀ s ∈ Imports.ofType type, s ∈ a.rootEntity.requiredImports) ∧
    (Imports.IsList type → Imports.listImport ∈ a.rootEntity.requiredImports)

instance (a : Aggregate) : DecidablePred (Imported a) :=
  fun _ => inferInstanceAs (Decidable (_ ∧ _))

end Aggregate

/-- The description is compiled even where warnings count, and a root lacks an import. -/
def LacksTypeImport (d : Declared.Document) : Prop :=
  ∃ c, compileDocument { strict := true } d = .ok c ∧
    ¬∀ a ∈ c.model.aggregates, ∀ t ∈ a.rootTypes, a.Imported t

instance : DecidablePred LacksTypeImport := fun _ => inferInstanceAs (Decidable (∃ _, _ ∧ _))

/-- Orders with the fields, and items or other entities that they relate to. -/
def orderRelatedTo (fields : List Declared.Field) (relationships : List Declared.Relationship)
    (target : String) (targetFields : List Declared.Field) : Declared.Document :=
  ⟨[Aggregate.plainAggregate "Order"
    [Aggregate.plainEntity "order" true fields relationships,
     Aggregate.plainEntity target false targetFields []]]⟩

/-- A list that builds a single child is not imported for that, an entity that is called like a
type of the table is imported for methods alone, and a name that is written as a list is none. -/
theorem lacksTypeImport_orderRelatedTo :
    LacksTypeImport (orderRelatedTo [] [Aggregate.plainRelationship .oneToOne "item" (some "order")]
        "item" [{ name := "tags", type := "List<String>" }]) ∧
      LacksTypeImport (orderRelatedTo [] [Aggregate.plainRelationship .manyToOne "Instant" none]
        "Instant" []) ∧
      LacksTypeImport (orderRelatedTo
        [{ name := "tag", type := "List<Tag>", enumValues := some ["NEW"] }] [] "item" []) := by
  decide +kernel

end DomainCompiler.Model
