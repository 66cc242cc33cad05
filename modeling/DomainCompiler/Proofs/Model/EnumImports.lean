import DomainCompiler.Proofs.Compile.Agreement
import DomainCompiler.Proofs.Model.Imports
import DomainCompiler.Proofs.Model.Registry
import DomainCompiler.Proofs.Model.ValueObjects

/-!
# Enums that an owner sees

An entity or a value object sees the enums of its aggregate and those that its own fields declare.
What its fields rest on is imported where it is one of these. The registry holds the enums of all
aggregates and of all fields, and the rules are content with a name that is found anywhere, so that
a field may rest on an enum that its owner does not see and that nothing imports.
-/

namespace DomainCompiler.Model

open DomainCompiler.Naming
open DomainCompiler.Traversal

/-- The type is not a list of lists. -/
def Field.Unnested (f : Field) : Prop :=
  listElement? (Imports.withoutList f.resolvedType).toList = none

theorem innermostName_eq_withoutList {type : String}
    (h : listElement? (Imports.withoutList type).toList = none) :
    innermostName type = Imports.withoutList type := by
  rw [Imports.withoutList] at h ⊢
  cases hlist : listElement? type.toList with
  | none =>
    rw [innermostName, innermost_of_listElement?_eq_none hlist]
    exact String.ofList_toList
  | some inner =>
    rw [hlist, String.toList_ofList] at h
    rw [innermostName, innermost_of_listElement? hlist, innermost_of_listElement?_eq_none h]

/-! ### One owner -/

/-- Whatever enum that is seen a field rests on is imported. -/
def ImportsUsed (o : Options) (seen : List EnumType) (fields : List Field)
    (imports : List String) : Prop :=
  ∀ f ∈ fields, f.Unnested → innermostName f.resolvedType ∈ seen.map (·.name) →
    o.enumImport (innermostName f.resolvedType) ∈ imports

/-- No other enum is imported than those that are seen. -/
def ImportsSeen (o : Options) (seen : List EnumType) (imports : List String) : Prop :=
  ∀ name, o.enumImport name ∈ imports → name ∈ seen.map (·.name)

section Owners

variable {o : Options} {seen : List EnumType} {fields : List Field}
  {relationships : List Relationship}

theorem importsUsed_ofEntity (h : o.qualifiesEnums = true) :
    ImportsUsed o seen fields (Imports.ofEntity fields relationships seen o) := by
  intro f hf hunnested hname
  have hbase := innermostName_eq_withoutList hunnested
  exact Imports.enumImport_mem_ofEntity_iff.mpr ⟨h, hname, f, hf, hbase.symm⟩

theorem importsSeen_ofEntity :
    ImportsSeen o seen (Imports.ofEntity fields relationships seen o) :=
  fun _ h => (Imports.enumImport_mem_ofEntity_iff.mp h).2.1

theorem importsUsed_ofValueObject (h : o.qualifiesEnums = true) :
    ImportsUsed o seen fields (Imports.ofValueObject fields seen o) := by
  intro f hf hunnested hname
  have hbase := innermostName_eq_withoutList hunnested
  exact Imports.enumImport_mem_ofValueObject_iff.mpr ⟨h, hname, f, hf, hbase.symm⟩

theorem importsSeen_ofValueObject :
    ImportsSeen o seen (Imports.ofValueObject fields seen o) :=
  fun _ h => (Imports.enumImport_mem_ofValueObject_iff.mp h).2.1

end Owners

/-! ### All owners of an aggregate -/

namespace Aggregate

/-- How the owners of fields in an aggregate import enums. -/
structure ImportsEnums (o : Options) (a : Aggregate) : Prop where
  entities : ∀ e ∈ a.allEntities,
    ImportsUsed o (e.enums ++ a.enums) e.fields e.requiredImports
  valueObjects : ∀ v ∈ a.valueObjects,
    ImportsUsed o (v.enums ++ a.enums) v.fields v.requiredImports
  secondarySeen : ∀ e ∈ a.secondaryEntities,
    ImportsSeen o (e.enums ++ a.enums) e.requiredImports
  valueObjectsSeen : ∀ v ∈ a.valueObjects,
    ImportsSeen o (v.enums ++ a.enums) v.requiredImports
  /-- For its methods the root also sees what the other entities declare themselves. -/
  rootSeen : ∀ name, o.enumImport name ∈ a.rootEntity.requiredImports →
    name ∈ (a.rootEntity.enums ++ a.enums).map (·.name) ∨
      (∃ e ∈ a.secondaryEntities, name ∈ e.enums.map (·.name)) ∧
        ∃ m ∈ a.methods, ∃ p ∈ m.parameters, Imports.withoutList p.type = name

variable {o : Options} {d : Declared.Aggregate} {a : Aggregate}

theorem importsUsed_of_mem_allEntities (hqualifies : o.qualifiesEnums = true)
    (h : resolve o d = .ok a) {e : Entity} (he : e ∈ a.allEntities) :
    ImportsUsed o (e.enums ++ a.enums) e.fields e.requiredImports := by
  obtain ⟨x, -, e', imports, hresolves, rfl⟩ := Forall₂.exists_left (forall₂_allEntities h) he
  rw [withImports_eq hresolves.ascending, enums_eq h]
  intro f hf hunnested hname
  have hown : o.enumImport (innermostName f.resolvedType) ∈
      Imports.ofEntity e'.fields e'.relationships (e'.enums ++ resolvedEnums d) o :=
    importsUsed_ofEntity hqualifies f hf hunnested hname
  rw [← hresolves.requiredImports_eq] at hown
  exact (NameSet.mem_ofList _ _).mpr (List.mem_append_left _ hown)

theorem exists_resolves_of_mem_secondaryEntities (h : resolve o d = .ok a) {e : Entity}
    (he : e ∈ a.secondaryEntities) : ∃ x ∈ d.entities, Resolves o d x e := by
  obtain ⟨entities, root, hstep, -, rfl⟩ := resolve_eq_ok_iff.mp h
  exact Forall₂.exists_left hstep (List.mem_of_mem_filter he)

/-- What entities declare themselves is declared by the root or by one of the others. -/
theorem mem_enums_of_mem_entities {entities : List Entity} {root : Entity}
    (hroots : entities.filter (·.isRoot) = [root]) {n : EnumType}
    (hn : n ∈ entities.flatMap (·.enums)) :
    n ∈ root.enums ∨ ∃ e ∈ entities.filter (fun e => !e.isRoot), n ∈ e.enums := by
  obtain ⟨e, he, hn⟩ := List.mem_flatMap.mp hn
  cases hroot : e.isRoot with
  | true =>
    have hmem : e ∈ entities.filter (·.isRoot) := List.mem_filter.mpr ⟨he, hroot⟩
    rw [hroots, List.mem_singleton] at hmem
    exact .inl (hmem ▸ hn)
  | false => exact .inr ⟨e, List.mem_filter.mpr ⟨he, by rw [hroot]; rfl⟩, hn⟩

theorem seen_of_mem_rootImports (h : resolve o d = .ok a) {name : String}
    (hname : o.enumImport name ∈ a.rootEntity.requiredImports) :
    name ∈ (a.rootEntity.enums ++ a.enums).map (·.name) ∨
      (∃ e ∈ a.secondaryEntities, name ∈ e.enums.map (·.name)) ∧
        ∃ m ∈ a.methods, ∃ p ∈ m.parameters, Imports.withoutList p.type = name := by
  obtain ⟨entities, root, hstep, hroots, rfl⟩ := resolve_eq_ok_iff.mp h
  obtain ⟨x, -, hresolves⟩ := Forall₂.exists_left hstep (mem_of_filter_isRoot hroots)
  simp only [assemble, withImports_eq hresolves.ascending] at hname ⊢
  rw [NameSet.mem_ofList, List.mem_append, hresolves.requiredImports_eq,
    Imports.enumImport_mem_ofEntity_iff, Imports.enumImport_mem_ofParameters_iff] at hname
  rcases hname with ⟨-, hseen, -⟩ | ⟨-, hdeclared, t, ht, htype⟩
  · exact .inl hseen
  · obtain ⟨n, hn, rfl⟩ := List.mem_map.mp hdeclared
    obtain ⟨m, hm, ht⟩ := List.mem_flatMap.mp ht
    obtain ⟨p, hp, rfl⟩ := List.mem_map.mp ht
    rcases List.mem_append.mp hn with hn | hn
    · rcases mem_enums_of_mem_entities hroots hn with hown | ⟨e, he, hother⟩
      · exact .inl (List.mem_map_of_mem (List.mem_append_left _ hown))
      · exact .inr ⟨⟨e, he, List.mem_map_of_mem hother⟩, m, hm, p, hp, htype⟩
    · exact .inl (List.mem_map_of_mem (List.mem_append_right _ hn))

theorem importsEnums_of_resolve (hqualifies : o.qualifiesEnums = true)
    (h : resolve o d = .ok a) : ImportsEnums o a := by
  constructor
  case entities => exact fun e he => importsUsed_of_mem_allEntities hqualifies h he
  case valueObjects =>
    intro v hv
    rw [valueObjects_eq h] at hv
    obtain ⟨x, -, rfl⟩ := List.mem_map.mp hv
    rw [enums_eq h]
    exact importsUsed_ofValueObject hqualifies
  case secondarySeen =>
    intro e he
    obtain ⟨x, -, hresolves⟩ := exists_resolves_of_mem_secondaryEntities h he
    rw [hresolves.requiredImports_eq, enums_eq h]
    exact importsSeen_ofEntity
  case valueObjectsSeen =>
    intro v hv
    rw [valueObjects_eq h] at hv
    obtain ⟨x, -, rfl⟩ := List.mem_map.mp hv
    rw [enums_eq h]
    exact importsSeen_ofValueObject
  case rootSeen => exact fun name hname => seen_of_mem_rootImports h hname

end Aggregate

/-- In a compiled model an owner imports the enums that it sees and that its fields rest on, all of
them registered, and no enum that it does not see. -/
theorem importsEnums_of_compileDocument {options : Options} {d : Declared.Document} {c : Compiled}
    (hpackage : options.packageName ≠ "") (hmodule : options.moduleName ≠ "")
    (h : compileDocument options d = .ok c) :
    ∀ a ∈ c.model.aggregates, a.ImportsEnums options ∧
      ∀ e ∈ a.allEnums, e.name ∈ c.model.allEnums.map (·.name) := by
  intro a ha
  have hqualifies : options.qualifiesEnums = true := by
    simp [Options.qualifiesEnums, String.isEmpty_eq_false_iff, hpackage, hmodule]
  obtain ⟨-, hmodel, -⟩ := compileDocument_eq_ok_iff.mp h
  obtain ⟨-, hmodel⟩ := resolveDocument_eq_ok_iff.mp hmodel
  obtain ⟨x, -, -, hresolve⟩ := exists_sound_of_mem_compiled h ha
  refine ⟨Aggregate.importsEnums_of_resolve hqualifies hresolve, fun e he => ?_⟩
  rw [DomainModel.allEnums_eq hmodel]
  exact DomainModel.name_mem_registry (List.mem_flatMap.mpr ⟨a, ha, he⟩)

open Aggregate (plainEntity plainAggregate plainRelationship)

def namedOptions : Options := { packageName := "com.shop", moduleName := "orders", strict := true }

/-- Orders that have a status, and items each of which declares a state of its own. -/
def orderOfStates : Declared.Document :=
  ⟨[{ plainAggregate "Order"
      [plainEntity "order" true [{ name := "status", type := "Status" }]
        [plainRelationship .oneToMany "item" none],
       plainEntity "item" false
        [{ name := "state", type := "State", enumValues := some ["OPEN"] }] []] with
      enums := [cartStatus]
      valueObjects :=
        [{ name := "Parcel", fields := [{ name := "status", type := "status" }], methods := []
           validation := [], description := none }] }]⟩

theorem importsEnums_of_compileDocument_orderOfStates :
    namedOptions.packageName ≠ "" ∧ namedOptions.moduleName ≠ "" ∧
      ∃ c, compileDocument namedOptions orderOfStates = .ok c ∧
        (∀ a ∈ c.model.aggregates, a.ImportsEnums namedOptions ∧
          ∀ e ∈ a.allEnums, e.name ∈ c.model.allEnums.map (·.name)) ∧
        c.model.aggregates.flatMap (fun a => a.allEntities.map (·.requiredImports) ++
            a.valueObjects.map (·.requiredImports)) =
          [["com.shop.orders.domain.models.enums.State",
            "com.shop.orders.domain.models.enums.Status", "java.util.ArrayList",
            "java.util.Collections", "java.util.List"],
           ["com.shop.orders.domain.models.enums.State"],
           ["com.shop.orders.domain.models.enums.Status"]] :=
  ⟨by decide, by decide, _, rfl,
    @importsEnums_of_compileDocument namedOptions orderOfStates _ (by decide) (by decide) rfl,
    by decide +kernel⟩

/-! ### Enums that are not seen -/

/-- The description is compiled even where warnings count, and a field rests on a registered enum
that its entity does not import. -/
def LacksImport (d : Declared.Document) : Prop :=
  ∃ c, compileDocument namedOptions d = .ok c ∧
    ∃ a ∈ c.model.aggregates, ∃ e ∈ a.allEntities, ∃ f ∈ e.fields,
      innermostName f.resolvedType ∈ c.model.allEnums.map (·.name) ∧
        namedOptions.enumImport (innermostName f.resolvedType) ∉ e.requiredImports

instance : DecidablePred LacksImport := fun _ => inferInstanceAs (Decidable (∃ _, _ ∧ _))

/-- Carts with a status and orders of a type. -/
def cartsAndOrdersOf (type : String) (cartFields : List Declared.Field)
    (cartEnums orderEnums : List Declared.EnumType) : Declared.Document :=
  ⟨[{ plainAggregate "Cart" [plainEntity "cart" true cartFields []] with enums := cartEnums },
    { plainAggregate "Order" [plainEntity "order" true [{ name := "status", type }] []] with
      enums := orderEnums }]⟩

/-- The enum may be another aggregate's or another owner's, or stand in a list of lists. -/
theorem lacksImport_cartsAndOrdersOf :
    LacksImport (cartsAndOrdersOf "Status" [] [cartStatus] []) ∧
      LacksImport (cartsAndOrdersOf "Status"
        [{ name := "status", type := "Status", enumValues := some ["OPEN"] }] [] []) ∧
      LacksImport (cartsAndOrdersOf "List<List<Status>>" [] [] [cartStatus]) := by
  decide +kernel

end DomainCompiler.Model
