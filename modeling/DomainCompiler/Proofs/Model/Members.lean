import DomainCompiler.Proofs.Compile.Agreement
import DomainCompiler.Proofs.Model.Inverse
import Mathlib.Data.List.Nodup

/-!
# The members of an entity

Names reach an entity from its fields, its audit settings, its own relationships and the
back-references of others. The rules keep the fields apart, and merging keeps every inverse side
apart from the own relationships in their very spelling. Nothing else is compared: what may still
coincide is listed, and a name is given twice exactly where something of the list does.
-/

namespace DomainCompiler.Model

open DomainCompiler.Naming
open DomainCompiler.Traversal

namespace Entity

/-- The names by which the members are called: the fields, then the relationships. -/
def memberNames (e : Entity) : List String :=
  e.fields.map (fun f => camel f.name) ++ e.relationships.map fun r => camel r.fieldName

def ownRelationships (e : Entity) : List Relationship :=
  e.relationships.filter fun r => !r.isInverse

def inverseSides (e : Entity) : List Relationship := e.relationships.filter (·.isInverse)

/-- What neither the rules nor merging compare. -/
structure KeepsApart (e : Entity) : Prop where
  /-- Names of fields in camel case stay apart when they are put in camel case again. -/
  fields : ∀ f ∈ e.fields, ∀ g ∈ e.fields, camel f.name = camel g.name → f.name = g.name
  own : (e.ownRelationships.map fun r => camel r.fieldName).Nodup
  inverse : (e.inverseSides.map fun r => camel r.fieldName).Nodup
  /-- A back-reference to an own relationship is spelled as it is called. -/
  spelling : ∀ r ∈ e.ownRelationships, ∀ s ∈ e.inverseSides,
    camel r.fieldName = camel s.fieldName → r.fieldName = s.fieldName
  members : ∀ f ∈ e.fields, ∀ r ∈ e.relationships, camel f.name ≠ camel r.fieldName

/-! ### Fields -/

section Fields

variable {valueObjects : List String} {enums : List EnumType} {suffix : String}

theorem map_name_addedFields (d : Declared.Entity) :
    ((auditOf d).declarations.map fun f => camel f.name) = Check.auditFieldNames d := by
  rw [Audit.declarations, auditOf, Check.auditFieldNames]
  cases d.auditEnabled <;> cases d.tracksUser <;> decide +kernel

theorem map_name_resolvedFields (d : Declared.Entity) :
    (resolvedFields valueObjects enums suffix (auditOf d) d).map (·.name) =
      Check.fieldNames d.fields ++ Check.auditFieldNames d := by
  rw [resolvedFields, List.map_append, List.map_map, List.map_map, ← map_name_addedFields]
  rfl

theorem nodup_auditFieldNames (d : Declared.Entity) : (Check.auditFieldNames d).Nodup := by
  rw [Check.auditFieldNames]
  cases d.auditEnabled <;> cases d.tracksUser <;> decide

theorem nodup_map_name_resolvedFields {a : Declared.Aggregate} (h : Check.Aggregate.Sound a)
    {d : Declared.Entity} (hd : d ∈ a.entities) :
    ((resolvedFields valueObjects enums suffix (auditOf d) d).map (·.name)).Nodup := by
  rw [map_name_resolvedFields, List.nodup_append]
  have howner : (d.name, d.fields) ∈ a.fieldOwners :=
    List.mem_append_left _ (List.mem_map.mpr ⟨d, hd, rfl⟩)
  refine ⟨h.fieldNames _ howner, nodup_auditFieldNames d, ?_⟩
  rintro name hname _ haudit rfl
  exact h.auditFields d hd name haudit hname

end Fields

/-! ### Relationships -/

/-- The own relationships stand first, and no inverse side has the field name of one of them. -/
structure Divided (e : Entity) : Prop where
  relationships : e.relationships = e.ownRelationships ++ e.inverseSides
  apart : ∀ r ∈ e.ownRelationships, ∀ s ∈ e.inverseSides, r.fieldName ≠ s.fieldName

theorem divided_of_eq_append {e : Entity} {declared implied : List Relationship}
    (h : e.relationships = declared ++ implied) (hdeclared : ∀ r ∈ declared, r.isInverse = false)
    (himplied : ∀ s ∈ implied, s.isInverse = true ∧ s.fieldName ∉ declared.map (·.fieldName)) :
    Divided e := by
  have hown : e.ownRelationships = declared := by
    rw [ownRelationships, h, List.filter_append,
      List.filter_eq_self.mpr fun r hr => by rw [hdeclared r hr]; rfl,
      List.filter_eq_nil_iff.mpr fun s hs => by simp [(himplied s hs).1], List.append_nil]
  have hinverse : e.inverseSides = implied := by
    rw [inverseSides, h, List.filter_append,
      List.filter_eq_nil_iff.mpr fun r hr => by simp [hdeclared r hr],
      List.filter_eq_self.mpr fun s hs => (himplied s hs).1, List.nil_append]
  refine ⟨by rw [h, hown, hinverse], fun r hr s hs he => ?_⟩
  rw [hown] at hr
  rw [hinverse] at hs
  exact (himplied s hs).2 (he ▸ List.mem_map.mpr ⟨r, hr, rfl⟩)

theorem nodup_map_camel_fields_iff {fields : List Field} (h : (fields.map (·.name)).Nodup) :
    (fields.map fun f => camel f.name).Nodup ↔
      ∀ f ∈ fields, ∀ g ∈ fields, camel f.name = camel g.name → f.name = g.name := by
  have hmap : (fields.map fun f => camel f.name) = (fields.map (·.name)).map camel := by
    rw [List.map_map]
    rfl
  rw [hmap, List.nodup_map_iff_inj_on h]
  simp only [List.forall_mem_map]

theorem Divided.disjoint_iff {e : Entity} (h : Divided e) :
    (∀ r ∈ e.ownRelationships, ∀ s ∈ e.inverseSides, camel r.fieldName ≠ camel s.fieldName) ↔
      ∀ r ∈ e.ownRelationships, ∀ s ∈ e.inverseSides,
        camel r.fieldName = camel s.fieldName → r.fieldName = s.fieldName := by
  constructor
  · intro hne r hr s hs he
    exact absurd he (hne r hr s hs)
  · intro hspelling r hr s hs he
    exact h.apart r hr s hs (hspelling r hr s hs he)

/-- With fields of different names and merged relationships, only what is listed can coincide. -/
theorem nodup_memberNames_iff_keepsApart {e : Entity} (hfields : (e.fields.map (·.name)).Nodup)
    (h : Divided e) : e.memberNames.Nodup ↔ e.KeepsApart := by
  have hmembers : e.memberNames = (e.fields.map fun f => camel f.name) ++
      ((e.ownRelationships.map fun r => camel r.fieldName) ++
        e.inverseSides.map fun r => camel r.fieldName) := by
    rw [memberNames, h.relationships, List.map_append]
  rw [hmembers, List.nodup_append, List.nodup_append, nodup_map_camel_fields_iff hfields]
  simp only [List.forall_mem_map, List.forall_mem_append]
  constructor
  · rintro ⟨hf, ⟨hown, hinverse, hne⟩, hmem⟩
    refine ⟨hf, hown, hinverse, h.disjoint_iff.mp hne, fun f hf r hr => ?_⟩
    rw [h.relationships] at hr
    rcases List.mem_append.mp hr with hr | hr
    · exact (hmem f hf).1 r hr
    · exact (hmem f hf).2 r hr
  · intro hk
    refine ⟨hk.fields, ⟨hk.own, hk.inverse, h.disjoint_iff.mpr hk.spelling⟩, fun f hf => ?_⟩
    refine ⟨fun r hr => hk.members f hf r ?_, fun r hr => hk.members f hf r ?_⟩
    · exact (List.mem_filter.mp hr).1
    · exact (List.mem_filter.mp hr).1

end Entity

/-! ### The entities of a model -/

namespace Aggregate

variable {options : Options} {d : Declared.Aggregate} {a : Aggregate}

theorem divided_of_mem_allEntities (h : resolve options d = .ok a) {e : Entity}
    (he : e ∈ a.allEntities) : e.Divided := by
  obtain ⟨x, -, -, declared, hdeclared, hrelationships⟩ :=
    Forall₂.exists_left (forall₂_relationships h) he
  have hown := Relationship.isInverse_of_declares hdeclared
  refine Entity.divided_of_eq_append hrelationships hown fun s hs => ?_
  obtain ⟨p, -, hp⟩ := List.mem_filterMap.mp hs
  obtain ⟨hsynthesized, hapart⟩ := Relationship.synthesized_of_impliedOn? hp
  exact ⟨hsynthesized.isInverse, hapart⟩

theorem nodup_fieldNames_of_mem_allEntities (hsound : Check.Aggregate.Sound d)
    (h : resolve options d = .ok a) {e : Entity} (he : e ∈ a.allEntities) :
    (e.fields.map (·.name)).Nodup := by
  obtain ⟨x, hx, e', imports, hresolves, rfl⟩ := Forall₂.exists_left (forall₂_allEntities h) he
  obtain ⟨-, declared, -, rfl⟩ := Entity.resolve_eq_ok_iff.mp hresolves
  rw [withImports_fields]
  exact Entity.nodup_map_name_resolvedFields hsound hx

end Aggregate

/-- In a compiled entity no two fields share a name and no inverse side has the name of an own
relationship; its members differ exactly where nothing else coincides. -/
theorem nodup_memberNames_iff {options : Options} {d : Declared.Document} {c : Compiled}
    (h : compileDocument options d = .ok c) :
    ∀ a ∈ c.model.aggregates, ∀ e ∈ a.allEntities,
      (e.fields.map (·.name)).Nodup ∧
      (∀ r ∈ e.ownRelationships, ∀ s ∈ e.inverseSides, r.fieldName ≠ s.fieldName) ∧
      (e.memberNames.Nodup ↔ e.KeepsApart) := by
  intro a ha e he
  obtain ⟨haccepted, -, hstep⟩ := exists_compileDocument_iff.mp ⟨c, h, rfl⟩
  obtain ⟨x, hx, hresolve⟩ := Forall₂.exists_left hstep ha
  have hsound := haccepted.1.aggregates x hx
  have hfields := Aggregate.nodup_fieldNames_of_mem_allEntities hsound hresolve he
  have hdivided := Aggregate.divided_of_mem_allEntities hresolve he
  exact ⟨hfields, hdivided.apart, Entity.nodup_memberNames_iff_keepsApart hfields hdivided⟩

def orderOf (relationships : List Declared.Relationship) : Declared.Entity :=
  Aggregate.plainEntity "order" true [{ name := "id", type := "Long" }] relationships

def toItem (mappedBy : Option String) : Declared.Relationship :=
  Aggregate.plainRelationship .oneToOne "item" mappedBy

def itemOf (fields : List Declared.Field) (relationships : List Declared.Relationship) :
    Declared.Entity :=
  Aggregate.plainEntity "item" false fields relationships

def documentOf (entities : List Declared.Entity) : Declared.Document :=
  ⟨[Aggregate.plainAggregate "Order" entities]⟩

def orderWithItem : Declared.Document :=
  documentOf [orderOf [toItem (some "parent")], itemOf [{ name := "id", type := "Long" }] []]

theorem nodup_memberNames_iff_orderWithItem :
    ∃ c, compileDocument {} orderWithItem = .ok c ∧
      (∀ a ∈ c.model.aggregates, ∀ e ∈ a.allEntities,
        (e.fields.map (·.name)).Nodup ∧
        (∀ r ∈ e.ownRelationships, ∀ s ∈ e.inverseSides, r.fieldName ≠ s.fieldName) ∧
        (e.memberNames.Nodup ↔ e.KeepsApart)) ∧
      (c.model.aggregates.map fun a => a.allEntities.map Entity.memberNames) =
        [[["id", "item"], ["id", "parent"]]] :=
  ⟨_, rfl, @nodup_memberNames_iff {} orderWithItem _ rfl, by decide +kernel⟩

/-- The entities are compiled, and one of them gives the same name to two members. -/
def GivesNameTwice (entities : List Declared.Entity) : Prop :=
  ∃ c, compileDocument {} (documentOf entities) = .ok c ∧
    ∃ a ∈ c.model.aggregates, ∃ e ∈ a.allEntities, ¬e.memberNames.Nodup

/-- Two owners refer to the same name. -/
def sharedBackReference : List Declared.Entity :=
  [orderOf [toItem (some "parent")],
   Aggregate.plainEntity "box" false [] [toItem (some "parent")], itemOf [] []]

def repeatedTarget : List Declared.Entity := [orderOf [toItem none, toItem none], itemOf [] []]

/-- The back-reference is not spelled as the own relationship is called. -/
def respelledBackReference : List Declared.Entity :=
  [orderOf [toItem (some "Order")],
   itemOf [] [Aggregate.plainRelationship .manyToOne "order" none]]

def backReferenceToField : List Declared.Entity :=
  [orderOf [toItem (some "parent")], itemOf [{ name := "parent", type := "Long" }] []]

/-- Two fields are told apart by a letter that camel case does not keep. -/
def joinedFields : List Declared.Entity :=
  [orderOf [], itemOf [{ name := "\u1E9Ea", type := "Long" }, { name := "sSa", type := "Long" }] []]

/-- Each condition on the members is missed by some description that is compiled. -/
theorem givesNameTwice_coincidences :
    GivesNameTwice sharedBackReference ∧ GivesNameTwice repeatedTarget ∧
      GivesNameTwice respelledBackReference ∧ GivesNameTwice backReferenceToField ∧
      GivesNameTwice joinedFields :=
  ⟨⟨_, rfl, by decide +kernel⟩, ⟨_, rfl, by decide +kernel⟩, ⟨_, rfl, by decide +kernel⟩,
    ⟨_, rfl, by decide +kernel⟩, ⟨_, rfl, by decide +kernel⟩⟩

end DomainCompiler.Model
