import DomainCompiler.Proofs.Model.Fields
import DomainCompiler.Proofs.Model.Members

/-!
# Looking things up by name

Aggregates, entities and fields are found by the names that they have in the model, and a look-up
ends at the first thing of a name. The rules compare names in the same form in which the model has
them, so that whatever spellings were chosen the first thing of a name is the only one.
-/

namespace DomainCompiler.Model

open DomainCompiler.Naming
open DomainCompiler.Traversal

namespace DomainModel

/-- Names differ where things are told apart by them. -/
structure NamedApart (m : DomainModel) : Prop where
  aggregates : (m.aggregates.map (·.name)).Nodup
  entities : ∀ a ∈ m.aggregates, (a.allEntities.map (·.name)).Nodup
  /-- Fields that audit settings add are among the fields of an entity. -/
  entityFields : ∀ a ∈ m.aggregates, ∀ e ∈ a.allEntities, (e.fields.map (·.name)).Nodup
  valueObjectFields : ∀ a ∈ m.aggregates, ∀ v ∈ a.valueObjects, (v.fields.map (·.name)).Nodup

/-- What is looked up by its own name is found, and nothing else in its place. -/
structure FoundByName (m : DomainModel) : Prop where
  aggregate : ∀ a ∈ m.aggregates, m.aggregate? a.name = some a
  entity : ∀ a ∈ m.aggregates, ∀ e ∈ a.allEntities, a.entity? e.name = some e
  idField : ∀ a ∈ m.aggregates, ∀ e ∈ a.allEntities, ∀ f ∈ e.fields,
    f.name = Entity.idFieldName → e.idField? = some f

theorem NamedApart.foundByName {m : DomainModel} (h : m.NamedApart) : m.FoundByName := by
  constructor
  case aggregate =>
    intro a ha
    exact find?_eq_some_of_mem Aggregate.name h.aggregates ha
  case entity =>
    intro a ha e he
    exact find?_eq_some_of_mem Entity.name (h.entities a ha) he
  case idField =>
    intro a ha e he f hf hid
    rw [Entity.idField?, ← hid]
    exact find?_eq_some_of_mem Field.name (h.entityFields a ha e he) hf

end DomainModel

namespace Aggregate

variable {options : Options} {d : Declared.Aggregate} {a : Aggregate}

theorem nodup_map_name_allEntities (hsound : Check.Aggregate.Sound d)
    (h : resolve options d = .ok a) : (a.allEntities.map (·.name)).Nodup := by
  rw [map_name_allEntities h]
  exact hsound.classNames

theorem nodup_fieldNames_of_mem_valueObjects (hsound : Check.Aggregate.Sound d)
    (h : resolve options d = .ok a) {v : ValueObject} (hv : v ∈ a.valueObjects) :
    (v.fields.map (·.name)).Nodup := by
  rw [valueObjects_eq h] at hv
  obtain ⟨x, hx, rfl⟩ := List.mem_map.mp hv
  have howner : (x.name, x.fields) ∈ d.fieldOwners :=
    List.mem_append_right _ (List.mem_map.mpr ⟨x, hx, rfl⟩)
  have hnames : (ValueObject.resolve (resolvedEnums d) options x).fields.map (·.name) =
      Check.fieldNames x.fields := List.map_map
  rw [hnames]
  exact hsound.fieldNames _ howner

/-- The names are those that are declared, in the one form that is left of all their spellings. -/
structure NamedAfter (d : Declared.Aggregate) (a : Aggregate) : Prop where
  name : a.name = pascal d.name
  entities : a.allEntities.map (·.name) = d.entities.map fun e => pascal e.name
  fields : a.fields.map (·.name) = (fieldDeclarations d).map fun f => camel f.name

theorem namedAfter_of_resolve (h : resolve options d = .ok a) : NamedAfter d a := by
  have hfields : (fieldDeclarations d).map (fun f => camel f.name) = a.fields.map (·.name) :=
    Forall₂.map_eq (forall₂_fields h) fun y f hy => hy.name_eq.symm
  exact ⟨name_eq h, map_name_allEntities h, hfields.symm⟩

end Aggregate

/-- In a compiled model names are those of the description, they are apart in the form that they
have there, and everything is found by its name. -/
theorem namedApart_of_compileDocument {options : Options} {d : Declared.Document} {c : Compiled}
    (h : compileDocument options d = .ok c) :
    List.Forall₂ Aggregate.NamedAfter d.aggregates c.model.aggregates ∧
      c.model.NamedApart ∧ c.model.FoundByName := by
  obtain ⟨haccepted, -, hstep⟩ := exists_compileDocument_iff.mp ⟨c, h, rfl⟩
  have hafter : List.Forall₂ Aggregate.NamedAfter d.aggregates c.model.aggregates :=
    hstep.imp fun x a hresolve => Aggregate.namedAfter_of_resolve hresolve
  have hapart : c.model.NamedApart := by
    constructor
    case aggregates =>
      have hnames : (d.aggregates.map fun x => pascal x.name) = c.model.aggregates.map (·.name) :=
        Forall₂.map_eq hafter fun x a hx => hx.name.symm
      rw [← hnames]
      exact haccepted.1.aggregateNames
    case entities =>
      intro a ha
      obtain ⟨x, -, hsound, hresolve⟩ := exists_sound_of_mem_compiled h ha
      exact Aggregate.nodup_map_name_allEntities hsound hresolve
    case entityFields =>
      intro a ha e he
      obtain ⟨x, -, hsound, hresolve⟩ := exists_sound_of_mem_compiled h ha
      exact Aggregate.nodup_fieldNames_of_mem_allEntities hsound hresolve he
    case valueObjectFields =>
      intro a ha v hv
      obtain ⟨x, -, hsound, hresolve⟩ := exists_sound_of_mem_compiled h ha
      exact Aggregate.nodup_fieldNames_of_mem_valueObjects hsound hresolve hv
  exact ⟨hafter, hapart, hapart.foundByName⟩

open Aggregate (plainEntity plainAggregate)

def idOf (name : String) : Declared.Field := { name, type := "Long" }

/-- Names in every spelling, one of them in two aggregates, and fields that audit settings add. -/
def lendings : Declared.Document :=
  ⟨[{ plainAggregate "book-loan"
        [{ plainEntity "book loan" true [idOf "Id", idOf "due-date"] [] with
            audit := some { enabled := some true, trackUser := true } },
         plainEntity "late_fee" false [idOf "id", idOf "due date"] []] with
      valueObjects :=
        [{ name := "DueDate", fields := [idOf "last day", idOf "first-day"], methods := []
           validation := [], description := none }] },
    plainAggregate "bookReturn" [plainEntity "BookLoan" true [] []]]⟩

theorem namedApart_of_compileDocument_lendings :
    ∃ c, compileDocument {} lendings = .ok c ∧
      (List.Forall₂ Aggregate.NamedAfter lendings.aggregates c.model.aggregates ∧
        c.model.NamedApart ∧ c.model.FoundByName) ∧
      c.model.aggregates.map (fun a => (a.name, a.allEntities.map (·.name))) =
        [("BookLoan", ["BookLoan", "LateFee"]), ("BookReturn", ["BookLoan"])] ∧
      c.model.aggregates.flatMap (·.allEntities.map fun e => e.fields.map (·.name)) =
        [["id", "dueDate", "createdAt", "updatedAt", "createdBy", "updatedBy"],
          ["id", "dueDate"], []] :=
  ⟨_, rfl, @namedApart_of_compileDocument {} lendings _ rfl, by decide +kernel, by decide +kernel⟩

/-- Spellings that give one class name are not told apart. -/
example : (compileDocument {} ⟨[plainAggregate "library"
    [plainEntity "book-loan" true [] [], plainEntity "BookLoan" false [] []]]⟩).isOk = false := rfl

end DomainCompiler.Model
