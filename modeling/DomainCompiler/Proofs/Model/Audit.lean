import DomainCompiler.Proofs.Model.Lookup
import DomainCompiler.Proofs.Model.Root

/-!
# Audit settings

Whether an entity is audited is said in a block or by an older flag, and the block has the last
word where it says anything. What follows from it is worked out in three places: by the rule that
keeps field names apart, by the settings that the entity ends up with, and where the fields are
added. All three come to the same names, which stand behind the declared fields and are never asked
for as input.
-/

namespace DomainCompiler

open DomainCompiler.Naming
open DomainCompiler.Traversal

/-! ### What the rule keeps free -/

namespace Check

open DomainCompiler.Declared (Document)

theorem auditFieldDeclared_mem_iff {d : Document} {aggregate entity name : String} :
    Finding.auditFieldDeclared aggregate entity name ∈ uniqueFieldNames d ↔
      ∃ a ∈ d.aggregates, a.name = aggregate ∧ ∃ e ∈ a.entities, e.name = entity ∧
        name ∈ auditFieldNames e ∧ name ∈ fieldNames e.fields := by
  simp only [uniqueFieldNames, fieldNames, List.mem_flatMap, List.mem_append, List.mem_map,
    List.mem_filter, List.contains_eq_mem, decide_eq_true_eq]
  constructor
  · rintro ⟨a, ha, ⟨o, -, n, -, hn⟩ | ⟨e, he, n, ⟨hadded, hdeclared⟩, hn⟩⟩
    · cases hn
    · cases hn
      exact ⟨a, ha, rfl, e, he, rfl, hadded, hdeclared⟩
  · rintro ⟨a, ha, rfl, e, he, rfl, hadded, hdeclared⟩
    exact ⟨a, ha, .inr ⟨e, he, name, ⟨hadded, hdeclared⟩, rfl⟩⟩

/-- The rule objects to the field where it is declared along with those of the entity. -/
def KeepsFree (e : Declared.Entity) (f : Declared.Field) : Prop :=
  Finding.auditFieldDeclared "" e.name (camel f.name) ∈ uniqueFieldNames
    ⟨[Model.Aggregate.plainAggregate "" [{ e with fields := f :: e.fields }]]⟩

theorem keepsFree_iff {e : Declared.Entity} {f : Declared.Field} :
    KeepsFree e f ↔ camel f.name ∈ auditFieldNames e := by
  rw [KeepsFree, auditFieldDeclared_mem_iff]
  constructor
  · rintro ⟨a, ha, -, e', he', -, hadded, -⟩
    obtain rfl := List.mem_singleton.mp ha
    obtain rfl := List.mem_singleton.mp he'
    exact hadded
  · intro hadded
    exact ⟨_, List.mem_cons_self, rfl, _, List.mem_cons_self, rfl, hadded, List.mem_cons_self⟩

end Check

namespace Model

/-! ### What the settings come to -/

/-- The names and types of the fields of an audited entity. -/
def Audit.columns : Audit → List (String × String)
  | ⟨false, _⟩ => []
  | ⟨true, false⟩ => [("createdAt", "LocalDateTime"), ("updatedAt", "LocalDateTime")]
  | ⟨true, true⟩ =>
    [("createdAt", "LocalDateTime"), ("updatedAt", "LocalDateTime"), ("createdBy", "String"),
     ("updatedBy", "String")]

theorem Audit.map_declarations (a : Audit) :
    (a.declarations.map fun y => (camel y.name, (TypeRef.resolve y.type y.enumValues).render)) =
      a.columns := by
  obtain ⟨enabled, trackUser⟩ := a
  cases enabled <;> cases trackUser <;> decide +kernel

namespace Entity

/-- How an entity is audited, and what that does to its fields. -/
structure Audited (enums : List EnumType) (x : Declared.Entity) (e : Entity) : Prop where
  /-- The block decides where it says so, and the older flag elsewhere. -/
  enabled : e.audit.enabled = ((x.audit.bind (·.enabled)).getD (x.auditable == some true))
  trackUser : e.audit.trackUser = x.audit.any (·.trackUser)
  timesOfUsers : e.audit.trackUser = true → e.audit.enabled = true
  fields : ∃ declared added, e.fields = declared ++ added ∧
    List.Forall₂ (fun y f => Field.ResolvedFrom enums y f ∧ f.isSynthetic = false) x.fields
      declared ∧
    (∀ f ∈ added, f.isSynthetic = true) ∧
    added.map (fun f => (f.name, f.resolvedType)) = e.audit.columns
  reserved : Check.auditFieldNames x = (e.fields.filter (·.isSynthetic)).map (·.name)
  /-- The rule objects to further fields exactly where one of the name is added. -/
  keptFree : ∀ y, Check.KeepsFree x y ↔ ∃ f ∈ e.fields, f.isSynthetic = true ∧ f.name = camel y.name
  inputs : ∀ f ∈ e.fields, f.isSynthetic = true →
    f ∉ e.commandFields ∧ f ∉ e.constructorFields

theorem auditEnabled_eq (x : Declared.Entity) :
    x.auditEnabled = ((x.audit.bind (·.enabled)).getD (x.auditable == some true)) := by
  rw [Declared.Entity.auditEnabled]
  split
  · next h => simp [h]
  · next h =>
    cases haudit : x.audit with
    | none => rfl
    | some s =>
      obtain ⟨_ | b, _⟩ := s
      · rfl
      · exact absurd haudit (h b _)

theorem tracksUser_eq (x : Declared.Entity) : x.tracksUser = x.audit.any (·.trackUser) := by
  rw [Declared.Entity.tracksUser]
  cases x.audit <;> rfl

theorem not_mem_commandFields {e : Entity} {f : Field} (h : f.isSynthetic = true) :
    f ∉ e.commandFields := by
  intro hf
  have hinput := (List.mem_filter.mp hf).2
  simp [h] at hinput

section Resolved

variable {valueObjects : List String} {enums : List EnumType} {suffix : String}
  {x : Declared.Entity} {e : Entity}

/-- What is added stands apart from what is declared. -/
theorem filter_isSynthetic_resolvedFields (a : Audit) :
    (resolvedFields valueObjects enums suffix a x).filter (·.isSynthetic) =
      a.declarations.map (Field.resolve valueObjects enums suffix true) := by
  have hdeclared : (x.fields.map (Field.resolve valueObjects enums suffix false)).filter
      (·.isSynthetic) = [] :=
    List.filter_eq_nil_iff.mpr (List.forall_mem_map.mpr fun _ _ => Bool.false_ne_true)
  have hadded : (a.declarations.map (Field.resolve valueObjects enums suffix true)).filter
      (·.isSynthetic) = a.declarations.map (Field.resolve valueObjects enums suffix true) :=
    List.filter_eq_self.mpr (List.forall_mem_map.mpr fun _ _ => rfl)
  rw [resolvedFields, List.filter_append, hdeclared, hadded, List.nil_append]

theorem audited_of_fields_eq (hallowed : x.tracksUser = true → x.auditEnabled = true)
    (haudit : e.audit = auditOf x)
    (hfields : e.fields = resolvedFields valueObjects enums suffix (auditOf x) x) :
    e.Audited enums x := by
  have hsynthetic : e.fields.filter (·.isSynthetic) =
      (auditOf x).declarations.map (Field.resolve valueObjects enums suffix true) := by
    rw [hfields, filter_isSynthetic_resolvedFields]
  have hnames : Check.auditFieldNames x = (e.fields.filter (·.isSynthetic)).map (·.name) := by
    rw [hsynthetic, ← map_name_addedFields, List.map_map]
    rfl
  constructor
  case enabled => rw [haudit, ← auditEnabled_eq, auditOf]
  case trackUser => rw [haudit, ← tracksUser_eq, auditOf]
  case timesOfUsers =>
    rw [haudit]
    exact hallowed
  case fields =>
    refine ⟨_, _, hfields, ?_, List.forall_mem_map.mpr fun _ _ => rfl, ?_⟩
    · exact List.forall₂_map_right_iff.mpr
        (List.forall₂_same.mpr fun _ _ => ⟨⟨_, _, _, rfl⟩, rfl⟩)
    · rw [haudit, ← Audit.map_declarations, List.map_map]
      rfl
  case reserved => exact hnames
  case keptFree =>
    intro y
    rw [Check.keepsFree_iff, hnames]
    simp only [List.mem_map, List.mem_filter, and_assoc]
  case inputs =>
    intro f _ hf
    exact ⟨not_mem_commandFields hf, fun h => not_mem_commandFields hf (List.mem_of_mem_filter h)⟩

end Resolved

end Entity

namespace Aggregate

variable {options : Options} {d : Declared.Aggregate} {a : Aggregate}

@[simp] theorem withImports_audit (e : Entity) (imports : List String) :
    (withImports e imports).audit = e.audit := by
  unfold withImports
  split <;> rfl

theorem Resolves.audit_eq {x : Declared.Entity} {e : Entity} (h : Resolves options d x e) :
    e.audit = Entity.auditOf x := by
  obtain ⟨-, declared, -, rfl⟩ := Entity.resolve_eq_ok_iff.mp h
  rfl

theorem forall₂_audited (h : resolve options d = .ok a) :
    List.Forall₂ (Entity.Audited a.enums) d.entities a.allEntities := by
  refine (forall₂_allEntities h).imp fun x e hx => ?_
  obtain ⟨e', imports, hresolves, rfl⟩ := hx
  have hallowed := (Entity.resolve_eq_ok_iff.mp hresolves).1
  have haudit : (withImports e' imports).audit = Entity.auditOf x := by
    rw [withImports_audit, hresolves.audit_eq]
  have hfields := hresolves.fields_eq
  rw [← withImports_fields e' imports, ← enums_eq h] at hfields
  exact Entity.audited_of_fields_eq hallowed haudit hfields

end Aggregate

/-- In a compiled model the audit settings of an entity add the fields that the rule keeps free for
them, behind the declared ones, and none of these is an input. -/
theorem audited_of_compileDocument {options : Options} {d : Declared.Document} {c : Compiled}
    (h : compileDocument options d = .ok c) :
    List.Forall₂ (fun x a => List.Forall₂ (Entity.Audited a.enums) x.entities a.allEntities)
      d.aggregates c.model.aggregates := by
  obtain ⟨-, -, hstep⟩ := exists_compileDocument_iff.mp ⟨c, h, rfl⟩
  exact hstep.imp fun x a hresolve => Aggregate.forall₂_audited hresolve

open Aggregate (plainEntity plainAggregate)

/-- Entities whose settings are said in the block, by the flag, and in both ways. -/
def auditedOrders : Declared.Document :=
  let item (name : String) (audit : Option Declared.Audit) (auditable : Option Bool) :=
    { plainEntity name false [idOf "id"] [] with audit, auditable }
  ⟨[plainAggregate "Order"
    [plainEntity "order" true [] [],
     item "item" (some { enabled := some true, trackUser := true }) (some false),
     item "note" none (some true),
     item "bill" (some { enabled := some false, trackUser := false }) (some true),
     item "label" (some { enabled := none, trackUser := true }) (some true)]]⟩

theorem audited_of_compileDocument_auditedOrders :
    ∃ c, compileDocument {} auditedOrders = .ok c ∧
      List.Forall₂ (fun x a => List.Forall₂ (Entity.Audited a.enums) x.entities a.allEntities)
        auditedOrders.aggregates c.model.aggregates ∧
      c.model.aggregates.flatMap (·.allEntities.map fun e => e.fields.map (·.name)) =
        [[], ["id", "createdAt", "updatedAt", "createdBy", "updatedBy"],
         ["id", "createdAt", "updatedAt"], ["id"],
         ["id", "createdAt", "updatedAt", "createdBy", "updatedBy"]] :=
  ⟨_, rfl, @audited_of_compileDocument {} auditedOrders _ rfl, by decide +kernel⟩

end Model

end DomainCompiler
