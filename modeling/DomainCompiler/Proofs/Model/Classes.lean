import DomainCompiler.Proofs.Model.Lookup
import DomainCompiler.Proofs.Naming.Pascal

/-!
# Classes by name

Entities, value objects and enums of an aggregate become classes beside each other, and the type of
a field means one of them by its bare name. The rules keep the entities apart. Of value objects and
of enums a look-up takes the first, and nothing compares the three kinds: their names are apart
exactly where the description chose them so.
-/

namespace DomainCompiler.Model

open DomainCompiler.Naming
open DomainCompiler.Traversal

inductive Class where
  | entity (e : Entity)
  | valueObject (v : ValueObject)
  | enum (e : EnumType)

def Class.name : Class → String
  | .entity e => e.name
  | .valueObject v => v.name
  | .enum e => e.name

/-- What a description has to see to itself for the classes of an aggregate to be apart. -/
structure ClassesApart (d : Declared.Aggregate) : Prop where
  valueObjects : (d.valueObjects.map fun v => pascal v.name).Nodup
  enums : (d.enums.map fun e => pascal e.name).Nodup
  entityValueObject : ∀ e ∈ d.entities, ∀ v ∈ d.valueObjects, pascal e.name ≠ pascal v.name
  entityEnum : ∀ e ∈ d.entities, ∀ x ∈ d.enums, pascal e.name ≠ pascal x.name
  valueObjectEnum : ∀ v ∈ d.valueObjects, ∀ x ∈ d.enums, pascal v.name ≠ pascal x.name

namespace Aggregate

def classes (a : Aggregate) : List Class :=
  a.allEntities.map .entity ++ (a.valueObjects.map .valueObject ++ a.enums.map .enum)

/-- The classes that a type may mean by the name. -/
def denoted (a : Aggregate) (name : String) : List Class :=
  a.classes.filter fun c => c.name == name

theorem map_name_classes (a : Aggregate) :
    a.classes.map Class.name = a.allEntities.map (·.name) ++
      (a.valueObjects.map (·.name) ++ a.enums.map (·.name)) := by
  simp only [classes, List.map_append, List.map_map]
  rfl

theorem nodup_map_name_classes_iff (a : Aggregate) :
    (a.classes.map Class.name).Nodup ↔ ∀ name, (a.denoted name).length ≤ 1 := by
  rw [List.nodup_iff_count_le_one]
  refine forall_congr' fun name => ?_
  rw [List.count, List.countP_map, List.countP_eq_length_filter]
  rfl

theorem valueObject?_of_eq_append {a : Aggregate} {before after : List ValueObject}
    {v : ValueObject} (h : a.valueObjects = before ++ v :: after)
    (hbefore : ∀ w ∈ before, w.name ≠ v.name) : a.valueObject? v.name = some v := by
  have hnone : before.find? (fun w => w.name == v.name) = none := by
    refine List.find?_eq_none.mpr fun w hw => ?_
    simpa using hbefore w hw
  rw [valueObject?, h, List.find?_append, hnone, Option.none_or, List.find?_cons_of_pos]
  exact beq_self_eq_true v.name

section Resolved

variable {options : Options} {d : Declared.Aggregate} {a : Aggregate}

theorem map_name_valueObjects (h : resolve options d = .ok a) :
    a.valueObjects.map (·.name) = d.valueObjects.map fun v => pascal v.name := by
  rw [valueObjects_eq h, resolvedValueObjects, List.map_map]
  rfl

theorem map_name_enums (h : resolve options d = .ok a) :
    a.enums.map (·.name) = d.enums.map fun e => pascal e.name := by
  rw [enums_eq h, resolvedEnums, List.map_map]
  rfl

/-- The entities are apart anyway, so that the classes are where nothing else coincides. -/
theorem nodup_classes_iff_classesApart (hsound : Check.Aggregate.Sound d)
    (h : resolve options d = .ok a) :
    (a.classes.map Class.name).Nodup ↔ ClassesApart d := by
  rw [map_name_classes, map_name_allEntities h, map_name_valueObjects h, map_name_enums h,
    List.nodup_append, List.nodup_append]
  simp only [List.forall_mem_append, List.forall_mem_map]
  constructor
  · -- That the entities are apart is not asked for: the rules have it already.
    rintro ⟨-, ⟨hvalueObjects, henums, hvalueObjectEnum⟩, hentity⟩
    refine ⟨hvalueObjects, henums, fun e he => ?_, fun e he => ?_, hvalueObjectEnum⟩
    · exact (hentity e he).1
    · exact (hentity e he).2
  · intro hapart
    refine ⟨hsound.classNames, ⟨hapart.valueObjects, hapart.enums, hapart.valueObjectEnum⟩, ?_⟩
    intro e he
    exact ⟨hapart.entityValueObject e he, hapart.entityEnum e he⟩

theorem pascal_name_of_mem_classes (h : resolve options d = .ok a) {c : Class}
    (hc : c ∈ a.classes) : pascal c.name = c.name := by
  have hname : c.name ∈ a.classes.map Class.name := List.mem_map.mpr ⟨c, hc, rfl⟩
  rw [map_name_classes, map_name_allEntities h, map_name_valueObjects h, map_name_enums h,
    List.mem_append, List.mem_append, List.mem_map, List.mem_map, List.mem_map] at hname
  rcases hname with ⟨x, -, hx⟩ | ⟨x, -, hx⟩ | ⟨x, -, hx⟩ <;> rw [← hx, pascal_pascal]

/-- How the classes of an aggregate are called, and what their names mean. -/
structure ClassesNamed (d : Declared.Aggregate) (a : Aggregate) : Prop where
  entities : a.allEntities.map (·.name) = d.entities.map fun e => pascal e.name
  valueObjects : a.valueObjects.map (·.name) = d.valueObjects.map fun v => pascal v.name
  enums : a.enums.map (·.name) = d.enums.map fun e => pascal e.name
  /-- Whatever the spelling was, names that differ also differ in Pascal case. -/
  spelling : ∀ c ∈ a.classes, pascal c.name = c.name
  nodupEntities : (a.allEntities.map (·.name)).Nodup
  /-- The first value object of a name is the one that is found. -/
  firstValueObject : ∀ before v after, a.valueObjects = before ++ v :: after →
    (∀ w ∈ before, w.name ≠ v.name) → a.valueObject? v.name = some v
  nodupClasses : (a.classes.map Class.name).Nodup ↔ ClassesApart d
  denotedOnce : (∀ name, (a.denoted name).length ≤ 1) ↔ ClassesApart d
  valueObjectFound : (d.valueObjects.map fun v => pascal v.name).Nodup →
    ∀ v ∈ a.valueObjects, a.valueObject? v.name = some v

theorem classesNamed_of_resolve (hsound : Check.Aggregate.Sound d)
    (h : resolve options d = .ok a) : ClassesNamed d a := by
  have hclasses := nodup_classes_iff_classesApart hsound h
  constructor
  case entities => exact map_name_allEntities h
  case valueObjects => exact map_name_valueObjects h
  case enums => exact map_name_enums h
  case spelling => exact fun c hc => pascal_name_of_mem_classes h hc
  case nodupEntities => exact nodup_map_name_allEntities hsound h
  case firstValueObject =>
    intro before v after heq hbefore
    exact valueObject?_of_eq_append heq hbefore
  case nodupClasses => exact hclasses
  case denotedOnce => rw [← nodup_map_name_classes_iff, hclasses]
  case valueObjectFound =>
    intro hnames v hv
    rw [← map_name_valueObjects h] at hnames
    exact find?_eq_some_of_mem ValueObject.name hnames hv

end Resolved

end Aggregate

/-- In a compiled model the entities of an aggregate are apart; all its classes are, and each name
means one of them, exactly where the description keeps the others apart. -/
theorem classesNamed_of_compileDocument {options : Options} {d : Declared.Document} {c : Compiled}
    (h : compileDocument options d = .ok c) :
    List.Forall₂ Aggregate.ClassesNamed d.aggregates c.model.aggregates := by
  obtain ⟨haccepted, -, hstep⟩ := exists_compileDocument_iff.mp ⟨c, h, rfl⟩
  refine Forall₂.imp_of_mem hstep fun x hx a _ hresolve => ?_
  exact Aggregate.classesNamed_of_resolve (haccepted.1.aggregates x hx) hresolve

def valueObjectOf (name field : String) : Declared.ValueObject :=
  { name, fields := [idOf field], methods := [], validation := [], description := none }

def enumOf (name : String) : Declared.EnumType :=
  { name, values := ["A"], transitions := none, initialValue := none, description := none }

/-- Orders with one more entity, and the value objects and enums. -/
def orderClasses (entity : String) (valueObjects : List Declared.ValueObject)
    (enums : List Declared.EnumType) : Declared.Document :=
  ⟨[{ Aggregate.plainAggregate "Order"
        [Aggregate.plainEntity "order" true [] [], Aggregate.plainEntity entity false [] []] with
      valueObjects, enums }]⟩

def classesApartDocument : Declared.Document :=
  orderClasses "order-item" [valueObjectOf "money" "amount"] [enumOf "Order Status"]

theorem classesNamed_of_compileDocument_orderClasses :
    ∃ c, compileDocument {} classesApartDocument = .ok c ∧
      List.Forall₂ Aggregate.ClassesNamed classesApartDocument.aggregates c.model.aggregates ∧
      c.model.aggregates.map (fun a => a.classes.map Class.name) =
        [["Order", "OrderItem", "Money", "OrderStatus"]] :=
  ⟨_, rfl, @classesNamed_of_compileDocument {} classesApartDocument _ rfl, by decide +kernel⟩

/-- The description is compiled even where warnings count, and two classes have one name. -/
def ClassesClash (d : Declared.Document) : Prop :=
  ∃ c, compileDocument { strict := true } d = .ok c ∧
    ∃ a ∈ c.model.aggregates, ¬(a.classes.map Class.name).Nodup

def moneyTwice : Declared.Document :=
  orderClasses "item" [valueObjectOf "Money" "amount", valueObjectOf "money" "currency"] []

/-- Within the kinds and across them names coincide, and the second of two value objects of one
name is not found. -/
theorem classesClash_orderClasses :
    ClassesClash moneyTwice ∧
      ClassesClash (orderClasses "item" [] [enumOf "Status", enumOf "status"]) ∧
      ClassesClash (orderClasses "item" [valueObjectOf "Item" "size"] []) ∧
      ClassesClash (orderClasses "item" [] [enumOf "Item"]) ∧
      ClassesClash (orderClasses "item" [valueObjectOf "Level" "size"] [enumOf "level"]) ∧
      ∃ c, compileDocument { strict := true } moneyTwice = .ok c ∧
        ∃ a ∈ c.model.aggregates, ∃ v ∈ a.valueObjects,
          (a.valueObject? v.name).map (·.fields) ≠ some v.fields :=
  ⟨⟨_, rfl, by decide +kernel⟩, ⟨_, rfl, by decide +kernel⟩, ⟨_, rfl, by decide +kernel⟩,
    ⟨_, rfl, by decide +kernel⟩, ⟨_, rfl, by decide +kernel⟩, ⟨_, rfl, by decide +kernel⟩⟩

end DomainCompiler.Model
