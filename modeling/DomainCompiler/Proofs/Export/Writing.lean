import DomainCompiler.Export.Text
import DomainCompiler.File.Load
import DomainCompiler.Proofs.Compile.Agreement
import DomainCompiler.Proofs.Model.Lookup
import DomainCompiler.Proofs.Value.Data

/-!
# What models can be written

All that a model says of its own is made of texts, truth values and null, which both formats have
forms for. Value objects carry data along that no rule looks into: whether a model can be written,
and whether both of its texts say the same, is told by these data alone.
-/

namespace DomainCompiler

open DomainCompiler.Traversal
open DomainCompiler.Value (record texts textOrNull isData)

/-! ### The data that are carried along -/

namespace Declared

def ValueObject.carriedData (v : ValueObject) : List Value :=
  v.methods.flatMap (·.parameters) ++ v.validation

def Aggregate.carriedData (a : Aggregate) : List Value := a.valueObjects.flatMap (·.carriedData)

/-- The parameters of the methods of value objects, and their validation. -/
def Document.carriedData (d : Document) : List Value := d.aggregates.flatMap (·.carriedData)

end Declared

namespace Model

def ValueObject.carriedData (v : ValueObject) : List Value :=
  v.methods.flatMap (·.parameters) ++ v.validation

def Aggregate.carriedData (a : Aggregate) : List Value := a.valueObjects.flatMap (·.carriedData)

def DomainModel.carriedData (m : DomainModel) : List Value := m.aggregates.flatMap (·.carriedData)

theorem ValueObject.carriedData_resolve (enums : List EnumType) (options : Options)
    (d : Declared.ValueObject) :
    (resolve enums options d).carriedData = d.carriedData.map frozen := by
  simp only [carriedData, resolve, Declared.ValueObject.carriedData, frozenItems_eq_map,
    List.flatMap_map, List.map_append, List.map_flatMap]

theorem Aggregate.carriedData_eq {options : Options} {d : Declared.Aggregate} {a : Aggregate}
    (h : resolve options d = .ok a) : a.carriedData = d.carriedData.map frozen := by
  rw [carriedData, valueObjects_eq h, resolvedValueObjects, List.flatMap_map,
    Declared.Aggregate.carriedData, List.map_flatMap]
  simp only [ValueObject.carriedData_resolve]

theorem DomainModel.carriedData_eq {options : Options} {d : Declared.Document} {m : DomainModel}
    (h : resolve options d = .ok m) : m.carriedData = d.carriedData.map frozen := by
  obtain ⟨aggregates, hstep, rfl⟩ := resolve_eq_ok_iff.mp h
  have hcarried : d.aggregates.map (fun x => x.carriedData.map frozen) =
      aggregates.map (·.carriedData) :=
    Forall₂.map_eq hstep fun _ _ ha => (Aggregate.carriedData_eq ha).symm
  rw [carriedData, Declared.Document.carriedData, List.map_flatMap, List.flatMap_def,
    List.flatMap_def, hcarried]

end Model

/-! ### Properties of all that a value is made of -/

/-- A property that null, truth values and texts have, and that a list or a record has where
everything in it has the property. -/
structure Structural (P : Value → Prop) : Prop where
  null : P .null
  bool : ∀ b, P (.bool b)
  text : ∀ s, P (.text s)
  list : ∀ items, P (.list items) ↔ ∀ v ∈ items, P v
  record : ∀ entries, P (record entries) ↔ ∀ e ∈ entries, P e.2

theorem structural_isData : Structural fun v => v.isData = true where
  null := rfl
  bool _ := rfl
  text _ := rfl
  list items := by rw [isData, Value.areData_iff]
  record entries := by rw [record, isData, Value.areDataByName_record]

theorem structural_excess : Structural fun v => v.excess? = none where
  null := rfl
  bool _ := rfl
  text _ := rfl
  list items := Value.firstOfItems?_eq_none_iff items
  record entries := Value.firstOfEntries?_record entries

namespace Structural

open DomainCompiler.Model

variable {P : Value → Prop} (h : Structural P)

include h

theorem texts (items : List String) : P (texts items) := by
  rw [Value.texts, h.list, List.forall_mem_map]
  exact fun s _ => h.text s

theorem textOrNull : ∀ s : Option String, P (textOrNull s)
  | some s => h.text s
  | none => h.null

variable {α : Type} {plain : α → Value}

theorem plainList_iff (xs : List α) : P (plainList plain xs) ↔ ∀ x ∈ xs, P (plain x) := by
  rw [plainList, h.list, List.forall_mem_map]

theorem plainList (hplain : ∀ x, P (plain x)) (xs : List α) : P (plainList plain xs) :=
  (h.plainList_iff xs).mpr fun x _ => hplain x

theorem plainOption (hplain : ∀ x, P (plain x)) : ∀ x : Option α, P (plainOption plain x)
  | some x => hplain x
  | none => h.null

/-! Each part of a model but for the value objects has the property, whatever it says. -/

theorem typeRef (t : TypeRef) : P t.plain := by
  induction t with
  | known name => simp [TypeRef.plain, h.record, h.text]
  | userDefined name inlineEnum => simp [TypeRef.plain, h.record, h.text, h.bool]
  | collection element ih => simp [TypeRef.plain, h.record, h.text, ih]

theorem edge (e : Edge) : P e.plain := by
  simp [Edge.plain, h.record, h.text, h.texts]

theorem enumType (e : EnumType) : P e.plain := by
  simp [EnumType.plain, h.record, h.text, h.texts, h.textOrNull, h.plainOption (h.plainList h.edge)]

theorem adjacency (m : Adjacency) : P m.plain := by
  simp [Adjacency.plain, h.plainList_iff, h.list, h.text, h.texts]

theorem stateMachine (m : StateMachine) : P m.plain := by
  simp [StateMachine.plain, h.record, h.texts, h.textOrNull, h.plainList h.edge, h.adjacency]

theorem field (f : Field) : P f.plain := by
  simp [Field.plain, h.record, h.text, h.bool, h.texts, h.textOrNull, h.typeRef,
    h.plainOption h.stateMachine]

theorem relationship (r : Relationship) : P r.plain := by
  simp [Relationship.plain, h.record, h.text, h.bool, h.texts, h.textOrNull]

theorem audit (a : Audit) : P a.plain := by
  simp [Audit.plain, h.record, h.bool]

theorem entity (e : Entity) : P e.plain := by
  simp [Entity.plain, h.record, h.text, h.bool, h.texts, h.audit, h.plainList h.field,
    h.plainList h.relationship, h.plainList h.enumType]

theorem parameter (p : Parameter) : P p.plain := by
  simp [Parameter.plain, h.record, h.text]

theorem statement (s : Statement) : P s.plain := by
  cases s <;> simp [Statement.plain, h.record, h.text, h.texts]

theorem nestedGroup (g : NestedGroup) : P g.plain := by
  simp [NestedGroup.plain, h.record, h.text, h.plainList h.parameter]

theorem method (m : Method) : P m.plain := by
  simp [Method.plain, h.record, h.text, h.bool, h.plainList h.parameter, h.plainList h.statement,
    h.plainList h.nestedGroup]

theorem valueObjectMethod_iff (m : ValueObjectMethod) :
    P m.plain ↔ ∀ v ∈ m.parameters, P v := by
  simp [ValueObjectMethod.plain, h.record, h.text, h.list]

theorem valueObject_iff (v : ValueObject) : P v.plain ↔ ∀ x ∈ v.carriedData, P x := by
  rw [ValueObject.carriedData, List.forall_mem_append, List.forall_mem_flatMap]
  simp [ValueObject.plain, h.record, h.text, h.texts, h.list, h.plainList_iff, h.field,
    h.enumType, h.valueObjectMethod_iff]

theorem aggregate_iff (a : Aggregate) : P a.plain ↔ ∀ x ∈ a.carriedData, P x := by
  rw [Aggregate.carriedData, List.forall_mem_flatMap]
  simp [Aggregate.plain, h.record, h.text, h.textOrNull, h.entity, h.plainList_iff, h.enumType,
    h.method, h.valueObject_iff]

/-- A model has the property exactly where the data that it carries along have it. -/
theorem model_iff (m : DomainModel) : P m.plain ↔ ∀ x ∈ m.carriedData, P x := by
  rw [DomainModel.carriedData, List.forall_mem_flatMap]
  simp [DomainModel.plain, h.record, h.text, h.plainList_iff, h.enumType, h.aggregate_iff]

end Structural

/-! ### The texts of a model -/

namespace Model.DomainModel

variable (m : DomainModel)

theorem exists_yaml_iff : (∃ s, m.text "yaml" = .ok s) ↔ m.plain.excess? = none := by
  have htext : m.text "yaml" = (ExportFormat.yaml.write m.plain).mapError .unwritable := rfl
  rw [htext, ExportFormat.write]
  cases m.plain.excess? <;> simp [Except.mapError]

theorem exists_json (hdata : m.plain.isData = true) (hexcess : m.plain.excess? = none) :
    ∃ s, m.text "json" = .ok s := by
  have htext : m.text "json" = (ExportFormat.json.write m.plain).mapError .unwritable := rfl
  obtain ⟨s, hs⟩ := Json.exists_write 0 m.plain hdata hexcess
  exact ⟨String.ofList s ++ "\n", by rw [htext, ExportFormat.write, Json.render, hs]; rfl⟩

/-- The model is written in both formats, and is made of what both have forms for. -/
structure WrittenAlike (m : DomainModel) : Prop where
  yaml : ∃ s, m.text "yaml" = .ok s
  json : ∃ s, m.text "json" = .ok s
  data : m.plain.isData = true

theorem writtenAlike_iff_plain :
    m.WrittenAlike ↔ m.plain.excess? = none ∧ m.plain.isData = true := by
  constructor
  · intro h
    exact ⟨m.exists_yaml_iff.mp h.yaml, h.data⟩
  · rintro ⟨hexcess, hdata⟩
    exact ⟨m.exists_yaml_iff.mpr hexcess, m.exists_json hdata hexcess, hdata⟩

end Model.DomainModel

section Compiled

open DomainCompiler.Declared (Document)

variable {options : Options} {d : Document} {c : Compiled}

theorem carriedData_of_compileDocument (h : compileDocument options d = .ok c) :
    c.model.carriedData = d.carriedData.map Model.frozen := by
  obtain ⟨-, hmodel, -⟩ := compileDocument_eq_ok_iff.mp h
  exact Model.DomainModel.carriedData_eq (resolveDocument_eq_ok_iff.mp hmodel).2

theorem excess?_plain_iff (h : compileDocument options d = .ok c) :
    c.model.plain.excess? = none ↔ ∀ v ∈ d.carriedData, v.excess? = none := by
  rw [structural_excess.model_iff, carriedData_of_compileDocument h, List.forall_mem_map]
  simp only [Value.excess?, Model.firstExcess?_frozen]

theorem isData_plain_iff (h : compileDocument options d = .ok c) :
    c.model.plain.isData = true ↔ ∀ v ∈ d.carriedData, v.freezesToData = true := by
  rw [structural_isData.model_iff, carriedData_of_compileDocument h, List.forall_mem_map]
  simp only [Model.isData_frozen]

/-- A compiled model is written as YAML where the data that it carries along have no excess, and in
both formats alike where these data also are, once frozen, such as both formats have forms for. -/
theorem writtenAlike_iff (h : compileDocument options d = .ok c) :
    ((∃ s, c.model.text "yaml" = .ok s) ↔ ∀ v ∈ d.carriedData, v.excess? = none) ∧
      (c.model.WrittenAlike ↔
        ∀ v ∈ d.carriedData, v.excess? = none ∧ v.freezesToData = true) := by
  refine ⟨by rw [c.model.exists_yaml_iff, excess?_plain_iff h], ?_⟩
  rw [c.model.writtenAlike_iff_plain, excess?_plain_iff h, isData_plain_iff h, ← forall₂_and]

end Compiled

/-- A price carries rules along, and parameters that are mapped from numbers. -/
def priced : Declared.Document :=
  ⟨[{ Model.Aggregate.plainAggregate "Order"
        [Model.Aggregate.plainEntity "order" true [Model.idOf "id"] []] with
      valueObjects :=
        [{ name := "Price", fields := [], description := none
           validation := [.list [.text "min", .int 0, .bool true]]
           methods :=
            [{ name := "scale", returnType := "Price", body := ""
               parameters := [.map [(.int 1, .null), (.text "by", .list [])]] }] }] }]⟩

theorem writtenAlike_priced :
    ∃ c, compileDocument {} priced = .ok c ∧ c.model.WrittenAlike := by
  have hrun : ∃ c, compileDocument {} priced = .ok c ∧ c.warnings = [] := by decide +kernel
  obtain ⟨c, hc, -⟩ := hrun
  exact ⟨c, hc, (writtenAlike_iff hc).2.mpr (by decide +kernel)⟩

/-- Compiling a file decides what holds of what it gives. -/
instance {options : Options} {path : String} {entry : FileEntry} {P : Compiled → Prop}
    [DecidablePred P] : Decidable (∃ c, compileFile options path entry = .ok c ∧ P c) :=
  match h : compileFile options path entry with
  | .ok c => decidable_of_iff (P c) (by simp)
  | .error _ => isFalse (by simp)

/-- A description whose value object carries a date along. -/
def dated : String :=
  "aggregates:\n- name: A\n  entities:\n  - name: a\n    isRoot: true\n" ++
    "  valueObjects:\n  - name: V\n    validation: [2024-01-31]\n"

/-- A file with a date is compiled, and its model is written as YAML but not as JSON. -/
theorem not_writtenAlike_dated :
    ∃ c, compileFile {} "a.yaml" (.file (Utf8.encode dated.toList)) = .ok c ∧
      (∃ s, c.model.text "yaml" = .ok s) ∧ (∀ s, c.model.text "json" ≠ .ok s) ∧
      ¬c.model.WrittenAlike := by
  have hrun : ∃ c, compileFile {} "a.yaml" (.file (Utf8.encode dated.toList)) = .ok c ∧
      c.model.plain.excess? = none ∧ (c.model.text "json").isOk = false := by
    decide +kernel
  obtain ⟨c, hc, hexcess, hjson⟩ := hrun
  have hrefused : ∀ s, c.model.text "json" ≠ .ok s := by
    intro s hs
    rw [hs] at hjson
    cases hjson
  refine ⟨c, hc, c.model.exists_yaml_iff.mpr hexcess, hrefused, ?_⟩
  intro h
  obtain ⟨s, hs⟩ := h.json
  exact hrefused s hs

end DomainCompiler
