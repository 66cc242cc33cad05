import DomainCompiler.Proofs.Compile.Agreement
import DomainCompiler.Proofs.Model.Erasure

/-!
# What the options do not decide

Package, module, the package of the enums and the suffix of stored classes are handed to every
resolver, and the imports in which they end up are gathered, sorted and gathered again. Two runs
that differ in them only nevertheless agree on everything else, because the enums and hence their
imports are the same in both, and nothing is decided by an import or by how a value is stored.
-/

namespace DomainCompiler.Model

open DomainCompiler.Naming
open DomainCompiler.Traversal

/-! ### Aggregates -/

namespace Aggregate

variable {o o' : Options} {names : List String} {d : Declared.Aggregate} {a a' : Aggregate}

theorem erased_withImports {e : Entity} (hascending : NameSet.Ascending e.requiredImports)
    (imports : List String) :
    (withImports e imports).erased o names =
      withImports (e.erased o names) (o.withoutEnums names imports) := by
  have hleft : NameSet.Ascending (e.erased o names).requiredImports := hascending.filter _
  rw [withImports_eq hascending, withImports_eq hleft]
  simp only [Entity.erased, Options.withoutEnums_ofList, Options.withoutEnums_append]

/-- Putting erased parts together comes to the same as erasing what was put together. -/
theorem erased_assemble {enums : List EnumType} {valueObjects : List ValueObject}
    {entities : List Entity} {root : Entity} (hroot : NameSet.Ascending root.requiredImports)
    (hnames : ∀ e ∈ entities.flatMap (·.enums) ++ enums, e.name ∈ names) :
    (assemble d o enums valueObjects entities root).erased o names =
      assemble d {} enums (valueObjects.map (ValueObject.erased o names))
        (entities.map (Entity.erased o names)) (root.erased o names) := by
  have hsecondary : (entities.map (Entity.erased o names)).filter (fun e => !e.isRoot) =
      (entities.filter fun e => !e.isRoot).map (Entity.erased o names) := List.filter_map
  have henums : (entities.map (Entity.erased o names)).flatMap (·.enums) =
      entities.flatMap (·.enums) := List.flatMap_map ..
  have himports : ∀ types, Imports.ofParameters types (entities.flatMap (·.enums) ++ enums) {} =
      o.withoutEnums names
        (Imports.ofParameters types (entities.flatMap (·.enums) ++ enums) o) := by
    intro types
    rw [Imports.withoutEnums_ofParameters hnames]
    rfl
  have hall : ∀ e, (entities.map fun x => if x.isRoot then e else x).map (Entity.erased o names) =
      (entities.map (Entity.erased o names)).map fun x =>
        if x.isRoot then e.erased o names else x := by
    intro e
    rw [List.map_map, List.map_map]
    refine List.map_congr_left fun x _ => ?_
    exact apply_ite (Entity.erased o names) _ _ _
  simp only [assemble, erased, hsecondary, Method.ofRoot_erased, henums, himports, hall,
    erased_withImports hroot]

/-- The enums that the description of an aggregate declares anywhere. -/
def declaredEnums (d : Declared.Aggregate) : List EnumType :=
  resolvedEnums d ++ d.entities.flatMap (fun x => EnumType.inlineOf x.fields) ++
    d.valueObjects.flatMap fun x => EnumType.inlineOf x.fields

theorem mem_declaredEnums_of_resolvedEnums {n : EnumType} (hn : n ∈ resolvedEnums d) :
    n ∈ declaredEnums d :=
  List.mem_append_left _ (List.mem_append_left _ hn)

theorem mem_declaredEnums_of_entity {x : Declared.Entity} (hx : x ∈ d.entities) {n : EnumType}
    (hn : n ∈ EnumType.inlineOf x.fields) : n ∈ declaredEnums d :=
  List.mem_append_left _ (List.mem_append_right _ (List.mem_flatMap.mpr ⟨x, hx, hn⟩))

theorem mem_declaredEnums_of_valueObject {x : Declared.ValueObject} (hx : x ∈ d.valueObjects)
    {n : EnumType} (hn : n ∈ EnumType.inlineOf x.fields) : n ∈ declaredEnums d :=
  List.mem_append_right _ (List.mem_flatMap.mpr ⟨x, hx, hn⟩)

theorem allEnums_eq_declaredEnums (h : resolve o d = .ok a) : a.allEnums = declaredEnums d := by
  have hentities : d.entities.map (fun x => EnumType.inlineOf x.fields) =
      a.allEntities.map (·.enums) := by
    refine Forall₂.map_eq (forall₂_allEntities h) fun x e hx => ?_
    obtain ⟨e', imports, hresolves, rfl⟩ := hx
    rw [withImports_eq hresolves.ascending, hresolves.enums_eq]
  have hjoined : a.allEntities.flatMap (·.enums) =
      d.entities.flatMap fun x => EnumType.inlineOf x.fields := by
    rw [List.flatMap_def, ← hentities, ← List.flatMap_def]
  rw [allEnums, declaredEnums, enums_eq h, valueObjects_eq h, resolvedValueObjects,
    List.flatMap_map, hjoined]
  rfl

theorem map_name_resolvedValueObjects (o o' : Options) (d : Declared.Aggregate) :
    (resolvedValueObjects o d).map (·.name) = (resolvedValueObjects o' d).map (·.name) := by
  rw [resolvedValueObjects, resolvedValueObjects, List.map_map, List.map_map]
  rfl

theorem Resolves.erased_eq (hnames : ∀ e ∈ declaredEnums d, e.name ∈ names) {x : Declared.Entity}
    (hx : x ∈ d.entities) {e e' : Entity} (h : Resolves o d x e) (h' : Resolves o' d x e') :
    e.erased o names = e'.erased o' names := by
  have hown : ∀ n ∈ EnumType.inlineOf x.fields ++ resolvedEnums d, n.name ∈ names := by
    intro n hn
    apply hnames
    rcases List.mem_append.mp hn with hn | hn
    · exact mem_declaredEnums_of_entity hx hn
    · exact mem_declaredEnums_of_resolvedEnums hn
  have hinverse := Relationship.map_erasedSide_allInverse o.persistenceSuffix
    o'.persistenceSuffix d.entities
  obtain ⟨-, declared, hdeclared, rfl⟩ := Entity.resolve_eq_ok_iff.mp h
  obtain ⟨-, declared', hdeclared', rfl⟩ := Entity.resolve_eq_ok_iff.mp h'
  rw [map_name_resolvedValueObjects o o']
  exact Entity.erased_assemble hinverse (Relationship.map_erased_eq hdeclared hdeclared') hown

theorem map_erased_resolvedValueObjects (hnames : ∀ e ∈ declaredEnums d, e.name ∈ names) :
    (resolvedValueObjects o d).map (ValueObject.erased o names) =
      (resolvedValueObjects o' d).map (ValueObject.erased o' names) := by
  rw [resolvedValueObjects, resolvedValueObjects, List.map_map, List.map_map]
  refine List.map_congr_left fun x hx => ?_
  apply ValueObject.erased_resolve
  intro n hn
  apply hnames
  rcases List.mem_append.mp hn with hn | hn
  · exact mem_declaredEnums_of_valueObject hx hn
  · exact mem_declaredEnums_of_resolvedEnums hn

theorem filter_isRoot_map_erased {entities : List Entity} {root : Entity}
    (h : entities.filter (·.isRoot) = [root]) :
    (entities.map (Entity.erased o names)).filter (·.isRoot) = [root.erased o names] := by
  rw [List.filter_map]
  exact congrArg (List.map (Entity.erased o names)) h

theorem erased_assemble_of_resolves (hnames : ∀ e ∈ declaredEnums d, e.name ∈ names)
    {entities : List Entity} (hstep : List.Forall₂ (Resolves o d) d.entities entities)
    {root : Entity} (hroot : root ∈ entities) :
    (assemble d o (resolvedEnums d) (resolvedValueObjects o d) entities root).erased o names =
      assemble d {} (resolvedEnums d)
        ((resolvedValueObjects o d).map (ValueObject.erased o names))
        (entities.map (Entity.erased o names)) (root.erased o names) := by
  obtain ⟨x, -, hresolves⟩ := Forall₂.exists_left hstep hroot
  apply erased_assemble hresolves.ascending
  intro n hn
  apply hnames
  rcases List.mem_append.mp hn with hn | hn
  · obtain ⟨e, he, hown⟩ := List.mem_flatMap.mp hn
    obtain ⟨y, hy, hy'⟩ := Forall₂.exists_left hstep he
    rw [hy'.enums_eq] at hown
    exact mem_declaredEnums_of_entity hy hown
  · exact mem_declaredEnums_of_resolvedEnums hn

/-- Two runs on one aggregate differ in nothing but what is erased. -/
theorem erased_eq_of_resolve (hnames : ∀ e ∈ declaredEnums d, e.name ∈ names)
    (h : resolve o d = .ok a) (h' : resolve o' d = .ok a') :
    a.erased o names = a'.erased o' names := by
  obtain ⟨entities, root, hstep, hroots, rfl⟩ := resolve_eq_ok_iff.mp h
  obtain ⟨entities', root', hstep', hroots', rfl⟩ := resolve_eq_ok_iff.mp h'
  have hentities : entities.map (Entity.erased o names) =
      entities'.map (Entity.erased o' names) :=
    Forall₂.map_eq (Forall₂.through hstep hstep' fun x hx e e' he he' =>
      Resolves.erased_eq hnames hx he he') fun e e' he => he
  have hroot : root.erased o names = root'.erased o' names := by
    have hfiltered : (entities.map (Entity.erased o names)).filter (·.isRoot) =
        [root.erased o names] := filter_isRoot_map_erased hroots
    rw [hentities, filter_isRoot_map_erased hroots'] at hfiltered
    exact (List.singleton_inj.mp hfiltered).symm
  rw [erased_assemble_of_resolves hnames hstep (mem_of_filter_isRoot hroots),
    erased_assemble_of_resolves hnames hstep' (mem_of_filter_isRoot hroots'), hentities, hroot,
    map_erased_resolvedValueObjects hnames]

end Aggregate

/-! ### Models -/

namespace DomainModel

variable {o o' : Options} {d : Declared.Document} {m m' : DomainModel}

def declaredEnums (d : Declared.Document) : List EnumType :=
  d.aggregates.flatMap Aggregate.declaredEnums

theorem allEnums_eq_declaredEnums (h : resolve o d = .ok m) :
    m.allEnums = (declaredEnums d).foldl register [] := by
  obtain ⟨aggregates, hstep, rfl⟩ := resolve_eq_ok_iff.mp h
  have hmap : d.aggregates.map Aggregate.declaredEnums = aggregates.map Aggregate.allEnums :=
    Forall₂.map_eq hstep fun x a hx => (Aggregate.allEnums_eq_declaredEnums hx).symm
  rw [declaredEnums, List.flatMap_def, hmap, ← List.flatMap_def]
  rfl

theorem erased_eq_of_resolve (h : resolve o d = .ok m) (h' : resolve o' d = .ok m') :
    m.erased o = m'.erased o' := by
  have henums : m'.allEnums = m.allEnums := by
    rw [allEnums_eq_declaredEnums h, allEnums_eq_declaredEnums h']
  obtain ⟨aggregates, hstep, rfl⟩ := resolve_eq_ok_iff.mp h
  obtain ⟨aggregates', hstep', rfl⟩ := resolve_eq_ok_iff.mp h'
  have hnames : ∀ x ∈ d.aggregates, ∀ e ∈ Aggregate.declaredEnums x,
      e.name ∈ (registry aggregates).map (·.name) := by
    intro x hx e he
    obtain ⟨a, ha, hresolve⟩ := Forall₂.exists_right hstep hx
    rw [← Aggregate.allEnums_eq_declaredEnums hresolve] at he
    exact name_mem_registry (List.mem_flatMap.mpr ⟨a, ha, he⟩)
  have haggregates : aggregates.map (Aggregate.erased o ((registry aggregates).map (·.name))) =
      aggregates'.map (Aggregate.erased o' ((registry aggregates).map (·.name))) :=
    Forall₂.map_eq (Forall₂.through hstep hstep' fun x hx a a' ha ha' =>
      Aggregate.erased_eq_of_resolve (hnames x hx) ha ha') fun a a' ha => ha
  have henums : registry aggregates' = registry aggregates := henums
  simp only [erased, haggregates, henums]

end DomainModel

end DomainCompiler.Model

namespace DomainCompiler

open DomainCompiler.Declared (Document)

/-- The runs end with one error, or with models that differ in nothing but what is erased. -/
def AgreeErased (o o' : Options) :
    Except CompileError Compiled → Except CompileError Compiled → Prop
  | .ok c, .ok c' => c.model.erased o = c'.model.erased o' ∧ c.warnings = c'.warnings
  | .error x, .error x' => x = x'
  | _, _ => False

theorem agreeErased_compileDocument {o o' : Options} (hstrict : o.strict = o'.strict)
    (d : Document) : AgreeErased o o' (compileDocument o d) (compileDocument o' d) := by
  by_cases haccepted : Check.Accepted o.strict d
  · have haccepted' : Check.Accepted o'.strict d := hstrict ▸ haccepted
    rcases compileDocument_of_accepted haccepted with ⟨c, hc⟩ | ⟨e, he, hexcess⟩
    · obtain ⟨-, hmodel, hwarnings⟩ := compileDocument_eq_ok_iff.mp hc
      obtain ⟨hnone, hresolve⟩ := resolveDocument_eq_ok_iff.mp hmodel
      rcases compileDocument_of_accepted haccepted' with ⟨c', hc'⟩ | ⟨e, he, -⟩
      · obtain ⟨-, hmodel', hwarnings'⟩ := compileDocument_eq_ok_iff.mp hc'
        obtain ⟨-, hresolve'⟩ := resolveDocument_eq_ok_iff.mp hmodel'
        rw [hc, hc']
        refine ⟨Model.DomainModel.erased_eq_of_resolve hresolve hresolve', ?_⟩
        rw [hwarnings, hwarnings']
      · rw [hnone] at he
        cases he
    · rcases compileDocument_of_accepted haccepted' with ⟨c', hc'⟩ | ⟨e', he', hexcess'⟩
      · obtain ⟨-, hmodel', -⟩ := compileDocument_eq_ok_iff.mp hc'
        rw [(resolveDocument_eq_ok_iff.mp hmodel').1] at he
        cases he
      · obtain rfl := Option.some.inj (he.symm.trans he')
        rw [hexcess, hexcess']
        rfl
  · have haccepted' : ¬Check.Accepted o'.strict d := hstrict ▸ haccepted
    rw [compileDocument_of_not_accepted haccepted, compileDocument_of_not_accepted haccepted']
    rfl

/-- Options that count warnings alike agree on every description, whether it is given as a value or
has been read: on what is wrong with it or on all of the model that they do not name. -/
theorem agreeErased_compile {o o' : Options} (hstrict : o.strict = o'.strict) :
    (∀ d, AgreeErased o o' (compileDocument o d) (compileDocument o' d)) ∧
      ∀ v, AgreeErased o o' (compile o v) (compile o' v) := by
  refine ⟨agreeErased_compileDocument hstrict, fun v => ?_⟩
  rw [compile, compile]
  cases parseDocument v with
  | error f => exact rfl
  | ok d => exact agreeErased_compileDocument hstrict d

open Model.Aggregate (plainEntity plainAggregate)

/-- Orders with a status, which is an enum, and a price, which is a value object. -/
def pricedOrders : Document :=
  ⟨[{ plainAggregate "Order"
      [plainEntity "order" true
        [{ name := "status", type := "Status" }, { name := "price", type := "Money" }] []] with
      enums := [Model.orderStatus]
      valueObjects :=
        [{ name := "Money", fields := [{ name := "amount", type := "BigDecimal" }], methods := []
           validation := [], description := none }] }]⟩

def shopOptions : Options :=
  { packageName := "com.shop", moduleName := "orders", persistenceSuffix := "Row" }

theorem agreeErased_compile_pricedOrders :
    shopOptions.strict = ({} : Options).strict ∧
      ((∀ d, AgreeErased shopOptions {} (compileDocument shopOptions d) (compileDocument {} d)) ∧
        ∀ v, AgreeErased shopOptions {} (compile shopOptions v) (compile {} v)) ∧
      ∃ c c', compileDocument shopOptions pricedOrders = .ok c ∧
        compileDocument {} pricedOrders = .ok c' ∧
        c.model.aggregates.map (fun a => (a.rootEntity.requiredImports,
          a.rootEntity.fields.map (·.persistenceType))) =
          [(["com.shop.orders.domain.models.enums.Status"], ["Status", "MoneyRow"])] ∧
        c'.model.aggregates.map (fun a => (a.rootEntity.requiredImports,
          a.rootEntity.fields.map (·.persistenceType))) = [([], ["Status", "MoneyJpa"])] :=
  ⟨rfl, agreeErased_compile rfl, _, _, rfl, rfl, by decide +kernel, by decide +kernel⟩

end DomainCompiler
