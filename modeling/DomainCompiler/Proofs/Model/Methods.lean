import DomainCompiler.Proofs.Compile.Agreement
import DomainCompiler.Proofs.Model.Inverse
import Mathlib.Data.List.Infix

/-!
# Bodies of methods

A body is a list of statements over names: those of the parameters and those of the variables that
earlier statements built. It is closed when each statement finds its names there with the classes
that it needs, works on the field of the method only and passes on what the constructor or the
other method takes. The names are written down where a variable is built and again where it is
used; that they agree is shown statement by statement and carried through the body by induction.
-/

namespace DomainCompiler.Model

open DomainCompiler.Naming
open DomainCompiler.Traversal

namespace Parameter

/-- The parameters come one by one from the fields that the constructor of the entity takes. -/
def Creates (front : String) (ps : List Parameter) (e : Entity) : Prop :=
  List.Forall₂ (fun p f => p.type = f.resolvedType ∧
    p.name = if front = "" then f.name else front ++ pascal f.name) ps e.constructorFields

theorem creates_creating (front : String) (e : Entity) : Creates front (creating front e) e := by
  refine List.forall₂_map_left_iff.mpr (List.forall₂_same.mpr fun f _ => ⟨rfl, ?_⟩)
  simp only [String.isEmpty_iff]

end Parameter

namespace Statement

/-- The variable that a statement builds, with its class. -/
def built : Statement → List Parameter
  | .construct holder entity _ => [⟨holder, entity⟩]
  | _ => []

/-- The statement of the method can be carried out where the variables have been built. -/
def Closed (a : Aggregate) (m : Method) (scope : List Parameter) : Statement → Prop
  | .construct holder entity arguments =>
    ∃ e ∈ a.secondaryEntities, e.name = entity ∧
      ∃ front ps, (front = "" ∨ front = holder) ∧ ps <:+: m.parameters ∧
        arguments = ps.map (·.name) ∧ Parameter.Creates front ps e
  | .invokeAssign receiver method argument =>
    ∃ e ∈ a.secondaryEntities, ⟨receiver, e.name⟩ ∈ scope ∧
      ∃ s ∈ e.relationships, s.kind = .oneToOne ∧ s.isInverse = false ∧
        method = "assign" ++ pascal s.fieldName ∧ ⟨argument, s.target⟩ ∈ scope
  | .delegate method argument =>
    ∃ n ∈ a.methods, n.name = method ∧ n.kind = .assign ∧
      n.relationshipField = m.relationshipField ∧ n.targetEntity = m.targetEntity ∧
      ∃ p, n.parameters = [p] ∧ ⟨argument, p.type⟩ ∈ scope
  | .assignField field value =>
    field = m.relationshipField ∧ ⟨value, m.targetEntity⟩ ∈ m.parameters ++ scope
  | .append collection value =>
    collection = m.relationshipField ∧ ⟨value, m.targetEntity⟩ ∈ m.parameters ++ scope
  | .removeById collection idParameter =>
    collection = m.relationshipField ∧ idParameter ∈ m.parameters.map (·.name)
  | .returnView collection => collection = m.relationshipField

end Statement

/-- Each statement is closed over the variables that are there and those built before it. -/
def ClosedFrom (a : Aggregate) (m : Method) : List Parameter → List Statement → Prop
  | _, [] => True
  | scope, s :: rest =>
    s.Closed a m scope ∧ ClosedFrom a m (scope ++ s.built) rest

section Bodies

variable {a : Aggregate} {m : Method} {scope : List Parameter}

theorem closedFrom_append {body rest : List Statement} :
    ClosedFrom a m scope (body ++ rest) ↔
      ClosedFrom a m scope body ∧
        ClosedFrom a m (scope ++ body.flatMap Statement.built) rest := by
  induction body generalizing scope with
  | nil => simp [ClosedFrom]
  | cons s body ih =>
    rw [List.cons_append, ClosedFrom, ClosedFrom, ih, List.flatMap_cons, List.append_assoc,
      and_assoc]

theorem closedFrom_singleton {s : Statement} :
    ClosedFrom a m scope [s] ↔ s.Closed a m scope := by
  simp [ClosedFrom]

end Bodies

/-! ### Managed relationships -/

/-- The root looks after the other end of the relationship. -/
def Relationship.Managed (r : Relationship) : Prop :=
  r.kind = .oneToMany ∨ r.kind = .oneToOne ∧ ∃ b, r.mappedBy = some b ∧ b ≠ ""

/-- The method works on a relationship that the root looks after, and its body is closed. -/
structure Method.Closed (a : Aggregate) (m : Method) : Prop where
  relationship : ∃ r ∈ a.rootEntity.relationships, r.Managed ∧
    m.relationshipField = r.fieldName ∧ m.targetEntity = r.target
  body : ClosedFrom a m [] m.body

theorem Method.isAssigned_iff {r : Relationship} :
    isAssigned r = true ↔ r.kind = .oneToOne ∧ ∃ b, r.mappedBy = some b ∧ b ≠ "" := by
  rw [isAssigned, Bool.and_eq_true, beq_iff_eq]
  refine and_congr_right fun _ => ?_
  cases r.mappedBy with
  | none => simp
  | some b => simp [String.isEmpty_eq_false_iff]

theorem Entity.find?_eq_some {name : String} {entities : List Entity} {e : Entity}
    (h : Entity.find? name entities = some e) : e ∈ entities ∧ e.name = name := by
  rw [Entity.find?] at h
  have hname := List.find?_some (p := fun e : Entity => e.name == name) h
  exact ⟨List.mem_of_find?_eq_some h, beq_iff_eq.mp hname⟩

/-! ### Grandchildren -/

/-- An entity that a child holds, through the relationship. -/
structure Grandchild where
  relationship : Relationship
  entity : Entity

namespace Grandchild

def holder (g : Grandchild) : String := camel g.relationship.fieldName

def group (g : Grandchild) : NestedGroup :=
  { entityName := g.relationship.target
    fieldName := g.relationship.fieldName
    assignMethod := "assign" ++ pascal g.relationship.fieldName
    parameters := Parameter.creating g.holder g.entity }

/-- The single secondary entities that a child holds. -/
def ofChild (secondary : List Entity) (child : Entity) : List Grandchild :=
  child.relationships.filterMap fun r =>
    if r.isInverse || r.kind != .oneToOne then none
    else (Entity.find? r.target secondary).map fun e => ⟨r, e⟩

theorem map_group_ofChild (secondary : List Entity) (child : Entity) :
    (ofChild secondary child).map group = NestedGroup.ofChild secondary child := by
  rw [ofChild, NestedGroup.ofChild, List.map_filterMap]
  refine List.filterMap_congr fun r _ => ?_
  rw [NestedGroup.ofRelationship?]
  split
  · rfl
  · rw [Option.map_map]
    rfl

structure HeldBy (secondary : List Entity) (child : Entity) (g : Grandchild) : Prop where
  relationship : g.relationship ∈ child.relationships
  kind : g.relationship.kind = .oneToOne
  declared : g.relationship.isInverse = false
  entity : g.entity ∈ secondary
  target : g.entity.name = g.relationship.target

theorem heldBy_of_mem_ofChild {secondary : List Entity} {child : Entity} {g : Grandchild}
    (h : g ∈ ofChild secondary child) : g.HeldBy secondary child := by
  obtain ⟨r, hr, hg⟩ := List.mem_filterMap.mp h
  split at hg
  · cases hg
  · next hkind =>
    simp only [Bool.or_eq_true, bne_iff_ne, ne_eq, not_or, Bool.not_eq_true, not_not] at hkind
    obtain ⟨e, he, rfl⟩ := Option.map_eq_some_iff.mp hg
    obtain ⟨hmem, hname⟩ := Entity.find?_eq_some he
    exact ⟨hr, hkind.2, hkind.1, hmem, hname⟩

variable {a : Aggregate} {m : Method} {child : Entity}

/-- The step: a grandchild is built and attached. -/
theorem closedFrom_statements {g : Grandchild} (hchild : child ∈ a.secondaryEntities)
    (hg : g.HeldBy a.secondaryEntities child) (hparameters : g.group.parameters <:+: m.parameters)
    {scope : List Parameter} (hbuilt : ⟨Method.childVariable, child.name⟩ ∈ scope) :
    ClosedFrom a m scope (g.group.statements Method.childVariable) := by
  have hcreates := Parameter.creates_creating g.holder g.entity
  have hconstruct : (Statement.construct g.holder g.relationship.target
      (g.group.parameters.map (·.name))).Closed a m scope :=
    ⟨g.entity, hg.entity, hg.target, g.holder, _, .inr rfl, hparameters, rfl, hcreates⟩
  refine ⟨hconstruct, ?_, trivial⟩
  refine ⟨child, hchild, List.mem_append_left _ hbuilt, g.relationship, hg.relationship, hg.kind,
    hg.declared, rfl, ?_⟩
  exact List.mem_append_right _ List.mem_cons_self

/-- The run: one grandchild after the other, the child being there all the time. -/
theorem closedFrom_flatMap_statements {gs : List Grandchild}
    (hchild : child ∈ a.secondaryEntities) (hgs : ∀ g ∈ gs, g.HeldBy a.secondaryEntities child)
    (hparameters : ∀ g ∈ gs, g.group.parameters <:+: m.parameters) {scope : List Parameter}
    (hbuilt : ⟨Method.childVariable, child.name⟩ ∈ scope) :
    ClosedFrom a m scope ((gs.map group).flatMap (·.statements Method.childVariable)) := by
  induction gs generalizing scope with
  | nil => trivial
  | cons g gs ih =>
    obtain ⟨hg, hrest⟩ := List.forall_mem_cons.mp hgs
    obtain ⟨hpart, hparts⟩ := List.forall_mem_cons.mp hparameters
    rw [List.map_cons, List.flatMap_cons, closedFrom_append]
    refine ⟨closedFrom_statements hchild hg hpart hbuilt, ih hrest hparts ?_⟩
    exact List.mem_append_left _ hbuilt

end Grandchild

/-! ### The methods of a root -/

namespace Method

variable {a : Aggregate}

/-- The methods that an aggregate may have. -/
inductive Made (a : Aggregate) : Method → Prop
  | factoryAdd {r : Relationship} {child : Entity} (hr : r ∈ a.rootEntity.relationships)
      (hmanaged : r.Managed) (hchild : Entity.find? r.target a.secondaryEntities = some child) :
      Made a (factoryAdd r a.secondaryEntities child)
  | add {r : Relationship} (hr : r ∈ a.rootEntity.relationships) (hmanaged : r.Managed)
      (isOverload : Bool) : Made a (add r isOverload)
  | remove {r : Relationship} (hr : r ∈ a.rootEntity.relationships) (hmanaged : r.Managed)
      (child : Option Entity) : Made a (remove r child)
  | getter {r : Relationship} (hr : r ∈ a.rootEntity.relationships) (hmanaged : r.Managed) :
      Made a (getter r)
  | factoryAssign {r : Relationship} {child : Entity} (hr : r ∈ a.rootEntity.relationships)
      (hmanaged : r.Managed) (hchild : Entity.find? r.target a.secondaryEntities = some child)
      (hassign : assign r true ∈ a.methods) : Made a (factoryAssign r child)
  | assign {r : Relationship} (hr : r ∈ a.rootEntity.relationships) (hmanaged : r.Managed)
      (isOverload : Bool) : Made a (assign r isOverload)

theorem mem_ofRoot_iff {root : Entity} {secondary : List Entity} {m : Method} :
    m ∈ ofRoot root secondary ↔
      (∃ r ∈ root.relationships, r.kind = .oneToMany ∧ m ∈ ofCollection secondary r) ∨
        ∃ r ∈ root.relationships, (r.kind = .oneToOne ∧ ∃ b, r.mappedBy = some b ∧ b ≠ "") ∧
          m ∈ ofSingle secondary r := by
  simp only [ofRoot, List.mem_append, List.mem_flatMap, List.mem_filter, beq_iff_eq, isAssigned_iff,
    and_assoc]

theorem made_of_mem_methods (hmethods : a.methods = ofRoot a.rootEntity a.secondaryEntities)
    {m : Method} (hm : m ∈ a.methods) : Made a m := by
  rw [hmethods] at hm
  rcases mem_ofRoot_iff.mp hm with ⟨r, hr, hkind, hm⟩ | ⟨r, hr, hkind, hm⟩
  · rcases List.mem_append.mp hm with hfactory | hm
    · obtain ⟨child, hchild, rfl⟩ := Option.map_eq_some_iff.mp (Option.mem_toList.mp hfactory)
      exact .factoryAdd hr (.inl hkind) hchild
    · simp only [List.mem_cons, List.not_mem_nil, or_false] at hm
      rcases hm with rfl | rfl | rfl
      · exact .add hr (.inl hkind) _
      · exact .remove hr (.inl hkind) _
      · exact .getter hr (.inl hkind)
  · rcases List.mem_append.mp hm with hfactory | hm
    · obtain ⟨child, hchild, rfl⟩ := Option.map_eq_some_iff.mp (Option.mem_toList.mp hfactory)
      -- A method that builds a child comes with the one that it hands the child to.
      have hassign : Method.assign r true ∈ ofSingle a.secondaryEntities r := by
        rw [ofSingle, hchild]
        exact List.mem_append_right _ List.mem_cons_self
      have hmem : Method.assign r true ∈ a.methods := by
        rw [hmethods]
        exact mem_ofRoot_iff.mpr (.inr ⟨r, hr, hkind, hassign⟩)
      exact .factoryAssign hr (.inr hkind) hchild hmem
    · obtain rfl := List.mem_singleton.mp hm
      exact .assign hr (.inr hkind) _

theorem closed_factoryAdd {r : Relationship} {child : Entity}
    (hr : r ∈ a.rootEntity.relationships) (hmanaged : r.Managed)
    (hchild : Entity.find? r.target a.secondaryEntities = some child) :
    (factoryAdd r a.secondaryEntities child).Closed a := by
  obtain ⟨hmem, hname⟩ := Entity.find?_eq_some hchild
  refine ⟨⟨r, hr, hmanaged, rfl, rfl⟩, ?_⟩
  set m := factoryAdd r a.secondaryEntities child
  have hown : Parameter.creating "" child <:+: m.parameters := (List.prefix_append _ _).isInfix
  have hgroups : ∀ g ∈ Grandchild.ofChild a.secondaryEntities child,
      g.group.parameters <:+: m.parameters := by
    intro g hg
    have hgroup : g.group ∈ NestedGroup.ofChild a.secondaryEntities child := by
      rw [← Grandchild.map_group_ofChild]
      exact List.mem_map_of_mem hg
    have hpart :=
      List.infix_of_mem_flatten (List.mem_map_of_mem (f := NestedGroup.parameters) hgroup)
    exact hpart.trans (List.suffix_append _ _).isInfix
  have hheld : ∀ g ∈ Grandchild.ofChild a.secondaryEntities child,
      g.HeldBy a.secondaryEntities child := fun g hg => Grandchild.heldBy_of_mem_ofChild hg
  -- The groups are those of the grandchildren, over which the run goes.
  have hbody : m.body =
      .construct childVariable r.target ((Parameter.creating "" child).map (·.name)) ::
        ((Grandchild.ofChild a.secondaryEntities child).map Grandchild.group).flatMap
          (·.statements childVariable) ++ [.append r.fieldName childVariable] := by
    rw [Grandchild.map_group_ofChild]
    rfl
  rw [hbody]
  refine closedFrom_append.mpr ⟨⟨?_, ?_⟩, closedFrom_singleton.mpr ⟨rfl, ?_⟩⟩
  · exact ⟨child, hmem, hname, "", _, .inl rfl, hown, rfl, Parameter.creates_creating "" child⟩
  · refine Grandchild.closedFrom_flatMap_statements hmem hheld hgroups ?_
    rw [hname]
    exact List.mem_cons_self
  · exact List.mem_append_right _ List.mem_cons_self

theorem closed_of_made {m : Method} (h : Made a m) : m.Closed a := by
  cases h with
  | factoryAdd hr hmanaged hchild => exact closed_factoryAdd hr hmanaged hchild
  | @add r hr hmanaged isOverload =>
    have hparameter : (⟨camel (singular r.fieldName), r.target⟩ : Parameter) ∈
        (add r isOverload).parameters := List.mem_cons_self
    refine ⟨⟨r, hr, hmanaged, rfl, rfl⟩, closedFrom_singleton.mpr ⟨rfl, ?_⟩⟩
    exact List.mem_append_left _ hparameter
  | @remove r hr hmanaged child =>
    exact ⟨⟨r, hr, hmanaged, rfl, rfl⟩, closedFrom_singleton.mpr ⟨rfl, List.mem_cons_self⟩⟩
  | @getter r hr hmanaged => exact ⟨⟨r, hr, hmanaged, rfl, rfl⟩, closedFrom_singleton.mpr rfl⟩
  | @factoryAssign r child hr hmanaged hchild hassign =>
    obtain ⟨hmem, hname⟩ := Entity.find?_eq_some hchild
    refine ⟨⟨r, hr, hmanaged, rfl, rfl⟩, ⟨?_, closedFrom_singleton.mpr ?_⟩⟩
    · exact ⟨child, hmem, hname, "", _, .inl rfl, List.infix_rfl, rfl,
        Parameter.creates_creating "" child⟩
    · exact ⟨Method.assign r true, hassign, rfl, rfl, rfl, rfl, _, rfl, List.mem_cons_self⟩
  | @assign r hr hmanaged isOverload =>
    have hparameter : (⟨r.fieldName, r.target⟩ : Parameter) ∈ (assign r isOverload).parameters :=
      List.mem_cons_self
    refine ⟨⟨r, hr, hmanaged, rfl, rfl⟩, closedFrom_singleton.mpr ⟨rfl, ?_⟩⟩
    exact List.mem_append_left _ hparameter

theorem exists_mem_ofRoot_of_managed {root : Entity} {secondary : List Entity} {r : Relationship}
    (hr : r ∈ root.relationships) (hmanaged : r.Managed) :
    ∃ m ∈ ofRoot root secondary, m.relationshipField = r.fieldName ∧ m.targetEntity = r.target ∧
      m.body ≠ [] := by
  rcases hmanaged with hkind | hkind
  · have hgetter : getter r ∈ ofCollection secondary r :=
      List.mem_append_right _ (by simp only [List.mem_cons, true_or, or_true])
    exact ⟨getter r, mem_ofRoot_iff.mpr (.inl ⟨r, hr, hkind, hgetter⟩), rfl, rfl, nofun⟩
  · have hassign : assign r (Entity.find? r.target secondary).isSome ∈ ofSingle secondary r :=
      List.mem_append_right _ List.mem_cons_self
    exact ⟨_, mem_ofRoot_iff.mpr (.inr ⟨r, hr, hkind, hassign⟩), rfl, rfl, nofun⟩

end Method

namespace Aggregate

variable {options : Options} {d : Declared.Aggregate} {a : Aggregate}

/-- The imports that the root gets for its methods do not change which methods it gets. -/
theorem methods_eq (h : resolve options d = .ok a) :
    a.methods = Method.ofRoot a.rootEntity a.secondaryEntities := by
  obtain ⟨entities, root, -, -, rfl⟩ := resolve_eq_ok_iff.mp h
  simp only [assemble, Method.ofRoot, withImports_relationships]

end Aggregate

/-- In a compiled model the body of every method of a root is closed, and there are methods for
every relationship that the root looks after. -/
theorem closed_of_compileDocument {options : Options} {d : Declared.Document} {c : Compiled}
    (h : compileDocument options d = .ok c) :
    ∀ a ∈ c.model.aggregates, (∀ m ∈ a.methods, m.Closed a) ∧
      ∀ r ∈ a.rootEntity.relationships, r.Managed → ∃ m ∈ a.methods,
        m.relationshipField = r.fieldName ∧ m.targetEntity = r.target ∧ m.body ≠ [] := by
  intro a ha
  obtain ⟨x, -, -, hresolve⟩ := exists_sound_of_mem_compiled h ha
  have hmethods := Aggregate.methods_eq hresolve
  refine ⟨fun m hm => ?_, fun r hr hmanaged => ?_⟩
  · exact Method.closed_of_made (Method.made_of_mem_methods hmethods hm)
  · rw [hmethods]
    exact Method.exists_mem_ofRoot_of_managed hr hmanaged

/-- Orders with items, each of which has a note, and with an invoice. -/
def orderWithNotes : Declared.Document :=
  ⟨[Aggregate.plainAggregate "Order"
    [Aggregate.plainEntity "order" true [{ name := "id", type := "Long" }]
      [Aggregate.plainRelationship .oneToMany "order_item" (some "order"),
       Aggregate.plainRelationship .oneToOne "invoice" (some "order")],
     Aggregate.plainEntity "order-item" false
      [{ name := "id", type := "UUID" }, { name := "unit price", type := "BigDecimal" }]
      [Aggregate.plainRelationship .oneToOne "note" none],
     Aggregate.plainEntity "note" false [{ name := "text", type := "String" }] [],
     Aggregate.plainEntity "invoice" false [{ name := "number", type := "String" }] []]]⟩

theorem closed_of_compileDocument_orderWithNotes :
    ∃ c, compileDocument {} orderWithNotes = .ok c ∧
      (∀ a ∈ c.model.aggregates, (∀ m ∈ a.methods, m.Closed a) ∧
        ∀ r ∈ a.rootEntity.relationships, r.Managed → ∃ m ∈ a.methods,
          m.relationshipField = r.fieldName ∧ m.targetEntity = r.target ∧ m.body ≠ []) ∧
      c.model.aggregates.flatMap (fun a => a.methods.map fun m => (m.name, m.body)) =
        [("addOrderItem",
          [.construct "entity" "OrderItem" ["unitPrice"], .construct "note" "Note" ["noteText"],
           .invokeAssign "entity" "assignNote" "note", .append "orderItems" "entity"]),
         ("addOrderItem", [.append "orderItems" "orderItem"]),
         ("removeOrderItem", [.removeById "orderItems" "id"]),
         ("getOrderItems", [.returnView "orderItems"]),
         ("assignInvoice",
          [.construct "entity" "Invoice" ["number"], .delegate "assignInvoice" "entity"]),
         ("assignInvoice", [.assignField "invoice" "invoice"])] :=
  ⟨_, rfl, @closed_of_compileDocument {} orderWithNotes _ rfl, by decide +kernel⟩

end DomainCompiler.Model
