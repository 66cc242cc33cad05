import DomainCompiler.Proofs.Model.Capture

/-!
# Methods of one name

A call finds its method by the name and by the classes of what it passes. The names of the methods
of a root are made of four verbs and of what the fields of its relationships are called, in the
singular for some of them, and no two are compared. Methods with different verbs are told apart by
the verb. What may make two methods with one verb alike is listed, and a call has a choice exactly
where something of the list occurs.
-/

namespace DomainCompiler.Model

open DomainCompiler.Naming

/-- What the names of the methods of a kind begin with. -/
def MethodKind.verb : MethodKind → String
  | .factoryAdd => "add"
  | .add => "add"
  | .remove => "remove"
  | .getter => "get"
  | .factoryAssign => "assign"
  | .assign => "assign"

theorem MethodKind.verb_eq_of_append_eq {k l : MethodKind} {s t : String}
    (h : k.verb ++ s = l.verb ++ t) : k.verb = l.verb := by
  have hchars : k.verb.toList ++ s.toList = l.verb.toList ++ t.toList := by
    rw [← String.toList_append, ← String.toList_append, h]
  cases k <;> cases l <;> simp_all [verb]

/-- What a call goes by. -/
def Method.signature (m : Method) : String × List String := (m.name, m.parameters.map (·.type))

/-! ### What the parameters are of -/

def Entity.constructorTypes (e : Entity) : List String := e.constructorFields.map (·.resolvedType)

/-- The types by which an entity is built together with the single ones that it holds. -/
def Entity.graphTypes (secondary : List Entity) (e : Entity) : List String :=
  e.constructorTypes ++
    (Grandchild.ofChild secondary e).flatMap fun g => g.entity.constructorTypes

theorem Parameter.map_type_creating (front : String) (e : Entity) :
    (creating front e).map (·.type) = e.constructorTypes := by
  rw [creating, List.map_map]
  rfl

namespace Relationship

/-- The name that a collection gives to the methods on one of its elements. -/
def elementName (r : Relationship) : String := pascal (singular r.fieldName)

/-- The types that the adding methods of a collection take, method by method. -/
def addTypes (secondary : List Entity) (r : Relationship) : List (List String) :=
  ((Entity.find? r.target secondary).map (Entity.graphTypes secondary)).toList ++ [[r.target]]

def removeType (secondary : List Entity) (r : Relationship) : String :=
  (((Entity.find? r.target secondary).bind Entity.idField?).map (·.resolvedType)).getD
    Method.defaultIdType

/-- The types that the assigning methods of a single child take, method by method. -/
def assignTypes (secondary : List Entity) (r : Relationship) : List (List String) :=
  ((Entity.find? r.target secondary).map Entity.constructorTypes).toList ++ [[r.target]]

end Relationship

namespace Method

variable {secondary : List Entity}

theorem map_type_factoryAdd (r : Relationship) (child : Entity) :
    (factoryAdd r secondary child).parameters.map (·.type) = child.graphTypes secondary := by
  have hgroups : (NestedGroup.ofChild secondary child).flatMap (·.parameters) =
      (Grandchild.ofChild secondary child).flatMap (·.group.parameters) := by
    rw [← Grandchild.map_group_ofChild, List.flatMap_map]
  rw [factoryAdd, hgroups, List.map_append, List.map_flatMap, Parameter.map_type_creating,
    Entity.graphTypes]
  congr 1
  refine List.flatMap_congr fun g _ => ?_
  exact Parameter.map_type_creating g.holder g.entity

/-- The signatures of methods that share a name. -/
def named (k : MethodKind) (name : String) (types : List (List String)) :
    List (String × List String) :=
  types.map (k.verb ++ name, ·)

theorem nodup_named_iff {k : MethodKind} {name : String} {types : List (List String)} :
    (named k name types).Nodup ↔ types.Nodup := by
  have hinjective : Function.Injective fun types : List String => (k.verb ++ name, types) := by
    intro x y h
    exact (Prod.mk.inj h).2
  exact List.nodup_map_iff hinjective

theorem disjoint_named_iff {k l : MethodKind} {s t : String} {xs ys : List (List String)} :
    List.Disjoint (named k s xs) (named l t ys) ↔
      (k.verb = l.verb → s = t → List.Disjoint xs ys) := by
  constructor
  · rintro h hverb rfl x hx hy
    refine h (List.mem_map_of_mem hx) ?_
    rw [hverb]
    exact List.mem_map_of_mem hy
  · rintro h p hp hq
    obtain ⟨x, hx, rfl⟩ := List.mem_map.mp hp
    obtain ⟨y, hy, hpair⟩ := List.mem_map.mp hq
    obtain ⟨hname, rfl⟩ := Prod.mk.inj hpair
    have hverb := MethodKind.verb_eq_of_append_eq hname
    rw [hverb] at hname
    exact h hverb.symm ((String.append_right_inj _).mp hname).symm hx hy

theorem signature_factoryAdd (r : Relationship) (child : Entity) :
    (factoryAdd r secondary child).signature =
      (MethodKind.add.verb ++ r.elementName, child.graphTypes secondary) := by
  rw [signature, map_type_factoryAdd]
  rfl

theorem signature_factoryAssign (r : Relationship) (child : Entity) :
    (factoryAssign r child).signature =
      (MethodKind.assign.verb ++ pascal r.fieldName, child.constructorTypes) := by
  rw [signature, factoryAssign, Parameter.map_type_creating]
  rfl

theorem map_signature_ofCollection (r : Relationship) :
    (ofCollection secondary r).map signature =
      named .add r.elementName (r.addTypes secondary) ++
        (named .remove r.elementName [[r.removeType secondary]] ++
          named .getter (pascal r.fieldName) [[]]) := by
  rw [ofCollection, Relationship.addTypes, Relationship.removeType]
  cases Entity.find? r.target secondary with
  | none => rfl
  | some child =>
    rw [List.map_append, Option.map_some, Option.map_some, Option.toList_some, List.map_singleton,
      signature_factoryAdd]
    rfl

theorem map_signature_ofSingle (r : Relationship) :
    (ofSingle secondary r).map signature =
      named .assign (pascal r.fieldName) (r.assignTypes secondary) := by
  rw [ofSingle, Relationship.assignTypes]
  cases Entity.find? r.target secondary with
  | none => rfl
  | some child =>
    rw [List.map_append, Option.map_some, Option.map_some, Option.toList_some, List.map_singleton,
      signature_factoryAssign]
    rfl

theorem nodup_ofCollection_iff {r : Relationship} :
    ((ofCollection secondary r).map signature).Nodup ↔ (r.addTypes secondary).Nodup := by
  rw [map_signature_ofCollection, List.nodup_append', List.nodup_append']
  simp only [List.disjoint_append_right, nodup_named_iff, disjoint_named_iff]
  simp [MethodKind.verb]

theorem disjoint_ofCollection_iff {r s : Relationship} :
    List.Disjoint ((ofCollection secondary r).map signature)
        ((ofCollection secondary s).map signature) ↔
      (r.elementName = s.elementName →
          List.Disjoint (r.addTypes secondary) (s.addTypes secondary)) ∧
        (r.elementName = s.elementName → r.removeType secondary ≠ s.removeType secondary) ∧
        pascal r.fieldName ≠ pascal s.fieldName := by
  have hswap : (s.removeType secondary = r.removeType secondary) =
      (r.removeType secondary = s.removeType secondary) := propext eq_comm
  rw [map_signature_ofCollection, map_signature_ofCollection]
  simp only [List.disjoint_append_left, List.disjoint_append_right, disjoint_named_iff]
  -- Of the nine pairs of verbs only the three of equal ones are left.
  simp [MethodKind.verb, hswap]

end Method

/-! ### The methods of a root -/

def Entity.collections (e : Entity) : List Relationship :=
  e.relationships.filter fun r => r.kind == .oneToMany

def Entity.assigned (e : Entity) : List Relationship := e.relationships.filter Method.isAssigned

/-- What tells the methods of a root apart, given the entities that it can build. -/
structure ToldApart (secondary : List Entity) (root : Entity) : Prop where
  /-- No child is built from a single thing of its own class. -/
  addition : ∀ r ∈ root.collections, ∀ child, Entity.find? r.target secondary = some child →
    child.graphTypes secondary ≠ [r.target]
  assignment : ∀ r ∈ root.assigned, ∀ child, Entity.find? r.target secondary = some child →
    child.constructorTypes ≠ [r.target]
  /-- Collections may agree on the singular only where they add other things by other ids. -/
  adders : root.collections.Pairwise fun r s => r.elementName = s.elementName →
    List.Disjoint (r.addTypes secondary) (s.addTypes secondary)
  removers : root.collections.Pairwise fun r s => r.elementName = s.elementName →
    r.removeType secondary ≠ s.removeType secondary
  getters : root.collections.Pairwise fun r s => pascal r.fieldName ≠ pascal s.fieldName
  assigners : root.assigned.Pairwise fun r s => pascal r.fieldName = pascal s.fieldName →
    List.Disjoint (r.assignTypes secondary) (s.assignTypes secondary)

theorem Relationship.nodup_addTypes_iff {secondary : List Entity} {r : Relationship} :
    (r.addTypes secondary).Nodup ↔ ∀ child, Entity.find? r.target secondary = some child →
      child.graphTypes secondary ≠ [r.target] := by
  rw [addTypes]
  cases Entity.find? r.target secondary <;> simp

theorem Relationship.nodup_assignTypes_iff {secondary : List Entity} {r : Relationship} :
    (r.assignTypes secondary).Nodup ↔ ∀ child, Entity.find? r.target secondary = some child →
      child.constructorTypes ≠ [r.target] := by
  rw [assignTypes]
  cases Entity.find? r.target secondary <;> simp

namespace Method

variable {secondary : List Entity} {root : Entity}

/-- Methods for a collection and methods for a single child have different verbs. -/
theorem disjoint_collections_assigned :
    List.Disjoint (root.collections.flatMap fun r => (ofCollection secondary r).map signature)
      (root.assigned.flatMap fun r => (ofSingle secondary r).map signature) := by
  intro p hp hq
  obtain ⟨r, -, hp⟩ := List.mem_flatMap.mp hp
  obtain ⟨s, -, hq⟩ := List.mem_flatMap.mp hq
  have hdisjoint : List.Disjoint ((ofCollection secondary r).map signature)
      ((ofSingle secondary s).map signature) := by
    rw [map_signature_ofCollection, map_signature_ofSingle]
    simp only [List.disjoint_append_left, disjoint_named_iff]
    simp [MethodKind.verb]
  exact hdisjoint hp hq

theorem nodup_collections_iff (collections : List Relationship) :
    (collections.flatMap fun r => (ofCollection secondary r).map signature).Nodup ↔
      (∀ r ∈ collections, (r.addTypes secondary).Nodup) ∧
      (collections.Pairwise fun r s => r.elementName = s.elementName →
        List.Disjoint (r.addTypes secondary) (s.addTypes secondary)) ∧
      (collections.Pairwise fun r s => r.elementName = s.elementName →
        r.removeType secondary ≠ s.removeType secondary) ∧
      collections.Pairwise fun r s => pascal r.fieldName ≠ pascal s.fieldName := by
  rw [List.nodup_flatMap, ← List.pairwise_and_iff, ← List.pairwise_and_iff]
  refine and_congr (forall₂_congr fun r _ => nodup_ofCollection_iff) ?_
  exact List.Pairwise.iff fun r s => disjoint_ofCollection_iff

theorem nodup_assigned_iff (assigned : List Relationship) :
    (assigned.flatMap fun r => (ofSingle secondary r).map signature).Nodup ↔
      (∀ r ∈ assigned, (r.assignTypes secondary).Nodup) ∧
      assigned.Pairwise fun r s => pascal r.fieldName = pascal s.fieldName →
        List.Disjoint (r.assignTypes secondary) (s.assignTypes secondary) := by
  rw [List.nodup_flatMap]
  refine and_congr (forall₂_congr fun r _ => ?_) (List.Pairwise.iff fun r s => ?_)
  · rw [map_signature_ofSingle, nodup_named_iff]
  · change List.Disjoint ((ofSingle secondary r).map signature)
      ((ofSingle secondary s).map signature) ↔ _
    rw [map_signature_ofSingle, map_signature_ofSingle, disjoint_named_iff]
    exact forall_prop_of_true rfl

theorem nodup_map_signature_ofRoot_iff :
    ((ofRoot root secondary).map signature).Nodup ↔ ToldApart secondary root := by
  rw [ofRoot, List.map_append, List.map_flatMap, List.map_flatMap, List.nodup_append',
    nodup_collections_iff, nodup_assigned_iff]
  simp only [Relationship.nodup_addTypes_iff, Relationship.nodup_assignTypes_iff]
  constructor
  · rintro ⟨⟨haddition, hadders, hremovers, hgetters⟩, ⟨hassignment, hassigners⟩, -⟩
    exact ⟨haddition, hassignment, hadders, hremovers, hgetters, hassigners⟩
  · intro h
    exact ⟨⟨h.addition, h.adders, h.removers, h.getters⟩, ⟨h.assignment, h.assigners⟩,
      disjoint_collections_assigned⟩

/-- The call by which the method hands a new child on may mean the method itself. -/
def MayCallItself (m : Method) : Prop :=
  ∃ x ∈ m.body.flatMap Statement.built,
    .delegate m.name x.name ∈ m.body ∧ m.parameters.map (·.type) = [x.type]

instance (m : Method) : Decidable m.MayCallItself :=
  inferInstanceAs (Decidable (∃ x ∈ m.body.flatMap Statement.built, _ ∧ _))

variable {a : Aggregate} {m : Method}

theorem exists_name_eq_of_made (h : Made a m) : ∃ rest, m.name = m.kind.verb ++ rest := by
  cases h <;> exact ⟨_, rfl⟩

theorem verb_eq_of_signature_eq {n : Method} (hm : Made a m) (hn : Made a n)
    (h : m.signature = n.signature) : m.kind.verb = n.kind.verb := by
  obtain ⟨s, hs⟩ := exists_name_eq_of_made hm
  obtain ⟨t, ht⟩ := exists_name_eq_of_made hn
  have hname : m.name = n.name := congrArg Prod.fst h
  rw [hs, ht] at hname
  exact MethodKind.verb_eq_of_append_eq hname

/-- Only a method that assigns a new child passes the child on. -/
theorem kind_of_delegate_mem (h : Made a m) {name argument : String}
    (hcall : .delegate name argument ∈ m.body) : m.kind = .factoryAssign := by
  cases h with
  | factoryAdd =>
    simp [factoryAdd, NestedGroup.statements] at hcall
  | factoryAssign => rfl
  | add => simp [add] at hcall
  | remove => simp [remove] at hcall
  | getter => simp [getter] at hcall
  | assign => simp [assign] at hcall

theorem mayCallItself_iff (h : Made a m) :
    m.MayCallItself ↔ m.kind = .factoryAssign ∧
      ∃ child, Entity.find? m.targetEntity a.secondaryEntities = some child ∧
        child.constructorTypes = [child.name] := by
  constructor
  · rintro ⟨x, hx, hcall, htypes⟩
    have hkind := kind_of_delegate_mem h hcall
    refine ⟨hkind, ?_⟩
    cases h with
    | @factoryAssign r child _ _ hchild =>
      obtain ⟨-, hname⟩ := Entity.find?_eq_some hchild
      refine ⟨child, hchild, ?_⟩
      have hbuilt : x = ⟨childVariable, r.target⟩ := by
        simpa [factoryAssign, Statement.built] using hx
      rw [factoryAssign, Parameter.map_type_creating, hbuilt] at htypes
      rw [htypes, hname]
    | _ => cases hkind
  · rintro ⟨hkind, child, hfind, htypes⟩
    cases h with
    | @factoryAssign r child' _ _ hchild =>
      obtain rfl : child' = child := Option.some.inj (hchild.symm.trans hfind)
      obtain ⟨-, hname⟩ := Entity.find?_eq_some hchild
      refine ⟨⟨childVariable, r.target⟩, List.mem_cons_self, ?_, ?_⟩
      · exact List.mem_cons_of_mem _ List.mem_cons_self
      · rw [factoryAssign, Parameter.map_type_creating, htypes, hname]
    | _ => cases hkind

end Method

/-- In a compiled model the methods of a root are told apart by their names and types exactly where
nothing of the list coincides. Methods with different verbs always are. -/
theorem nodup_signatures_iff {options : Options} {d : Declared.Document} {c : Compiled}
    (h : compileDocument options d = .ok c) :
    ∀ a ∈ c.model.aggregates,
      ((a.methods.map Method.signature).Nodup ↔ ToldApart a.secondaryEntities a.rootEntity) ∧
      (∀ m ∈ a.methods, ∀ n ∈ a.methods, m.signature = n.signature →
        m.kind.verb = n.kind.verb) ∧
      ∀ m ∈ a.methods, m.MayCallItself ↔ m.kind = .factoryAssign ∧
        ∃ child, Entity.find? m.targetEntity a.secondaryEntities = some child ∧
          child.constructorTypes = [child.name] := by
  intro a ha
  obtain ⟨x, -, -, hresolve⟩ := exists_sound_of_mem_compiled h ha
  have hmethods := Aggregate.methods_eq hresolve
  have hmade : ∀ m ∈ a.methods, Method.Made a m :=
    fun m hm => Method.made_of_mem_methods hmethods hm
  refine ⟨?_, fun m hm n hn => ?_, fun m hm => ?_⟩
  · rw [hmethods]
    exact Method.nodup_map_signature_ofRoot_iff
  · exact Method.verb_eq_of_signature_eq (hmade m hm) (hmade n hn)
  · exact Method.mayCallItself_iff (hmade m hm)

theorem nodup_signatures_iff_orderWithNotes :
    ∃ c, compileDocument {} orderWithNotes = .ok c ∧
      (∀ a ∈ c.model.aggregates,
        ((a.methods.map Method.signature).Nodup ↔ ToldApart a.secondaryEntities a.rootEntity) ∧
        (∀ m ∈ a.methods, ∀ n ∈ a.methods, m.signature = n.signature →
          m.kind.verb = n.kind.verb) ∧
        ∀ m ∈ a.methods, m.MayCallItself ↔ m.kind = .factoryAssign ∧
          ∃ child, Entity.find? m.targetEntity a.secondaryEntities = some child ∧
            child.constructorTypes = [child.name]) ∧
      c.model.aggregates.map (fun a => a.methods.map Method.signature) =
        [[("addOrderItem", ["BigDecimal", "String"]), ("addOrderItem", ["OrderItem"]),
          ("removeOrderItem", ["UUID"]), ("getOrderItems", []), ("assignInvoice", ["String"]),
          ("assignInvoice", ["Invoice"])]] :=
  ⟨_, rfl, @nodup_signatures_iff {} orderWithNotes _ rfl, by decide +kernel⟩

/-! ### Calls with a choice -/

/-- The description is compiled even where warnings count, and two methods have one signature. -/
def LeavesChoice (d : Declared.Document) : Prop :=
  ∃ c, compileDocument { strict := true } d = .ok c ∧
    ∃ a ∈ c.model.aggregates, ¬(a.methods.map Method.signature).Nodup

/-- Orders that hold entities, each with its fields, through the relationships. -/
def orderHolding (relationships : List Declared.Relationship)
    (held : List (String × List Declared.Field)) : Declared.Document :=
  documentOf (Aggregate.plainEntity "order" true [] relationships ::
    held.map fun e => Aggregate.plainEntity e.1 false e.2 [])

def itemsOf (target : String) : Declared.Relationship :=
  Aggregate.plainRelationship .oneToMany target none

/-- An item that is built from another item. -/
def orderWithNestedItem : Declared.Document :=
  orderHolding [toItem (some "order")] [("item", [{ name := "part", type := "Item" }])]

/-- Two collections of one class, two that share their singular, an element that is built from one
of its class, and two single children of one class leave a call a choice; so does a single child
that is built from one of its class, whose method may call itself. -/
theorem leavesChoice_orderHolding :
    LeavesChoice (orderHolding [itemsOf "item", itemsOf "item"] [("item", [])]) ∧
      LeavesChoice (orderHolding [itemsOf "person", itemsOf "persons"]
        [("person", [{ name := "name", type := "String" }]), ("persons", [])]) ∧
      LeavesChoice
        (orderHolding [itemsOf "item"] [("item", [{ name := "part", type := "Item" }])]) ∧
      LeavesChoice
        (orderHolding [toItem (some "first"), toItem (some "second")] [("item", [])]) ∧
      LeavesChoice orderWithNestedItem ∧
      ∃ c, compileDocument { strict := true } orderWithNestedItem = .ok c ∧
        ∃ a ∈ c.model.aggregates, ∃ m ∈ a.methods, m.MayCallItself :=
  ⟨⟨_, rfl, by decide +kernel⟩, ⟨_, rfl, by decide +kernel⟩, ⟨_, rfl, by decide +kernel⟩,
    ⟨_, rfl, by decide +kernel⟩, ⟨_, rfl, by decide +kernel⟩, ⟨_, rfl, by decide +kernel⟩⟩

end DomainCompiler.Model
