import DomainCompiler.Proofs.Model.Methods
import DomainCompiler.Proofs.Model.Root
import DomainCompiler.Proofs.Naming.RoundTrip

/-!
# What the methods for children are called

The methods that add and remove the elements of a collection are called after the singular of its
field. The field is called after the plural of the class, so that they are called after the class
where it comes back from the plural. What comes back is told by tables for every class whose name
is one word.
-/

namespace DomainCompiler.Model

open DomainCompiler.Naming
open DomainCompiler.Traversal

/-! ### Names of methods -/

/-- The method is one of those for the relationship. -/
def Method.WorksOn (m : Method) (r : Relationship) : Prop :=
  m.relationshipField = r.fieldName ∧ m.targetEntity = r.target

instance (m : Method) (r : Relationship) : Decidable (m.WorksOn r) :=
  inferInstanceAs (Decidable (_ ∧ _))

/-- There are methods to add and to remove what the relationship holds, and they and what is added
are called after the name. -/
structure Aggregate.NamesAfter (a : Aggregate) (r : Relationship) (name : String) : Prop where
  exists_add : ∃ m ∈ a.methods, m.WorksOn r ∧ m.kind = .add
  exists_remove : ∃ m ∈ a.methods, m.WorksOn r ∧ m.kind = .remove
  add : ∀ m ∈ a.methods, m.WorksOn r → m.kind = .factoryAdd ∨ m.kind = .add →
    m.name = "add" ++ name
  item : ∀ m ∈ a.methods, m.WorksOn r → m.kind = .add → m.parameters = [⟨camel name, r.target⟩]
  remove : ∀ m ∈ a.methods, m.WorksOn r → m.kind = .remove → m.name = "remove" ++ name

instance (a : Aggregate) (r : Relationship) (name : String) : Decidable (a.NamesAfter r name) :=
  decidable_of_iff ((∃ m ∈ a.methods, m.WorksOn r ∧ m.kind = .add) ∧
      (∃ m ∈ a.methods, m.WorksOn r ∧ m.kind = .remove) ∧
      (∀ m ∈ a.methods, m.WorksOn r → m.kind = .factoryAdd ∨ m.kind = .add →
        m.name = "add" ++ name) ∧
      (∀ m ∈ a.methods, m.WorksOn r → m.kind = .add → m.parameters = [⟨camel name, r.target⟩]) ∧
      ∀ m ∈ a.methods, m.WorksOn r → m.kind = .remove → m.name = "remove" ++ name)
    ⟨fun h => ⟨h.1, h.2.1, h.2.2.1, h.2.2.2.1, h.2.2.2.2⟩,
      fun h => ⟨h.exists_add, h.exists_remove, h.add, h.item, h.remove⟩⟩

namespace Method

variable {a : Aggregate} {m : Method}

theorem name_of_made_add (h : Made a m) (hkind : m.kind = .factoryAdd ∨ m.kind = .add) :
    m.name = "add" ++ pascal (singular m.relationshipField) := by
  cases h with
  | factoryAdd => rfl
  | add => rfl
  | remove => simp [Method.remove] at hkind
  | getter => simp [Method.getter] at hkind
  | factoryAssign => simp [Method.factoryAssign] at hkind
  | assign => simp [Method.assign] at hkind

theorem parameters_of_made_add (h : Made a m) (hkind : m.kind = .add) :
    m.parameters = [⟨camel (singular m.relationshipField), m.targetEntity⟩] := by
  cases h with
  | add => rfl
  | factoryAdd | remove | getter | factoryAssign | assign => cases hkind

theorem name_of_made_remove (h : Made a m) (hkind : m.kind = .remove) :
    m.name = "remove" ++ pascal (singular m.relationshipField) := by
  cases h with
  | remove => rfl
  | factoryAdd | add | getter | factoryAssign | assign => cases hkind

end Method

/-- The field is called after the plural of the class, which is one word. -/
def Relationship.CalledAfterClass (r : Relationship) : Prop :=
  OneWord r.target.toList ∧ r.fieldName = camel (plural r.target)

instance (r : Relationship) : Decidable r.CalledAfterClass :=
  inferInstanceAs (Decidable (_ ∧ _))

namespace Aggregate

section Methods

variable {a : Aggregate} {r : Relationship}

theorem NamesAfter.unique {name name' : String} (h : a.NamesAfter r name)
    (h' : a.NamesAfter r name') : name = name' := by
  obtain ⟨m, hm, hworks, hkind⟩ := h.exists_remove
  have hname := (h.remove m hm hworks hkind).symm.trans (h'.remove m hm hworks hkind)
  exact String.append_right_inj _ |>.mp hname

theorem namesAfter_singular (hmethods : a.methods = Method.ofRoot a.rootEntity a.secondaryEntities)
    (hr : r ∈ a.rootEntity.relationships) (hkind : r.kind = .oneToMany) :
    a.NamesAfter r (pascal (singular r.fieldName)) := by
  have hmade : ∀ m ∈ a.methods, Method.Made a m :=
    fun m hm => Method.made_of_mem_methods hmethods hm
  have hmem : ∀ m ∈ Method.ofCollection a.secondaryEntities r, m ∈ a.methods := by
    intro m hm
    rw [hmethods]
    exact Method.mem_ofRoot_iff.mpr (.inl ⟨r, hr, hkind, hm⟩)
  constructor
  case exists_add =>
    refine ⟨_, hmem _ (List.mem_append_right _ List.mem_cons_self), ⟨rfl, rfl⟩, rfl⟩
  case exists_remove =>
    refine ⟨_, hmem _ (List.mem_append_right _ (List.mem_cons_of_mem _ List.mem_cons_self)),
      ⟨rfl, rfl⟩, rfl⟩
  case add =>
    intro m hm hworks hkind
    rw [Method.name_of_made_add (hmade m hm) hkind, hworks.1]
  case item =>
    intro m hm hworks hkind
    rw [Method.parameters_of_made_add (hmade m hm) hkind, hworks.1, hworks.2, camel_pascal]
  case remove =>
    intro m hm hworks hkind
    rw [Method.name_of_made_remove (hmade m hm) hkind, hworks.1]

end Methods

/-- What the methods for a collection are called that is declared with the target. -/
structure NamesBack (a : Aggregate) (r : Relationship) (t : String) : Prop where
  target : r.target = pascal t
  fieldName : r.fieldName = camel (plural t)
  singular : a.NamesAfter r (pascal (singular r.fieldName))
  /-- They are called after the class exactly where it comes back from the field. -/
  class_iff : a.NamesAfter r r.target ↔ pascal (Naming.singular r.fieldName) = r.target
  /-- What comes back is in the tables. -/
  returned_iff : r.CalledAfterClass →
    (a.NamesAfter r r.target ↔ pascal (returned r.target) = r.target)
  calledAfterClass : OneWord t.toList → r.CalledAfterClass

variable {options : Options} {d : Declared.Aggregate} {a : Aggregate}

/-- A collection of the root is declared on the root. -/
theorem exists_declares_of_oneToMany (h : resolve options d = .ok a) {r : Relationship}
    (hr : r ∈ a.rootEntity.relationships) (hkind : r.kind = .oneToMany) :
    ∃ e ∈ d.entities, e.isRoot = true ∧ ∃ y ∈ e.relationships, y.kind = .oneToMany ∧
      ∃ t, y.target = some t ∧ r.target = pascal t ∧ r.fieldName = camel (plural t) := by
  obtain ⟨x, hx, e, imports, hresolves, hroot⟩ :=
    Forall₂.exists_left (forall₂_allEntities h) (rootEntity_mem_allEntities h)
  obtain ⟨-, -, -, -, hisRoot, -⟩ := (rooted_of_resolve h).split
  rw [hroot, withImports_isRoot, hresolves.isRoot] at hisRoot
  obtain ⟨-, declared, hdeclared, rfl⟩ := Entity.resolve_eq_ok_iff.mp hresolves
  rw [hroot, withImports_relationships] at hr
  have hmerged : r ∈ Relationship.merge declared
      (Relationship.inverseOf (pascal x.name) (inverseSides options d)) := hr
  rw [inverseSides, Relationship.merge_inverseOf, List.mem_append] at hmerged
  rcases hmerged with hdeclares | himplied
  · obtain ⟨y, hy, t, ht, rfl⟩ := Forall₂.exists_left hdeclared hdeclares
    have hmany : y.kind = .oneToMany := hkind
    refine ⟨x, hx, hisRoot, y, hy, hmany, t, (Option.filter_eq_some_iff.mp ht).1, rfl, ?_⟩
    rw [Relationship.toTarget, hmany]
    rfl
  · obtain ⟨z, -, hz⟩ := List.mem_filterMap.mp himplied
    exact absurd hkind (Relationship.synthesized_of_impliedOn? hz).1.kind

theorem namesBack_of_resolve (h : resolve options d = .ok a) {r : Relationship}
    (hr : r ∈ a.rootEntity.relationships) (hkind : r.kind = .oneToMany) {t : String}
    (htarget : r.target = pascal t) (hfield : r.fieldName = camel (plural t)) :
    a.NamesBack r t := by
  have hsingular := namesAfter_singular (methods_eq h) hr hkind
  have hclass : a.NamesAfter r r.target ↔ pascal (singular r.fieldName) = r.target := by
    refine ⟨fun hnames => hsingular.unique hnames, fun heq => ?_⟩
    rwa [heq] at hsingular
  refine ⟨htarget, hfield, hsingular, hclass, fun hcalled => ?_, fun hword => ?_⟩
  · rw [hclass, hcalled.2, pascal_singular_camel_plural hcalled.1]
  · refine ⟨?_, ?_⟩
    · rw [htarget, toList_pascal, hword.pascalChars_eq]
      exact hword.capitalize
    · rw [hfield, htarget, camel_plural_pascal hword]

end Aggregate

/-- In a compiled model every collection of a root is declared with a target, and its methods are
called after what comes back from the plural of the target; so they are called after the class of
the children exactly where this comes back. Where the collection is called after the class, as it is
for every target of one word, the tables tell what comes back. -/
theorem namesBack_of_compileDocument {options : Options} {d : Declared.Document} {c : Compiled}
    (h : compileDocument options d = .ok c) :
    ∀ a ∈ c.model.aggregates, ∀ r ∈ a.rootEntity.relationships, r.kind = .oneToMany →
      ∃ x ∈ d.aggregates, ∃ e ∈ x.entities, e.isRoot = true ∧
        ∃ y ∈ e.relationships, y.kind = .oneToMany ∧ ∃ t, y.target = some t ∧ a.NamesBack r t := by
  intro a ha r hr hkind
  obtain ⟨x, hx, -, hresolve⟩ := exists_sound_of_mem_compiled h ha
  obtain ⟨e, he, hroot, y, hy, hmany, t, ht, htarget, hfield⟩ :=
    Aggregate.exists_declares_of_oneToMany hresolve hr hkind
  exact ⟨x, hx, e, he, hroot, y, hy, hmany, t, ht,
    Aggregate.namesBack_of_resolve hresolve hr hkind htarget hfield⟩

/-- Computers with a collection of each kind of parts. -/
def computersWith (parts : List String) : Declared.Document :=
  ⟨[Aggregate.plainAggregate "Computer"
    (Aggregate.plainEntity "computer" true [{ name := "id", type := "Long" }]
      (parts.map fun part => Aggregate.plainRelationship .oneToMany part none) ::
     parts.map fun part => Aggregate.plainEntity part false [{ name := "id", type := "Long" }] [])]⟩

theorem namesBack_of_compileDocument_computers :
    ∃ c, compileDocument {} (computersWith ["box", "memory_bank", "Drive"]) = .ok c ∧
      (∀ a ∈ c.model.aggregates, ∀ r ∈ a.rootEntity.relationships, r.kind = .oneToMany →
        ∃ x ∈ (computersWith ["box", "memory_bank", "Drive"]).aggregates, ∃ e ∈ x.entities,
          e.isRoot = true ∧ ∃ y ∈ e.relationships, y.kind = .oneToMany ∧
            ∃ t, y.target = some t ∧ a.NamesBack r t) ∧
      (c.model.aggregates.flatMap fun a => a.rootEntity.relationships.map fun r =>
          (r.target, decide r.CalledAfterClass, decide (a.NamesAfter r r.target))) =
        [("Box", true, true), ("MemoryBank", true, true), ("Drive", true, false)] :=
  ⟨_, rfl, @namesBack_of_compileDocument {} (computersWith ["box", "memory_bank", "Drive"]) _ rfl,
    by decide +kernel⟩

/-- The description is compiled even where warnings count, and the methods for a collection of the
root are not called after the class of the children. -/
def NamesOtherwise (d : Declared.Document) : Prop :=
  ∃ c, compileDocument { strict := true } d = .ok c ∧
    ∃ a ∈ c.model.aggregates, ∃ r ∈ a.rootEntity.relationships, r.kind = .oneToMany ∧
      ¬a.NamesAfter r r.target

theorem namesOtherwise_computers : NamesOtherwise (computersWith ["Drive"]) :=
  ⟨_, rfl, by decide +kernel⟩

end DomainCompiler.Model
