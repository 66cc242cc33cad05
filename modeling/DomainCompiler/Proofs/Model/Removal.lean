import DomainCompiler.Proofs.Model.Audit
import DomainCompiler.Proofs.Model.Creation
import Mathlib.Data.List.Find

/-!
# What children are removed by

A child is removed by its id, and the type of the id is looked up among the entities that are no
roots. For these it is the type of the declared id. A root that has a collection of its own kind is
not found there, and its elements are removed by an id of the default type, whatever type their ids
have.
-/

namespace DomainCompiler.Model

open DomainCompiler.Traversal

/-- The type of the id that the entity declares. -/
def Entity.idType (e : Entity) : String :=
  ((e.declaredFields.find? fun f => f.name == idFieldName).map (·.resolvedType)).getD
    Method.defaultIdType

/-- The type by which the elements of a collection are removed: roots are not looked up. -/
def Entity.foundIdType (e : Entity) : String :=
  if e.isRoot then Method.defaultIdType else e.idType

/-- The method removes what the relationship holds. -/
def Method.Removes (m : Method) (r : Relationship) : Prop :=
  m.kind = .remove ∧ m.relationshipField = r.fieldName ∧ m.targetEntity = r.target

instance (m : Method) (r : Relationship) : Decidable (m.Removes r) :=
  inferInstanceAs (Decidable (_ ∧ _))

namespace Aggregate

/-- What the relationship holds can be removed, and for that an id of the type is all it takes. -/
structure RemovesBy (a : Aggregate) (r : Relationship) (type : String) : Prop where
  exists_method : ∃ m ∈ a.methods, m.Removes r
  parameters : ∀ m ∈ a.methods, m.Removes r → m.parameters = [⟨Entity.idFieldName, type⟩]

instance (a : Aggregate) (r : Relationship) (type : String) : Decidable (a.RemovesBy r type) :=
  decidable_of_iff ((∃ m ∈ a.methods, m.Removes r) ∧
      ∀ m ∈ a.methods, m.Removes r → m.parameters = [⟨Entity.idFieldName, type⟩])
    ⟨fun h => ⟨h.1, h.2⟩, fun h => ⟨h.exists_method, h.parameters⟩⟩

/-- What is removed by depends on the entity that the collections of the root hold. -/
def RemoveBy (a : Aggregate) (type : Entity → String) : Prop :=
  ∀ r ∈ a.rootEntity.relationships, r.kind = .oneToMany → ∀ e ∈ a.allEntities, e.name = r.target →
    a.RemovesBy r (type e)

instance (a : Aggregate) (type : Entity → String) : Decidable (a.RemoveBy type) :=
  inferInstanceAs (Decidable (∀ r ∈ a.rootEntity.relationships, r.kind = .oneToMany →
    ∀ e ∈ a.allEntities, e.name = r.target → a.RemovesBy r (type e)))

/-- The root has a collection of its own kind, and its ids are not of the default type. -/
def HoldsItsKind (a : Aggregate) : Prop :=
  (∃ r ∈ a.rootEntity.relationships, r.kind = .oneToMany ∧ r.target = a.rootEntity.name) ∧
    a.rootEntity.idType ≠ Method.defaultIdType

section Methods

variable {a : Aggregate} {r : Relationship} {type : String}

theorem RemovesBy.unique {type' : String} (h : a.RemovesBy r type) (h' : a.RemovesBy r type') :
    type = type' := by
  obtain ⟨m, hm, hremoves⟩ := h.exists_method
  have hparameters := (h.parameters m hm hremoves).symm.trans (h'.parameters m hm hremoves)
  simpa using hparameters

theorem removesBy_idType (hmethods : a.methods = Method.ofRoot a.rootEntity a.secondaryEntities)
    (hr : r ∈ a.rootEntity.relationships) (hkind : r.kind = .oneToMany) :
    a.RemovesBy r (a.idType r.target) := by
  constructor
  case exists_method =>
    refine ⟨Method.remove r (Entity.find? r.target a.secondaryEntities), ?_, rfl, rfl, rfl⟩
    rw [hmethods]
    refine Method.mem_ofRoot_iff.mpr (.inl ⟨r, hr, hkind, List.mem_append_right _ ?_⟩)
    exact List.mem_cons_of_mem _ List.mem_cons_self
  case parameters =>
    intro m hm hremoves
    rw [hmethods] at hm
    obtain ⟨s, rfl⟩ := Method.eq_remove_of_mem_ofRoot hm hremoves.1
    have htarget : s.target = r.target := hremoves.2.2
    rw [← htarget]
    rfl

end Methods

variable {options : Options} {d : Declared.Aggregate} {a : Aggregate}

/-- What audit settings add is not called like an id. -/
theorem idField?_eq_find?_declaredFields (h : resolve options d = .ok a) {e : Entity}
    (he : e ∈ a.allEntities) :
    e.idField? = e.declaredFields.find? fun f => f.name == Entity.idFieldName := by
  obtain ⟨x, -, haudited⟩ := Forall₂.exists_left (forall₂_audited h) he
  rw [Entity.idField?, Entity.declaredFields, Entity.declaredFieldsOf, List.find?_filter]
  refine List.find?_congr fun f hf => ?_
  cases hsynthetic : f.isSynthetic with
  | false => simp only [Bool.not_false, true_and, Bool.decide_eq_true]
  | true =>
    have hname : f.name ∈ Check.auditFieldNames x := by
      rw [haudited.reserved]
      exact List.mem_map.mpr ⟨f, List.mem_filter.mpr ⟨hf, hsynthetic⟩, rfl⟩
    have hne : f.name ≠ Entity.idFieldName := by
      rintro hid
      rw [hid, Check.auditFieldNames] at hname
      revert hname
      cases x.auditEnabled <;> cases x.tracksUser <;> decide
    simp [hne]

/-- The type is found for every entity but the root. -/
theorem idType_eq (hsound : Check.Aggregate.Sound d) (h : resolve options d = .ok a) {e : Entity}
    (he : e ∈ a.allEntities) :
    a.idType e.name = e.foundIdType := by
  have hdeclared := idField?_eq_find?_declaredFields h he
  have hnames := nodup_map_name_allEntities hsound h
  obtain ⟨before, after, hall, hsecondary, hroot, hothers⟩ := (rooted_of_resolve h).split
  rw [hall, List.map_append, List.map_cons, List.nodup_middle, ← List.map_append] at hnames
  obtain ⟨hapart, hnodup⟩ := List.nodup_cons.mp hnames
  rw [hall, List.mem_append, List.mem_cons] at he
  rw [idType, hsecondary, Entity.foundIdType]
  by_cases hmem : e ∈ before ++ after
  · have hfound : Entity.find? e.name (before ++ after) = some e :=
      find?_eq_some_of_mem Entity.name hnodup hmem
    rw [hfound, hothers e hmem, if_neg Bool.false_ne_true, Entity.idType, ← hdeclared]
    rfl
  · obtain rfl : e = a.rootEntity := by
      rw [List.mem_append] at hmem
      tauto
    have hnone : Entity.find? a.rootEntity.name (before ++ after) = none := by
      refine List.find?_eq_none.mpr fun e he hname => hapart ?_
      exact List.mem_map.mpr ⟨e, he, eq_of_beq hname⟩
    rw [hnone, hroot, if_pos rfl]
    rfl

theorem removeBy_of_resolve (hsound : Check.Aggregate.Sound d) (h : resolve options d = .ok a) :
    a.RemoveBy Entity.foundIdType := by
  intro r hr hkind e he hname
  rw [← idType_eq hsound h he, hname]
  exact removesBy_idType (methods_eq h) hr hkind

theorem removeBy_idType_iff (hsound : Check.Aggregate.Sound d) (h : resolve options d = .ok a) :
    a.RemoveBy Entity.idType ↔ ¬a.HoldsItsKind := by
  have hremove := removeBy_of_resolve hsound h
  obtain ⟨before, after, hall, -, hroot, hothers⟩ := (rooted_of_resolve h).split
  constructor
  · rintro htyped ⟨⟨r, hr, hkind, htarget⟩, hne⟩
    have hmem := rootEntity_mem_allEntities h
    have hdefault := hremove r hr hkind _ hmem htarget.symm
    rw [Entity.foundIdType, hroot, if_pos rfl] at hdefault
    exact hne ((htyped r hr hkind _ hmem htarget.symm).unique hdefault)
  · intro hnone r hr hkind e he hname
    have hremoves := hremove r hr hkind e he hname
    rw [Entity.foundIdType] at hremoves
    cases hisRoot : e.isRoot with
    | false => rwa [hisRoot, if_neg Bool.false_ne_true] at hremoves
    | true =>
      -- The one root that there is has ids of the default type.
      obtain rfl : e = a.rootEntity := by
        by_contra hother
        have hmem : e ∈ before ++ after := by
          rw [hall, List.mem_append, List.mem_cons] at he
          rw [List.mem_append]
          tauto
        rw [hothers e hmem] at hisRoot
        cases hisRoot
      have htype : a.rootEntity.idType = Method.defaultIdType := by
        by_contra hne
        exact hnone ⟨⟨r, hr, hkind, hname.symm⟩, hne⟩
      rwa [hisRoot, if_pos rfl, ← htype] at hremoves

end Aggregate

/-- In a compiled model what a collection of the root holds is removed by an id: of the type that
the entity declares, or of the default type where it declares none; only that of a root is never
looked up, so all are removed by the ids that they declare exactly where no root has a collection of
its own kind and ids of another type. -/
theorem removeBy_of_compileDocument {options : Options} {d : Declared.Document} {c : Compiled}
    (h : compileDocument options d = .ok c) :
    ∀ a ∈ c.model.aggregates,
      a.RemoveBy Entity.foundIdType ∧ (a.RemoveBy Entity.idType ↔ ¬a.HoldsItsKind) := by
  intro a ha
  obtain ⟨x, -, hsound, hresolve⟩ := exists_sound_of_mem_compiled h ha
  exact ⟨Aggregate.removeBy_of_resolve hsound hresolve,
    Aggregate.removeBy_idType_iff hsound hresolve⟩

/-- Shelves with boxes and labels, on which further shelves may stand. -/
def shelves (idType : String) : Declared.Document :=
  ⟨[Aggregate.plainAggregate "Shelf"
    [Aggregate.plainEntity "shelf" true [{ name := "id", type := idType }]
      [Aggregate.plainRelationship .oneToMany "box" none,
       Aggregate.plainRelationship .oneToMany "label" none,
       Aggregate.plainRelationship .oneToMany "shelf" none],
     Aggregate.plainEntity "box" false
      [{ name := "code", type := "String" }, { name := "Id", type := "UUID" }] [],
     Aggregate.plainEntity "label" false [{ name := "text", type := "String" }] []]]⟩

theorem removeBy_of_compileDocument_shelves :
    ∃ c, compileDocument {} (shelves "Long") = .ok c ∧
      (∀ a ∈ c.model.aggregates,
        a.RemoveBy Entity.foundIdType ∧ (a.RemoveBy Entity.idType ↔ ¬a.HoldsItsKind)) ∧
      c.model.aggregates.flatMap (fun a =>
          (a.methods.filter (·.kind == .remove)).map fun m => (m.name, m.parameters)) =
        [("removeBox", [⟨"id", "UUID"⟩]), ("removeLabel", [⟨"id", "Long"⟩]),
         ("removeShelf", [⟨"id", "Long"⟩])] :=
  ⟨_, rfl, @removeBy_of_compileDocument {} (shelves "Long") _ rfl, by decide +kernel⟩

/-- The description is compiled even where warnings count, and what the root holds is not removed by
the ids that it declares. -/
def RemovesByOthers (d : Declared.Document) : Prop :=
  ∃ c, compileDocument { strict := true } d = .ok c ∧
    ∃ a ∈ c.model.aggregates, ¬a.RemoveBy Entity.idType

theorem removesByOthers_shelves : RemovesByOthers (shelves "UUID") :=
  ⟨_, rfl, by decide +kernel⟩

end DomainCompiler.Model
