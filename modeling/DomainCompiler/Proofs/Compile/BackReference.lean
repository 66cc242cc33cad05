import DomainCompiler.Proofs.Compile.Agreement
import DomainCompiler.Proofs.Model.Inverse

/-!
# Where back-references end

A relationship that names a field of its target refers to something that the description need not
declare: the other side may be made up while the aggregate is resolved. A back-reference that comes
to nothing is warned about. The kinds that are warned about are those without an other side, the
targets those that are no entities, and merging never takes the last relationship of a name away.
-/

namespace DomainCompiler

open DomainCompiler.Naming
open DomainCompiler.Traversal

/-! ### Warnings -/

namespace Check

open DomainCompiler.Declared
open DomainCompiler.Model.Relationship (target? backReference?)

variable {d : Document} {x : Aggregate} {e : Entity} {i : Nat} {r : Relationship}

/-- The rules warn that the target of the relationship at the index is no entity of the aggregate
(W002), or that its back-reference has no effect (W003). -/
def WarnedAbout (d : Document) (x : Aggregate) (e : Entity) (i : Nat) (r : Relationship) : Prop :=
  (∃ t, r.target = some t ∧
    (Finding.unknownTarget x.name e.name i r.kind.name t (entityNames x)).issue ∈ examine d) ∨
  (Finding.backReferenceIgnored x.name e.name i r.kind.name).issue ∈ examine d

theorem mem_flatMap_relationships {f : Aggregate → Entity → Nat × Relationship → List Finding}
    (hx : x ∈ d.aggregates) (he : e ∈ x.entities) (hr : e.relationships[i]? = some r) {y : Finding}
    (hy : y ∈ f x e (i, r)) :
    y ∈ d.aggregates.flatMap fun x => x.entities.flatMap fun e =>
      (numbered 0 e.relationships).flatMap (f x e) := by
  have hindex : (i, r) ∈ numbered 0 e.relationships := by
    simpa using mem_numbered_of_getElem? 0 hr
  have hentity : y ∈ (numbered 0 e.relationships).flatMap (f x e) :=
    List.mem_flatMap.mpr ⟨(i, r), hindex, hy⟩
  exact List.mem_flatMap.mpr ⟨x, hx, List.mem_flatMap.mpr ⟨e, he, hentity⟩⟩

theorem unknownTarget_mem_examine (hx : x ∈ d.aggregates) (he : e ∈ x.entities)
    (hr : e.relationships[i]? = some r) {t : String} (ht : target? r = some t)
    (hclass : pascal t ∉ classNames x) :
    (Finding.unknownTarget x.name e.name i r.kind.name t (entityNames x)).issue ∈ examine d := by
  refine mem_examine.mpr ⟨.relationshipTarget, by decide, _, ?_, rfl⟩
  refine mem_flatMap_relationships hx he hr ?_
  simp only [ht, contains_entityNames, hclass, decide_false]
  exact List.mem_cons_self

theorem backReferenceIgnored_mem_examine (hx : x ∈ d.aggregates) (he : e ∈ x.entities)
    (hr : e.relationships[i]? = some r) (hm : (backReference? r).isSome = true)
    (hkind : r.kind.inverse? = none) :
    (Finding.backReferenceIgnored x.name e.name i r.kind.name).issue ∈ examine d := by
  refine mem_examine.mpr ⟨.mappedBy, by decide, _, ?_, rfl⟩
  -- The kinds that the rule lists are those that have no other side.
  have hlisted : [RelationshipKind.manyToMany, .manyToOne].contains r.kind = true := by
    cases hk : r.kind <;> simp [hk, RelationshipKind.inverse?] at hkind ⊢
  refine mem_flatMap_relationships hx he hr ?_
  simp only [hm, hlisted, Bool.and_self, if_true]
  exact List.mem_cons_self

end Check

/-! ### The other side -/

namespace Model

theorem Entity.isSome_relationship?_iff {e : Entity} {m : String} :
    (e.relationship? m).isSome = true ↔ ∃ r ∈ e.relationships, r.fieldName = m := by
  simp [relationship?, List.find?_isSome]

namespace Aggregate

/-- The target of the relationship is an entity with a relationship of the name. -/
def RefersBack (a : Aggregate) (r : Declared.Relationship) (m : String) : Prop :=
  ∃ t, r.target = some t ∧ ∃ b, a.entity? (pascal t) = some b ∧ (b.relationship? m).isSome = true

variable {options : Options} {d : Declared.Aggregate} {a : Aggregate}

theorem exists_entity?_of_mem_classNames (h : resolve options d = .ok a) {name : String}
    (hname : name ∈ Check.classNames d) :
    ∃ b ∈ a.allEntities, a.entity? name = some b ∧ b.name = name := by
  rw [Check.classNames, ← map_name_allEntities h] at hname
  obtain ⟨b, hb, hbname⟩ := List.mem_map.mp hname
  have hsome : (a.entity? name).isSome = true := by
    rw [entity?, Entity.find?, List.find?_isSome]
    exact ⟨b, hb, beq_iff_eq.mpr hbname⟩
  obtain ⟨b', hb'⟩ := Option.isSome_iff_exists.mp hsome
  have hfound : (b'.name == name) = true :=
    List.find?_some (p := fun e : Entity => e.name == name) hb'
  exact ⟨b', List.mem_of_find?_eq_some hb', hb', beq_iff_eq.mp hfound⟩

/-- A back-reference to an entity is found there, made up or declared, if its kind has an other
side. -/
theorem refersBack_of_inverse? (hwell : d.WellFormed) (h : resolve options d = .ok a)
    {e : Declared.Entity} (he : e ∈ d.entities) {r : Declared.Relationship}
    (hr : r ∈ e.relationships) {m t : String} (hm : r.mappedBy = some m) (ht : r.target = some t)
    (hkind : r.kind.inverse?.isSome = true) (hclass : pascal t ∈ Check.classNames d) :
    a.RefersBack r m := by
  obtain ⟨b, hb, hfound, hname⟩ := exists_entity?_of_mem_classNames h hclass
  refine ⟨t, ht, b, hfound, Entity.isSome_relationship?_iff.mpr ?_⟩
  obtain ⟨y, -, -, own, -, hrelationships⟩ := Forall₂.exists_left (forall₂_relationships h) hb
  rw [hrelationships]
  by_cases hown : m ∈ own.map (·.fieldName)
  · -- The other side is dropped for a declared relationship of its name, which is then found.
    obtain ⟨s, hs, hsname⟩ := List.mem_map.mp hown
    exact ⟨s, List.mem_append_left _ hs, hsname⟩
  · have hkinds : r.kind = .oneToMany ∨ r.kind = .oneToOne := by
      cases hk : r.kind <;> simp [hk, RelationshipKind.inverse?] at hkind ⊢
    have himplies : Relationship.Implies b.name (own.map (·.fieldName)) r :=
      ⟨hkinds, ⟨t, ht, hname.symm⟩, m, hm, hown⟩
    have hwell' := hwell e he r hr
    have himplied : (Relationship.impliedOn? options.persistenceSuffix b.name
        (own.map (·.fieldName)) (e, r)).isSome = true :=
      (Relationship.isSome_impliedOn? hwell').trans (decide_eq_true himplies)
    obtain ⟨s, hs⟩ := Option.isSome_iff_exists.mp himplied
    have hmem : (e, r) ∈ Relationship.declarations d.entities :=
      Relationship.mem_declarations_iff.mpr ⟨he, hr⟩
    have hside := Relationship.otherSide_of_impliedOn? hwell' (isSome_target?_of_resolve h hmem) hs
    have hfield : some m = some s.fieldName := hm.symm.trans hside.fieldName
    exact ⟨s, List.mem_append_right _ (List.mem_filterMap.mpr ⟨(e, r), hmem, hs⟩),
      (Option.some.inj hfield).symm⟩

end Aggregate

end Model

/-! ### Compiled descriptions -/

open DomainCompiler.Declared (Document)
open DomainCompiler.Model.Relationship (target? target?_eq backReference?_eq)

theorem compile_eq_ok_iff {options : Options} {v : Value} {c : Compiled} :
    compile options v = .ok c ↔
      ∃ d, parseDocument v = .ok d ∧ compileDocument options d = .ok c := by
  rw [compile, bind_eq_ok_iff]
  cases parseDocument v <;> simp [Except.mapError]

theorem wellFormed_of_parseDocument {v : Value} {d : Document} (h : parseDocument v = .ok d) :
    ∀ x ∈ d.aggregates, x.WellFormed := by
  rw [parseDocument] at h
  split at h
  · split at h
    · next hread =>
      cases h
      exact Document.ensures_read v _ hread
    · cases h
  · cases h

/-- What becomes of the back-references of an aggregate, given what is found in its description. -/
def BackReferencesEnd (strict : Bool) (d : Document) (x : Declared.Aggregate)
    (a : Model.Aggregate) : Prop :=
  ∀ e ∈ x.entities, ∀ i r m, e.relationships[i]? = some r → r.mappedBy = some m →
    (Check.WarnedAbout d x e i r ∨ a.RefersBack r m) ∧ (strict = true → a.RefersBack r m)

theorem backReferencesEnd_of_resolve {options : Options} {d : Document} {x : Declared.Aggregate}
    {a : Model.Aggregate} (haccepted : Check.Accepted options.strict d) (hx : x ∈ d.aggregates)
    (hwell : x.WellFormed) (h : Model.Aggregate.resolve options x = .ok a) :
    BackReferencesEnd options.strict d x a := by
  intro e he i r m hr hm
  have hmem : r ∈ e.relationships := List.mem_of_getElem? hr
  have hwell' := hwell e he r hmem
  have hback : (Model.Relationship.backReference? r).isSome = true := by
    rw [backReference?_eq hwell', hm]
    rfl
  obtain ⟨t, ht⟩ :=
    Option.isSome_iff_exists.mp ((haccepted.1.aggregates x hx).targets e he r hmem)
  have htarget : r.target = some t := by rwa [target?_eq hwell'] at ht
  have hrefers := Model.Aggregate.refersBack_of_inverse? hwell h he hmem hm htarget
  refine ⟨?_, fun hstrict => ?_⟩
  · cases hkind : r.kind.inverse? with
    | none => exact .inl (.inr (Check.backReferenceIgnored_mem_examine hx he hr hback hkind))
    | some kind =>
      by_cases hclass : pascal t ∈ Check.classNames x
      · exact .inr (hrefers (by rw [hkind]; rfl) hclass)
      · exact .inl (.inl ⟨t, htarget, Check.unknownTarget_mem_examine hx he hr ht hclass⟩)
  · have hunwarned := haccepted.2 hstrict x hx
    exact hrefers (hunwarned.backReferences e he r hmem hback) (hunwarned.targets e he r hmem t ht)

/-- Every back-reference of a description that is compiled is found on its target or is warned
about, and where warnings count it is found. -/
theorem backReferencesEnd_of_compile {options : Options} {v : Value} {c : Compiled}
    (h : compile options v = .ok c) :
    ∃ d, parseDocument v = .ok d ∧
      List.Forall₂ (BackReferencesEnd options.strict d) d.aggregates c.model.aggregates := by
  obtain ⟨d, hparse, hcompile⟩ := compile_eq_ok_iff.mp h
  obtain ⟨haccepted, -, hstep⟩ := exists_compileDocument_iff.mp ⟨c, hcompile, rfl⟩
  refine ⟨d, hparse, Forall₂.imp_of_mem hstep fun x hx a _ hresolve => ?_⟩
  exact backReferencesEnd_of_resolve haccepted hx (wellFormed_of_parseDocument hparse x hx) hresolve

/-- The relationship as it is read, to the target and with a field that refers back. -/
def relationshipValue (kind target mappedBy : String) : Value :=
  .map [(.text "type", .text kind), (.text "target", .text target),
    (.text "mappedBy", .text mappedBy)]

/-- Orders refer to their items, to an entity that is not there, and in a way that has no other
side. -/
def orders : Value :=
  .map [(.text "aggregates", .list [.map [(.text "name", .text "Order"),
    (.text "entities", .list
      [.map [(.text "name", .text "order"), (.text "isRoot", .bool true),
        (.text "relationships", .list
          [relationshipValue "OneToMany" "order_item" "order",
           relationshipValue "OneToOne" "invoice" "order",
           relationshipValue "ManyToMany" "orderItem" "orders"])],
       .map [(.text "name", .text "order-item")]])]])]

theorem backReferencesEnd_of_compile_orders :
    ∃ c, compile {} orders = .ok c ∧
      (∃ d, parseDocument orders = .ok d ∧
        List.Forall₂ (BackReferencesEnd false d) d.aggregates c.model.aggregates) ∧
      c.warnings.map (·.code) = ["W002", "W003"] ∧
      c.model.aggregates.flatMap (·.allEntities.map fun e => e.relationships.map (·.fieldName)) =
        [["orderItems", "invoice", "orderItems"], ["order"]] :=
  ⟨_, rfl, @backReferencesEnd_of_compile {} orders _ rfl, by decide +kernel, by decide +kernel⟩

end DomainCompiler
