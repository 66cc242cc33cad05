import DomainCompiler.Declared.Excess
import DomainCompiler.Proofs.Check.Sound
import DomainCompiler.Proofs.Traversal

/-!
# Descriptions with their entities in another order

No rule asks in what order the entities of an aggregate are written. What is demanded, what is
warned about and what is too large all come down to which declarations there are, so that a
description is accepted in any order of its entities if it is in one.
-/

namespace DomainCompiler.Declared

open DomainCompiler.Check
open DomainCompiler.Naming
open DomainCompiler.Traversal

/-- The aggregate with its entities in another order. -/
def Aggregate.Reordered (a a' : Aggregate) : Prop :=
  ∃ entities, a.entities.Perm entities ∧ a' = { a with entities }

/-- The description with the entities of each aggregate in another order. -/
def Document.Reordered (d d' : Document) : Prop :=
  List.Forall₂ Aggregate.Reordered d.aggregates d'.aggregates

namespace Aggregate.Reordered

variable {a a' : Aggregate}

theorem entities (h : Reordered a a') : a.entities.Perm a'.entities := by
  obtain ⟨entities, hperm, rfl⟩ := h
  exact hperm

theorem mem_entities (h : Reordered a a') {e : Entity} (he : e ∈ a'.entities) : e ∈ a.entities :=
  h.entities.mem_iff.mpr he

theorem fieldOwners (h : Reordered a a') : a.fieldOwners.Perm a'.fieldOwners := by
  obtain ⟨entities, hperm, rfl⟩ := h
  exact (hperm.map _).append_right _

theorem mem_fieldOwners (h : Reordered a a') {o : String × List Field} (ho : o ∈ a'.fieldOwners) :
    o ∈ a.fieldOwners :=
  h.fieldOwners.mem_iff.mpr ho

theorem classNames (h : Reordered a a') : (classNames a).Perm (classNames a') :=
  h.entities.map _

theorem sound (h : Reordered a a') (hsound : Check.Aggregate.Sound a) :
    Check.Aggregate.Sound a' := by
  obtain ⟨root, hroot⟩ := hsound.singleRoot
  have hroots := h.entities.filter (·.isRoot)
  rw [hroot] at hroots
  have hclass : ∀ name, name ∉ Check.classNames a → name ∉ Check.classNames a' :=
    fun name hn hn' => hn (h.classNames.mem_iff.mpr hn')
  exact
    { singleRoot := ⟨root, (List.singleton_perm.mp hroots).symm⟩
      classNames := h.classNames.nodup_iff.mp hsound.classNames
      fieldNames := fun o ho => hsound.fieldNames o (h.mem_fieldOwners ho)
      auditFields := fun e he => hsound.auditFields e (h.mem_entities he)
      audit := fun e he => hsound.audit e (h.mem_entities he)
      initialValues := by obtain ⟨_, -, rfl⟩ := h; exact hsound.initialValues
      states := by obtain ⟨_, -, rfl⟩ := h; exact hsound.states
      enumValues := by obtain ⟨_, -, rfl⟩ := h; exact hsound.enumValues
      inlineValues := fun o ho => hsound.inlineValues o (h.mem_fieldOwners ho)
      targets := fun e he => hsound.targets e (h.mem_entities he)
      valueObjects := by
        intro v hv f hf name hname
        refine hclass name ?_
        obtain ⟨_, -, rfl⟩ := h
        exact hsound.valueObjects v hv f hf name hname }

theorem unwarned (h : Reordered a a') {known known' : List String}
    (hknown : ∀ name ∈ known, name ∈ known') (hunwarned : Check.Aggregate.Unwarned known a) :
    Check.Aggregate.Unwarned known' a' where
  auditable := fun e he => hunwarned.auditable e (h.mem_entities he)
  targets := fun e he r hr t ht =>
    h.classNames.mem_iff.mp (hunwarned.targets e (h.mem_entities he) r hr t ht)
  backReferences := fun e he => hunwarned.backReferences e (h.mem_entities he)
  types := fun o ho f hf name hname =>
    hknown name (hunwarned.types o (h.mem_fieldOwners ho) f hf name hname)

theorem excess?_eq_none (h : Reordered a a') (hnone : a.excess? = none) : a'.excess? = none := by
  rw [Aggregate.excess?, Option.or_eq_none_iff, List.findSome?_eq_none_iff,
    List.findSome?_eq_none_iff] at hnone ⊢
  refine ⟨?_, fun e he => hnone.2 e (h.mem_entities he)⟩
  obtain ⟨_, -, rfl⟩ := h
  exact hnone.1

end Aggregate.Reordered

namespace Document.Reordered

variable {d d' : Document}

theorem knownNames (h : Reordered d d') : (knownNames d).Perm (knownNames d') := by
  refine List.Perm.append_left _ (Forall₂.perm_flatMap h fun a a' ha => ?_)
  refine List.Perm.append ?_ (ha.fieldOwners.flatMap_right _)
  obtain ⟨entities, hperm, rfl⟩ := ha
  exact ((hperm.map _).append_right _).append_right _

theorem sound (h : Reordered d d') (hsound : Check.Sound d) : Check.Sound d' where
  aggregateNames := by
    have hnames : (d.aggregates.map fun a => pascal a.name) =
        d'.aggregates.map fun a => pascal a.name := by
      refine Forall₂.map_eq h fun a a' ha => ?_
      obtain ⟨_, -, rfl⟩ := ha
      rfl
    rw [← hnames]
    exact hsound.aggregateNames
  aggregates := by
    intro a' ha'
    obtain ⟨a, ha, hreordered⟩ := Forall₂.exists_left h ha'
    exact hreordered.sound (hsound.aggregates a ha)

theorem unwarned (h : Reordered d d') (hunwarned : Check.Unwarned d) : Check.Unwarned d' := by
  intro a' ha'
  obtain ⟨a, ha, hreordered⟩ := Forall₂.exists_left h ha'
  exact hreordered.unwarned (fun _ hname => h.knownNames.mem_iff.mp hname) (hunwarned a ha)

theorem accepted (h : Reordered d d') {strict : Bool} (haccepted : Check.Accepted strict d) :
    Check.Accepted strict d' :=
  ⟨h.sound haccepted.1, fun hstrict => h.unwarned (haccepted.2 hstrict)⟩

theorem excess?_eq_none (h : Reordered d d') (hnone : d.excess? = none) : d'.excess? = none := by
  rw [Document.excess?, List.findSome?_eq_none_iff] at hnone ⊢
  intro a' ha'
  obtain ⟨a, ha, hreordered⟩ := Forall₂.exists_left h ha'
  exact hreordered.excess?_eq_none (hnone a ha)

end Document.Reordered

end DomainCompiler.Declared
