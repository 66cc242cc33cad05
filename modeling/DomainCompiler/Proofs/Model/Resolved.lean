import DomainCompiler.Model.Aggregate
import DomainCompiler.Proofs.Traversal

/-!
# When resolving succeeds, and with what

A declaration is resolved from the inside out: relationships, then entities, then aggregates. At
each level the result is described by what it is put together from, and every way to fail is named.
Later arguments rest on these descriptions and never open a resolver again.
-/

namespace DomainCompiler.Model

open DomainCompiler.Naming
open DomainCompiler.Traversal

/-! ### Relationships -/

namespace Relationship

/-- The declaration names a target, and the relationship is the one to that target. -/
def Declares (suffix : String) (d : Declared.Relationship) (r : Relationship) : Prop :=
  ∃ declared, target? d = some declared ∧ r = toTarget suffix d declared

variable {owner suffix : String} {d : Declared.Relationship} {r : Relationship}

theorem resolve_eq_ok_iff : resolve owner suffix d = .ok r ↔ Declares suffix d r := by
  rw [resolve, Declares]
  cases target? d with
  | none => simp
  | some declared => simp [eq_comm]

theorem resolve_eq_error_iff {x : ResolveError} :
    resolve owner suffix d = .error x ↔ target? d = none ∧ x = .missingTarget owner := by
  rw [resolve]
  cases target? d with
  | none => simp [eq_comm]
  | some declared => simp

theorem isInverse_of_declares {ds : List Declared.Relationship} {rs : List Relationship}
    (h : List.Forall₂ (Declares suffix) ds rs) : ∀ r ∈ rs, r.isInverse = false := by
  intro r hr
  obtain ⟨d, -, declared, -, rfl⟩ := Forall₂.exists_left h hr
  rfl

theorem mapM_resolve_eq_ok_iff {ds : List Declared.Relationship} {rs : List Relationship} :
    ds.mapM (resolve owner suffix) = .ok rs ↔ List.Forall₂ (Declares suffix) ds rs := by
  simp only [mapM_eq_ok_iff, resolve_eq_ok_iff]

theorem exists_forall₂_declares {ds : List Declared.Relationship}
    (h : ∀ d ∈ ds, (target? d).isSome = true) : ∃ rs, List.Forall₂ (Declares suffix) ds rs := by
  have hresolve : ∀ d ∈ ds, ∃ r, resolve "" suffix d = .ok r := by
    intro d hd
    obtain ⟨declared, ht⟩ := Option.isSome_iff_exists.mp (h d hd)
    exact ⟨_, resolve_eq_ok_iff.mpr ⟨declared, ht, rfl⟩⟩
  obtain ⟨rs, hrs⟩ := exists_mapM_eq_ok hresolve
  exact ⟨rs, mapM_resolve_eq_ok_iff.mp hrs⟩

end Relationship

/-! ### Entities -/

namespace Audit

variable {e : Declared.Entity}

theorem resolve_eq_ok_iff {a : Audit} :
    resolve e = .ok a ↔
      (e.tracksUser = true → e.auditEnabled = true) ∧ a = ⟨e.auditEnabled, e.tracksUser⟩ := by
  rw [resolve]
  cases e.tracksUser <;> cases e.auditEnabled <;> simp [eq_comm]

theorem resolve_eq_error_iff {x : ResolveError} :
    resolve e = .error x ↔
      ¬(e.tracksUser = true → e.auditEnabled = true) ∧ x = .trackUserWithoutAudit e.name := by
  rw [resolve]
  cases e.tracksUser <;> cases e.auditEnabled <;> simp [eq_comm]

end Audit

namespace Entity

def auditOf (d : Declared.Entity) : Audit := ⟨d.auditEnabled, d.tracksUser⟩

section Resolve

variable {valueObjects : List String} {aggregateEnums : List EnumType}
  {inverse : List (String × Relationship)} {options : Options} {d : Declared.Entity}

/-- An entity is resolved exactly where its settings are allowed and its relationships are. -/
theorem resolve_eq_ok_iff {e : Entity} :
    resolve valueObjects aggregateEnums inverse options d = .ok e ↔
      (d.tracksUser = true → d.auditEnabled = true) ∧ ∃ declared,
        List.Forall₂ (Relationship.Declares options.persistenceSuffix) d.relationships declared ∧
          e = assemble valueObjects aggregateEnums inverse options d (auditOf d) declared := by
  rw [resolve, bind_eq_ok_iff]
  constructor
  · rintro ⟨audit, haudit, h⟩
    obtain ⟨declared, hdeclared, h⟩ := bind_eq_ok_iff.mp h
    obtain ⟨hallowed, rfl⟩ := Audit.resolve_eq_ok_iff.mp haudit
    cases h
    exact ⟨hallowed, declared, Relationship.mapM_resolve_eq_ok_iff.mp hdeclared, rfl⟩
  · rintro ⟨hallowed, declared, hdeclared, rfl⟩
    refine ⟨auditOf d, Audit.resolve_eq_ok_iff.mpr ⟨hallowed, rfl⟩, bind_eq_ok_iff.mpr ?_⟩
    exact ⟨declared, Relationship.mapM_resolve_eq_ok_iff.mpr hdeclared, rfl⟩

theorem of_resolve_eq_error {x : ResolveError}
    (h : resolve valueObjects aggregateEnums inverse options d = .error x) :
    (¬(d.tracksUser = true → d.auditEnabled = true) ∧ x = .trackUserWithoutAudit d.name) ∨
      ∃ r ∈ d.relationships, Relationship.target? r = none ∧
        x = .missingTarget (pascal d.name) := by
  rw [resolve] at h
  rcases bind_eq_error_iff.mp h with h | ⟨audit, -, h⟩
  · exact .inl (Audit.resolve_eq_error_iff.mp h)
  · rcases bind_eq_error_iff.mp h with h | ⟨declared, -, h⟩
    · obtain ⟨r, hr, h⟩ := exists_of_mapM_eq_error h
      exact .inr ⟨r, hr, Relationship.resolve_eq_error_iff.mp h⟩
    · cases h

theorem exists_resolve_eq_ok (haudit : d.tracksUser = true → d.auditEnabled = true)
    (htargets : ∀ r ∈ d.relationships, (Relationship.target? r).isSome = true) :
    ∃ e, resolve valueObjects aggregateEnums inverse options d = .ok e := by
  obtain ⟨declared, hdeclared⟩ := Relationship.exists_forall₂_declares htargets
  exact ⟨_, resolve_eq_ok_iff.mpr ⟨haudit, declared, hdeclared, rfl⟩⟩

end Resolve

end Entity

/-! ### Aggregates -/

namespace Aggregate

variable {options : Options} {d : Declared.Aggregate}

theorem checkRoot_eq_ok_iff : checkRoot d = .ok () ↔ ∃ e, d.entities.filter (·.isRoot) = [e] := by
  rw [checkRoot, rootNames]
  generalize d.entities.filter (·.isRoot) = roots
  rcases roots with _ | ⟨e, _ | ⟨e', rest⟩⟩ <;> simp

/-- The entity is what the declaration is resolved to inside the aggregate. -/
def Resolves (options : Options) (d : Declared.Aggregate) (x : Declared.Entity) (e : Entity) :
    Prop :=
  resolveEntity options d (inverseSides options d) x = .ok e

theorem Resolves.isRoot {x : Declared.Entity} {e : Entity} (h : Resolves options d x e) :
    e.isRoot = x.isRoot := by
  obtain ⟨-, declared, -, rfl⟩ := Entity.resolve_eq_ok_iff.mp h
  rfl

theorem Resolves.name {x : Declared.Entity} {e : Entity} (h : Resolves options d x e) :
    e.name = pascal x.name := by
  obtain ⟨-, declared, -, rfl⟩ := Entity.resolve_eq_ok_iff.mp h
  rfl

theorem singleRoot_iff {entities : List Entity}
    (h : List.Forall₂ (Resolves options d) d.entities entities) :
    (∃ x, d.entities.filter (·.isRoot) = [x]) ↔ ∃ root, entities.filter (·.isRoot) = [root] := by
  have hroots : List.Forall₂ (Resolves options d) (d.entities.filter (·.isRoot))
      (entities.filter (·.isRoot)) :=
    List.rel_filter (fun x e hxe => Bool.eq_iff_iff.mp hxe.isRoot.symm) h
  rw [← List.length_eq_one_iff, ← List.length_eq_one_iff, hroots.length_eq]

theorem find?_isRoot {entities : List Entity} {root : Entity}
    (h : entities.filter (·.isRoot) = [root]) : entities.find? (·.isRoot) = some root := by
  rw [← List.head?_filter, h, List.head?_cons]

/-- An aggregate is resolved exactly where it has one root and its entities are resolved. -/
theorem resolve_eq_ok_iff {a : Aggregate} :
    resolve options d = .ok a ↔
      ∃ entities root, List.Forall₂ (Resolves options d) d.entities entities ∧
        entities.filter (·.isRoot) = [root] ∧
        a = assemble d options (resolvedEnums d) (resolvedValueObjects options d) entities
          root := by
  rw [resolve, bind_eq_ok_iff]
  constructor
  · rintro ⟨⟨⟩, hroot, h⟩
    obtain ⟨entities, hentities, h⟩ := bind_eq_ok_iff.mp h
    have hstep : List.Forall₂ (Resolves options d) d.entities entities :=
      mapM_eq_ok_iff.mp hentities
    -- The root that was checked for among the declarations is found among the resolved entities.
    obtain ⟨root, hroots⟩ := (singleRoot_iff hstep).mp (checkRoot_eq_ok_iff.mp hroot)
    rw [find?_isRoot hroots] at h
    cases h
    exact ⟨entities, root, hstep, hroots, rfl⟩
  · rintro ⟨entities, root, hstep, hroots, rfl⟩
    have hroot := (singleRoot_iff hstep).mpr ⟨root, hroots⟩
    refine ⟨(), checkRoot_eq_ok_iff.mpr hroot, bind_eq_ok_iff.mpr ?_⟩
    refine ⟨entities, mapM_eq_ok_iff.mpr hstep, ?_⟩
    rw [find?_isRoot hroots]
    rfl

@[simp] theorem withImports_name (e : Entity) (imports : List String) :
    (withImports e imports).name = e.name := by
  unfold withImports
  split <;> rfl

@[simp] theorem withImports_fields (e : Entity) (imports : List String) :
    (withImports e imports).fields = e.fields := by
  unfold withImports
  split <;> rfl

@[simp] theorem withImports_relationships (e : Entity) (imports : List String) :
    (withImports e imports).relationships = e.relationships := by
  unfold withImports
  split <;> rfl

/-- The entities of an aggregate are the resolved ones, but for imports that the root gets. -/
theorem forall₂_allEntities {a : Aggregate} (h : resolve options d = .ok a) :
    List.Forall₂ (fun x e => ∃ e' imports, Resolves options d x e' ∧ e = withImports e' imports)
      d.entities a.allEntities := by
  obtain ⟨entities, root, hstep, hroots, rfl⟩ := resolve_eq_ok_iff.mp h
  refine List.forall₂_map_right_iff.mpr (Forall₂.imp_of_mem hstep fun x _ e he hxe => ?_)
  cases hroot : e.isRoot with
  | false => exact ⟨e, [], hxe, rfl⟩
  | true =>
    have hmem : e ∈ entities.filter (·.isRoot) := List.mem_filter.mpr ⟨he, hroot⟩
    rw [hroots, List.mem_singleton] at hmem
    exact ⟨e, _, hxe, by rw [if_pos rfl, hmem]⟩

theorem map_name_allEntities {a : Aggregate} (h : resolve options d = .ok a) :
    a.allEntities.map (·.name) = d.entities.map fun x => pascal x.name := by
  refine (Forall₂.map_eq (forall₂_allEntities h) fun x e hx => ?_).symm
  obtain ⟨e', imports, hresolves, rfl⟩ := hx
  rw [withImports_name, hresolves.name]

/-- The causes for which an aggregate is not resolved; a root that is declared is not lost. -/
theorem of_resolve_eq_error {x : ResolveError} (h : resolve options d = .error x) :
    checkRoot d = .error x ∨
      ∃ e ∈ d.entities, resolveEntity options d (inverseSides options d) e = .error x := by
  rw [resolve] at h
  rcases bind_eq_error_iff.mp h with h | ⟨⟨⟩, hroot, h⟩
  · exact .inl h
  · rcases bind_eq_error_iff.mp h with h | ⟨entities, hentities, h⟩
    · exact .inr (exists_of_mapM_eq_error h)
    · have hstep : List.Forall₂ (Resolves options d) d.entities entities :=
        mapM_eq_ok_iff.mp hentities
      obtain ⟨root, hroots⟩ := (singleRoot_iff hstep).mp (checkRoot_eq_ok_iff.mp hroot)
      rw [find?_isRoot hroots] at h
      cases h

theorem exists_resolve_eq_ok (hroot : ∃ x, d.entities.filter (·.isRoot) = [x])
    (hentities : ∀ x ∈ d.entities, ∃ e, Resolves options d x e) :
    ∃ a, resolve options d = .ok a := by
  obtain ⟨entities, hstep⟩ := exists_mapM_eq_ok hentities
  have hstep : List.Forall₂ (Resolves options d) d.entities entities := mapM_eq_ok_iff.mp hstep
  obtain ⟨root, hroots⟩ := (singleRoot_iff hstep).mp hroot
  exact ⟨_, resolve_eq_ok_iff.mpr ⟨entities, root, hstep, hroots, rfl⟩⟩

end Aggregate

/-! ### Descriptions -/

namespace DomainModel

variable {options : Options} {d : Declared.Document}

theorem resolve_eq_ok_iff {m : DomainModel} :
    resolve options d = .ok m ↔
      ∃ aggregates,
        List.Forall₂ (fun a b => Aggregate.resolve options a = .ok b) d.aggregates aggregates ∧
        m = { aggregates, allEnums := registry aggregates, packageName := options.packageName
              moduleName := options.moduleName } := by
  rw [resolve, bind_eq_ok_iff]
  constructor
  · rintro ⟨aggregates, haggregates, h⟩
    cases h
    exact ⟨aggregates, mapM_eq_ok_iff.mp haggregates, rfl⟩
  · rintro ⟨aggregates, haggregates, rfl⟩
    exact ⟨aggregates, mapM_eq_ok_iff.mpr haggregates, rfl⟩

theorem of_resolve_eq_error {x : ResolveError} (h : resolve options d = .error x) :
    ∃ a ∈ d.aggregates, Aggregate.resolve options a = .error x := by
  rw [resolve] at h
  rcases bind_eq_error_iff.mp h with h | ⟨aggregates, -, h⟩
  · exact exists_of_mapM_eq_error h
  · cases h

end DomainModel

end DomainCompiler.Model
