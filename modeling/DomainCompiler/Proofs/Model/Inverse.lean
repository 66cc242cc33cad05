import DomainCompiler.Proofs.Declared.WellFormed
import DomainCompiler.Proofs.Model.Resolved

/-!
# The inverse sides of relationships

Both sides of a relationship come from one declaration, but they are built apart: the owner's side
where the owner is resolved, the other side while all entities of the aggregate are gone through.
An entity ends up with its own relationships and with one inverse side for each declaration that
implies one on it, in the order of the declarations, and both sides of each agree.
-/

namespace DomainCompiler.Model

open DomainCompiler.Naming
open DomainCompiler.Traversal

/-! ### Declarations that imply another side -/

namespace Relationship

/-- The declaration implies a side on the class, beyond own relationships of the field names. -/
def Implies (name : String) (own : List String) (r : Declared.Relationship) : Prop :=
  (r.kind = .oneToMany ∨ r.kind = .oneToOne) ∧
    (∃ t ∈ r.target, pascal t = name) ∧ ∃ m ∈ r.mappedBy, m ∉ own

instance (name : String) (own : List String) : DecidablePred (Implies name own) :=
  fun _ => inferInstanceAs (Decidable (_ ∧ _ ∧ _))

/-- What the inverse side of a declaration of the class `owner` is, next to the owner's side. -/
structure OtherSide (owner suffix : String) (r : Declared.Relationship) (x : Relationship) :
    Prop where
  target : x.target = owner
  kind : r.kind = .oneToMany ∧ x.kind = .manyToOne ∨ r.kind = .oneToOne ∧ x.kind = .oneToOne
  fieldName : r.mappedBy = some x.fieldName
  isInverse : x.isInverse = true
  isCollection : x.isCollection = false
  ownSide : ∃ o, resolve owner suffix r = .ok o ∧ x.joinColumn = o.joinColumn ∧ x.fetch = o.fetch

variable {owner suffix name : String} {own : List String} {r : Declared.Relationship}

theorem filter_isEmpty_of_ne {s : Option String} (h : s ≠ some "") :
    s.filter (!·.isEmpty) = s := by
  cases s with
  | none => rfl
  | some t =>
    have ht : t.isEmpty = false := by
      rw [Bool.eq_false_iff, Ne, String.isEmpty_iff]
      rintro rfl
      exact h rfl
    simp [Option.filter, ht]

theorem backReference?_eq (h : r.WellFormed) : backReference? r = r.mappedBy :=
  filter_isEmpty_of_ne h.mappedBy

theorem target?_eq (h : r.WellFormed) : target? r = r.target :=
  filter_isEmpty_of_ne h.target

/-- The inverse side that a declaration implies on the class, beyond the own field names. -/
def impliedOn? (suffix name : String) (own : List String)
    (p : Declared.Entity × Declared.Relationship) : Option Relationship :=
  (((inverse? (pascal p.1.name) suffix p.2).filter fun e => e.1 == name).map (·.2)).filter
    fun x => !own.contains x.fieldName

/-- What is common to all inverse sides, whatever declaration implies them. -/
structure Synthesized (x : Relationship) : Prop where
  isInverse : x.isInverse = true
  isCollection : x.isCollection = false
  mappedBy : x.mappedBy = none
  kind : x.kind ≠ .oneToMany

theorem synthesized_of_inverse? {e : String × Relationship}
    (h : inverse? owner suffix r = some e) : Synthesized e.2 := by
  rw [inverse?] at h
  split at h
  · next kind _ _ hkind =>
    cases h
    refine ⟨rfl, rfl, rfl, ?_⟩
    rintro rfl
    cases hk : r.kind <;> simp [hk, RelationshipKind.inverse?] at hkind
  · cases h

theorem synthesized_of_impliedOn? {p : Declared.Entity × Declared.Relationship}
    {x : Relationship} (h : impliedOn? suffix name own p = some x) :
    Synthesized x ∧ x.fieldName ∉ own := by
  obtain ⟨h, hown⟩ := Option.filter_eq_some_iff.mp h
  obtain ⟨e, he, rfl⟩ := Option.map_eq_some_iff.mp h
  obtain ⟨he, -⟩ := Option.filter_eq_some_iff.mp he
  exact ⟨synthesized_of_inverse? he, by simpa using hown⟩

theorem isSome_impliedOn? {p : Declared.Entity × Declared.Relationship} (h : p.2.WellFormed) :
    (impliedOn? suffix name own p).isSome = decide (Implies name own p.2) := by
  -- The parts of the declaration in the order in which `inverse?` looks at them.
  rw [impliedOn?, inverse?, backReference?_eq h, target?_eq h, Bool.eq_iff_iff, decide_eq_true_iff]
  cases hm : p.2.mappedBy with
  | none => simp [Implies, hm]
  | some m =>
    cases ht : p.2.target with
    | none => simp [Implies, ht]
    | some t =>
      by_cases hname : pascal t = name <;> by_cases hown : m ∈ own <;>
        cases hk : p.2.kind <;>
          simp [Implies, hm, ht, hk, hname, hown, RelationshipKind.inverse?, Option.filter]

/-- The two sides of one declaration agree on the column and on when the target is fetched. -/
theorem otherSide_of_impliedOn? {p : Declared.Entity × Declared.Relationship} {x : Relationship}
    (h : p.2.WellFormed) (htarget : (target? p.2).isSome = true)
    (hx : impliedOn? suffix name own p = some x) : OtherSide (pascal p.1.name) suffix p.2 x := by
  obtain ⟨t, ht⟩ := Option.isSome_iff_exists.mp htarget
  obtain ⟨hx, -⟩ := Option.filter_eq_some_iff.mp hx
  obtain ⟨⟨class_, y⟩, hy, rfl⟩ := Option.map_eq_some_iff.mp hx
  obtain ⟨hy, -⟩ := Option.filter_eq_some_iff.mp hy
  rw [inverse?, backReference?_eq h, ht] at hy
  cases hm : p.2.mappedBy with
  | none => simp [hm] at hy
  | some m =>
    cases hk : p.2.kind.inverse? with
    | none => simp [hm, hk] at hy
    | some kind =>
      simp only [hm, hk, Option.some.injEq, Prod.mk.injEq] at hy
      obtain ⟨-, rfl⟩ := hy
      exact
        { target := rfl
          kind := by cases hkind : p.2.kind <;> simp_all [RelationshipKind.inverse?]
          fieldName := hm
          isInverse := rfl
          isCollection := rfl
          ownSide := by
            refine ⟨_, resolve_eq_ok_iff.mpr ⟨t, ht, rfl⟩, ?_, rfl⟩
            rw [toTarget, backReference?_eq h, hm, filter_isEmpty_of_ne h.joinColumn]
            cases p.2.joinColumn <;> rfl }

/-- The declarations of the entities, each with the entity it is on, in order. -/
def declarations (entities : List Declared.Entity) :
    List (Declared.Entity × Declared.Relationship) :=
  entities.flatMap fun e => e.relationships.map fun r => (e, r)

theorem mem_declarations_iff {entities : List Declared.Entity}
    {p : Declared.Entity × Declared.Relationship} :
    p ∈ declarations entities ↔ p.1 ∈ entities ∧ p.2 ∈ p.1.relationships := by
  obtain ⟨e, r⟩ := p
  simp only [declarations, List.mem_flatMap, List.mem_map, Prod.mk.injEq]
  constructor
  · rintro ⟨e', he, r', hr, rfl, rfl⟩
    exact ⟨he, hr⟩
  · rintro ⟨he, hr⟩
    exact ⟨e, he, r, hr, rfl, rfl⟩

theorem allInverse_eq_filterMap (suffix : String) (entities : List Declared.Entity) :
    allInverse suffix entities =
      (declarations entities).filterMap fun p => inverse? (pascal p.1.name) suffix p.2 := by
  simp only [allInverse, declarations, List.filterMap_flatMap, List.filterMap_map,
    Function.comp_def]

/-- Merging keeps all own relationships and adds what the declarations imply beyond them. -/
theorem merge_inverseOf (declared : List Relationship) (entities : List Declared.Entity) :
    merge declared (inverseOf name (allInverse suffix entities)) =
      declared ++ (declarations entities).filterMap
        (impliedOn? suffix name (declared.map (·.fieldName))) := by
  rw [merge, inverseOf, allInverse_eq_filterMap, List.filter_filterMap, List.map_filterMap,
    List.filter_filterMap]
  rfl

end Relationship

/-! ### The relationships of an entity -/

namespace Aggregate

variable {options : Options} {d : Declared.Aggregate} {a : Aggregate}

/-- Each entity has its own relationships and then what the declarations imply beyond them. -/
theorem forall₂_relationships (h : resolve options d = .ok a) :
    List.Forall₂ (fun x e => e.name = pascal x.name ∧ ∃ declared,
        List.Forall₂ (Relationship.Declares options.persistenceSuffix) x.relationships declared ∧
        e.relationships = declared ++ (Relationship.declarations d.entities).filterMap
          (Relationship.impliedOn? options.persistenceSuffix e.name (declared.map (·.fieldName))))
      d.entities a.allEntities := by
  refine (forall₂_allEntities h).imp fun x e hx => ?_
  obtain ⟨e', imports, hresolves, rfl⟩ := hx
  obtain ⟨-, declared, hdeclared, rfl⟩ := Entity.resolve_eq_ok_iff.mp hresolves
  rw [withImports_name, withImports_relationships]
  exact ⟨rfl, declared, hdeclared, Relationship.merge_inverseOf declared d.entities⟩

theorem isSome_target?_of_resolve (h : resolve options d = .ok a)
    {p : Declared.Entity × Declared.Relationship} (hp : p ∈ Relationship.declarations d.entities) :
    (Relationship.target? p.2).isSome = true := by
  obtain ⟨he, hr⟩ := Relationship.mem_declarations_iff.mp hp
  obtain ⟨e, -, -, declared, hdeclared, -⟩ := Forall₂.exists_right (forall₂_relationships h) he
  obtain ⟨x, -, t, ht, -⟩ := Forall₂.exists_right hdeclared hr
  rw [ht]
  rfl

/-- The entity has its own relationships and then one inverse side for each declaration of the
aggregate that implies one on it. -/
def HasBothSides (suffix : String) (d : Declared.Aggregate) (x : Declared.Entity) (e : Entity) :
    Prop :=
  e.name = pascal x.name ∧ ∃ own implied, e.relationships = own ++ implied ∧
    x.relationships.mapM (Relationship.resolve e.name suffix) = .ok own ∧
    List.Forall₂ (fun p y => Relationship.OtherSide (pascal p.1.name) suffix p.2 y)
      ((Relationship.declarations d.entities).filter fun p =>
        Relationship.Implies e.name (own.map (·.fieldName)) p.2) implied

/-- No inverse side is made up, and no declaration is lost or counted twice. -/
theorem forall₂_hasBothSides (hwell : d.WellFormed) (h : resolve options d = .ok a) :
    List.Forall₂ (HasBothSides options.persistenceSuffix d) d.entities a.allEntities := by
  have hwell' : ∀ p ∈ Relationship.declarations d.entities, p.2.WellFormed := by
    intro p hp
    obtain ⟨he, hr⟩ := Relationship.mem_declarations_iff.mp hp
    exact hwell p.1 he p.2 hr
  refine (forall₂_relationships h).imp fun x e hx => ?_
  obtain ⟨hname, declared, hdeclared, hrelationships⟩ := hx
  refine ⟨hname, declared, _, hrelationships,
    Relationship.mapM_resolve_eq_ok_iff.mpr hdeclared, ?_⟩
  refine forall₂_filter_filterMap (fun p hp => ?_) fun p hp y hy => ?_
  · exact (Relationship.isSome_impliedOn? (hwell' p hp)).symm
  · exact Relationship.otherSide_of_impliedOn? (hwell' p hp) (isSome_target?_of_resolve h hp) hy

/-- A relationship of which nothing else is said. -/
def plainRelationship (kind : RelationshipKind) (target : String) (mappedBy : Option String) :
    Declared.Relationship :=
  { kind, target := some target, mappedBy, joinColumn := none, cascade := [], fetch := .lazy
    description := none }

def plainEntity (name : String) (isRoot : Bool) (fields : List Declared.Field)
    (relationships : List Declared.Relationship) : Declared.Entity :=
  { name, isRoot, tableName := none, audit := none, auditable := none, fields, relationships
    description := none }

def plainAggregate (name : String) (entities : List Declared.Entity) : Declared.Aggregate :=
  { name, package := none, entities, valueObjects := [], enums := [], description := none }

/-- Employees refer to themselves, two declarations imply a holder of badges, one implies a badge
of employees that they declare themselves, and many to many implies nothing. -/
def staff : Declared.Aggregate :=
  plainAggregate "Staff"
    [plainEntity "employee" true [{ name := "id", type := "Long" }]
      [plainRelationship .oneToMany "employee" (some "manager"),
       { plainRelationship .oneToOne "badge" (some "holder") with joinColumn := some "badge_ref" },
       plainRelationship .manyToMany "project" (some "members")],
     plainEntity "project" false []
      [plainRelationship .oneToMany "Badge" (some "holder"),
       plainRelationship .oneToOne "employee" (some "badge")],
     plainEntity "badge" false [] []]

theorem forall₂_hasBothSides_staff :
    staff.WellFormed ∧ ∃ a, resolve {} staff = .ok a ∧
      List.Forall₂ (HasBothSides "Jpa" staff) staff.entities a.allEntities ∧
      a.allEntities.map (fun e => e.relationships.map (·.fieldName)) =
        [["employees", "badge", "projects", "manager"], ["badges", "employee"],
          ["holder", "holder"]] := by
  have hwell : staff.WellFormed := by decide
  exact ⟨hwell, _, rfl, @forall₂_hasBothSides {} staff _ hwell rfl, by decide +kernel⟩

end Aggregate

end DomainCompiler.Model
