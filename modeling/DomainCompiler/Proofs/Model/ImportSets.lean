import DomainCompiler.Proofs.Model.EnumImports
import DomainCompiler.Proofs.Model.Root

/-!
# Import lists as sets

What is imported is gathered from types, from the names of enums and from whether there is any list,
and each of these only asks what there is. So more things never import less, and with the order and
the repetitions of a list gone nothing is left that could depend on how things are listed. The root
has two such lists, its own and that of its methods, and they are united in the same way.
-/

namespace DomainCompiler.Model

open DomainCompiler.Traversal

namespace Imports

/-- Imports that things of two kinds call for: they ascend, further things take none of them away,
and the order and the repetitions of the things do not matter. -/
structure Canonical {α β : Type} (imports : List α → List β → List String) : Prop where
  ascending : ∀ xs ys, NameSet.Ascending (imports xs ys)
  mono : ∀ xs xs' ys ys', xs ⊆ xs' → ys ⊆ ys' → imports xs ys ⊆ imports xs' ys'
  eq_of_same : ∀ xs xs' ys ys', (∀ x, x ∈ xs ↔ x ∈ xs') → (∀ y, y ∈ ys ↔ y ∈ ys') →
    imports xs ys = imports xs' ys'

/-- A list that ascends is known by its members, so that it is enough that it grows. -/
theorem canonical_of_mono {α β : Type} {imports : List α → List β → List String}
    (hascending : ∀ xs ys, NameSet.Ascending (imports xs ys))
    (hmono : ∀ xs xs' ys ys', xs ⊆ xs' → ys ⊆ ys' → imports xs ys ⊆ imports xs' ys') :
    Canonical imports := by
  refine ⟨hascending, hmono, fun xs xs' ys ys' hxs hys => ?_⟩
  refine (hascending xs ys).ext (hascending xs' ys') fun s => ⟨fun hs => ?_, fun hs => ?_⟩
  · exact hmono _ _ _ _ (fun x => (hxs x).mp) (fun y => (hys y).mp) hs
  · exact hmono _ _ _ _ (fun x => (hxs x).mpr) (fun y => (hys y).mpr) hs

/-- What the parameters of methods call for. -/
def ofMethods (methods : List Method) (enums : List EnumType) (o : Options) : List String :=
  ofParameters (methods.flatMap fun m => m.parameters.map (·.type)) enums o

section Growing

variable {o : Options} {types types' : List String} {enums enums' : List EnumType}

theorem ofTypes_mono (htypes : types ⊆ types') (henums : enums ⊆ enums') :
    ofTypes types enums o ⊆ ofTypes types' enums' o := by
  intro s hs
  rw [ofTypes, List.mem_append] at hs ⊢
  refine hs.imp (fun htype => ?_) (fun henum => ?_)
  · obtain ⟨t, ht, hs⟩ := List.mem_flatMap.mp htype
    exact List.mem_flatMap.mpr ⟨t, htypes ht, hs⟩
  · obtain ⟨hqualifies, t, ht, hname, himport⟩ := mem_ofEnums_iff.mp henum
    exact mem_ofEnums_iff.mpr ⟨hqualifies, t, htypes ht, List.map_subset _ henums hname, himport⟩

/-- The imports of lists are asked for by any thing that is one. -/
theorem ofList_mono {lists : List String} {needed needed' : Bool}
    (htypes : types ⊆ types') (henums : enums ⊆ enums') (hneeded : needed = true → needed' = true) :
    NameSet.ofList (ofTypes types enums o ++ if needed then lists else []) ⊆
      NameSet.ofList (ofTypes types' enums' o ++ if needed' then lists else []) := by
  intro s hs
  rw [NameSet.mem_ofList, List.mem_append] at hs ⊢
  refine hs.imp (fun htype => ofTypes_mono htypes henums htype) (fun hlist => ?_)
  split at hlist
  · next h => rwa [if_pos (hneeded h)]
  · cases hlist

theorem any_mono {α : Type} {p : α → Bool} {xs xs' : List α} (h : xs ⊆ xs')
    (hany : xs.any p = true) : xs'.any p = true := by
  obtain ⟨x, hx, hp⟩ := List.any_eq_true.mp hany
  exact List.any_eq_true.mpr ⟨x, h hx, hp⟩

theorem ofEntity_mono {fields fields' : List Field}
    {relationships relationships' : List Relationship} (hfields : fields ⊆ fields')
    (hrelationships : relationships ⊆ relationships') (henums : enums ⊆ enums') :
    ofEntity fields relationships enums o ⊆ ofEntity fields' relationships' enums' o := by
  refine ofList_mono (List.map_subset _ hfields) henums fun hany => ?_
  rw [Bool.or_eq_true] at hany ⊢
  exact hany.imp (any_mono hfields) (any_mono hrelationships)

theorem ofValueObject_mono {fields fields' : List Field} (hfields : fields ⊆ fields')
    (henums : enums ⊆ enums') : ofValueObject fields enums o ⊆ ofValueObject fields' enums' o :=
  ofList_mono (List.map_subset _ hfields) henums (any_mono hfields)

theorem ofMethods_mono {methods methods' : List Method} (hmethods : methods ⊆ methods')
    (henums : enums ⊆ enums') : ofMethods methods enums o ⊆ ofMethods methods' enums' o := by
  intro s hs
  rw [ofMethods, ofParameters, NameSet.mem_ofList] at hs ⊢
  refine ofTypes_mono (fun t ht => ?_) henums hs
  obtain ⟨m, hm, ht⟩ := List.mem_flatMap.mp ht
  exact List.mem_flatMap.mpr ⟨m, hmethods hm, ht⟩

end Growing

/-- All lists of imports are those of sets, with all but two of their arguments held. -/
structure AllCanonical (o : Options) : Prop where
  entityFields : ∀ relationships, Canonical fun fields enums =>
    ofEntity fields relationships enums o
  entityRelationships : ∀ enums, Canonical fun fields relationships =>
    ofEntity fields relationships enums o
  valueObject : Canonical fun fields enums => ofValueObject fields enums o
  methods : Canonical fun methods enums => ofMethods methods enums o

theorem allCanonical (o : Options) : AllCanonical o := by
  have hascending : ∀ names, NameSet.Ascending (NameSet.ofList names) := NameSet.ascending_ofList
  constructor
  case entityFields =>
    intro relationships
    exact canonical_of_mono (fun _ _ => hascending _) fun _ _ _ _ hfields henums =>
      ofEntity_mono hfields (List.Subset.refl relationships) henums
  case entityRelationships =>
    intro enums
    exact canonical_of_mono (fun _ _ => hascending _) fun _ _ _ _ hfields hrelationships =>
      ofEntity_mono hfields hrelationships (List.Subset.refl enums)
  case valueObject =>
    exact canonical_of_mono (fun _ _ => hascending _) fun _ _ _ _ hfields henums =>
      ofValueObject_mono hfields henums
  case methods =>
    exact canonical_of_mono (fun _ _ => hascending _) fun _ _ _ _ hmethods henums =>
      ofMethods_mono hmethods henums

end Imports

/-! ### The root and the other entities -/

namespace Aggregate

/-- What the fields and relationships of an entity of the aggregate call for. -/
def entityImports (o : Options) (a : Aggregate) (e : Entity) : List String :=
  Imports.ofEntity e.fields e.relationships (e.enums ++ a.enums) o

/-- The root unites its own imports and those of its methods; other entities have their own. -/
structure UnitesImports (o : Options) (a : Aggregate) : Prop where
  ascending : NameSet.Ascending a.rootEntity.requiredImports
  union : ∀ s, s ∈ a.rootEntity.requiredImports ↔ s ∈ a.entityImports o a.rootEntity ∨
    s ∈ Imports.ofMethods a.methods (a.allEntities.flatMap (·.enums) ++ a.enums) o
  others : ∀ e ∈ a.secondaryEntities, e.requiredImports = a.entityImports o e

theorem unitesImports_of_resolve {o : Options} {d : Declared.Aggregate} {a : Aggregate}
    (h : resolve o d = .ok a) : a.UnitesImports o := by
  have hroot := requiredImports_rootEntity h
  refine ⟨?_, fun s => ?_, fun e he => ?_⟩
  · rw [hroot]
    exact NameSet.ascending_ofList _
  · rw [hroot, NameSet.mem_ofList, List.mem_append]
    rfl
  · obtain ⟨x, -, hresolves⟩ := exists_resolves_of_mem_secondaryEntities h he
    rw [hresolves.requiredImports_eq, entityImports, enums_eq h]

end Aggregate

/-- Import lists are those of sets, and in a compiled model the root has the imports of both of its
lists while every other entity has its own. -/
theorem canonical_imports (o : Options) :
    Imports.AllCanonical o ∧ ∀ d c, compileDocument o d = .ok c →
      ∀ a ∈ c.model.aggregates, a.UnitesImports o := by
  refine ⟨Imports.allCanonical o, fun d c h a ha => ?_⟩
  obtain ⟨x, -, -, hresolve⟩ := exists_sound_of_mem_compiled h ha
  exact Aggregate.unitesImports_of_resolve hresolve

theorem canonical_imports_orderOfStates :
    ∃ c, compileDocument namedOptions orderOfStates = .ok c ∧
      (∀ a ∈ c.model.aggregates, a.UnitesImports namedOptions) ∧
      c.model.aggregates.map (fun a => (a.entityImports namedOptions a.rootEntity,
          Imports.ofMethods a.methods (a.allEntities.flatMap (·.enums) ++ a.enums) namedOptions)) =
        [(["com.shop.orders.domain.models.enums.Status", "java.util.ArrayList",
            "java.util.Collections", "java.util.List"],
          ["com.shop.orders.domain.models.enums.State"])] :=
  ⟨_, rfl, (canonical_imports namedOptions).2 orderOfStates _ rfl, by decide +kernel⟩

end DomainCompiler.Model
