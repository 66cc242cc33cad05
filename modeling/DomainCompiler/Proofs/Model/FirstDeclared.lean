import DomainCompiler.Proofs.Model.Registry

/-!
# The first declaration of every enum

Enums are declared on aggregates, on the fields of entities and on those of value objects, and a
name may be declared in several of these places with different values. The registry goes through
all of them and takes a name once. So it has the first declaration of every name, it finds exactly
what is declared, and a description that is continued keeps the registry that it had.
-/

namespace DomainCompiler.Model.DomainModel

/-- Every enum that is declared: aggregate by aggregate those of its own, those of the fields of its
entities and those of the fields of its value objects. -/
def declarations (aggregates : List Aggregate) : List EnumType :=
  aggregates.flatMap fun a =>
    a.enums ++ a.allEntities.flatMap (·.enums) ++ a.valueObjects.flatMap (·.enums)

/-- The enums are the first declarations of their names, in the order of these. -/
structure KeepsFirst (aggregates : List Aggregate) (enums : List EnumType) : Prop where
  nodup : (enums.map (·.name)).Nodup
  order : enums.map (·.name) = ((declarations aggregates).map (·.name)).eraseDups
  mem_iff : ∀ e, e ∈ enums ↔ EnumType.find? e.name (declarations aggregates) = some e
  /-- A model with these enums finds the first declaration of a name, and nothing where there is
  none. -/
  found : ∀ package module name,
    (DomainModel.mk aggregates enums package module).enum? name =
      EnumType.find? name (declarations aggregates)

theorem keepsFirst (aggregates : List Aggregate) : KeepsFirst aggregates (registry aggregates) := by
  have hnames : (registry aggregates).map (·.name) =
      ((declarations aggregates).map (·.name)).eraseDups := by
    rw [registry, register_eq_addNew, FirstMet.map_foldl_addNew]
    exact FirstMet.foldl_addName_nil _
  have hnodup : ((registry aggregates).map (·.name)).Nodup := by
    rw [hnames]
    exact FirstMet.nodup_eraseDups _
  have hfound : ∀ name, EnumType.find? name (registry aggregates) =
      EnumType.find? name (declarations aggregates) := find?_registry aggregates
  refine ⟨hnodup, hnames, fun e => ?_, fun _ _ name => hfound name⟩
  rw [← hfound]
  exact ⟨Traversal.find?_eq_some_of_mem EnumType.name hnodup, List.mem_of_find?_eq_some⟩

/-- The registry keeps the first declaration of every name, and further aggregates only add the
enums of their own registry whose names are new. -/
theorem keepsFirst_registry (aggregates further : List Aggregate) :
    KeepsFirst aggregates (registry aggregates) ∧
      registry (aggregates ++ further) =
        registry aggregates ++
          (registry further).filter fun e => e.name ∉ (registry aggregates).map (·.name) := by
  refine ⟨keepsFirst aggregates, ?_⟩
  rw [registry, List.flatMap_append, List.foldl_append, register_eq_addNew, FirstMet.foldl_addNew,
    ← register_eq_addNew]
  rfl

end DomainCompiler.Model.DomainModel
