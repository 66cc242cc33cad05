import DomainCompiler.Proofs.Model.Resolved

/-!
# The fields of a model

Fields are resolved in three places: where an entity declares them, where its audit settings add
them, and where a value object declares them. All come from one function on the declaration and the
enums of the aggregate, so that what holds of every field need not be said place by place.
-/

namespace DomainCompiler.Model

open DomainCompiler.Naming
open DomainCompiler.Traversal

/-! ### One field -/

namespace Field

/-- The field is what the declaration is resolved to, with the enums that its type may mean. -/
def ResolvedFrom (enums : List EnumType) (d : Declared.Field) (f : Field) : Prop :=
  ∃ valueObjects suffix synthetic, f = resolve valueObjects enums suffix synthetic d

variable {enums : List EnumType} {d : Declared.Field} {f : Field}

/-- A state machine is that of the first enum with the name of the type. -/
theorem ResolvedFrom.stateMachine_eq (h : ResolvedFrom enums d f) :
    f.stateMachine = (EnumType.find? f.resolvedType enums).bind StateMachine.ofEnum? := by
  obtain ⟨_, _, _, rfl⟩ := h
  rfl

theorem ResolvedFrom.autoInitValue_eq (h : ResolvedFrom enums d f) :
    f.autoInitValue = (EnumType.find? f.resolvedType enums).bind (·.initialValue) := by
  obtain ⟨_, _, _, rfl⟩ := h
  rfl

theorem ResolvedFrom.name_eq (h : ResolvedFrom enums d f) : f.name = camel d.name := by
  obtain ⟨_, _, _, rfl⟩ := h
  rfl

theorem ResolvedFrom.typeRef_eq (h : ResolvedFrom enums d f) :
    f.typeRef = TypeRef.resolve f.declaredType d.enumValues := by
  obtain ⟨_, _, _, rfl⟩ := h
  rfl

end Field

/-! ### All fields of an aggregate -/

namespace Aggregate

/-- The fields of the entities and those of the value objects. -/
def fields (a : Aggregate) : List Field :=
  a.allEntities.flatMap (·.fields) ++ a.valueObjects.flatMap (·.fields)

/-- The declarations of the fields of an aggregate; audit settings declare what they add. -/
def fieldDeclarations (d : Declared.Aggregate) : List Declared.Field :=
  d.entities.flatMap (fun e => e.fields ++ (Entity.auditOf e).declarations) ++
    d.valueObjects.flatMap (·.fields)

variable {options : Options} {d : Declared.Aggregate} {a : Aggregate}

theorem name_eq (h : resolve options d = .ok a) : a.name = pascal d.name := by
  obtain ⟨_, _, -, -, rfl⟩ := resolve_eq_ok_iff.mp h
  rfl

theorem enums_eq (h : resolve options d = .ok a) : a.enums = resolvedEnums d := by
  obtain ⟨_, _, -, -, rfl⟩ := resolve_eq_ok_iff.mp h
  rfl

theorem valueObjects_eq (h : resolve options d = .ok a) :
    a.valueObjects = resolvedValueObjects options d := by
  obtain ⟨_, _, -, -, rfl⟩ := resolve_eq_ok_iff.mp h
  rfl

theorem Resolves.fields_eq {x : Declared.Entity} {e : Entity} (h : Resolves options d x e) :
    e.fields = Entity.resolvedFields ((resolvedValueObjects options d).map (·.name))
      (resolvedEnums d) options.persistenceSuffix (Entity.auditOf x) x := by
  obtain ⟨-, declared, -, rfl⟩ := Entity.resolve_eq_ok_iff.mp h
  rfl

theorem forall₂_map_resolve {valueObjects : List String} {enums : List EnumType} {suffix : String}
    {synthetic : Bool} (ds : List Declared.Field) :
    List.Forall₂ (Field.ResolvedFrom enums) ds
      (ds.map (Field.resolve valueObjects enums suffix synthetic)) :=
  List.forall₂_map_right_iff.mpr (List.forall₂_same.mpr fun _ _ => ⟨_, _, _, rfl⟩)

/-- The fields of an aggregate stand in step with their declarations. -/
theorem forall₂_fields (h : resolve options d = .ok a) :
    List.Forall₂ (Field.ResolvedFrom a.enums) (fieldDeclarations d) a.fields := by
  rw [enums_eq h]
  refine List.rel_append (List.rel_flatMap (forall₂_allEntities h) fun x e hx => ?_) ?_
  · obtain ⟨e', imports, hresolves, rfl⟩ := hx
    rw [withImports_fields, hresolves.fields_eq, Entity.resolvedFields]
    exact List.rel_append (forall₂_map_resolve _) (forall₂_map_resolve _)
  · rw [valueObjects_eq h, resolvedValueObjects, List.flatMap_map]
    refine List.rel_flatMap (List.forall₂_same.mpr fun _ _ => rfl) ?_
    rintro v _ rfl
    exact forall₂_map_resolve _

theorem exists_resolvedFrom (h : resolve options d = .ok a) {f : Field} (hf : f ∈ a.fields) :
    ∃ y, Field.ResolvedFrom a.enums y f := by
  obtain ⟨y, -, hy⟩ := Forall₂.exists_left (forall₂_fields h) hf
  exact ⟨y, hy⟩

end Aggregate

end DomainCompiler.Model
