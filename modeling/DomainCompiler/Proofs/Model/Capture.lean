import DomainCompiler.Proofs.Model.Members
import DomainCompiler.Proofs.Model.Methods

/-!
# Names inside methods

A method that builds a child takes the names of its parameters from the fields of the child and of
its grandchildren, and the names of its variables from the relationships between them. No two of
these are compared anywhere. The other methods have at most one name, and a method that assigns a
child has one variable. For a method that adds a child the coincidences are listed; it captures a
name exactly where one of the list occurs.
-/

namespace DomainCompiler.Model

open DomainCompiler.Naming
open DomainCompiler.Traversal

namespace Method

def parameterNames (m : Method) : List String := m.parameters.map (·.name)

/-- The names of the variables that the statements build. -/
def variableNames (m : Method) : List String := (m.body.flatMap Statement.built).map (·.name)

/-- No name in the method stands for two things. -/
structure Hygienic (m : Method) : Prop where
  parameters : m.parameterNames.Nodup
  built : m.variableNames.Nodup
  apart : ∀ v ∈ m.variableNames, v ∉ m.parameterNames

theorem hygienic_iff {m : Method} :
    m.Hygienic ↔ m.parameterNames.Nodup ∧ m.variableNames.Nodup ∧
      ∀ v ∈ m.variableNames, v ∉ m.parameterNames :=
  ⟨fun h => ⟨h.parameters, h.built, h.apart⟩, fun h => ⟨h.1, h.2.1, h.2.2⟩⟩

instance (m : Method) : Decidable m.Hygienic := decidable_of_iff _ hygienic_iff.symm

end Method

/-! ### The names that an entity lends -/

def Entity.constructorNames (e : Entity) : List String := e.constructorFields.map (·.name)

namespace Parameter

theorem map_name_creating_empty (e : Entity) :
    (creating "" e).map (·.name) = e.constructorNames := by
  rw [creating, List.map_map]
  rfl

theorem map_name_creating {front : String} (h : front ≠ "") (e : Entity) :
    (creating front e).map (·.name) = (e.constructorNames.map pascal).map (front ++ ·) := by
  have hfront : front.isEmpty = false := by simpa [String.isEmpty_eq_false_iff] using h
  simp only [creating, Entity.constructorNames, List.map_map, hfront]
  rfl

/-- Behind a common front names are told apart by their Pascal case. -/
theorem nodup_map_name_creating_iff {front : String} {e : Entity}
    (hnames : e.constructorNames.Nodup) :
    ((creating front e).map (·.name)).Nodup ↔
      (front ≠ "" → (e.constructorNames.map pascal).Nodup) := by
  by_cases h : front = ""
  · subst h
    rw [map_name_creating_empty]
    simp [hnames]
  · have hinjective : Function.Injective (front ++ ·) := by
      intro s t hst
      simpa using hst
    rw [map_name_creating h, List.nodup_map_iff hinjective]
    simp [h]

end Parameter

/-- The statements of a group build one variable, its holder. -/
theorem NestedGroup.map_name_built (child : String) (groups : List NestedGroup) :
    ((groups.flatMap (·.statements child)).flatMap Statement.built).map (·.name) =
      groups.map (·.holder) := by
  induction groups with
  | nil => rfl
  | cons g groups ih =>
    rw [List.flatMap_cons, List.flatMap_append, List.map_append, ih]
    rfl

theorem Grandchild.map_holder_ofChild (secondary : List Entity) (child : Entity) :
    (NestedGroup.ofChild secondary child).map (·.holder) =
      (ofChild secondary child).map (·.holder) := by
  rw [← map_group_ofChild, List.map_map]
  rfl

def Grandchild.parameterNames (g : Grandchild) : List String :=
  (Parameter.creating g.holder g.entity).map (·.name)

/-- What keeps the names of a method apart that adds a child with its grandchildren. -/
structure KeptApart (child : Entity) (grandchildren : List Grandchild) : Prop where
  childField : Method.childVariable ∉ child.constructorNames
  holders : (grandchildren.map (·.holder)).Nodup
  holderChild : ∀ g ∈ grandchildren, g.holder ≠ Method.childVariable
  holderField : ∀ g ∈ grandchildren, g.holder ∉ child.constructorNames
  parameterField : ∀ g ∈ grandchildren, ∀ n ∈ g.parameterNames, n ∉ child.constructorNames
  parameterChild : ∀ g ∈ grandchildren, Method.childVariable ∉ g.parameterNames
  parameterHolder : ∀ k ∈ grandchildren, ∀ g ∈ grandchildren, k.holder ∉ g.parameterNames
  /-- Behind the name of their holder the fields of a grandchild stand in Pascal case. -/
  parameters : ∀ g ∈ grandchildren, g.holder ≠ "" → (g.entity.constructorNames.map pascal).Nodup
  parametersApart : grandchildren.Pairwise fun g k => ∀ n ∈ g.parameterNames, n ∉ k.parameterNames

/-! ### Method by method -/

namespace Method

variable {r : Relationship} {secondary : List Entity} {child : Entity}

theorem hygienic_factoryAssign_iff (hnames : child.constructorNames.Nodup) :
    (factoryAssign r child).Hygienic ↔ childVariable ∉ child.constructorNames := by
  have hparameters : (factoryAssign r child).parameterNames = child.constructorNames :=
    Parameter.map_name_creating_empty child
  have hvariables : (factoryAssign r child).variableNames = [childVariable] := rfl
  rw [hygienic_iff, hparameters, hvariables]
  simp [hnames]

theorem parameterNames_factoryAdd :
    (factoryAdd r secondary child).parameterNames = child.constructorNames ++
      (Grandchild.ofChild secondary child).flatMap Grandchild.parameterNames := by
  simp only [parameterNames, factoryAdd, List.map_append, Parameter.map_name_creating_empty,
    ← Grandchild.map_group_ofChild, List.flatMap_map, List.map_flatMap]
  rfl

theorem variableNames_factoryAdd :
    (factoryAdd r secondary child).variableNames =
      childVariable :: (Grandchild.ofChild secondary child).map (·.holder) := by
  have hgroups := NestedGroup.map_name_built childVariable (NestedGroup.ofChild secondary child)
  rw [Grandchild.map_holder_ofChild] at hgroups
  simp only [variableNames, factoryAdd, List.flatMap_append, List.flatMap_cons, List.map_append,
    hgroups]
  simp [Statement.built]

theorem nodup_parameterNames_iff (hnames : child.constructorNames.Nodup)
    (hsecondary : ∀ e ∈ secondary, e.constructorNames.Nodup) :
    (factoryAdd r secondary child).parameterNames.Nodup ↔
      (∀ g ∈ Grandchild.ofChild secondary child, g.holder ≠ "" →
        (g.entity.constructorNames.map pascal).Nodup) ∧
      (Grandchild.ofChild secondary child).Pairwise
        (fun g k => ∀ n ∈ g.parameterNames, n ∉ k.parameterNames) ∧
      ∀ g ∈ Grandchild.ofChild secondary child, ∀ n ∈ g.parameterNames,
        n ∉ child.constructorNames := by
  -- Within one grandchild only Pascal case can make names meet that the rules keep apart.
  have hwithin : (∀ g ∈ Grandchild.ofChild secondary child, g.parameterNames.Nodup) ↔
      ∀ g ∈ Grandchild.ofChild secondary child, g.holder ≠ "" →
        (g.entity.constructorNames.map pascal).Nodup := by
    refine forall₂_congr fun g hg => ?_
    have hentity := hsecondary g.entity (Grandchild.heldBy_of_mem_ofChild hg).entity
    exact Parameter.nodup_map_name_creating_iff hentity
  rw [parameterNames_factoryAdd, List.nodup_append, List.nodup_flatMap, hwithin]
  simp only [List.mem_flatMap, forall_exists_index, and_imp]
  constructor
  · rintro ⟨-, ⟨hparameters, hacross⟩, hfields⟩
    refine ⟨hparameters, hacross.imp fun hdisjoint n hn hn' => hdisjoint hn hn', ?_⟩
    intro g hg n hn hown
    exact hfields n hown n g hg hn rfl
  · rintro ⟨hparameters, hacross, hfields⟩
    refine ⟨hnames, ⟨hparameters, hacross.imp fun hdisjoint n hn hn' => hdisjoint n hn hn'⟩, ?_⟩
    rintro n hown _ g hg hn rfl
    exact hfields g hg n hn hown

theorem nodup_variableNames_iff :
    (factoryAdd r secondary child).variableNames.Nodup ↔
      (∀ g ∈ Grandchild.ofChild secondary child, g.holder ≠ childVariable) ∧
      ((Grandchild.ofChild secondary child).map (·.holder)).Nodup := by
  rw [variableNames_factoryAdd, List.nodup_cons]
  simp only [List.mem_map, not_exists, not_and, ne_eq]

theorem variableNames_apart_iff :
    (∀ v ∈ (factoryAdd r secondary child).variableNames,
        v ∉ (factoryAdd r secondary child).parameterNames) ↔
      (childVariable ∉ child.constructorNames ∧
        ∀ g ∈ Grandchild.ofChild secondary child, childVariable ∉ g.parameterNames) ∧
      ∀ k ∈ Grandchild.ofChild secondary child, k.holder ∉ child.constructorNames ∧
        ∀ g ∈ Grandchild.ofChild secondary child, k.holder ∉ g.parameterNames := by
  rw [variableNames_factoryAdd, parameterNames_factoryAdd, List.forall_mem_cons,
    List.forall_mem_map]
  simp only [List.mem_append, not_or, List.mem_flatMap, not_exists, not_and]

theorem hygienic_factoryAdd_iff (hnames : child.constructorNames.Nodup)
    (hsecondary : ∀ e ∈ secondary, e.constructorNames.Nodup) :
    (factoryAdd r secondary child).Hygienic ↔
      KeptApart child (Grandchild.ofChild secondary child) := by
  rw [hygienic_iff, nodup_parameterNames_iff hnames hsecondary, nodup_variableNames_iff,
    variableNames_apart_iff]
  constructor
  · rintro ⟨⟨hparameters, hacross, hfields⟩, ⟨hchild, hholders⟩, ⟨hentity, hnested⟩, hapart⟩
    exact
      { childField := hentity
        holders := hholders
        holderChild := hchild
        holderField := fun g hg => (hapart g hg).1
        parameterField := hfields
        parameterChild := hnested
        parameterHolder := fun k hk => (hapart k hk).2
        parameters := hparameters
        parametersApart := hacross }
  · intro h
    refine ⟨⟨h.parameters, h.parametersApart, h.parameterField⟩, ⟨h.holderChild, h.holders⟩,
      ⟨h.childField, h.parameterChild⟩, fun k hk => ?_⟩
    exact ⟨h.holderField k hk, h.parameterHolder k hk⟩

/-- Which names a method of the aggregate captures: none unless it builds a child, and then
those that the child and its grandchildren bring together. -/
structure CapturesOnly (a : Aggregate) (m : Method) : Prop where
  plain : m.kind.isFactory = false → m.Hygienic
  factoryAssign : m.kind = .factoryAssign →
    ∃ child ∈ a.secondaryEntities, child.name = m.targetEntity ∧
      (m.Hygienic ↔ childVariable ∉ child.constructorNames)
  factoryAdd : m.kind = .factoryAdd →
    ∃ child ∈ a.secondaryEntities, child.name = m.targetEntity ∧
      (m.Hygienic ↔ KeptApart child (Grandchild.ofChild a.secondaryEntities child))

theorem capturesOnly_of_variableNames_eq_nil {a : Aggregate} {m : Method}
    (hkind : m.kind.isFactory = false) (hvariables : m.variableNames = [])
    (hparameters : m.parameterNames.Nodup) : m.CapturesOnly a := by
  constructor
  case plain =>
    intro _
    refine hygienic_iff.mpr ⟨hparameters, ?_⟩
    rw [hvariables]
    exact ⟨List.nodup_nil, List.forall_mem_nil _⟩
  case factoryAssign =>
    intro hassign
    rw [hassign] at hkind
    cases hkind
  case factoryAdd =>
    intro hadd
    rw [hadd] at hkind
    cases hkind

theorem capturesOnly_of_made {a : Aggregate} {m : Method}
    (hnames : ∀ e ∈ a.secondaryEntities, e.constructorNames.Nodup) (h : Made a m) :
    m.CapturesOnly a := by
  cases h with
  | @factoryAdd r child _ _ hchild =>
    obtain ⟨hmem, hname⟩ := Entity.find?_eq_some hchild
    refine ⟨nofun, nofun, fun _ => ⟨child, hmem, hname, ?_⟩⟩
    exact hygienic_factoryAdd_iff (hnames child hmem) hnames
  | @factoryAssign r child _ _ hchild _ =>
    obtain ⟨hmem, hname⟩ := Entity.find?_eq_some hchild
    refine ⟨nofun, fun _ => ⟨child, hmem, hname, ?_⟩, nofun⟩
    exact hygienic_factoryAssign_iff (hnames child hmem)
  | add => exact capturesOnly_of_variableNames_eq_nil rfl rfl (List.nodup_singleton _)
  | remove => exact capturesOnly_of_variableNames_eq_nil rfl rfl (List.nodup_singleton _)
  | getter => exact capturesOnly_of_variableNames_eq_nil rfl rfl List.nodup_nil
  | assign => exact capturesOnly_of_variableNames_eq_nil rfl rfl (List.nodup_singleton _)

end Method

namespace Aggregate

variable {options : Options} {d : Declared.Aggregate} {a : Aggregate}

theorem mem_allEntities_of_mem_secondaryEntities (h : resolve options d = .ok a) {e : Entity}
    (he : e ∈ a.secondaryEntities) : e ∈ a.allEntities := by
  obtain ⟨entities, root, -, -, rfl⟩ := resolve_eq_ok_iff.mp h
  obtain ⟨hmem, hroot⟩ := List.mem_filter.mp he
  refine List.mem_map.mpr ⟨e, hmem, ?_⟩
  rw [if_neg (by simpa using hroot)]

theorem nodup_constructorNames (hsound : Check.Aggregate.Sound d) (h : resolve options d = .ok a)
    {e : Entity} (he : e ∈ a.secondaryEntities) : e.constructorNames.Nodup := by
  have hfields := nodup_fieldNames_of_mem_allEntities hsound h
    (mem_allEntities_of_mem_secondaryEntities h he)
  have hsublist : e.constructorFields.Sublist e.fields :=
    List.filter_sublist.trans List.filter_sublist
  exact hfields.sublist (hsublist.map _)

end Aggregate

/-- In a compiled model the methods capture the names that are listed and no others. -/
theorem capturesOnly_of_compileDocument {options : Options} {d : Declared.Document} {c : Compiled}
    (h : compileDocument options d = .ok c) :
    ∀ a ∈ c.model.aggregates, ∀ m ∈ a.methods, m.CapturesOnly a := by
  intro a ha m hm
  obtain ⟨x, -, hsound, hresolve⟩ := exists_sound_of_mem_compiled h ha
  have hnames : ∀ e ∈ a.secondaryEntities, e.constructorNames.Nodup :=
    fun e he => Aggregate.nodup_constructorNames hsound hresolve he
  have hmade := Method.made_of_mem_methods (Aggregate.methods_eq hresolve) hm
  exact Method.capturesOnly_of_made hnames hmade

theorem capturesOnly_of_compileDocument_orderWithNotes :
    ∃ c, compileDocument {} orderWithNotes = .ok c ∧
      (∀ a ∈ c.model.aggregates, ∀ m ∈ a.methods, m.CapturesOnly a) ∧
      (∀ a ∈ c.model.aggregates, ∀ m ∈ a.methods, m.Hygienic) ∧
      c.model.aggregates.flatMap (fun a => a.methods.map fun m => m.kind) =
        [.factoryAdd, .add, .remove, .getter, .factoryAssign, .assign] :=
  ⟨_, rfl, @capturesOnly_of_compileDocument {} orderWithNotes _ rfl, by decide +kernel,
    by decide +kernel⟩

/-! ### Names that meet -/

/-- Orders with items, which have fields and single other entities with fields of their own. -/
def orderWithItems (fields targets : List String) (held : List (String × List String)) :
    Declared.Document :=
  let text (name : String) : Declared.Field := { name, type := "String" }
  documentOf
    (Aggregate.plainEntity "order" true [] [Aggregate.plainRelationship .oneToMany "item" none] ::
      Aggregate.plainEntity "item" false (fields.map text)
        (targets.map fun target => Aggregate.plainRelationship .oneToOne target none) ::
      held.map fun e => Aggregate.plainEntity e.1 false (e.2.map text) [])

/-- The description is compiled even where warnings count, and a method of it captures a name. -/
def CapturesName (d : Declared.Document) : Prop :=
  ∃ c, compileDocument { strict := true } d = .ok c ∧
    ∃ a ∈ c.model.aggregates, ∃ m ∈ a.methods, ¬m.Hygienic

/-- Names meet for the choice of fields and entities alone: a field or a grandchild called entity,
a grandchild held twice or called like a field, and every way in which the name of a grandchild
and that of its field make up a name that is there. -/
theorem capturesName_orderWithItems :
    CapturesName (orderWithItems ["entity"] [] []) ∧
      CapturesName (orderWithItems [] ["entity"] [("entity", [])]) ∧
      CapturesName (orderWithItems [] ["note", "note"] [("note", [])]) ∧
      CapturesName (orderWithItems ["note"] ["note"] [("note", [])]) ∧
      CapturesName (orderWithItems ["noteText"] ["note"] [("note", ["text"])]) ∧
      CapturesName
        (orderWithItems [] ["note", "noteText"] [("note", ["text"]), ("noteText", [])]) ∧
      CapturesName (orderWithItems [] ["note", "noteText"]
        [("note", ["textBody"]), ("noteText", ["body"])]) ∧
      CapturesName (orderWithItems [] ["note"] [("note", ["\u1E9Ea", "sSa"])]) :=
  ⟨⟨_, rfl, by decide +kernel⟩, ⟨_, rfl, by decide +kernel⟩, ⟨_, rfl, by decide +kernel⟩,
    ⟨_, rfl, by decide +kernel⟩, ⟨_, rfl, by decide +kernel⟩, ⟨_, rfl, by decide +kernel⟩,
    ⟨_, rfl, by decide +kernel⟩, ⟨_, rfl, by decide +kernel⟩⟩

end DomainCompiler.Model
