import DomainCompiler.Proofs.Compile.Agreement
import DomainCompiler.Proofs.Declared.Reordering
import DomainCompiler.Proofs.Model.Inverse

/-!
# Entities in another order

The order of the entities decides in what order the inverse sides on a class are met, and which of
several entities is found first. Names are found the same way in any order because no class name
occurs twice, and the methods of a root look at no inverse side. What is left of the order is the
order of the inverse sides of each entity.
-/

namespace DomainCompiler.Model

open DomainCompiler.Naming
open DomainCompiler.Traversal

/-! ### One entity -/

/-- The same entity with its inverse sides in another order behind its own relationships. -/
def Entity.Shuffled (e e' : Entity) : Prop :=
  ∃ own inverse inverse', e.relationships = own ++ inverse ∧ (∀ r ∈ own, r.isInverse = false) ∧
    (∀ r ∈ inverse, r.Synthesized) ∧ inverse.Perm inverse' ∧
    e' = { e with relationships := own ++ inverse' }

/-- Imports ask only whether some relationship is a collection. -/
theorem Imports.ofEntity_perm {fields : List Field} {rs rs' : List Relationship}
    (h : rs.Perm rs') (enums : List EnumType) (options : Options) :
    ofEntity fields rs enums options = ofEntity fields rs' enums options := by
  rw [ofEntity, ofEntity, h.any_eq]

/-- Imports ask only whether some enum has the name. -/
theorem Imports.ofParameters_perm {enums enums' : List EnumType} (h : enums.Perm enums')
    (types : List String) (options : Options) :
    ofParameters types enums options = ofParameters types enums' options := by
  have hcontains : ∀ name, (enums.map (·.name)).contains name =
      (enums'.map (·.name)).contains name := fun name => (h.map _).contains_eq
  simp only [ofParameters, ofTypes, ofEnums, hcontains]

namespace Entity

variable {e e' : Entity}

theorem Shuffled.name (h : Shuffled e e') : e.name = e'.name := by
  obtain ⟨_, _, _, -, -, -, -, rfl⟩ := h
  rfl

theorem Shuffled.isRoot (h : Shuffled e e') : e.isRoot = e'.isRoot := by
  obtain ⟨_, _, _, -, -, -, -, rfl⟩ := h
  rfl

theorem Shuffled.fields (h : Shuffled e e') : e.fields = e'.fields := by
  obtain ⟨_, _, _, -, -, -, -, rfl⟩ := h
  rfl

theorem Shuffled.enums (h : Shuffled e e') : e.enums = e'.enums := by
  obtain ⟨_, _, _, -, -, -, -, rfl⟩ := h
  rfl

/-- What is chosen among the relationships is the same for both where no inverse side is. -/
theorem Shuffled.filterMap {α : Type} (h : Shuffled e e') {f : Relationship → Option α}
    (hf : ∀ r : Relationship, r.Synthesized → f r = none) :
    e.relationships.filterMap f = e'.relationships.filterMap f := by
  obtain ⟨own, inverse, inverse', hrelationships, -, hsynthesized, hperm, rfl⟩ := h
  have hnil : inverse.filterMap f = [] :=
    List.filterMap_eq_nil_iff.mpr fun r hr => hf r (hsynthesized r hr)
  have hnil' : inverse'.filterMap f = [] :=
    List.filterMap_eq_nil_iff.mpr fun r hr => hf r (hsynthesized r (hperm.mem_iff.mpr hr))
  rw [hrelationships, List.filterMap_append, List.filterMap_append, hnil, hnil']

theorem Shuffled.filter (h : Shuffled e e') {p : Relationship → Bool}
    (hp : ∀ r : Relationship, r.Synthesized → p r = false) :
    e.relationships.filter p = e'.relationships.filter p := by
  rw [← List.filterMap_eq_filter]
  apply h.filterMap
  intro r hr
  simp [Option.guard, hp r hr]

theorem Shuffled.withImports (h : Shuffled e e') (imports : List String) :
    Shuffled (Aggregate.withImports e imports) (Aggregate.withImports e' imports) := by
  unfold Aggregate.withImports
  split
  · exact h
  · obtain ⟨own, inverse, inverse', hrelationships, hown, hsynthesized, hperm, rfl⟩ := h
    exact ⟨own, inverse, inverse', hrelationships, hown, hsynthesized, hperm, rfl⟩

/-- Inverse sides that are met in another order end up in another order, and nothing else. -/
theorem shuffled_assemble {valueObjects : List String} {enums : List EnumType}
    {inverse inverse' : List (String × Relationship)} {options : Options} {d : Declared.Entity}
    {audit : Audit} {declared : List Relationship} (hperm : inverse.Perm inverse')
    (hdeclared : ∀ r ∈ declared, r.isInverse = false)
    (hinverse : ∀ p ∈ inverse, p.2.Synthesized) :
    Shuffled (assemble valueObjects enums inverse options d audit declared)
      (assemble valueObjects enums inverse' options d audit declared) := by
  have hsides : (Relationship.inverseOf (pascal d.name) inverse).Perm
      (Relationship.inverseOf (pascal d.name) inverse') := (hperm.filter _).map _
  have hmerged := hsides.filter fun r => !(declared.map (·.fieldName)).contains r.fieldName
  refine ⟨declared, _, _, rfl, hdeclared, fun r hr => ?_, hmerged, ?_⟩
  · obtain ⟨p, hp, rfl⟩ := List.mem_map.mp (List.mem_filter.mp hr).1
    exact hinverse p (List.mem_filter.mp hp).1
  · simp only [assemble, Imports.ofEntity_perm (hmerged.append_left declared), Relationship.merge]

end Entity

/-! ### Methods of the root -/

/-- Every name is found in both lists or in neither, as the same entity but for its inverse sides. -/
def Lookups (entities entities' : List Entity) : Prop :=
  ∀ name, Option.Rel Entity.Shuffled (Entity.find? name entities) (Entity.find? name entities')

theorem Lookups.cases {entities entities' : List Entity} (h : Lookups entities entities')
    (name : String) :
    (Entity.find? name entities = none ∧ Entity.find? name entities' = none) ∨
      ∃ e e', Entity.find? name entities = some e ∧ Entity.find? name entities' = some e' ∧
        e.Shuffled e' := by
  have hname := h name
  generalize Entity.find? name entities = found at hname
  generalize Entity.find? name entities' = found' at hname
  cases hname with
  | none => exact .inl ⟨rfl, rfl⟩
  | some he => exact .inr ⟨_, _, rfl, rfl, he⟩

theorem Parameter.creating_shuffled {e e' : Entity} (h : e.Shuffled e') (front : String) :
    creating front e = creating front e' := by
  rw [creating, creating, Entity.constructorFields, Entity.constructorFields,
    Entity.commandFields, Entity.commandFields, h.fields]

section Methods

variable {secondary secondary' : List Entity}

theorem NestedGroup.ofRelationship?_lookups (h : Lookups secondary secondary')
    (r : Relationship) : ofRelationship? secondary r = ofRelationship? secondary' r := by
  rw [ofRelationship?, ofRelationship?]
  split
  · rfl
  · rcases h.cases r.target with ⟨hnone, hnone'⟩ | ⟨e, e', hsome, hsome', he⟩
    · rw [hnone, hnone']
    · rw [hsome, hsome', Option.map_some, Option.map_some, Parameter.creating_shuffled he]

theorem NestedGroup.ofChild_shuffled (h : Lookups secondary secondary') {child child' : Entity}
    (hchild : child.Shuffled child') : ofChild secondary child = ofChild secondary' child' := by
  have hgroup : ofRelationship? secondary = ofRelationship? secondary' :=
    funext (ofRelationship?_lookups h)
  rw [ofChild, ofChild, hgroup]
  exact hchild.filterMap fun r hr => by rw [ofRelationship?, hr.isInverse]; rfl

namespace Method

theorem factoryAdd_shuffled (h : Lookups secondary secondary') {child child' : Entity}
    (hchild : child.Shuffled child') (r : Relationship) :
    factoryAdd r secondary child = factoryAdd r secondary' child' := by
  rw [factoryAdd, factoryAdd, Parameter.creating_shuffled hchild,
    NestedGroup.ofChild_shuffled h hchild]

theorem factoryAssign_shuffled {child child' : Entity} (hchild : child.Shuffled child')
    (r : Relationship) : factoryAssign r child = factoryAssign r child' := by
  rw [factoryAssign, factoryAssign, Parameter.creating_shuffled hchild]

theorem ofCollection_lookups (h : Lookups secondary secondary') (r : Relationship) :
    ofCollection secondary r = ofCollection secondary' r := by
  rw [ofCollection, ofCollection]
  rcases h.cases r.target with ⟨hnone, hnone'⟩ | ⟨child, child', hsome, hsome', hchild⟩
  · rw [hnone, hnone']
    rfl
  · have hid : child.idField? = child'.idField? := by
      rw [Entity.idField?, Entity.idField?, hchild.fields]
    simp only [hsome, hsome', Option.map_some, factoryAdd_shuffled h hchild, remove,
      Option.bind_some, hid, Option.isSome_some]

theorem ofSingle_lookups (h : Lookups secondary secondary') (r : Relationship) :
    ofSingle secondary r = ofSingle secondary' r := by
  rw [ofSingle, ofSingle]
  rcases h.cases r.target with ⟨hnone, hnone'⟩ | ⟨child, child', hsome, hsome', hchild⟩
  · rw [hnone, hnone']
  · simp only [hsome, hsome', Option.map_some, factoryAssign_shuffled hchild, Option.isSome_some]

/-- The methods of a root look only at own relationships, and at entities by name. -/
theorem ofRoot_lookups (h : Lookups secondary secondary') {root root' : Entity}
    (hroot : root.Shuffled root') : ofRoot root secondary = ofRoot root' secondary' := by
  have hcollections := hroot.filter (p := fun r => r.kind == .oneToMany) fun r hr => by
    simpa using hr.kind
  have hsingles := hroot.filter (p := isAssigned) fun r hr => by
    rw [isAssigned, hr.mappedBy]
    simp
  rw [ofRoot, ofRoot, hcollections, hsingles, funext (ofCollection_lookups h),
    funext (ofSingle_lookups h)]

end Method

end Methods

/-! ### Lists of entities -/

/-- The same entities in another order, each with its inverse sides in another order. -/
def Rearranged (entities entities' : List Entity) : Prop :=
  ∃ middle, entities.Perm middle ∧ List.Forall₂ Entity.Shuffled middle entities'

namespace Rearranged

variable {entities entities' : List Entity}

theorem names (h : Rearranged entities entities') :
    (entities.map (·.name)).Perm (entities'.map (·.name)) := by
  obtain ⟨middle, hperm, hstep⟩ := h
  rw [← Forall₂.map_eq hstep fun _ _ he => he.name]
  exact hperm.map _

theorem filter (h : Rearranged entities entities') {p : Entity → Bool}
    (hp : ∀ e e' : Entity, e.Shuffled e' → p e = p e') :
    Rearranged (entities.filter p) (entities'.filter p) := by
  obtain ⟨middle, hperm, hstep⟩ := h
  exact ⟨_, hperm.filter p,
    List.rel_filter (fun e e' he => Bool.eq_iff_iff.mp (hp e e' he)) hstep⟩

theorem map (h : Rearranged entities entities') {f f' : Entity → Entity}
    (hf : ∀ e ∈ entities, ∀ e' ∈ entities', e.Shuffled e' → (f e).Shuffled (f' e')) :
    Rearranged (entities.map f) (entities'.map f') := by
  obtain ⟨middle, hperm, hstep⟩ := h
  refine ⟨middle.map f, hperm.map f, ?_⟩
  rw [List.forall₂_map_left_iff, List.forall₂_map_right_iff]
  exact Forall₂.imp_of_mem hstep fun e he e' he' => hf e (hperm.mem_iff.mpr he) e' he'

theorem singleton {e : Entity} (h : Rearranged [e] entities') :
    ∃ e', entities' = [e'] ∧ e.Shuffled e' := by
  obtain ⟨middle, hperm, hstep⟩ := h
  rw [← List.singleton_perm.mp hperm] at hstep
  obtain ⟨e', rest, he, hrest, hentities⟩ := List.forall₂_cons_left_iff.mp hstep
  rw [List.forall₂_nil_left_iff.mp hrest] at hentities
  exact ⟨e', hentities, he⟩

theorem enums (h : Rearranged entities entities') :
    (entities.flatMap (·.enums)).Perm (entities'.flatMap (·.enums)) := by
  obtain ⟨middle, hperm, hstep⟩ := h
  exact (hperm.flatMap_right _).trans (Forall₂.perm_flatMap hstep fun e e' he => by rw [he.enums])

/-- Entities of different names are found by name whatever their order. -/
theorem lookups (h : Rearranged entities entities') (hnames : (entities.map (·.name)).Nodup) :
    Lookups entities entities' := by
  obtain ⟨middle, hperm, hstep⟩ := h
  intro name
  have hfind : Entity.find? name entities = Entity.find? name middle :=
    find?_eq_of_perm hperm (·.name) hnames name
  rw [hfind]
  exact Forall₂.find? hstep fun e e' he => by rw [he.name]

end Rearranged

/-! ### Aggregates -/

namespace Aggregate

variable {options : Options} {x x' : Declared.Aggregate}

theorem inverseSides_perm (h : x.Reordered x') :
    (inverseSides options x).Perm (inverseSides options x') :=
  h.entities.flatMap_right _

theorem synthesized_of_mem_inverseSides {p : String × Relationship}
    (hp : p ∈ inverseSides options x) : p.2.Synthesized := by
  obtain ⟨e, -, hp⟩ := List.mem_flatMap.mp hp
  obtain ⟨r, -, hp⟩ := List.mem_filterMap.mp hp
  exact Relationship.synthesized_of_inverse? hp

/-- An entity is resolved in any order, to the same but for its inverse sides. -/
theorem Resolves.reordered (h : x.Reordered x') {y : Declared.Entity} {e : Entity}
    (he : Resolves options x y e) : ∃ e', Resolves options x' y e' ∧ e.Shuffled e' := by
  obtain ⟨haudit, declared, hdeclared, rfl⟩ := Entity.resolve_eq_ok_iff.mp he
  refine ⟨_, Entity.resolve_eq_ok_iff.mpr ⟨haudit, declared, hdeclared, rfl⟩, ?_⟩
  have hown := Relationship.isInverse_of_declares hdeclared
  have hperm : (inverseSides options x).Perm (inverseSides options x') := inverseSides_perm h
  obtain ⟨entities, -, rfl⟩ := h
  exact Entity.shuffled_assemble hperm hown fun p hp => synthesized_of_mem_inverseSides hp

theorem exists_rearranged (h : x.Reordered x') {entities : List Entity}
    (hstep : List.Forall₂ (Resolves options x) x.entities entities) :
    ∃ entities', List.Forall₂ (Resolves options x') x'.entities entities' ∧
      Rearranged entities entities' := by
  -- The entities as resolved before, but in the new order; only then are they resolved anew.
  obtain ⟨middle, hmiddle, hperm⟩ := List.perm_comp_forall₂ h.entities.symm hstep
  obtain ⟨entities', hstep', hshuffled⟩ :=
    Forall₂.transport hmiddle fun y _ e he => Resolves.reordered h he
  exact ⟨entities', hstep', middle, hperm.symm, hshuffled⟩

structure AgreesUpToOrder (a a' : Aggregate) : Prop where
  methods : a.methods = a'.methods
  root : a.rootEntity.name = a'.rootEntity.name
  secondary : (a.secondaryEntities.map (·.name)).Perm (a'.secondaryEntities.map (·.name))
  entities : ∀ name, Option.Rel Entity.Shuffled (a.entity? name) (a'.entity? name)

theorem assemble_agrees {enums : List EnumType} {valueObjects : List ValueObject}
    {entities entities' : List Entity} {root root' : Entity}
    (hrearranged : Rearranged entities entities') (hroot : root.Shuffled root')
    (hnames : (entities.map (·.name)).Nodup)
    (hall : ((assemble x options enums valueObjects entities root).allEntities.map
      (·.name)).Nodup) :
    AgreesUpToOrder (assemble x options enums valueObjects entities root)
      (assemble x' options enums valueObjects entities' root') := by
  have hsecondary := hrearranged.filter (p := fun e => !e.isRoot)
    fun e e' he => by rw [he.isRoot]
  have hnames' : ((entities.filter fun e => !e.isRoot).map (·.name)).Nodup :=
    hnames.sublist (List.filter_sublist.map _)
  have hmethods := Method.ofRoot_lookups (hsecondary.lookups hnames') hroot
  have hrootEntity : (assemble x options enums valueObjects entities root).rootEntity.Shuffled
      (assemble x' options enums valueObjects entities' root').rootEntity := by
    simp only [assemble]
    rw [hmethods, Imports.ofParameters_perm (hrearranged.enums.append_right enums)]
    exact hroot.withImports _
  refine ⟨hmethods, hrootEntity.name, hsecondary.names, ?_⟩
  refine Rearranged.lookups (hrearranged.map fun e _ e' _ he => ?_) hall
  rw [← he.isRoot]
  split
  · exact hrootEntity
  · exact he

/-- An aggregate is resolved in any order of its entities, to the same but for that order. -/
theorem exists_resolve_reordered (h : x.Reordered x') (hnames : (Check.classNames x).Nodup)
    {a : Aggregate} (ha : resolve options x = .ok a) :
    ∃ a', resolve options x' = .ok a' ∧ AgreesUpToOrder a a' := by
  have hall : (a.allEntities.map (·.name)).Nodup := by
    rw [map_name_allEntities ha]
    exact hnames
  obtain ⟨entities, root, hstep, hroots, rfl⟩ := resolve_eq_ok_iff.mp ha
  obtain ⟨entities', hstep', hrearranged⟩ := exists_rearranged h hstep
  obtain ⟨root', hroots', hroot⟩ : ∃ root', entities'.filter (·.isRoot) = [root'] ∧
      root.Shuffled root' := by
    have hfiltered := hrearranged.filter (p := (·.isRoot)) fun e e' he => he.isRoot
    rw [hroots] at hfiltered
    exact hfiltered.singleton
  have hnames' : (entities.map (·.name)).Nodup := by
    rw [← Forall₂.map_eq hstep fun _ _ he => he.name.symm]
    exact hnames
  refine ⟨_, resolve_eq_ok_iff.mpr ⟨entities', root', hstep', hroots', rfl⟩, ?_⟩
  obtain ⟨_, -, rfl⟩ := h
  exact assemble_agrees hrearranged hroot hnames' hall

end Aggregate

end DomainCompiler.Model

namespace DomainCompiler

open DomainCompiler.Declared (Document)
open DomainCompiler.Traversal

/-- A description that is compiled is compiled in any order of the entities of its aggregates, and
only the order of entities and of inverse sides is left of it. -/
theorem compileDocument_reordered {options : Options} {d d' : Document} {c : Compiled}
    (hd : d.Reordered d') (h : compileDocument options d = .ok c) :
    ∃ c', compileDocument options d' = .ok c' ∧
      List.Forall₂ Model.Aggregate.AgreesUpToOrder c.model.aggregates c'.model.aggregates := by
  obtain ⟨haccepted, hexcess, hstep⟩ := exists_compileDocument_iff.mp ⟨c, h, rfl⟩
  have hpairs : List.Forall₂ (fun x' a => ∃ a', Model.Aggregate.resolve options x' = .ok a' ∧
      Model.Aggregate.AgreesUpToOrder a a') d'.aggregates c.model.aggregates :=
    Forall₂.through hd hstep fun x hx x' a hx' ha =>
      Model.Aggregate.exists_resolve_reordered hx' (haccepted.1.aggregates x hx).classNames ha
  obtain ⟨aggregates', hstep', hagree⟩ := Forall₂.transport hpairs fun x' _ a ha => ha
  obtain ⟨c', hc', rfl⟩ := exists_compileDocument_iff.mpr
    ⟨hd.accepted haccepted, hd.excess?_eq_none hexcess, hstep'⟩
  exact ⟨c', hc', hagree⟩

open Model.Aggregate (plainEntity plainRelationship plainAggregate)

/-- A cargo, its crate and its label, where both of the former refer to the label. -/
def cargo : List Declared.Entity :=
  [plainEntity "cargo" true [{ name := "id", type := "Long" }]
    [plainRelationship .oneToOne "label" (some "cargo")],
   plainEntity "crate" false [] [plainRelationship .oneToOne "label" (some "crate")],
   plainEntity "label" false [{ name := "text", type := "String" }] []]

/-- The label meets its two inverse sides in the other order. -/
theorem compileDocument_reordered_cargo :
    let d : Document := ⟨[plainAggregate "Cargo" cargo]⟩
    let d' : Document := ⟨[plainAggregate "Cargo" cargo.reverse]⟩
    d.Reordered d' ∧ ∃ c, compileDocument {} d = .ok c ∧
      ∃ c', compileDocument {} d' = .ok c' ∧
        List.Forall₂ Model.Aggregate.AgreesUpToOrder c.model.aggregates c'.model.aggregates := by
  intro d d'
  have hd : d.Reordered d' := .cons ⟨cargo.reverse, (List.reverse_perm cargo).symm, rfl⟩ .nil
  have hc : ∃ c, compileDocument {} d = .ok c := ⟨_, rfl⟩
  obtain ⟨c, hc⟩ := hc
  exact ⟨hd, c, hc, compileDocument_reordered hd hc⟩

end DomainCompiler
