import DomainCompiler.Proofs.Model.Lookup

/-!
# What value objects hold

The fields of a value object must not hold entities. A type rests on a name, which is left when the
lists around it are taken off, and the name denotes the entities that have it in Pascal case. The
rule compares it as it is spelled there, and with the entities of the same aggregate only. What it
misses is listed, and nothing else is missed.
-/

namespace DomainCompiler.Model

open DomainCompiler.Naming
open DomainCompiler.Traversal

/-! ### The name on which a type rests -/

def innermost (s : List Char) : List Char :=
  match _h : listElement? s with
  | some inner => innermost inner
  | none => s
termination_by s.length
decreasing_by exact length_lt_of_listElement? _h

/-- What is left of a declared type when all lists around it are taken off. -/
def innermostName (type : String) : String := String.ofList (innermost type.toList)

theorem innermost_of_listElement? {s inner : List Char} (h : listElement? s = some inner) :
    innermost s = innermost inner := by
  rw [innermost]
  split
  · next inner' h' =>
    rw [h] at h'
    cases h'
    rfl
  · next h' =>
    rw [h] at h'
    cases h'

theorem innermost_of_listElement?_eq_none {s : List Char} (h : listElement? s = none) :
    innermost s = s := by
  rw [innermost]
  split
  · next inner' h' =>
    rw [h] at h'
    cases h'
  · rfl

theorem declaredName?_elementType (s : List Char) :
    (elementType s).declaredName? =
      if String.ofList (innermost s) ∈ scalarTypes then none
      else some (String.ofList (innermost s)) := by
  fun_induction elementType s with
  | case1 s inner h ih => rw [TypeRef.declaredName?, ih, innermost_of_listElement? h]
  | case2 s h name hscalar =>
    rw [innermost_of_listElement?_eq_none h, if_pos (List.contains_iff_mem.mp hscalar)]
    rfl
  | case3 s h name hscalar =>
    rw [innermost_of_listElement?_eq_none h, if_neg (mt List.contains_iff_mem.mpr hscalar)]
    rfl

namespace TypeRef

/-- Whether the type is an enum whose values the field gives itself. -/
def isOwnEnum : TypeRef → Bool
  | .userDefined _ inlineEnum => inlineEnum
  | _ => false

theorem resolve_none_eq_list {type : String} {inner : List Char}
    (h : listElement? type.toList = some inner) :
    resolve type none = .collection (elementType inner) := by
  simp only [resolve, h]

theorem resolve_none_eq_name {type : String} (h : listElement? type.toList = none) :
    resolve type none =
      if type ∈ scalarTypes then .known type else .userDefined (pascal type) false := by
  simp only [resolve, h, List.contains_iff_mem]

theorem isCollection_resolve_none (type : String) :
    (resolve type none).isCollection = (listElement? type.toList).isSome := by
  cases h : listElement? type.toList with
  | some inner =>
    rw [resolve_none_eq_list h]
    rfl
  | none =>
    rw [resolve_none_eq_name h]
    split <;> rfl

/-- Elements of lists keep their spelling, any other name is put in Pascal case. -/
theorem declaredName?_resolve_none (type : String) :
    (resolve type none).declaredName? =
      if innermostName type ∈ scalarTypes then none
      else some (if (resolve type none).isCollection then innermostName type
        else pascal (innermostName type)) := by
  rw [isCollection_resolve_none]
  cases h : listElement? type.toList with
  | some inner =>
    have hname : innermostName type = String.ofList (innermost inner) :=
      congrArg String.ofList (innermost_of_listElement? h)
    rw [resolve_none_eq_list h, declaredName?, declaredName?_elementType, ← hname]
    rfl
  | none =>
    have hname : innermostName type = type := by
      rw [innermostName, innermost_of_listElement?_eq_none h, String.ofList_toList]
    rw [resolve_none_eq_name h, hname]
    split <;> rfl

end TypeRef

example : innermostName "List<List<order>>" = "order" := by decide +kernel

/-! ### What the rule sees of a field -/

namespace Field

/-- The type of the field rests on the name of the entity. -/
structure Denotes (f : Field) (e : Entity) : Prop where
  /-- With values of its own the type is the enum that they make up, whatever it is called. -/
  ownEnum : f.typeRef.isOwnEnum = false
  scalar : innermostName f.declaredType ∉ scalarTypes
  name : pascal (innermostName f.declaredType) = e.name

instance (f : Field) (e : Entity) : Decidable (f.Denotes e) :=
  decidable_of_iff (f.typeRef.isOwnEnum = false ∧ innermostName f.declaredType ∉ scalarTypes ∧
      pascal (innermostName f.declaredType) = e.name)
    ⟨fun h => ⟨h.1, h.2.1, h.2.2⟩, fun h => ⟨h.ownEnum, h.scalar, h.name⟩⟩

/-- The elements of a list are spelled otherwise than in Pascal case. -/
structure Respelled (f : Field) : Prop where
  list : f.typeRef.isCollection = true
  name : pascal (innermostName f.declaredType) ≠ innermostName f.declaredType

/-- The rule looks an entity up by its name, except where the elements of a list are respelled. -/
theorem ResolvedFrom.declaredName?_eq_iff {enums : List EnumType} {d : Declared.Field} {f : Field}
    (h : ResolvedFrom enums d f) {e : Entity} (he : f.Denotes e) :
    f.typeRef.declaredName? = some e.name ↔ ¬f.Respelled := by
  have htype : f.typeRef = TypeRef.resolve f.declaredType d.enumValues := h.typeRef_eq
  cases hvalues : d.enumValues with
  | some values =>
    have hown := he.ownEnum
    rw [htype, hvalues] at hown
    cases hown
  | none =>
    rw [hvalues] at htype
    have hname := TypeRef.declaredName?_resolve_none f.declaredType
    rw [← htype, if_neg he.scalar] at hname
    rw [hname, ← he.name, Option.some_inj]
    constructor
    · intro hspelled hrespelled
      rw [if_pos hrespelled.list] at hspelled
      exact hrespelled.name hspelled.symm
    · intro hseen
      split
      · next hlist =>
        by_contra hspelled
        exact hseen ⟨hlist, Ne.symm hspelled⟩
      · rfl

end Field

/-! ### Compiled models -/

namespace DomainModel

/-- No field of a value object denotes an entity of any aggregate. -/
def HoldNoEntity (m : DomainModel) : Prop :=
  ∀ a ∈ m.aggregates, ∀ v ∈ a.valueObjects, ∀ f ∈ v.fields,
    ∀ b ∈ m.aggregates, ∀ e ∈ b.allEntities, ¬f.Denotes e

instance (m : DomainModel) : Decidable m.HoldNoEntity :=
  inferInstanceAs (Decidable (∀ a ∈ m.aggregates, ∀ v ∈ a.valueObjects, ∀ f ∈ v.fields,
    ∀ b ∈ m.aggregates, ∀ e ∈ b.allEntities, ¬f.Denotes e))

/-- What the rule does not look for. -/
structure HoldNoneUnseen (m : DomainModel) : Prop where
  elsewhere : ∀ a ∈ m.aggregates, ∀ v ∈ a.valueObjects, ∀ f ∈ v.fields,
    ∀ b ∈ m.aggregates, b ≠ a → ∀ e ∈ b.allEntities, ¬f.Denotes e
  respelled : ∀ a ∈ m.aggregates, ∀ v ∈ a.valueObjects, ∀ f ∈ v.fields, f.Respelled →
    ∀ e ∈ a.allEntities, ¬f.Denotes e

end DomainModel

namespace Aggregate

variable {options : Options} {d : Declared.Aggregate} {a : Aggregate}

/-- A value object holds an entity of its aggregate only where the rule does not look it up. -/
theorem respelled_of_denotes (hsound : Check.Aggregate.Sound d) (h : resolve options d = .ok a)
    {v : ValueObject} (hv : v ∈ a.valueObjects) {f : Field} (hf : f ∈ v.fields) {e : Entity}
    (he : e ∈ a.allEntities) (hdenotes : f.Denotes e) : f.Respelled := by
  rw [valueObjects_eq h] at hv
  obtain ⟨x, hx, rfl⟩ := List.mem_map.mp hv
  obtain ⟨y, hy, rfl⟩ := List.mem_map.mp hf
  -- What is not respelled the rule looks up, and then it would have found the entity.
  by_contra hseen
  have hresolved : Field.ResolvedFrom (resolvedEnums d) y
      (Field.resolve [] (resolvedEnums d) options.persistenceSuffix false y) := ⟨_, _, _, rfl⟩
  have hname : Check.referencedName? y = some e.name :=
    (hresolved.declaredName?_eq_iff hdenotes).mpr hseen
  have hclass : e.name ∈ Check.classNames d := by
    have hmem : e.name ∈ a.allEntities.map (·.name) := List.mem_map.mpr ⟨e, he, rfl⟩
    rwa [map_name_allEntities h] at hmem
  exact hsound.valueObjects x hx y hy e.name hname hclass

end Aggregate

/-- In a compiled model a value object holds an entity of its own aggregate only in a list whose
elements are respelled, and no entity at all exactly where there is nothing that goes unseen. -/
theorem holdNoEntity_iff {options : Options} {d : Declared.Document} {c : Compiled}
    (h : compileDocument options d = .ok c) :
    (∀ a ∈ c.model.aggregates, ∀ v ∈ a.valueObjects, ∀ f ∈ v.fields, ∀ e ∈ a.allEntities,
      f.Denotes e → f.Respelled) ∧
    (c.model.HoldNoEntity ↔ c.model.HoldNoneUnseen) := by
  have hown : ∀ a ∈ c.model.aggregates, ∀ v ∈ a.valueObjects, ∀ f ∈ v.fields,
      ∀ e ∈ a.allEntities, f.Denotes e → f.Respelled := by
    intro a ha v hv f hf e he hdenotes
    obtain ⟨x, -, hsound, hresolve⟩ := exists_sound_of_mem_compiled h ha
    exact Aggregate.respelled_of_denotes hsound hresolve hv hf he hdenotes
  refine ⟨hown, fun hnone => ⟨?_, ?_⟩, fun hunseen => ?_⟩
  · intro a ha v hv f hf b hb _ e he
    exact hnone a ha v hv f hf b hb e he
  · intro a ha v hv f hf _ e he
    exact hnone a ha v hv f hf a ha e he
  · intro a ha v hv f hf b hb e he hdenotes
    by_cases hba : b = a
    · subst hba
      have hrespelled := hown b ha v hv f hf e he hdenotes
      exact hunseen.respelled b ha v hv f hf hrespelled e he hdenotes
    · exact hunseen.elsewhere a ha v hv f hf b hb hba e he hdenotes

/-- An order whose value object, a buyer, has the field; the entities stand in a second
aggregate. -/
def orderWithBuyer (field : Declared.Field) (item other : String) : Declared.Document :=
  ⟨[{ Aggregate.plainAggregate "Order"
        [Aggregate.plainEntity "order" true [idOf "id"] [],
         Aggregate.plainEntity item false [idOf "id"] []] with
      valueObjects :=
        [{ name := "Buyer", fields := [field], methods := [], validation := []
           description := none }] },
    Aggregate.plainAggregate "Customer" [Aggregate.plainEntity other true [idOf "id"] []]]⟩

def levelField : Declared.Field :=
  { name := "level", type := "Level", enumValues := some ["LOW", "HIGH"] }

theorem holdNoEntity_iff_orderWithBuyer :
    ∃ c, compileDocument {} (orderWithBuyer levelField "item" "customer") = .ok c ∧
      ((∀ a ∈ c.model.aggregates, ∀ v ∈ a.valueObjects, ∀ f ∈ v.fields, ∀ e ∈ a.allEntities,
          f.Denotes e → f.Respelled) ∧
        (c.model.HoldNoEntity ↔ c.model.HoldNoneUnseen)) ∧
      c.model.HoldNoEntity :=
  ⟨_, rfl, @holdNoEntity_iff {} (orderWithBuyer levelField "item" "customer") _ rfl,
    by decide +kernel⟩

/-- The description is compiled, and a value object of it holds an entity. -/
def HoldsEntity (options : Options) (d : Declared.Document) : Prop :=
  ∃ c, compileDocument options d = .ok c ∧ ¬c.model.HoldNoEntity

instance (options : Options) (d : Declared.Document) : Decidable (HoldsEntity options d) :=
  match h : compileDocument options d with
  | .ok c => decidable_of_iff (¬c.model.HoldNoEntity) (by simp [HoldsEntity, h])
  | .error _ => isFalse (by simp [HoldsEntity, h])

/-- An entity of another aggregate goes unseen even where warnings count, and one of the same
aggregate where the elements of a list are respelled. -/
theorem holdsEntity_orderWithBuyer :
    HoldsEntity { strict := true }
        (orderWithBuyer { name := "customer", type := "Customer" } "item" "customer") ∧
      HoldsEntity {}
        (orderWithBuyer { name := "items", type := "List<List<item>>" } "item" "customer") := by
  decide +kernel

end DomainCompiler.Model
