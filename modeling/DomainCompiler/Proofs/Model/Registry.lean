import DomainCompiler.Proofs.Model.Inverse
import DomainCompiler.Proofs.Model.StateMachine

/-!
# The enum that a field denotes

An enum is looked up by name in two places. A field takes its states from the enums of its own
aggregate, while the registry of the model holds one enum of each name, the first that is declared
anywhere. Both find the same enum unless an earlier aggregate declares the name too. A field that
declares its values itself is looked up among the enums of its aggregate all the same.
-/

namespace DomainCompiler.Model

open DomainCompiler.Naming
open DomainCompiler.Traversal

/-! ### The registry -/

namespace DomainModel

theorem register_eq_addNew : register = FirstMet.addNew EnumType.name := rfl

/-- The registry finds the first enum of a name, aggregate by aggregate. -/
theorem find?_registry (aggregates : List Aggregate) (name : String) :
    EnumType.find? name (registry aggregates) =
      EnumType.find? name (aggregates.flatMap Aggregate.allEnums) := by
  rw [registry, register_eq_addNew]
  exact FirstMet.find?_foldl_addNew EnumType.name name _ []

/-- Every enum that is declared anywhere has its name in the registry. -/
theorem name_mem_registry {aggregates : List Aggregate} {e : EnumType}
    (he : e ∈ aggregates.flatMap Aggregate.allEnums) :
    e.name ∈ (registry aggregates).map (·.name) := by
  have hsome : (EnumType.find? e.name (registry aggregates)).isSome = true := by
    rw [find?_registry]
    exact List.find?_isSome.mpr ⟨e, he, beq_self_eq_true e.name⟩
  obtain ⟨n, hn⟩ := Option.isSome_iff_exists.mp hsome
  have hname := List.find?_some (p := fun n : EnumType => n.name == e.name) hn
  exact List.mem_map.mpr ⟨n, List.mem_of_find?_eq_some hn, beq_iff_eq.mp hname⟩

theorem allEnums_eq {options : Options} {d : Declared.Document} {m : DomainModel}
    (h : resolve options d = .ok m) : m.allEnums = registry m.aggregates := by
  obtain ⟨_, -, rfl⟩ := resolve_eq_ok_iff.mp h
  rfl

/-- An enum of an aggregate is registered unless an earlier aggregate has one of its name. -/
theorem enum?_eq_some {m : DomainModel} (h : m.allEnums = registry m.aggregates)
    {earlier later : List Aggregate} {a : Aggregate} (ha : m.aggregates = earlier ++ a :: later)
    {name : String} {own : EnumType} (hown : EnumType.find? name a.enums = some own) :
    m.enum? name =
      some ((EnumType.find? name (earlier.flatMap Aggregate.allEnums)).getD own) := by
  have hfirst :
      EnumType.find? name (a.allEnums ++ later.flatMap Aggregate.allEnums) = some own := by
    rw [EnumType.find?] at hown ⊢
    rw [Aggregate.allEnums, List.find?_append, List.find?_append, List.find?_append, hown]
    rfl
  rw [enum?, h, find?_registry, ha, List.flatMap_append, List.flatMap_cons, EnumType.find?,
    List.find?_append, ← EnumType.find?, ← EnumType.find?, hfirst]
  cases EnumType.find? name (earlier.flatMap Aggregate.allEnums) <;> rfl

end DomainModel

/-! ### The states of a field -/

/-- Every state that the machine mentions. -/
def StateMachine.states (m : StateMachine) : List String :=
  m.values ++ m.initialValue.toList ++ m.edges.flatMap (fun e => e.sources ++ [e.target]) ++
    m.adjacency.flatMap fun e => e.1 :: e.2

theorem StateMachine.mem_values_of_mem_states {e : EnumType} (he : e.Consistent) {m : StateMachine}
    (h : ofEnum? e = some m) : ∀ s ∈ m.states, s ∈ e.values := by
  have hclosed := closed_of_consistent he h
  obtain ⟨-, rfl⟩ := ofEnum?_eq_some_iff.mp h
  simp only [states, List.forall_mem_append, List.forall_mem_flatMap, List.forall_mem_cons]
  refine ⟨⟨⟨fun s hs => hs, fun v hv => ?_⟩, fun x hx => ?_⟩, fun entry hentry => ?_⟩
  · exact he.initialValue v (Option.mem_toList.mp hv)
  · exact ⟨he.sources x hx, he.targets x hx, List.forall_mem_nil _⟩
  · refine ⟨?_, (hclosed.targets entry hentry).2⟩
    have hstate := List.mem_map_of_mem (f := (·.1)) hentry
    rwa [hclosed.states] at hstate

namespace Field

/-- The state that the field starts in and those of its state machine. -/
def states (f : Field) : List String :=
  f.autoInitValue.toList ++ f.stateMachine.elim [] StateMachine.states

def HasStates (f : Field) : Prop := f.autoInitValue.isSome = true ∨ f.stateMachine.isSome = true

instance (f : Field) : Decidable f.HasStates := inferInstanceAs (Decidable (_ ∨ _))

variable {d : Declared.Aggregate} {y : Declared.Field} {f : Field}

theorem ResolvedFrom.exists_enum {enums : List EnumType} (h : ResolvedFrom enums y f)
    (hstates : f.HasStates) : ∃ own, EnumType.find? f.resolvedType enums = some own := by
  rw [HasStates, h.autoInitValue_eq, h.stateMachine_eq] at hstates
  cases hfind : EnumType.find? f.resolvedType enums with
  | none => rw [hfind] at hstates; simp at hstates
  | some own => exact ⟨own, rfl⟩

/-- The states of a field are values of the enum of its aggregate that has the name of its type. -/
theorem ResolvedFrom.mem_values (hsound : Check.Aggregate.Sound d)
    (h : ResolvedFrom (Aggregate.resolvedEnums d) y f) {own : EnumType}
    (hown : EnumType.find? f.resolvedType (Aggregate.resolvedEnums d) = some own) :
    ∀ s ∈ f.states, s ∈ own.values := by
  have hconsistent := EnumType.consistent_resolvedEnums hsound (List.mem_of_find?_eq_some hown)
  rw [states, h.autoInitValue_eq, h.stateMachine_eq, hown, List.forall_mem_append]
  refine ⟨fun s hs => hconsistent.initialValue s (Option.mem_toList.mp hs), ?_⟩
  cases hm : StateMachine.ofEnum? own with
  | none => exact fun s hs => by simp [hm] at hs
  | some m => simpa [hm] using StateMachine.mem_values_of_mem_states hconsistent hm

end Field

/-! ### Fields and the enums they denote -/

/-- The enum of the values that a field declares itself, or else the registered one of its type. -/
def DomainModel.denoted? (m : DomainModel) (y : Declared.Field) (f : Field) : Option EnumType :=
  match y.enumValues with
  | some values => some { name := pascal y.type, values }
  | none => m.enum? f.resolvedType

/-- The states of the field, if it has any, are values of the enum that it denotes. -/
def Field.StatesDenoted (m : DomainModel) (y : Declared.Field) (f : Field) : Prop :=
  f.HasStates → ∃ e ∈ m.denoted? y f, ∀ s ∈ f.states, s ∈ e.values

instance (m : DomainModel) : DecidableRel (Field.StatesDenoted m) := fun y f =>
  inferInstanceAs
    (Decidable (f.HasStates → ∃ e ∈ m.denoted? y f, ∀ s ∈ f.states, s ∈ e.values))

/-- The states of every field of the description are values of the enum that it denotes. -/
def StatesDenoted (d : Declared.Document) (m : DomainModel) : Prop :=
  List.Forall₂ (fun x a => List.Forall₂ (Field.StatesDenoted m) (Aggregate.fieldDeclarations x)
    a.fields) d.aggregates m.aggregates

instance (d : Declared.Document) (m : DomainModel) : Decidable (StatesDenoted d m) :=
  inferInstanceAs (Decidable (List.Forall₂ _ _ _))

/-- A field of the aggregate, which stands behind the earlier ones, has states only where its
aggregate declares an enum with the name of its type. Unless the field declares values itself, the
states are values of that enum, and the enum is registered but for earlier ones of its name. -/
def Field.StatesOwned (m : DomainModel) (earlier : List Aggregate) (a : Aggregate)
    (y : Declared.Field) (f : Field) : Prop :=
  f.HasStates → ∃ own, EnumType.find? f.resolvedType a.enums = some own ∧
    (y.enumValues = none → (∀ s ∈ f.states, s ∈ own.values) ∧
      m.enum? f.resolvedType =
        some ((EnumType.find? f.resolvedType (earlier.flatMap Aggregate.allEnums)).getD own))

/-- In a compiled model the states of every field are those of an enum of its own aggregate. -/
theorem statesOwned_of_compileDocument {options : Options} {d : Declared.Document} {c : Compiled}
    (h : compileDocument options d = .ok c) :
    ∀ earlier a later, c.model.aggregates = earlier ++ a :: later →
      ∃ x ∈ d.aggregates, Aggregate.resolve options x = .ok a ∧
        List.Forall₂ (Field.StatesOwned c.model earlier a) (Aggregate.fieldDeclarations x)
          a.fields := by
  intro earlier a later ha
  obtain ⟨-, hmodel, -⟩ := compileDocument_eq_ok_iff.mp h
  obtain ⟨-, hmodel⟩ := resolveDocument_eq_ok_iff.mp hmodel
  have hregistry := DomainModel.allEnums_eq hmodel
  have hmem : a ∈ c.model.aggregates := by
    rw [ha]
    exact List.mem_append_right _ List.mem_cons_self
  obtain ⟨x, hx, hsound, hresolve⟩ := exists_sound_of_mem_compiled h hmem
  refine ⟨x, hx, hresolve, (Aggregate.forall₂_fields hresolve).imp fun y f hy hstates => ?_⟩
  obtain ⟨own, hown⟩ := hy.exists_enum hstates
  refine ⟨own, hown, fun _ => ⟨?_, DomainModel.enum?_eq_some hregistry ha hown⟩⟩
  rw [Aggregate.enums_eq hresolve] at hy hown
  exact hy.mem_values hsound hown

open Aggregate (plainEntity plainAggregate)

def cartStatus : Declared.EnumType :=
  { name := "Status", values := ["OPEN"], transitions := none, initialValue := none
    description := none }

def orderStatus : Declared.EnumType :=
  { name := "Status", values := ["NEW", "DONE"], transitions := some [⟨["NEW"], "DONE"⟩]
    initialValue := some "NEW", description := none }

/-- Orders with a status whose values the field declares itself or leaves to the enum. -/
def ordersWith (enumValues : Option (List String)) : Declared.Aggregate :=
  { plainAggregate "Order"
      [plainEntity "order" true [{ name := "status", type := "Status", enumValues }] []] with
    enums := [orderStatus] }

/-- Both aggregates declare a status, and that of the carts is registered. -/
def cartsAndOrders : Declared.Document :=
  ⟨[{ plainAggregate "Cart" [plainEntity "cart" true [] []] with enums := [cartStatus] },
    ordersWith none]⟩

/-- The values of the field are not those of the enum of the same name. -/
def ordersOfTwoStatuses : Declared.Document := ⟨[ordersWith (some ["OPEN", "SHUT"])]⟩

theorem statesOwned_of_compileDocument_orders :
    ∃ c, compileDocument {} cartsAndOrders = .ok c ∧ ∃ carts orders,
      c.model.aggregates = [carts] ++ orders :: [] ∧
      (∃ x ∈ cartsAndOrders.aggregates, Aggregate.resolve {} x = .ok orders ∧
        List.Forall₂ (Field.StatesOwned c.model [carts] orders) (Aggregate.fieldDeclarations x)
          orders.fields) ∧
      orders.fields.map (·.autoInitValue) = [some "NEW"] ∧
      (c.model.enum? "Status").map (·.values) = some ["OPEN"] :=
  ⟨_, rfl, _, _, rfl, @statesOwned_of_compileDocument {} cartsAndOrders _ rfl _ _ _ rfl,
    by decide +kernel, by decide +kernel⟩

/-- An enum that an earlier aggregate declares, or one that the field declares itself, need not
have the states that the field takes from its aggregate. -/
theorem not_statesDenoted_sameName :
    (∃ c, compileDocument {} cartsAndOrders = .ok c ∧ ¬StatesDenoted cartsAndOrders c.model) ∧
      ∃ c, compileDocument {} ordersOfTwoStatuses = .ok c ∧
        ¬StatesDenoted ordersOfTwoStatuses c.model :=
  ⟨⟨_, rfl, by decide +kernel⟩, ⟨_, rfl, by decide +kernel⟩⟩

end DomainCompiler.Model
