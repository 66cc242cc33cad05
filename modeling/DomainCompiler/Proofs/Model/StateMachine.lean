import DomainCompiler.Proofs.Compile.Agreement
import DomainCompiler.Proofs.Model.Adjacency
import DomainCompiler.Proofs.Model.Fields

/-!
# State machines are closed

The rules look at the enums of an aggregate and at nothing else. What they make sure of there is
that an enum has no value twice and names no state that is not a value, and from it follows that the
state machine of every field, wherever the field stands, neither gains a state nor loses a step.
-/

namespace DomainCompiler.Model

open DomainCompiler.Naming
open DomainCompiler.Traversal

/-! ### Enums -/

/-- The enum has each value once, and all states that it names are values. -/
structure EnumType.Consistent (e : EnumType) : Prop where
  values : e.values.Nodup
  initialValue : ∀ v, e.initialValue = some v → v ∈ e.values
  sources : ∀ x ∈ e.edges, ∀ s ∈ x.sources, s ∈ e.values
  targets : ∀ x ∈ e.edges, x.target ∈ e.values

namespace EnumType

theorem edges_resolve (d : Declared.EnumType) :
    edges (resolve d) = (d.transitions.getD []).map fun t => ⟨t.sources, t.target⟩ := by
  rw [edges, resolve]
  cases d.transitions <;> rfl

theorem consistent_resolvedEnums {d : Declared.Aggregate} (h : Check.Aggregate.Sound d)
    {e : EnumType} (he : e ∈ Aggregate.resolvedEnums d) : e.Consistent := by
  obtain ⟨x, hx, rfl⟩ := List.mem_map.mp he
  refine ⟨h.enumValues x hx, h.initialValues x hx, ?_, ?_⟩
  · rw [edges_resolve, List.forall_mem_map]
    exact fun t ht s hs => h.states x hx t ht s (List.mem_append_left _ hs)
  · rw [edges_resolve, List.forall_mem_map]
    exact fun t ht => h.states x hx t ht _ (List.mem_append_right _ List.mem_cons_self)

end EnumType

/-! ### State machines -/

namespace StateMachine

/-- No state is made up or repeated, and the steps are those of the edges. -/
structure Closed (m : StateMachine) : Prop where
  values : m.values.Nodup
  /-- Every value has an entry, in the order of the values. -/
  states : m.adjacency.map (·.1) = m.values
  targets : ∀ e ∈ m.adjacency, e.2.Nodup ∧ ∀ t ∈ e.2, t ∈ m.values
  initialValue : ∀ v, m.initialValue = some v → v ∈ m.values
  allowed : ∀ s t, t ∈ m.allowedTargets s ↔ ∃ e ∈ m.edges, s ∈ e.sources ∧ e.target = t

theorem ofEnum?_eq_some_iff {e : EnumType} {m : StateMachine} :
    ofEnum? e = some m ↔ e.edges ≠ [] ∧
      m = { edges := e.edges, initialValue := e.initialValue
            adjacency := Adjacency.build e.edges e.values, values := e.values } := by
  rw [ofEnum?, EnumType.hasTransitions]
  cases e.edges <;> simp [eq_comm]

theorem closed_of_consistent {e : EnumType} (he : e.Consistent) {m : StateMachine}
    (h : ofEnum? e = some m) : m.Closed := by
  obtain ⟨-, rfl⟩ := ofEnum?_eq_some_iff.mp h
  have hstates : Adjacency.states (Adjacency.build e.edges e.values) = e.values :=
    Adjacency.states_build_of_subset he.values he.sources
  refine ⟨he.values, hstates, fun entry hentry => ?_, he.initialValue, fun s t => ?_⟩
  · -- The entry is read back as the targets of its state.
    have hnodup : (Adjacency.states (Adjacency.build e.edges e.values)).Nodup := by
      rw [hstates]
      exact he.values
    rw [← Adjacency.targets_of_mem hnodup hentry]
    refine ⟨?_, fun t ht => ?_⟩
    · rw [Adjacency.targets_build]
      exact FirstMet.nodup_eraseDups _
    · obtain ⟨x, hx, -, rfl⟩ := Adjacency.mem_targets_build_iff.mp ht
      exact he.targets x hx
  · exact Adjacency.mem_targets_build_iff

end StateMachine

/-- The state machine of every field of an accepted aggregate is closed. -/
theorem Aggregate.closed_stateMachine {options : Options} {d : Declared.Aggregate} {a : Aggregate}
    (hsound : Check.Aggregate.Sound d) (h : resolve options d = .ok a) {f : Field}
    (hf : f ∈ a.fields) {m : StateMachine} (hm : f.stateMachine = some m) : m.Closed := by
  obtain ⟨y, hy⟩ := exists_resolvedFrom h hf
  rw [hy.stateMachine_eq, Option.bind_eq_some_iff] at hm
  obtain ⟨e, he, hm⟩ := hm
  rw [enums_eq h] at he
  have hmem : e ∈ resolvedEnums d := List.mem_of_find?_eq_some he
  exact StateMachine.closed_of_consistent (EnumType.consistent_resolvedEnums hsound hmem) hm

/-- In a compiled model every state machine of a field is closed. -/
theorem closed_stateMachine_of_compileDocument {options : Options} {d : Declared.Document}
    {c : Compiled} (h : compileDocument options d = .ok c) :
    ∀ a ∈ c.model.aggregates, ∀ f ∈ a.fields, ∀ m, f.stateMachine = some m → m.Closed := by
  intro a ha f hf m hm
  obtain ⟨x, -, hsound, hresolve⟩ := exists_sound_of_mem_compiled h ha
  exact Aggregate.closed_stateMachine hsound hresolve hf hm

/-- An edge from two states, of which one is named twice; the same step again; a loop; and a final
state. -/
def parcelStatus : Declared.EnumType :=
  { name := "parcel_status", values := ["NEW", "SENT", "LOST", "HOME"], initialValue := some "NEW"
    transitions := some [⟨["NEW", "SENT", "NEW"], "LOST"⟩, ⟨["NEW"], "SENT"⟩, ⟨["SENT"], "SENT"⟩,
      ⟨["SENT"], "LOST"⟩, ⟨["LOST", "SENT"], "HOME"⟩]
    description := none }

/-- Parcels whose status stands on the entity and, under another spelling, on a value object. -/
def parcels : Declared.Document :=
  { aggregates :=
      [{ name := "Parcel", package := none, enums := [parcelStatus], description := none
         entities :=
          [{ name := "parcel", isRoot := true, tableName := none, audit := none, auditable := none
             fields := [{ name := "status", type := "ParcelStatus" }], relationships := []
             description := none }]
         valueObjects :=
          [{ name := "Stop", fields := [{ name := "reached", type := "parcel-status" }]
             methods := [], validation := [], description := none }] }] }

theorem closed_stateMachine_parcels :
    ∃ c, compileDocument {} parcels = .ok c ∧
      (∀ a ∈ c.model.aggregates, ∀ f ∈ a.fields, ∀ m, f.stateMachine = some m → m.Closed) ∧
      (c.model.aggregates.flatMap (·.fields)).map (fun f => f.stateMachine.map (·.adjacency)) =
        List.replicate 2 (some [("NEW", ["LOST", "SENT"]), ("SENT", ["LOST", "SENT", "HOME"]),
          ("LOST", ["HOME"]), ("HOME", [])]) :=
  ⟨_, rfl, @closed_stateMachine_of_compileDocument {} parcels _ rfl, by decide +kernel⟩

end DomainCompiler.Model
