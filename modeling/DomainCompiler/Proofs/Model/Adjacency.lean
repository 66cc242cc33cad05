import DomainCompiler.Model.Enum
import DomainCompiler.Proofs.FirstMet
import DomainCompiler.Proofs.Traversal

/-!
# The adjacency of a state machine

An adjacency is built up value by value and then edge by edge. What a step does to it is said by the
list of its states and by the targets of each state, and from the steps follows what the whole has:
the states are those that are named, and the targets of a state are those of its edges, each once
and where it was first met. Nothing is asked of the edges or of the values.
-/

namespace DomainCompiler.Model.Adjacency

open DomainCompiler.FirstMet

variable {m : Adjacency} {s t : String}

/-! ### One step -/

theorem targets_cons (e : String × List String) (rest : Adjacency) (s : String) :
    targets (e :: rest) s = if e.1 = s then e.2 else targets rest s := by
  rw [targets, targets, List.find?_cons]
  by_cases h : e.1 = s
  · rw [if_pos h, beq_iff_eq.mpr h]
  · rw [if_neg h, beq_eq_false_iff_ne.mpr h]

theorem states_cons (e : String × List String) (rest : Adjacency) :
    states (e :: rest) = e.1 :: states rest := rfl

theorem states_addState (state : String) (m : Adjacency) :
    states (addState state m) = addName (states m) state := by
  induction m with
  | nil => rfl
  | cons e rest ih =>
    rw [addState, states_cons, addName_cons, ← ih]
    split <;> rfl

/-- A new state has no targets, like a state that is not there. -/
theorem targets_addState (state s : String) (m : Adjacency) :
    targets (addState state m) s = targets m s := by
  induction m with
  | nil =>
    rw [addState, targets_cons]
    exact ite_self []
  | cons e rest ih =>
    rw [addState]
    split
    · rfl
    · rw [targets_cons, targets_cons, ih]

theorem states_addTarget (source target : String) (m : Adjacency) :
    states (addTarget source target m) = addName (states m) source := by
  induction m with
  | nil => rfl
  | cons e rest ih =>
    rw [addTarget, states_cons, addName_cons, ← ih]
    split <;> rfl

theorem contains_append_eq_addName (names : List String) (name : String) :
    (if names.contains name then names else names ++ [name]) = addName names name := by
  by_cases h : name ∈ names
  · rw [addName_of_mem h, if_pos (List.contains_iff_mem.mpr h)]
  · rw [addName_of_not_mem h, if_neg (fun hc => h (List.contains_iff_mem.mp hc))]

theorem targets_addTarget (source target s : String) (m : Adjacency) :
    targets (addTarget source target m) s =
      if s = source then addName (targets m s) target else targets m s := by
  induction m with
  | nil =>
    rw [addTarget, targets_cons]
    by_cases h : s = source
    · rw [if_pos h, if_pos h.symm]
      rfl
    · rw [if_neg h, if_neg (Ne.symm h)]
  | cons e rest ih =>
    rw [addTarget, targets_cons]
    by_cases he : e.1 = source
    · rw [if_pos he, targets_cons]
      by_cases hs : e.1 = s
      · rw [if_pos hs, if_pos hs, if_pos (hs.symm.trans he)]
        exact contains_append_eq_addName e.2 target
      · rw [if_neg hs, if_neg hs, if_neg fun h => hs (he.trans h.symm)]
    · rw [if_neg he, targets_cons, ih]
      by_cases hs : e.1 = s
      · rw [if_pos hs, if_pos hs, if_neg fun h => he (hs.trans h)]
      · rw [if_neg hs, if_neg hs]

/-! ### One edge -/

theorem states_addEdge (m : Adjacency) (e : Edge) :
    states (addEdge m e) = e.sources.foldl addName (states m) := by
  rw [addEdge]
  induction e.sources generalizing m with
  | nil => rfl
  | cons source rest ih => rw [List.foldl_cons, List.foldl_cons, ih, states_addTarget]

/-- A source that is named twice by an edge gets the target once. -/
theorem targets_addEdge (m : Adjacency) (e : Edge) (s : String) :
    targets (addEdge m e) s =
      if s ∈ e.sources then addName (targets m s) e.target else targets m s := by
  rw [addEdge]
  induction e.sources generalizing m with
  | nil => rfl
  | cons source rest ih =>
    rw [List.foldl_cons, ih, targets_addTarget]
    by_cases hs : s = source <;> by_cases hrest : s ∈ rest <;>
      simp [hs, hrest, addName_addName]

/-! ### All values and edges -/

theorem states_foldl_addEdge (edges : List Edge) (m : Adjacency) :
    states (edges.foldl addEdge m) = (edges.flatMap (·.sources)).foldl addName (states m) := by
  induction edges generalizing m with
  | nil => rfl
  | cons e rest ih => rw [List.foldl_cons, ih, states_addEdge, List.flatMap_cons, List.foldl_append]

theorem targets_foldl_addEdge (edges : List Edge) (m : Adjacency) (s : String) :
    targets (edges.foldl addEdge m) s =
      ((edges.filter (s ∈ ·.sources)).map (·.target)).foldl addName (targets m s) := by
  induction edges generalizing m with
  | nil => rfl
  | cons e rest ih =>
    rw [List.foldl_cons, ih, targets_addEdge]
    by_cases h : s ∈ e.sources <;> simp [h]

theorem states_foldl_addState (values : List String) (m : Adjacency) :
    states (values.foldl (fun m v => addState v m) m) = values.foldl addName (states m) := by
  induction values generalizing m with
  | nil => rfl
  | cons v rest ih => rw [List.foldl_cons, ih, states_addState, List.foldl_cons]

theorem targets_foldl_addState (values : List String) (m : Adjacency) (s : String) :
    targets (values.foldl (fun m v => addState v m) m) s = targets m s := by
  induction values generalizing m with
  | nil => rfl
  | cons v rest ih => rw [List.foldl_cons, ih, targets_addState]

/-- The states are the values and then the other sources of edges. -/
theorem states_build (edges : List Edge) (values : List String) :
    states (build edges values) = (values ++ edges.flatMap (·.sources)).eraseDups := by
  rw [build, states_foldl_addEdge, states_foldl_addState, ← List.foldl_append]
  exact foldl_addName_nil _

/-- The targets of a state are those of the edges from it. -/
theorem targets_build (edges : List Edge) (values : List String) (s : String) :
    targets (build edges values) s =
      ((edges.filter (s ∈ ·.sources)).map (·.target)).eraseDups := by
  rw [build, targets_foldl_addEdge, targets_foldl_addState]
  exact foldl_addName_nil _

theorem mem_targets_build_iff {edges : List Edge} {values : List String} :
    t ∈ targets (build edges values) s ↔ ∃ e ∈ edges, s ∈ e.sources ∧ e.target = t := by
  simp only [targets_build, List.mem_eraseDups, List.mem_map, List.mem_filter, decide_eq_true_eq,
    and_assoc]

/-- Sources that are values add no states. -/
theorem states_build_of_subset {edges : List Edge} {values : List String} (hvalues : values.Nodup)
    (hsources : ∀ e ∈ edges, ∀ s ∈ e.sources, s ∈ values) :
    states (build edges values) = values := by
  rw [states_build, ← foldl_addName_nil, List.foldl_append, foldl_addName_nil,
    eraseDups_eq_self hvalues]
  exact foldl_addName_of_subset (List.forall_mem_flatMap.mpr hsources)

/-- An entry holds the targets of its state. -/
theorem targets_of_mem (h : (states m).Nodup) {e : String × List String} (he : e ∈ m) :
    targets m e.1 = e.2 := by
  have hfind : m.find? (fun x => x.1 == e.1) = some e :=
    Traversal.find?_eq_some_of_mem Prod.fst h he
  rw [targets, hfind]

/-! ### What is made of edges and values -/

/-- The values come first and then the sources that are no values, each where it is first named. -/
def statesOf (edges : List Edge) (values : List String) : List String :=
  values.eraseDups ++ ((edges.flatMap (·.sources)).filter (· ∉ values)).eraseDups

/-- The targets of the edges from a state, each where it is first met. -/
def targetsFrom (edges : List Edge) (s : String) : List String :=
  ((edges.filter (s ∈ ·.sources)).map (·.target)).eraseDups

/-- The adjacency relates the states as the edges do. -/
structure Relates (edges : List Edge) (values : List String) (m : Adjacency) : Prop where
  states : states m = statesOf edges values
  nodup : m.states.Nodup
  targets : ∀ e ∈ m, e.2 = targetsFrom edges e.1
  allowed : ∀ machine : StateMachine, machine.adjacency = m → ∀ s,
    machine.allowedTargets s = if s ∈ statesOf edges values then targetsFrom edges s else []

theorem states_build_eq_statesOf (edges : List Edge) (values : List String) :
    states (build edges values) = statesOf edges values := by
  rw [build, states_foldl_addEdge, states_foldl_addState]
  show (edges.flatMap (·.sources)).foldl addName (values.foldl addName []) = _
  rw [foldl_addName_nil, foldl_addName, statesOf]
  simp only [List.mem_eraseDups]

/-- A source of an edge has a place among the states. -/
theorem targetsFrom_of_not_mem {edges : List Edge} {values : List String}
    (h : s ∉ statesOf edges values) : targetsFrom edges s = [] := by
  have hnone : edges.filter (s ∈ ·.sources) = [] := by
    refine List.filter_eq_nil_iff.mpr fun e he hs => h ?_
    have hsource : s ∈ edges.flatMap (·.sources) :=
      List.mem_flatMap.mpr ⟨e, he, of_decide_eq_true hs⟩
    by_cases hvalue : s ∈ values
    · exact List.mem_append_left _ (List.mem_eraseDups.mpr hvalue)
    · refine List.mem_append_right _ (List.mem_eraseDups.mpr (List.mem_filter.mpr ⟨hsource, ?_⟩))
      exact decide_eq_true hvalue
  rw [targetsFrom, hnone]
  rfl

/-- Whatever the edges and the values are, what is built relates the states as the edges do. -/
theorem relates_build (edges : List Edge) (values : List String) :
    Relates edges values (build edges values) := by
  have hstates := states_build_eq_statesOf edges values
  have hnodup : (states (build edges values)).Nodup := by
    rw [states_build]
    exact nodup_eraseDups _
  refine ⟨hstates, hnodup, fun e he => ?_, fun machine hmachine s => ?_⟩
  · rw [← targets_of_mem hnodup he, targets_build, targetsFrom]
  · rw [StateMachine.allowedTargets, hmachine, targets_build, ← targetsFrom]
    split
    · rfl
    · next hs => exact targetsFrom_of_not_mem hs

/-- A repeated value, a source that is repeated and one that is no value. -/
example : build [⟨["LOST", "NEW", "LOST"], "NEW"⟩, ⟨["NEW"], "OLD"⟩, ⟨["NEW"], "NEW"⟩]
      ["NEW", "OLD", "NEW"] =
    [("NEW", ["NEW", "OLD"]), ("OLD", []), ("LOST", ["NEW"])] := by decide

end DomainCompiler.Model.Adjacency
