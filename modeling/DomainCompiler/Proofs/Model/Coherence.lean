import DomainCompiler.Proofs.Model.Stored
import DomainCompiler.Proofs.Model.StateMachine

/-!
# Fields agree with themselves

What a type means for a field is worked out once for each attribute: from the structure of the type,
from its text, or from the first enum that has this text for a name. Whoever reads a field takes the
attribute at hand, so the attributes have to agree for every text that a type may have and for every
list of enums, be it one that repeats names. The elements of a list are told from no elements by
being written at all, so it matters that no type has nothing for its elements.
-/

namespace DomainCompiler.Model

namespace TypeRef

theorem isCollection_eq_true_iff {t : TypeRef} :
    t.isCollection = true ↔ ∃ element, t = .collection element := by
  cases t <;> simp [isCollection]

/-- A list that reads as one is a list of something. -/
theorem ReadsAsLists.render_element_ne {element : TypeRef}
    (h : (collection element).ReadsAsLists) : element.render ≠ "" :=
  h.1.2.1

end TypeRef

/-- A machine has an edge, and every value of its enum has an entry. -/
theorem StateMachine.of_ofEnum?_eq_some {e : EnumType} {m : StateMachine} (h : ofEnum? e = some m) :
    m.edges ≠ [] ∧ m.initialValue = e.initialValue ∧ m.values = e.values ∧
      ∀ v ∈ e.values, v ∈ m.adjacency.states := by
  obtain ⟨hedges, rfl⟩ := ofEnum?_eq_some_iff.mp h
  refine ⟨hedges, rfl, rfl, fun v hv => ?_⟩
  rw [Adjacency.states_build, List.mem_eraseDups]
  exact List.mem_append_left _ hv

namespace Field

/-- The attributes of a field that is resolved from the declaration agree with each other. -/
structure Coherent (enums : List EnumType) (d : Declared.Field) (f : Field) : Prop where
  resolvedType : f.resolvedType = f.typeRef.render
  isCollection : f.isCollection = true ↔ ∃ element, f.typeRef = .collection element
  collectionElementType : f.collectionElementType.isSome = true ↔ f.isCollection = true
  elementType : f.elementType = f.typeRef.elementOf.render
  autoInit : f.autoInit = true ↔ f.autoInitValue.isSome = true
  /-- What is set from an enum is of an enum and no input. -/
  started : f.autoInit = true → f.readOnly = true ∧ f.isEnum = true
  /-- A state machine is that of the first enum with the name of the type. It has an edge, starts
  where the field does, and knows every value. -/
  stateMachine : ∀ m, f.stateMachine = some m → f.isEnum = true ∧ m.edges ≠ [] ∧
    m.initialValue = f.autoInitValue ∧ ∃ e, EnumType.find? f.resolvedType enums = some e ∧
      m.values = e.values ∧ ∀ v ∈ e.values, v ∈ m.adjacency.states
  readOnly : f.readOnly = true ↔ d.readOnly = true ∨ f.autoInit = true

section Resolved

variable {enums : List EnumType} {d : Declared.Field} {f : Field}

theorem ResolvedFrom.isEnum_of_find? (h : ResolvedFrom enums d f) {e : EnumType}
    (he : EnumType.find? f.resolvedType enums = some e) : f.isEnum = true := by
  have hisEnum : f.isEnum =
      (d.enumValues.isSome || (EnumType.find? f.resolvedType enums).isSome) := by
    obtain ⟨_, _, _, rfl⟩ := h
    rfl
  rw [hisEnum, he, Option.isSome_some, Bool.or_true]

theorem ResolvedFrom.autoInit_eq (h : ResolvedFrom enums d f) :
    f.autoInit = f.autoInitValue.isSome := by
  obtain ⟨_, _, _, rfl⟩ := h
  rfl

theorem ResolvedFrom.readOnly_eq (h : ResolvedFrom enums d f) :
    f.readOnly = (d.readOnly || f.autoInit) := by
  obtain ⟨_, _, _, rfl⟩ := h
  rfl

/-- Elements that are written stand for the elements of the type, and no elements for the type. -/
theorem ResolvedFrom.elementType_eq (h : ResolvedFrom enums d f) :
    f.elementType = f.typeRef.elementOf.render := by
  obtain ⟨_, _, _, rfl⟩ := h
  have hreads := TypeRef.readsAsLists_resolve d.type d.enumValues
  rw [elementType, resolve]
  cases htype : TypeRef.resolve d.type d.enumValues with
  | collection element =>
    rw [htype] at hreads
    exact if_neg fun hempty => hreads.render_element_ne (String.isEmpty_iff.mp hempty)
  | _ => rfl

theorem ResolvedFrom.coherent (h : ResolvedFrom enums d f) : Coherent enums d f := by
  have hautoInit := h.autoInit_eq
  have hreadOnly : f.readOnly = true ↔ d.readOnly = true ∨ f.autoInit = true := by
    rw [h.readOnly_eq, Bool.or_eq_true]
  refine
    { resolvedType := ?_, isCollection := ?_, collectionElementType := ?_
      elementType := h.elementType_eq, autoInit := by rw [hautoInit], started := ?_
      stateMachine := ?_, readOnly := hreadOnly }
  · obtain ⟨_, _, _, rfl⟩ := h
    rfl
  · obtain ⟨_, _, _, rfl⟩ := h
    rw [← TypeRef.isCollection_eq_true_iff, ← TypeRef.collectionElement_isSome]
    rfl
  · obtain ⟨_, _, _, rfl⟩ := h
    rfl
  · intro hstarted
    refine ⟨hreadOnly.mpr (.inr hstarted), ?_⟩
    rw [hautoInit, h.autoInitValue_eq] at hstarted
    obtain ⟨v, hv⟩ := Option.isSome_iff_exists.mp hstarted
    obtain ⟨e, he, -⟩ := Option.bind_eq_some_iff.mp hv
    exact h.isEnum_of_find? he
  · intro m hm
    rw [h.stateMachine_eq] at hm
    obtain ⟨e, he, hmachine⟩ := Option.bind_eq_some_iff.mp hm
    obtain ⟨hedges, hinitial, hvalues, hstates⟩ := StateMachine.of_ofEnum?_eq_some hmachine
    refine ⟨h.isEnum_of_find? he, hedges, ?_, e, he, hvalues, hstates⟩
    rw [hinitial, h.autoInitValue_eq, he]
    rfl

end Resolved

/-- Whatever is declared, and whatever the names and enums around it are, a field agrees with
itself. -/
theorem coherent_resolve (names : List String) (enums : List EnumType) (suffix : String)
    (synthetic : Bool) (d : Declared.Field) :
    Coherent enums d (resolve names enums suffix synthetic d) :=
  ResolvedFrom.coherent ⟨names, suffix, synthetic, rfl⟩

end Field

end DomainCompiler.Model
