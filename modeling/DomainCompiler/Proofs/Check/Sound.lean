import DomainCompiler.Proofs.Check.Found
import Mathlib.Logic.Basic

/-!
# What the rules demand

What a maintainer relies on is not what the rules report but what holds of a description in which
they find nothing. `Sound` says it for the findings that are errors and `Unwarned` for those that
only warn, each clause in terms of the declarations alone. Neither mentions how a rule goes through
the description, and the two equivalences at the end are the only way from the rules to them.
-/

namespace DomainCompiler.Check

open DomainCompiler.Declared
open DomainCompiler.Naming
open DomainCompiler.Model.Relationship (target? backReference?)

/-- What the rules demand of one aggregate. -/
structure Aggregate.Sound (a : Aggregate) : Prop where
  singleRoot : ∃ e, a.entities.filter (·.isRoot) = [e]
  classNames : (classNames a).Nodup
  fieldNames : ∀ o ∈ a.fieldOwners, (fieldNames o.2).Nodup
  auditFields : ∀ e ∈ a.entities, ∀ name ∈ auditFieldNames e, name ∉ Check.fieldNames e.fields
  audit : ∀ e ∈ a.entities, e.tracksUser = true → e.auditEnabled = true
  initialValues : ∀ e ∈ a.enums, ∀ v, e.initialValue = some v → v ∈ e.values
  states : ∀ e ∈ a.enums, ∀ t ∈ e.transitions.getD [], ∀ s ∈ statesOf t, s ∈ e.values
  enumValues : ∀ e ∈ a.enums, e.values.Nodup
  inlineValues : ∀ o ∈ a.fieldOwners, ∀ f ∈ o.2, (f.enumValues.getD []).Nodup
  targets : ∀ e ∈ a.entities, ∀ r ∈ e.relationships, (target? r).isSome = true
  valueObjects : ∀ v ∈ a.valueObjects, ∀ f ∈ v.fields, ∀ name, referencedName? f = some name →
    name ∉ Check.classNames a

/-- What the rules demand of a description that is to be compiled. -/
structure Sound (d : Document) : Prop where
  aggregateNames : (d.aggregates.map fun a => pascal a.name).Nodup
  aggregates : ∀ a ∈ d.aggregates, Aggregate.Sound a

/-- What an aggregate is warned about nowhere, given the names that types may rest on. -/
structure Aggregate.Unwarned (known : List String) (a : Aggregate) : Prop where
  auditable : ∀ e ∈ a.entities, e.auditable ≠ some true
  targets : ∀ e ∈ a.entities, ∀ r ∈ e.relationships, ∀ t, target? r = some t →
    pascal t ∈ classNames a
  backReferences : ∀ e ∈ a.entities, ∀ r ∈ e.relationships, (backReference? r).isSome = true →
    r.kind.inverse?.isSome = true
  types : ∀ o ∈ a.fieldOwners, ∀ f ∈ o.2, ∀ name, referencedName? f = some name → name ∈ known

/-- What a description is warned about nowhere. -/
def Unwarned (d : Document) : Prop := ∀ a ∈ d.aggregates, Aggregate.Unwarned (knownNames d) a

/-- What a description has to be for compiling to go on; warnings count when strict. -/
def Accepted (strict : Bool) (d : Document) : Prop := Sound d ∧ (strict = true → Unwarned d)

variable {d : Document}

/-! ### One lemma for each rule -/

theorem errorFree_uniqueAggregateNames :
    ErrorFree (uniqueAggregateNames d) ↔ (d.aggregates.map fun a => pascal a.name).Nodup := by
  rw [uniqueAggregateNames, errorFree_map_iff fun _ => rfl, duplicates_eq_nil_iff]

theorem errorFree_singleRoot :
    ErrorFree (singleRoot d) ↔ ∀ a ∈ d.aggregates, ∃ e, a.entities.filter (·.isRoot) = [e] := by
  simp only [singleRoot, errorFree_flatMap]
  refine forall₂_congr fun a _ => ?_
  generalize a.entities.filter (·.isRoot) = roots
  rcases roots with _ | ⟨e, _ | ⟨e', rest⟩⟩ <;> simp [Finding.isWarning]

theorem errorFree_uniqueEntityNames :
    ErrorFree (uniqueEntityNames d) ↔ ∀ a ∈ d.aggregates, (classNames a).Nodup := by
  simp only [uniqueEntityNames, errorFree_flatMap]
  refine forall₂_congr fun a _ => ?_
  rw [errorFree_map_iff fun _ => rfl, duplicates_eq_nil_iff, classNames]

theorem errorFree_uniqueFieldNames :
    ErrorFree (uniqueFieldNames d) ↔ ∀ a ∈ d.aggregates,
      (∀ o ∈ a.fieldOwners, (fieldNames o.2).Nodup) ∧
        ∀ e ∈ a.entities, ∀ name ∈ auditFieldNames e, name ∉ fieldNames e.fields := by
  simp only [uniqueFieldNames, errorFree_flatMap, errorFree_append]
  refine forall₂_congr fun a _ => and_congr ?_ ?_
  · refine forall₂_congr fun o _ => ?_
    rw [errorFree_map_iff fun _ => rfl, duplicates_eq_nil_iff, fieldNames]
  · refine forall₂_congr fun e _ => ?_
    rw [errorFree_map_iff fun _ => rfl, List.filter_eq_nil_iff]
    simp only [List.contains_eq_mem, decide_eq_true_eq, fieldNames]

theorem errorFree_auditSettings :
    ErrorFree (auditSettings d) ↔ ∀ a ∈ d.aggregates, ∀ e ∈ a.entities,
      e.tracksUser = true → e.auditEnabled = true := by
  simp only [auditSettings, errorFree_flatMap, errorFree_append]
  refine forall₂_congr fun a _ => forall₂_congr fun e _ => ?_
  cases e.tracksUser <;> cases e.auditEnabled <;> by_cases h : e.auditable == some true <;>
    simp [h, Finding.isWarning]

theorem errorFree_enumStates :
    ErrorFree (enumStates d) ↔ ∀ a ∈ d.aggregates, ∀ e ∈ a.enums,
      (∀ v, e.initialValue = some v → v ∈ e.values) ∧
        ∀ t ∈ e.transitions.getD [], ∀ s ∈ statesOf t, s ∈ e.values := by
  simp only [enumStates, errorFree_flatMap, errorFree_append]
  refine forall₂_congr fun a _ => forall₂_congr fun e _ => and_congr ?_ ?_
  · cases e.initialValue with
    | none => simp
    | some v => by_cases hv : v ∈ e.values <;> simp [hv, Finding.isWarning]
  · rw [← forall_numbered_iff (fun t => ∀ s ∈ statesOf t, s ∈ e.values) 0]
    refine forall₂_congr fun t _ => ?_
    rw [errorFree_map_iff fun _ => rfl, List.filter_eq_nil_iff]
    simp

theorem errorFree_uniqueEnumValues :
    ErrorFree (uniqueEnumValues d) ↔ ∀ a ∈ d.aggregates, (∀ e ∈ a.enums, e.values.Nodup) ∧
      ∀ o ∈ a.fieldOwners, ∀ f ∈ o.2, (f.enumValues.getD []).Nodup := by
  simp only [uniqueEnumValues, errorFree_flatMap, errorFree_append]
  refine forall₂_congr fun a _ => and_congr ?_ ?_
  · refine forall₂_congr fun e _ => ?_
    rw [errorFree_map_iff fun _ => rfl, duplicates_eq_nil_iff]
  · refine forall₂_congr fun o _ => forall₂_congr fun f _ => ?_
    rw [errorFree_map_iff fun _ => rfl, duplicates_eq_nil_iff]

theorem errorFree_relationshipTargets :
    ErrorFree (relationshipTargets d) ↔ ∀ a ∈ d.aggregates, ∀ e ∈ a.entities,
      ∀ r ∈ e.relationships, (target? r).isSome = true := by
  simp only [relationshipTargets, errorFree_flatMap]
  refine forall₂_congr fun a _ => forall₂_congr fun e _ => ?_
  rw [← forall_numbered_iff (fun r => (target? r).isSome = true) 0]
  refine forall₂_congr fun r _ => ?_
  cases target? r.2 with
  | none => simp [Finding.isWarning]
  | some t => by_cases ht : pascal t ∈ classNames a <;>
      simp [contains_entityNames, ht, Finding.isWarning, -List.contains_eq_mem]

theorem errorFree_valueObjectReferences :
    ErrorFree (valueObjectReferences d) ↔ ∀ a ∈ d.aggregates, ∀ v ∈ a.valueObjects,
      ∀ f ∈ v.fields, ∀ name, referencedName? f = some name → name ∉ classNames a := by
  simp only [valueObjectReferences, errorFree_flatMap]
  refine forall₂_congr fun a _ => forall₂_congr fun v _ => forall₂_congr fun f _ => ?_
  cases referencedName? f with
  | none => simp
  | some name =>
    by_cases hn : name ∈ classNames a <;>
      simp [contains_entityNames, hn, Finding.isWarning, -List.contains_eq_mem]

theorem errorFree_backReferences : ErrorFree (backReferences d) := by
  simp only [backReferences, errorFree_flatMap]
  intro a _ e _ r _
  split <;> simp [Finding.isWarning]

theorem errorFree_typeReferences : ErrorFree (typeReferences d) := by
  simp only [typeReferences, errorFree_flatMap]
  intro a _ o _ f _
  split
  · split <;> simp [Finding.isWarning]
  · simp

theorem warningFree_uniqueAggregateNames : WarningFree (uniqueAggregateNames d) :=
  warningFree_map fun _ => rfl

theorem warningFree_singleRoot : WarningFree (singleRoot d) := by
  simp only [singleRoot, warningFree_flatMap]
  intro a _
  split <;> simp [Finding.isWarning]

theorem warningFree_uniqueEntityNames : WarningFree (uniqueEntityNames d) := by
  simp only [uniqueEntityNames, warningFree_flatMap]
  exact fun a _ => warningFree_map fun _ => rfl

theorem warningFree_uniqueFieldNames : WarningFree (uniqueFieldNames d) := by
  simp only [uniqueFieldNames, warningFree_flatMap, warningFree_append]
  exact fun a _ => ⟨fun o _ => warningFree_map fun _ => rfl, fun e _ => warningFree_map fun _ => rfl⟩

theorem warningFree_auditSettings :
    WarningFree (auditSettings d) ↔ ∀ a ∈ d.aggregates, ∀ e ∈ a.entities,
      e.auditable ≠ some true := by
  simp only [auditSettings, warningFree_flatMap, warningFree_append]
  refine forall₂_congr fun a _ => forall₂_congr fun e _ => ?_
  cases e.tracksUser <;> cases e.auditEnabled <;> by_cases h : e.auditable = some true <;>
    simp [h, Finding.isWarning]

theorem warningFree_enumStates : WarningFree (enumStates d) := by
  simp only [enumStates, warningFree_flatMap, warningFree_append]
  refine fun a _ e _ => ⟨?_, fun t _ => warningFree_map fun _ => rfl⟩
  split
  · split <;> simp [Finding.isWarning]
  · simp

theorem warningFree_uniqueEnumValues : WarningFree (uniqueEnumValues d) := by
  simp only [uniqueEnumValues, warningFree_flatMap, warningFree_append]
  exact fun a _ => ⟨fun e _ => warningFree_map fun _ => rfl,
    fun o _ f _ => warningFree_map fun _ => rfl⟩

theorem warningFree_relationshipTargets :
    WarningFree (relationshipTargets d) ↔ ∀ a ∈ d.aggregates, ∀ e ∈ a.entities,
      ∀ r ∈ e.relationships, ∀ t, target? r = some t → pascal t ∈ classNames a := by
  simp only [relationshipTargets, warningFree_flatMap]
  refine forall₂_congr fun a _ => forall₂_congr fun e _ => ?_
  rw [← forall_numbered_iff (fun r => ∀ t, target? r = some t → pascal t ∈ classNames a) 0]
  refine forall₂_congr fun r _ => ?_
  cases target? r.2 with
  | none => simp [Finding.isWarning]
  | some t => by_cases ht : pascal t ∈ classNames a <;>
      simp [contains_entityNames, ht, Finding.isWarning, -List.contains_eq_mem]

theorem warningFree_backReferences :
    WarningFree (backReferences d) ↔ ∀ a ∈ d.aggregates, ∀ e ∈ a.entities,
      ∀ r ∈ e.relationships, (backReference? r).isSome = true → r.kind.inverse?.isSome = true := by
  simp only [backReferences, warningFree_flatMap]
  refine forall₂_congr fun a _ => forall₂_congr fun e _ => ?_
  rw [← forall_numbered_iff
    (fun r => (backReference? r).isSome = true → r.kind.inverse?.isSome = true) 0]
  refine forall₂_congr fun r _ => ?_
  cases (backReference? r.2).isSome <;> cases r.2.kind <;>
    simp [RelationshipKind.inverse?, Finding.isWarning]

theorem warningFree_valueObjectReferences : WarningFree (valueObjectReferences d) := by
  simp only [valueObjectReferences, warningFree_flatMap]
  intro a _ v _ f _
  split
  · split <;> simp [Finding.isWarning]
  · simp

theorem warningFree_typeReferences :
    WarningFree (typeReferences d) ↔ ∀ a ∈ d.aggregates, ∀ o ∈ a.fieldOwners, ∀ f ∈ o.2,
      ∀ name, referencedName? f = some name → name ∈ knownNames d := by
  simp only [typeReferences, warningFree_flatMap]
  refine forall₂_congr fun a _ => forall₂_congr fun o _ => forall₂_congr fun f _ => ?_
  cases referencedName? f with
  | none => simp
  | some name => by_cases hn : name ∈ knownNames d <;> simp [hn, Finding.isWarning]

/-! ### All rules together -/

theorem mem_examine {i : Issue} :
    i ∈ examine d ↔ ∃ r ∈ Rule.all, ∃ f ∈ Rule.findings r d, f.issue = i := by
  simp only [examine, Rule.issues, List.mem_flatMap, List.mem_map]

theorem isError_issue (f : Finding) : f.issue.isError = !f.isWarning := by
  cases h : f.isWarning <;> simp [Finding.issue, Issue.isError, h]

theorem isWarning_issue (f : Finding) : f.issue.isWarning = f.isWarning := by
  cases h : f.isWarning <;> simp [Finding.issue, Issue.isWarning, h]

theorem errors_examine_eq_nil_iff :
    (examine d).errors = [] ↔ ∀ r ∈ Rule.all, ErrorFree (Rule.findings r d) := by
  rw [Findings.errors, List.filter_eq_nil_iff]
  constructor
  · intro h r hr f hf
    have hi := h f.issue (mem_examine.mpr ⟨r, hr, f, hf, rfl⟩)
    simpa [isError_issue] using hi
  · intro h i hi
    obtain ⟨r, hr, f, hf, rfl⟩ := mem_examine.mp hi
    simp [isError_issue, h r hr f hf]

theorem warnings_examine_eq_nil_iff :
    (examine d).warnings = [] ↔ ∀ r ∈ Rule.all, WarningFree (Rule.findings r d) := by
  rw [Findings.warnings, List.filter_eq_nil_iff]
  constructor
  · intro h r hr f hf
    have hi := h f.issue (mem_examine.mpr ⟨r, hr, f, hf, rfl⟩)
    simpa [isWarning_issue] using hi
  · intro h i hi
    obtain ⟨r, hr, f, hf, rfl⟩ := mem_examine.mp hi
    simp [isWarning_issue, h r hr f hf]

/-- The rules find no error exactly in the descriptions that are sound. -/
theorem errors_examine_eq_nil_iff_sound : (examine d).errors = [] ↔ Sound d := by
  rw [errors_examine_eq_nil_iff]
  simp only [Rule.all, List.forall_mem_cons, Rule.findings, errorFree_uniqueAggregateNames,
    errorFree_singleRoot, errorFree_uniqueEntityNames, errorFree_uniqueFieldNames,
    errorFree_auditSettings, errorFree_enumStates, errorFree_uniqueEnumValues,
    errorFree_relationshipTargets, errorFree_backReferences, errorFree_valueObjectReferences,
    errorFree_typeReferences]
  constructor
  · rintro ⟨hnames, hroot, hentities, hfields, haudit, hstates, hvalues, htargets, -, hvos, -⟩
    refine ⟨hnames, fun a ha => ?_⟩
    exact
      { singleRoot := hroot a ha
        classNames := hentities a ha
        fieldNames := (hfields a ha).1
        auditFields := (hfields a ha).2
        audit := haudit a ha
        initialValues := fun e he => (hstates a ha e he).1
        states := fun e he => (hstates a ha e he).2
        enumValues := (hvalues a ha).1
        inlineValues := (hvalues a ha).2
        targets := htargets a ha
        valueObjects := hvos a ha }
  · rintro ⟨hnames, h⟩
    refine ⟨hnames, fun a ha => (h a ha).singleRoot, fun a ha => (h a ha).classNames,
      fun a ha => ⟨(h a ha).fieldNames, (h a ha).auditFields⟩, fun a ha => (h a ha).audit,
      fun a ha e he => ⟨(h a ha).initialValues e he, (h a ha).states e he⟩,
      fun a ha => ⟨(h a ha).enumValues, (h a ha).inlineValues⟩, fun a ha => (h a ha).targets,
      trivial, fun a ha => (h a ha).valueObjects, trivial, fun _ hr => nomatch hr⟩

/-- The rules warn of nothing exactly in the descriptions that give no cause to. -/
theorem warnings_examine_eq_nil_iff_unwarned : (examine d).warnings = [] ↔ Unwarned d := by
  rw [warnings_examine_eq_nil_iff]
  simp only [Rule.all, List.forall_mem_cons, Rule.findings, warningFree_uniqueAggregateNames,
    warningFree_singleRoot, warningFree_uniqueEntityNames, warningFree_uniqueFieldNames,
    warningFree_auditSettings, warningFree_enumStates, warningFree_uniqueEnumValues,
    warningFree_relationshipTargets, warningFree_backReferences, warningFree_valueObjectReferences,
    warningFree_typeReferences, true_and]
  constructor
  · rintro ⟨haudit, htargets, hback, htypes, -⟩ a ha
    exact ⟨haudit a ha, htargets a ha, hback a ha, htypes a ha⟩
  · intro h
    exact ⟨fun a ha => (h a ha).auditable, fun a ha => (h a ha).targets,
      fun a ha => (h a ha).backReferences, fun a ha => (h a ha).types, fun _ hr => nomatch hr⟩

theorem isRejected_iff {strict : Bool} :
    (!(examine d).isValid || (strict && !(examine d).warnings.isEmpty)) = true ↔
      ¬Accepted strict d := by
  rw [Accepted, ← errors_examine_eq_nil_iff_sound, ← warnings_examine_eq_nil_iff_unwarned,
    ← Findings.isValid_iff]
  cases (examine d).isValid <;> cases strict <;> simp

/-- An accepted description comes with everything the rules found. -/
theorem accept_eq_ok_iff {strict : Bool} {found : Findings} :
    accept strict d = .ok found ↔ found = examine d ∧ Accepted strict d := by
  rw [accept]
  by_cases h : Accepted strict d
  · rw [if_neg (isRejected_iff.not.mpr (not_not.mpr h))]
    simp [h, eq_comm]
  · rw [if_pos (isRejected_iff.mpr h)]
    simp [h]

theorem accept_eq_error_iff {strict : Bool} {f : Failure} :
    accept strict d = .error f ↔ f = { findings := examine d } ∧ ¬Accepted strict d := by
  rw [accept]
  by_cases h : Accepted strict d
  · rw [if_neg (isRejected_iff.not.mpr (not_not.mpr h))]
    simp [h]
  · rw [if_pos (isRejected_iff.mpr h)]
    simp [h, eq_comm]

end DomainCompiler.Check
