import DomainCompiler.Compile
import DomainCompiler.Proofs.Check.Sound
import DomainCompiler.Proofs.Model.Resolved

/-!
# The rules decide what is compiled

Four of the rules are checked twice: once over the whole description, and again by the resolver
when it comes to the declaration. The two agree on every description. What the rules accept is
resolved, what the resolver refuses has an error of the same code among the findings, and a
description that is accepted fails only where something in it has no written form.
-/

namespace DomainCompiler

open DomainCompiler.Check (examine accept)
open DomainCompiler.Declared (Document)
open DomainCompiler.Model (ResolveError DomainModel)
open DomainCompiler.Traversal

/-! ### What is sound is resolved -/

namespace Model

variable {options : Options}

theorem Aggregate.exists_resolve_of_sound {d : Declared.Aggregate}
    (h : Check.Aggregate.Sound d) : ∃ a, Aggregate.resolve options d = .ok a :=
  Aggregate.exists_resolve_eq_ok h.singleRoot fun x hx =>
    Entity.exists_resolve_eq_ok (h.audit x hx) (h.targets x hx)

/-- None of the resolver's own checks fires on a sound description. -/
theorem DomainModel.exists_resolve_of_sound {d : Document} (h : Check.Sound d) :
    ∃ m, DomainModel.resolve options d = .ok m := by
  obtain ⟨aggregates, haggregates⟩ := exists_mapM_eq_ok (f := Aggregate.resolve options)
    fun a ha => Aggregate.exists_resolve_of_sound (h.aggregates a ha)
  exact ⟨_, DomainModel.resolve_eq_ok_iff.mpr ⟨aggregates, mapM_eq_ok_iff.mp haggregates, rfl⟩⟩

end Model

/-! ### What the resolver refuses is reported -/

namespace Check

variable {d : Document}

/-- The findings hold an error of the code. -/
def Reports (d : Document) (code : String) : Prop :=
  ∃ i ∈ examine d, i.isError = true ∧ i.code = code

theorem reports_of_mem_findings {r : Rule} {f : Finding} (hr : r ∈ Rule.all)
    (hf : f ∈ r.findings d) (herror : f.isWarning = false) : Reports d f.code :=
  ⟨f.issue, mem_examine.mpr ⟨r, hr, f, hf, rfl⟩, by rw [isError_issue, herror]; rfl, rfl⟩

theorem exists_mem_numbered {α : Type} {x : α} {xs : List α} (n : Nat) (h : x ∈ xs) :
    ∃ i, (i, x) ∈ numbered n xs := by
  rw [← map_snd_numbered n xs] at h
  obtain ⟨⟨i, y⟩, hy, rfl⟩ := List.mem_map.mp h
  exact ⟨i, hy⟩

theorem reports_missingRoot {a : Declared.Aggregate} (ha : a ∈ d.aggregates)
    (h : Model.Aggregate.rootNames a = []) : Reports d "E001" := by
  have hf : Finding.missingRoot a.name ∈ Rule.findings .rootEntity d := by
    refine List.mem_flatMap.mpr ⟨a, ha, ?_⟩
    rw [Model.Aggregate.rootNames] at h
    rw [h]
    exact List.mem_cons_self
  exact reports_of_mem_findings (by decide) hf rfl

theorem reports_manyRoots {a : Declared.Aggregate} (ha : a ∈ d.aggregates)
    {first second : String} {rest : List String}
    (h : Model.Aggregate.rootNames a = first :: second :: rest) : Reports d "E002" := by
  have hf : Finding.manyRoots a.name (first :: second :: rest) ∈
      Rule.findings .rootEntity d := by
    refine List.mem_flatMap.mpr ⟨a, ha, ?_⟩
    rw [Model.Aggregate.rootNames] at h
    rw [h]
    exact List.mem_cons_self
  exact reports_of_mem_findings (by decide) hf rfl

theorem reports_of_checkRoot {a : Declared.Aggregate} {x : ResolveError} (ha : a ∈ d.aggregates)
    (h : Model.Aggregate.checkRoot a = .error x) : Reports d x.code := by
  rw [Model.Aggregate.checkRoot] at h
  rcases hnames : Model.Aggregate.rootNames a with _ | ⟨first, _ | ⟨second, rest⟩⟩
  · rw [hnames] at h
    cases h
    exact reports_missingRoot ha hnames
  · rw [hnames] at h
    cases h
  · rw [hnames] at h
    cases h
    exact reports_manyRoots ha hnames

theorem reports_trackUserWithoutAudit {a : Declared.Aggregate} {e : Declared.Entity}
    (ha : a ∈ d.aggregates) (he : e ∈ a.entities)
    (h : ¬(e.tracksUser = true → e.auditEnabled = true)) : Reports d "E004" := by
  have hsettings : (e.tracksUser && !e.auditEnabled) = true := by
    revert h
    cases e.tracksUser <;> cases e.auditEnabled <;> simp
  have hf : Finding.trackUserWithoutAudit a.name e.name ∈ Rule.findings .auditConfig d := by
    refine List.mem_flatMap.mpr ⟨a, ha, List.mem_flatMap.mpr ⟨e, he, ?_⟩⟩
    rw [if_pos hsettings]
    exact List.mem_cons_self
  exact reports_of_mem_findings (by decide) hf rfl

theorem reports_missingTarget {a : Declared.Aggregate} {e : Declared.Entity}
    {r : Declared.Relationship} (ha : a ∈ d.aggregates) (he : e ∈ a.entities)
    (hr : r ∈ e.relationships) (h : Model.Relationship.target? r = none) : Reports d "E003" := by
  obtain ⟨i, hi⟩ := exists_mem_numbered 0 hr
  have hf : Finding.missingTarget a.name e.name i ∈ Rule.findings .relationshipTarget d := by
    refine List.mem_flatMap.mpr ⟨a, ha, List.mem_flatMap.mpr ⟨e, he, ?_⟩⟩
    refine List.mem_flatMap.mpr ⟨(i, r), hi, ?_⟩
    simp only [h]
    exact List.mem_cons_self
  exact reports_of_mem_findings (by decide) hf rfl

/-- Whatever the resolver refuses is an error of the same code to the rules. -/
theorem reports_of_resolve {options : Options} {x : ResolveError}
    (h : DomainModel.resolve options d = .error x) : Reports d x.code := by
  obtain ⟨a, ha, h⟩ := DomainModel.of_resolve_eq_error h
  rcases Model.Aggregate.of_resolve_eq_error h with h | ⟨e, he, h⟩
  · exact reports_of_checkRoot ha h
  · rcases Model.Entity.of_resolve_eq_error h with ⟨haudit, rfl⟩ | ⟨r, hr, htarget, rfl⟩
    · exact reports_trackUserWithoutAudit ha he haudit
    · exact reports_missingTarget ha he hr htarget

end Check

/-! ### What a compilation comes to -/

section Compilation

variable {options : Options} {d : Document}

theorem resolveDocument_eq_ok_iff {m : DomainModel} :
    resolveDocument options d = .ok m ↔
      d.excess? = none ∧ DomainModel.resolve options d = .ok m := by
  rw [resolveDocument]
  cases d.excess? with
  | some e => simp
  | none => cases DomainModel.resolve options d <;> simp [Except.mapError]

theorem exists_resolveDocument_iff (h : Check.Sound d) :
    (∃ m, resolveDocument options d = .ok m) ↔ d.excess? = none := by
  constructor
  · rintro ⟨m', hm'⟩
    exact (resolveDocument_eq_ok_iff.mp hm').1
  · intro hnone
    obtain ⟨m, hm⟩ := DomainModel.exists_resolve_of_sound h
    exact ⟨m, resolveDocument_eq_ok_iff.mpr ⟨hnone, hm⟩⟩

theorem compileDocument_eq_ok_iff {c : Compiled} :
    compileDocument options d = .ok c ↔
      Check.Accepted options.strict d ∧ resolveDocument options d = .ok c.model ∧
        c.warnings = (examine d).warnings := by
  rw [compileDocument, bind_eq_ok_iff]
  constructor
  · rintro ⟨found, hfound, h⟩
    obtain ⟨m, hm, h⟩ := bind_eq_ok_iff.mp h
    cases h
    cases haccept : accept options.strict d with
    | error f => rw [haccept] at hfound; cases hfound
    | ok found' =>
      rw [haccept] at hfound
      cases hfound
      obtain ⟨rfl, haccepted⟩ := Check.accept_eq_ok_iff.mp haccept
      exact ⟨haccepted, hm, rfl⟩
  · rintro ⟨haccepted, hm, hwarnings⟩
    refine ⟨examine d, ?_, bind_eq_ok_iff.mpr ⟨c.model, hm, ?_⟩⟩
    · rw [Check.accept_eq_ok_iff.mpr ⟨rfl, haccepted⟩]
      rfl
    · rw [← hwarnings]
      rfl

/-- The aggregates that a description is compiled to are those its own are resolved to. -/
theorem exists_compileDocument_iff {aggregates : List Model.Aggregate} :
    (∃ c, compileDocument options d = .ok c ∧ c.model.aggregates = aggregates) ↔
      Check.Accepted options.strict d ∧ d.excess? = none ∧
        List.Forall₂ (fun x a => Model.Aggregate.resolve options x = .ok a) d.aggregates
          aggregates := by
  constructor
  · rintro ⟨c, hc, rfl⟩
    obtain ⟨haccepted, hmodel, -⟩ := compileDocument_eq_ok_iff.mp hc
    obtain ⟨hexcess, hresolve⟩ := resolveDocument_eq_ok_iff.mp hmodel
    obtain ⟨aggregates, hstep, hm⟩ := DomainModel.resolve_eq_ok_iff.mp hresolve
    rw [hm]
    exact ⟨haccepted, hexcess, hstep⟩
  · rintro ⟨haccepted, hexcess, hstep⟩
    have hresolve := DomainModel.resolve_eq_ok_iff.mpr ⟨aggregates, hstep, rfl⟩
    have hmodel := resolveDocument_eq_ok_iff.mpr ⟨hexcess, hresolve⟩
    exact ⟨⟨_, (examine d).warnings⟩,
      compileDocument_eq_ok_iff.mpr ⟨haccepted, hmodel, rfl⟩, rfl⟩

theorem exists_sound_of_mem_compiled {c : Compiled} (h : compileDocument options d = .ok c)
    {a : Model.Aggregate} (ha : a ∈ c.model.aggregates) :
    ∃ x ∈ d.aggregates, Check.Aggregate.Sound x ∧ Model.Aggregate.resolve options x = .ok a := by
  obtain ⟨haccepted, -, hstep⟩ := exists_compileDocument_iff.mp ⟨c, h, rfl⟩
  obtain ⟨x, hx, hresolve⟩ := Forall₂.exists_left hstep ha
  exact ⟨x, hx, haccepted.1.aggregates x hx, hresolve⟩

/-- A compilation that the rules stop reports everything they found. -/
theorem compileDocument_of_not_accepted (h : ¬Check.Accepted options.strict d) :
    compileDocument options d = .error (.failure { findings := examine d }) := by
  rw [compileDocument, Check.accept_eq_error_iff.mpr ⟨rfl, h⟩]
  rfl

/-- The only other thing that stops a compilation is what has no written form. -/
theorem compileDocument_of_accepted (h : Check.Accepted options.strict d) :
    (∃ c, compileDocument options d = .ok c) ∨
      ∃ e, d.excess? = some e ∧ compileDocument options d = .error (.excess e) := by
  cases hexcess : d.excess? with
  | none =>
    obtain ⟨m, hm⟩ := (exists_resolveDocument_iff h.1).mpr hexcess
    exact .inl ⟨⟨m, (examine d).warnings⟩, compileDocument_eq_ok_iff.mpr ⟨h, hm, rfl⟩⟩
  | some e =>
    refine .inr ⟨e, rfl, ?_⟩
    rw [compileDocument, Check.accept_eq_ok_iff.mpr ⟨rfl, h⟩, resolveDocument, hexcess]
    rfl

/-- Running the compiler decides what holds of what it gives. -/
instance {P : Compiled → Prop} [DecidablePred P] :
    Decidable (∃ c, compileDocument options d = .ok c ∧ P c) :=
  match h : compileDocument options d with
  | .ok c => decidable_of_iff (P c) (by simp)
  | .error _ => isFalse (by simp)

def Options.counting (options : Options) (strict : Bool) : Options := { options with strict }

theorem resolveDocument_counting (strict : Bool) :
    resolveDocument (options.counting strict) d = resolveDocument options d := rfl

theorem compileDocument_strict_iff {c : Compiled} :
    compileDocument (options.counting true) d = .ok c ↔
      compileDocument (options.counting false) d = .ok c ∧ (examine d).warnings = [] := by
  rw [compileDocument_eq_ok_iff, compileDocument_eq_ok_iff, resolveDocument_counting,
    resolveDocument_counting, Check.warnings_examine_eq_nil_iff_unwarned]
  constructor
  · rintro ⟨⟨hsound, hunwarned⟩, hrest⟩
    exact ⟨⟨⟨hsound, fun h => nomatch h⟩, hrest⟩, hunwarned rfl⟩
  · rintro ⟨⟨⟨hsound, -⟩, hrest⟩, hunwarned⟩
    exact ⟨⟨hsound, fun _ => hunwarned⟩, hrest⟩

/-- The rules alone decide what becomes of a description. -/
structure DecidedByRules (options : Options) (d : Document) : Prop where
  /-- What the rules accept is resolved. -/
  resolved : ∀ strict found, accept strict d = .ok found → ∃ m, resolveDocument options d = .ok m
  /-- What the resolver refuses, the rules report as an error of the same code. -/
  refused : ∀ x, DomainModel.resolve options d = .error x → ∀ j ∈ x.failure.findings,
    ∃ i ∈ examine d, i.isError = true ∧ i.code = j.code
  /-- Strictness only turns descriptions with warnings away. -/
  strict : ∀ c, compileDocument (options.counting true) d = .ok c ↔
    compileDocument (options.counting false) d = .ok c ∧ (examine d).warnings = []
  /-- What is not compiled comes back with everything the rules found. -/
  reported : ∀ x, compileDocument options d = .error x → x = .failure { findings := examine d }

/-- The checks of the resolver never fire behind the rules, and the rules decide alone exactly
where a sound description can be written in full. -/
theorem decidedByRules_iff (options : Options) (d : Document) :
    (∀ strict found, accept strict d = .ok found →
      ∃ m, DomainModel.resolve options d = .ok m) ∧
    (DecidedByRules options d ↔ (Check.Sound d → d.excess? = none)) := by
  refine ⟨fun strict found h => ?_, fun h hsound => ?_, fun h => ?_⟩
  · exact DomainModel.exists_resolve_of_sound (Check.accept_eq_ok_iff.mp h).2.1
  · -- A sound description is accepted at least where warnings do not count.
    have haccept : accept false d = .ok (examine d) :=
      Check.accept_eq_ok_iff.mpr ⟨rfl, hsound, fun h => nomatch h⟩
    exact (exists_resolveDocument_iff hsound).mp (h.resolved false _ haccept)
  · refine ⟨fun strict found haccept => ?_, fun x hx => ?_, fun c => compileDocument_strict_iff, ?_⟩
    · have hsound := (Check.accept_eq_ok_iff.mp haccept).2.1
      exact (exists_resolveDocument_iff hsound).mpr (h hsound)
    · intro j hj
      rw [List.mem_singleton.mp hj]
      exact Check.reports_of_resolve hx
    · intro x hx
      by_cases haccepted : Check.Accepted options.strict d
      · rcases compileDocument_of_accepted haccepted with ⟨c, hc⟩ | ⟨e, he, -⟩
        · rw [hc] at hx
          cases hx
        · rw [h haccepted.1] at he
          cases he
      · rw [compileDocument_of_not_accepted haccepted] at hx
        cases hx
        rfl

end Compilation

/-- An aggregate of one entity, whose field is bound by a number of more digits than are written. -/
def unwritableBound : Document :=
  { aggregates :=
      [{ name := "A", package := none, valueObjects := [], enums := [], description := none
         entities :=
          [{ name := "a", isRoot := true, tableName := none, audit := none, auditable := none
             relationships := [], description := none
             fields :=
              [{ name := "x", type := "Long"
                 constraints :=
                  [{ kind := "Digits", message := none, value := none, min := none, max := none
                     regexp := none, integer := some (Int.ofNat (Nat.pow 16 3600)), fraction := none
                     inclusive := none }] }] }] }] }

/-- The rules accept a bound that has too many digits, and it is not resolved. -/
theorem not_decidedByRules_unwritableBound : ¬DecidedByRules {} unwritableBound := by
  intro h
  have haccept : accept false unwritableBound = .ok [] := rfl
  have hexcess : unwritableBound.excess? = some .digits := by decide +kernel
  obtain ⟨m, hm⟩ := h.resolved false [] haccept
  rw [(resolveDocument_eq_ok_iff.mp hm).1] at hexcess
  cases hexcess

end DomainCompiler
