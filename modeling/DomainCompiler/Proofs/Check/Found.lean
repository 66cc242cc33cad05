import DomainCompiler.Check.Rules

/-!
# What a rule finds

A rule lists its findings; what matters to a compilation is whether an error is among them, and
whether a warning is. These are the facts by which either is traced from a list of findings back to
the declarations that gave rise to it.
-/

namespace DomainCompiler.Check

open DomainCompiler.Declared
open DomainCompiler.Naming

/-! ### Names that occur again -/

theorem mem_duplicatesFrom (name : String) (names seen found : List String) :
    name ∈ found → name ∈ duplicatesFrom seen found names := by
  induction names generalizing seen found with
  | nil => exact id
  | cons other rest ih =>
    intro h
    rw [duplicatesFrom]
    apply ih
    split
    · exact List.mem_append_left _ h
    · exact h

/-- Nothing is reported exactly where no name is met a second time. -/
theorem duplicatesFrom_eq_nil_iff (seen names : List String) :
    duplicatesFrom seen [] names = [] ↔ names.Nodup ∧ ∀ name ∈ names, name ∉ seen := by
  induction names generalizing seen with
  | nil => simp [duplicatesFrom]
  | cons name rest ih =>
    rw [duplicatesFrom]
    by_cases h : name ∈ seen
    · -- What was found once is not lost again, so that the report cannot be empty.
      have hfound : name ∈ duplicatesFrom (name :: seen) [name] rest :=
        mem_duplicatesFrom name rest _ _ List.mem_cons_self
      constructor
      · intro hnil
        simp only [List.contains_eq_mem, h, decide_true, List.not_mem_nil, decide_false,
          Bool.not_false, Bool.and_self, if_true, List.nil_append] at hnil
        rw [hnil] at hfound
        cases hfound
      · intro ⟨_, hseen⟩
        exact absurd h (hseen name List.mem_cons_self)
    · simp only [List.contains_eq_mem, h, decide_false, Bool.false_and, Bool.false_eq_true,
        if_false, ih, List.nodup_cons, List.mem_cons, not_or]
      constructor
      · rintro ⟨hnodup, hseen⟩
        refine ⟨⟨fun hname => (hseen name hname).1 rfl, hnodup⟩, ?_⟩
        rintro other (rfl | hother)
        · exact h
        · exact (hseen other hother).2
      · rintro ⟨⟨hname, hnodup⟩, hseen⟩
        refine ⟨hnodup, fun other hother => ⟨?_, hseen other (.inr hother)⟩⟩
        rintro rfl
        exact hname hother

theorem duplicates_eq_nil_iff (names : List String) : duplicates names = [] ↔ names.Nodup := by
  simp [duplicates, duplicatesFrom_eq_nil_iff]

theorem map_snd_numbered {α : Type} (n : Nat) (xs : List α) : (numbered n xs).map (·.2) = xs := by
  induction xs generalizing n with
  | nil => rfl
  | cons x rest ih => rw [numbered, List.map_cons, ih]

theorem mem_numbered_of_getElem? {α : Type} {xs : List α} {i : Nat} {y : α} (n : Nat)
    (h : xs[i]? = some y) : (n + i, y) ∈ numbered n xs := by
  induction xs generalizing n i with
  | nil => simp at h
  | cons z rest ih =>
    rw [numbered]
    cases i with
    | zero =>
      cases h
      exact List.mem_cons_self
    | succ i =>
      rw [List.getElem?_cons_succ] at h
      rw [Nat.add_comm i 1, ← Nat.add_assoc]
      exact List.mem_cons_of_mem _ (ih (n + 1) h)

theorem forall_numbered_iff {α : Type} (p : α → Prop) (n : Nat) (xs : List α) :
    (∀ e ∈ numbered n xs, p e.2) ↔ ∀ x ∈ xs, p x := by
  have h := List.forall_mem_map (f := Prod.snd) (l := numbered n xs) (P := p)
  rw [map_snd_numbered] at h
  exact h.symm

def classNames (a : Aggregate) : List String := a.entities.map fun e => pascal e.name

/-- The names of the declared fields, in the form in which members are called. -/
def fieldNames (fields : List Field) : List String := fields.map fun f => camel f.name

theorem contains_entityNames (a : Aggregate) (name : String) :
    (entityNames a).contains name = decide (name ∈ classNames a) := by
  rw [List.contains_eq_mem, entityNames]
  exact decide_eq_decide.mpr (NameSet.mem_ofList name _)

/-! ### Findings that are errors and findings that warn -/

/-- Nothing but warnings. -/
def ErrorFree (found : List Finding) : Prop := ∀ f ∈ found, f.isWarning = true

/-- Nothing but errors. -/
def WarningFree (found : List Finding) : Prop := ∀ f ∈ found, f.isWarning = false

section Found

variable {α : Type} {xs : List α} {f g : List Finding} {h : α → List Finding} {c : α → Finding}

@[simp] theorem errorFree_nil : ErrorFree [] := fun _ hf => nomatch hf

@[simp] theorem errorFree_singleton {x : Finding} : ErrorFree [x] ↔ x.isWarning = true := by
  simp [ErrorFree]

@[simp] theorem errorFree_append : ErrorFree (f ++ g) ↔ ErrorFree f ∧ ErrorFree g := by
  simp only [ErrorFree, List.forall_mem_append]

@[simp] theorem errorFree_flatMap : ErrorFree (xs.flatMap h) ↔ ∀ x ∈ xs, ErrorFree (h x) := by
  simp only [ErrorFree, List.forall_mem_flatMap]

@[simp] theorem warningFree_nil : WarningFree [] := fun _ hf => nomatch hf

@[simp] theorem warningFree_singleton {x : Finding} : WarningFree [x] ↔ x.isWarning = false := by
  simp [WarningFree]

@[simp] theorem warningFree_append : WarningFree (f ++ g) ↔ WarningFree f ∧ WarningFree g := by
  simp only [WarningFree, List.forall_mem_append]

@[simp] theorem warningFree_flatMap :
    WarningFree (xs.flatMap h) ↔ ∀ x ∈ xs, WarningFree (h x) := by
  simp only [WarningFree, List.forall_mem_flatMap]

theorem errorFree_map_iff (hc : ∀ x, (c x).isWarning = false) : ErrorFree (xs.map c) ↔ xs = [] := by
  cases xs <;> simp [ErrorFree, hc]

theorem warningFree_map (hc : ∀ x, (c x).isWarning = false) : WarningFree (xs.map c) := by
  simp only [WarningFree, List.forall_mem_map]
  exact fun x _ => hc x

end Found

end DomainCompiler.Check
