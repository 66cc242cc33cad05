import Mathlib.Data.List.Forall2
import Mathlib.Data.List.Nodup
import Mathlib.Data.List.Perm.Basic

/-!
# Going through lists in step

Resolving a list of declarations succeeds item by item or fails at one item, and what is resolved
stands in step with what was declared. These are the facts about such passes, and about looking
items up in two lists that stand in step, that the rest of the theory rests on.
-/

namespace DomainCompiler.Traversal

variable {α β γ ε : Type}

theorem bind_eq_ok_iff {x : Except ε α} {f : α → Except ε β} {b : β} :
    x >>= f = .ok b ↔ ∃ a, x = .ok a ∧ f a = .ok b := by
  cases x with
  | error e => simp [bind, Except.bind]
  | ok a => simp [bind, Except.bind]

theorem bind_eq_error_iff {x : Except ε α} {f : α → Except ε β} {e : ε} :
    x >>= f = .error e ↔ x = .error e ∨ ∃ a, x = .ok a ∧ f a = .error e := by
  cases x with
  | error e => simp [bind, Except.bind]
  | ok a => simp [bind, Except.bind]

theorem ok_bind (a : α) (f : α → Except ε β) : (Except.ok a >>= f) = f a := rfl

theorem mapError_eq_ok_iff {f : ε → γ} {x : Except ε α} {a : α} :
    x.mapError f = .ok a ↔ x = .ok a := by
  cases x <;> simp [Except.mapError]

/-- A pass succeeds exactly with the results that stand in step with the items. -/
theorem mapM_eq_ok_iff {f : α → Except ε β} {xs : List α} {ys : List β} :
    xs.mapM f = .ok ys ↔ List.Forall₂ (fun x y => f x = .ok y) xs ys := by
  induction xs generalizing ys with
  | nil => cases ys <;> simp [pure, Except.pure]
  | cons x rest ih =>
    rw [List.mapM_cons, bind_eq_ok_iff]
    constructor
    · rintro ⟨y, hy, h⟩
      obtain ⟨zs, hzs, h⟩ := bind_eq_ok_iff.mp h
      cases h
      exact .cons hy (ih.mp hzs)
    · rintro (_ | ⟨hy, hrest⟩)
      exact ⟨_, hy, bind_eq_ok_iff.mpr ⟨_, ih.mpr hrest, rfl⟩⟩

theorem exists_mapM_eq_ok {f : α → Except ε β} {xs : List α}
    (h : ∀ x ∈ xs, ∃ y, f x = .ok y) : ∃ ys, xs.mapM f = .ok ys := by
  induction xs with
  | nil => exact ⟨[], rfl⟩
  | cons x rest ih =>
    obtain ⟨y, hy⟩ := h x List.mem_cons_self
    obtain ⟨ys, hys⟩ := ih fun z hz => h z (List.mem_cons_of_mem x hz)
    exact ⟨y :: ys, mapM_eq_ok_iff.mpr (.cons hy (mapM_eq_ok_iff.mp hys))⟩

theorem exists_of_mapM_eq_error {f : α → Except ε β} {xs : List α} {e : ε}
    (h : xs.mapM f = .error e) : ∃ x ∈ xs, f x = .error e := by
  induction xs with
  | nil => cases h
  | cons x rest ih =>
    rw [List.mapM_cons, bind_eq_error_iff] at h
    rcases h with h | ⟨y, -, h⟩
    · exact ⟨x, List.mem_cons_self, h⟩
    · rcases bind_eq_error_iff.mp h with h | ⟨ys, -, h⟩
      · obtain ⟨z, hz, hf⟩ := ih h
        exact ⟨z, List.mem_cons_of_mem x hz, hf⟩
      · cases h

/-! ### Lists in step -/

theorem Forall₂.exists_left {R : α → β → Prop} {xs : List α} {ys : List β}
    (h : List.Forall₂ R xs ys) {y : β} (hy : y ∈ ys) : ∃ x ∈ xs, R x y := by
  induction h with
  | nil => cases hy
  | @cons a b l u hab hrest ih =>
    rcases List.mem_cons.mp hy with rfl | hy
    · exact ⟨a, List.mem_cons_self, hab⟩
    · obtain ⟨x, hx, hR⟩ := ih hy
      exact ⟨x, List.mem_cons_of_mem a hx, hR⟩

theorem Forall₂.exists_right {R : α → β → Prop} {xs : List α} {ys : List β}
    (h : List.Forall₂ R xs ys) {x : α} (hx : x ∈ xs) : ∃ y ∈ ys, R x y :=
  Forall₂.exists_left (List.Forall₂.flip h) hx

theorem Forall₂.imp_of_mem {R S : α → β → Prop} {xs : List α} {ys : List β}
    (h : List.Forall₂ R xs ys) (hS : ∀ x ∈ xs, ∀ y ∈ ys, R x y → S x y) :
    List.Forall₂ S xs ys := by
  induction h with
  | nil => exact .nil
  | @cons a b l u hab _ ih =>
    exact .cons (hS a List.mem_cons_self b List.mem_cons_self hab)
      (ih fun x hx y hy => hS x (List.mem_cons_of_mem a hx) y (List.mem_cons_of_mem b hy))

theorem Forall₂.through {R : α → β → Prop} {S : α → γ → Prop} {T : β → γ → Prop}
    {xs : List α} {ys : List β} {zs : List γ} (hR : List.Forall₂ R xs ys)
    (hS : List.Forall₂ S xs zs) (h : ∀ x ∈ xs, ∀ y z, R x y → S x z → T y z) :
    List.Forall₂ T ys zs := by
  induction hR generalizing zs with
  | nil => cases hS; exact .nil
  | @cons a b l u hab hrest ih =>
    obtain - | ⟨hac, hS⟩ := hS
    exact .cons (h a List.mem_cons_self _ _ hab hac)
      (ih hS fun x hx => h x (List.mem_cons_of_mem a hx))

theorem Forall₂.map_eq {R : α → β → Prop} {f : α → γ} {g : β → γ} {xs : List α} {ys : List β}
    (h : List.Forall₂ R xs ys) (hR : ∀ x y, R x y → f x = g y) : xs.map f = ys.map g := by
  induction h with
  | nil => rfl
  | cons hab _ ih => rw [List.map_cons, List.map_cons, hR _ _ hab, ih]

theorem Forall₂.perm_flatMap {R : α → β → Prop} {f : α → List γ} {g : β → List γ} {xs : List α}
    {ys : List β} (h : List.Forall₂ R xs ys) (hR : ∀ x y, R x y → (f x).Perm (g y)) :
    (xs.flatMap f).Perm (ys.flatMap g) := by
  induction h with
  | nil => exact .nil
  | cons hab _ ih =>
    rw [List.flatMap_cons, List.flatMap_cons]
    exact (hR _ _ hab).append ih

/-- Each item of the first list may be passed on to a third one that stands in step with both. -/
theorem Forall₂.transport {R : α → β → Prop} {S : α → γ → Prop} {T : β → γ → Prop} {xs : List α}
    {ys : List β} (h : List.Forall₂ R xs ys) (hR : ∀ x ∈ xs, ∀ y, R x y → ∃ z, S x z ∧ T y z) :
    ∃ zs, List.Forall₂ S xs zs ∧ List.Forall₂ T ys zs := by
  induction h with
  | nil => exact ⟨[], .nil, .nil⟩
  | @cons a b l u hab _ ih =>
    obtain ⟨z, hS, hT⟩ := hR a List.mem_cons_self b hab
    obtain ⟨zs, hSs, hTs⟩ := ih fun x hx => hR x (List.mem_cons_of_mem a hx)
    exact ⟨z :: zs, .cons hS hSs, .cons hT hTs⟩

theorem Forall₂.find? {R : α → β → Prop} {p : α → Bool} {q : β → Bool} {xs : List α}
    {ys : List β} (h : List.Forall₂ R xs ys) (hR : ∀ x y, R x y → p x = q y) :
    Option.Rel R (xs.find? p) (ys.find? q) := by
  induction h with
  | nil => exact .none
  | @cons a b l u hab _ ih =>
    rw [List.find?_cons, List.find?_cons, ← hR a b hab]
    cases p a with
    | true => exact .some hab
    | false => exact ih

/-- The items that a partial function is defined on stand in step with what it gives. -/
theorem forall₂_filter_filterMap {R : α → β → Prop} {p : α → Bool} {f : α → Option β}
    {xs : List α} (hp : ∀ x ∈ xs, p x = (f x).isSome) (hR : ∀ x ∈ xs, ∀ y, f x = some y → R x y) :
    List.Forall₂ R (xs.filter p) (xs.filterMap f) := by
  induction xs with
  | nil => exact .nil
  | cons x rest ih =>
    have hrest := ih (fun z hz => hp z (List.mem_cons_of_mem x hz))
      (fun z hz => hR z (List.mem_cons_of_mem x hz))
    have hx := hp x List.mem_cons_self
    rw [List.filter_cons, List.filterMap_cons, hx]
    cases hf : f x with
    | none => simpa using hrest
    | some y => exact .cons (hR x List.mem_cons_self y hf) hrest

/-- An item whose key no other item has is found by it. -/
theorem find?_eq_some_of_mem (key : α → String) {xs : List α} (hkey : (xs.map key).Nodup) {x : α}
    (hx : x ∈ xs) : xs.find? (fun y => key y == key x) = some x := by
  cases hfound : xs.find? fun y => key y == key x with
  | none =>
    have hne := List.find?_eq_none.mp hfound x hx
    exact absurd (beq_self_eq_true (key x)) hne
  | some y =>
    have hy : (key y == key x) = true := List.find?_some (p := fun y => key y == key x) hfound
    rw [beq_iff_eq] at hy
    rw [List.inj_on_of_nodup_map hkey (List.mem_of_find?_eq_some hfound) hx hy]

/-- An item found by a key that no other item has is found in any order. -/
theorem find?_eq_of_perm {xs ys : List α} (h : xs.Perm ys) (key : α → String)
    (hkey : (xs.map key).Nodup) (k : String) :
    xs.find? (fun x => key x == k) = ys.find? (fun x => key x == k) := by
  induction h with
  | nil => rfl
  | cons x _ ih =>
    rw [List.find?_cons, List.find?_cons, ih (List.nodup_cons.mp hkey).2]
  | swap x y rest =>
    -- The keys of the two items differ, so that the order in which they are tried does not matter.
    have hne : key y ≠ key x := by
      intro he
      exact (List.nodup_cons.mp hkey).1 (he ▸ List.mem_cons_self)
    simp only [List.find?_cons]
    by_cases hx : key x = k
    · have hy : (key y == k) = false := by simpa [← hx] using hne
      simp [hx, hy]
    · have hx' : (key x == k) = false := by simpa using hx
      simp [hx']
  | trans h₁ _ ih₁ ih₂ =>
    rw [ih₁ hkey, ih₂ ((h₁.map key).nodup_iff.mp hkey)]

end DomainCompiler.Traversal
