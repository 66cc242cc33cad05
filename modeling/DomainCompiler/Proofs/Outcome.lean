/-!
# How computations end

A computation that may fail ends with a value or with a fault. Properties of both are carried
through it step by step, and where it has a state, with an invariant of the state.
-/

namespace DomainCompiler

section

variable {ε α β : Type} {good : α → Prop} {good' : β → Prop} {bad bad' : ε → Prop}

/-- The computation ends with a value of the one property or with a fault of the other. -/
def Ends (good : α → Prop) (bad : ε → Prop) : Except ε α → Prop
  | .ok a => good a
  | .error e => bad e

theorem Ends.pure {a : α} (h : good a) : Ends good bad (Pure.pure a) := h

theorem Ends.ite {c : Prop} [Decidable c] {x y : Except ε α} (hx : Ends good bad x)
    (hy : Ends good bad y) : Ends good bad (if c then x else y) := by
  split
  · exact hx
  · exact hy

theorem Ends.imp {x : Except ε α} {good' : α → Prop} (h : Ends good bad x)
    (hgood : ∀ a, good a → good' a) (hbad : ∀ e, bad e → bad' e) : Ends good' bad' x := by
  cases x with
  | ok a => exact hgood a h
  | error e => exact hbad e h

theorem Ends.bind {x : Except ε α} {f : α → Except ε β} (hx : Ends good bad x)
    (hf : ∀ a, good a → Ends good' bad (f a)) : Ends good' bad (x >>= f) := by
  cases x with
  | ok a => exact hf a hx
  | error e => exact hx

theorem Ends.map {x : Except ε α} {f : α → β} (hx : Ends (fun a => good' (f a)) bad x) :
    Ends good' bad (x.map f) := by
  cases x <;> exact hx

theorem Ends.mapM {f : α → Except ε β} {xs : List α} (h : ∀ x ∈ xs, Ends good' bad (f x)) :
    Ends (fun ys => ∀ y ∈ ys, good' y) bad (xs.mapM f) := by
  induction xs with
  | nil => exact Ends.pure nofun
  | cons x xs ih =>
    rw [List.forall_mem_cons] at h
    rw [List.mapM_cons]
    refine (h.1).bind fun y hy => (ih h.2).bind fun ys hys => Ends.pure ?_
    exact List.forall_mem_cons.mpr ⟨hy, hys⟩

theorem Ends.of_error {x : Except ε α} {e : ε} (h : Ends good bad x) (hx : x = .error e) :
    bad e := by
  subst hx
  exact h

end

/-! ### With a state -/

section

variable {ε σ α β : Type} {before : σ → Prop} {after : α → σ → Prop} {after' : β → σ → Prop}
  {bad : ε → Prop} {r : StateT σ (Except ε) α}

/-- From a state of the one property the computation ends in one of the other, or with a fault. -/
def Runs (before : σ → Prop) (r : StateT σ (Except ε) α) (after : α → σ → Prop) (bad : ε → Prop) :
    Prop :=
  ∀ s, before s → Ends (fun p => after p.1 p.2) bad (r.run s)

theorem Runs.pure {a : α} (h : ∀ s, before s → after a s) :
    Runs before (Pure.pure a) after bad :=
  fun s hs => h s hs

theorem Runs.throw {e : ε} (h : bad e) : Runs before (MonadExcept.throw e) after bad :=
  fun _ _ => h

theorem Runs.modify {f : σ → σ} {after : PUnit → σ → Prop} (h : ∀ s, before s → after ⟨⟩ (f s)) :
    Runs before (modify f) after bad :=
  fun s hs => h s hs

theorem Runs.bind {f : α → StateT σ (Except ε) β} (hr : Runs before r after bad)
    (hf : ∀ a, Runs (after a) (f a) after' bad) : Runs before (r >>= f) after' bad :=
  fun s hs => (hr s hs).bind fun p hp => hf p.1 p.2 hp

theorem Runs.imp {before' : σ → Prop} {after'' : α → σ → Prop} (hr : Runs before r after bad)
    (hbefore : ∀ s, before' s → before s) (hafter : ∀ a s, after a s → after'' a s) :
    Runs before' r after'' bad :=
  fun s hs => (hr s (hbefore s hs)).imp (fun p hp => hafter p.1 p.2 hp) fun _ he => he

end

end DomainCompiler
