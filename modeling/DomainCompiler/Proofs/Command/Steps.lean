import DomainCompiler.Command.Basic

/-!
# Reasoning about the steps of commands

From a session, steps lead to what holds when they have ended or have stopped the command. Most
steps only look: there the result is all that is to be told.
-/

namespace DomainCompiler

namespace Work

variable {α β : Type} {host : Host} {s : Session} {between : α → Session → Prop}
  {done : β → Session → Prop} {stopped : Session → Prop}

/-- Begun in the session, the steps end with the first property, or stop the command with the
second one. -/
def Leads (s : Session) (w : Work α) (done : α → Session → Prop) (stopped : Session → Prop) :
    Prop :=
  match w s with
  | .ok a s' => done a s'
  | .error _ s' => stopped s'

theorem Leads.pure {a : α} (h : between a s) : Leads s (pure a) between stopped := h

theorem Leads.bind {w : Work α} {f : α → Work β} (hw : Leads s w between stopped)
    (hf : ∀ a s', between a s' → Leads s' (f a) done stopped) :
    Leads s (w >>= f) done stopped := by
  change match EStateM.bind w f s with
    | .ok b s' => done b s'
    | .error _ s' => stopped s'
  rw [Leads] at hw
  rw [EStateM.bind]
  cases hrun : w s with
  | ok a s' =>
    rw [hrun] at hw
    exact hf a s' hw
  | error e s' =>
    rw [hrun] at hw
    exact hw

theorem Leads.imp {w : Work α} {between' : α → Session → Prop} {stopped' : Session → Prop}
    (h : Leads s w between stopped) (hdone : ∀ a s', between a s' → between' a s')
    (hstopped : ∀ s', stopped s' → stopped' s') : Leads s w between' stopped' := by
  rw [Leads] at h ⊢
  cases hrun : w s with
  | ok a s' =>
    rw [hrun] at h
    exact hdone a s' h
  | error e s' =>
    rw [hrun] at h
    exact hstopped s' h

theorem Leads.ite {c : Prop} [Decidable c] {w w' : Work α} (hw : c → Leads s w between stopped)
    (hw' : ¬c → Leads s w' between stopped) :
    Leads s (if c then w else w') between stopped := by
  by_cases hc : c
  · rw [if_pos hc]
    exact hw hc
  · rw [if_neg hc]
    exact hw' hc

theorem Leads.get_bind {f : Session → Work β} (h : Leads s (f s) done stopped) :
    Leads s (get >>= f) done stopped := h

theorem Leads.entryAt_bind {path : String} {f : FileEntry → Work β}
    (h : Leads s (f (s.files path)) done stopped) :
    Leads s (entryAt path >>= f) done stopped := h

/-! ### Steps that change something -/

theorem leads_tell {lines : List Console.Line} {done : Unit → Session → Prop}
    (h : done () { s with errors := s.errors ++ Console.unlines lines }) :
    Leads s (tell lines) done stopped := h

theorem leads_throw {stop : Stop} (h : stopped s) : Leads s (throw stop) between stopped := h

theorem leads_put {fault : Option String} {text : String} {done : Unit → Session → Prop}
    (hdone : fault = none → done () { s with output := s.output ++ text })
    (hstopped : fault ≠ none → stopped s) : Leads s (put fault text) done stopped := by
  cases fault with
  | none => exact hdone rfl
  | some message => exact hstopped nofun

/-- What is refused is not written, and what is written is written whole. -/
theorem leads_write {path text : String} {done : Unit → Session → Prop}
    (hdone : host.writeError? s.files path = none →
      done () { s with files := s.files.set path (Utf8.encode text.toList) })
    (hstopped : host.writeError? s.files path ≠ none → stopped s) :
    Leads s (write host path text) done stopped := by
  refine Leads.get_bind ?_
  cases herror : host.writeError? s.files path with
  | none => exact hdone herror
  | some e => exact hstopped (by simp [herror])

/-! ### Steps that only look -/

/-- The steps end with what is found and leave the session as it is, or they stop the command with
what is missed, and then no file is changed. -/
def Looks (s : Session) (w : Work α) (found : α → Prop) (missed : Prop) : Prop :=
  Leads s w (fun a s' => s' = s ∧ found a) fun s' => s'.files = s.files ∧ missed

variable {found : α → Prop} {missed : Prop}

theorem Looks.bind_leads {w : Work α} {f : α → Work β} (hw : Looks s w found missed)
    (hf : ∀ a, found a → Leads s (f a) done stopped)
    (hstopped : ∀ s', s'.files = s.files → missed → stopped s') :
    Leads s (w >>= f) done stopped := by
  have hlooked := Leads.imp hw (fun _ _ h => h) fun s' h => hstopped s' h.1 h.2
  refine Leads.bind hlooked ?_
  rintro a s' ⟨rfl, ha⟩
  exact hf a ha

theorem looks_pure {a : α} (h : found a) : Looks s (pure a) found missed := ⟨rfl, h⟩

theorem looks_complain {text : String} (h : missed) :
    Looks s (complain host text) found missed := ⟨rfl, h⟩

/-- All that an attempt can miss is that there is a result. -/
theorem looks_attempt {ε : Type} {x : Except ε α} {f : ε → Report.Trouble} :
    Looks s (attempt (x.mapError f)) (fun a => x = .ok a) (¬∃ a, x = .ok a) := by
  cases x with
  | ok a => exact ⟨rfl, rfl⟩
  | error e => exact ⟨rfl, nofun⟩

end Work

end DomainCompiler
