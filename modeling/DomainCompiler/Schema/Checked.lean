import DomainCompiler.Schema.Problem

/-!
# Checked values

The outcome of reading a value under a schema: what was read, or every problem in order.
Independent parts are read side by side, so that no problem hides another one.
-/

namespace DomainCompiler.Schema

inductive Checked (α : Type) where
  | accepted (value : α)
  | rejected (problems : List Problem)
  deriving Repr

namespace Checked

variable {α β : Type}

def map (f : α → β) : Checked α → Checked β
  | .accepted a => .accepted (f a)
  | .rejected ps => .rejected ps

/-- Both outcomes together; the problems of the first come first. -/
def and (f : Checked (α → β)) (x : Checked α) : Checked β :=
  match f, x with
  | .accepted f, .accepted a => .accepted (f a)
  | .accepted _, .rejected qs => .rejected qs
  | .rejected ps, .accepted _ => .rejected ps
  | .rejected ps, .rejected qs => .rejected (ps ++ qs)

instance : Applicative Checked where
  pure := .accepted
  map := map
  seq f x := and f (x ())

def problems : Checked α → List Problem
  | .accepted _ => []
  | .rejected ps => ps

def value? : Checked α → Option α
  | .accepted a => some a
  | .rejected _ => none

def fail (fault : Fault) : Checked α :=
  .rejected [⟨[], fault⟩]

def under (s : Step) : Checked α → Checked α
  | .accepted a => .accepted a
  | .rejected ps => .rejected (ps.map (Problem.under s))

def withProblems (x : Checked α) : List Problem → Checked α
  | [] => x
  | ps => .rejected (x.problems ++ ps)

def all : List (Checked α) → Checked (List α)
  | [] => .accepted []
  | x :: rest => and (map List.cons x) (all rest)

def andThen (x : Checked α) (f : α → Checked β) : Checked β :=
  match x with
  | .accepted a => f a
  | .rejected ps => .rejected ps

@[simp] theorem problems_accepted (a : α) : problems (.accepted a) = [] := rfl

@[simp] theorem problems_rejected (ps : List Problem) :
    problems (.rejected ps : Checked α) = ps := rfl

theorem problems_and (f : Checked (α → β)) (x : Checked α) :
    (and f x).problems = f.problems ++ x.problems := by
  cases f <;> cases x <;> simp [and]

end Checked

end DomainCompiler.Schema
