import DomainCompiler.Declared.Basic
import DomainCompiler.Naming.Spelling

/-!
# Enums and their state machines
-/

namespace DomainCompiler.Model

/-- Edges of a state machine: from any of the sources to the target. -/
structure Edge where
  sources : List String
  target : String
  deriving DecidableEq, Repr

/-- An enum of an aggregate, or one that a field declares itself. -/
structure EnumType where
  name : String
  values : List String
  /-- Absent where the enum is no state machine. -/
  transitions : Option (List Edge) := none
  initialValue : Option String := none
  deriving DecidableEq, Repr

namespace EnumType

open DomainCompiler.Naming

def resolve (d : Declared.EnumType) : EnumType :=
  { name := pascal d.name
    values := d.values
    transitions := d.transitions.map (·.map fun t => ⟨t.sources, t.target⟩)
    initialValue := d.initialValue }

def inlineOf (fields : List Declared.Field) : List EnumType :=
  fields.filterMap fun f => f.enumValues.map fun values => { name := pascal f.type, values }

def edges (e : EnumType) : List Edge := e.transitions.getD []

def hasTransitions (e : EnumType) : Bool := !e.edges.isEmpty

def find? (name : String) (enums : List EnumType) : Option EnumType :=
  List.find? (fun e => e.name == name) enums

end EnumType

abbrev Adjacency := List (String × List String)

namespace Adjacency

/-- Adds a state without targets, unless it is there. -/
def addState (state : String) : Adjacency → Adjacency
  | [] => [(state, [])]
  | (s, targets) :: rest =>
    if s = state then (s, targets) :: rest else (s, targets) :: addState state rest

/-- Adds a target to a state, unless it is there; a new state goes to the end. -/
def addTarget (source target : String) : Adjacency → Adjacency
  | [] => [(source, [target])]
  | (s, targets) :: rest =>
    if s = source then
      (s, if targets.contains target then targets else targets ++ [target]) :: rest
    else (s, targets) :: addTarget source target rest

def addEdge (m : Adjacency) (e : Edge) : Adjacency :=
  e.sources.foldl (fun m s => addTarget s e.target m) m

def build (edges : List Edge) (values : List String) : Adjacency :=
  edges.foldl addEdge (values.foldl (fun m v => addState v m) [])

/-- The targets of a state, none for a state that is not there. -/
def targets (m : Adjacency) (state : String) : List String :=
  match List.find? (fun e => e.1 == state) m with
  | some e => e.2
  | none => []

def states (m : Adjacency) : List String := m.map (·.1)

end Adjacency

/-- What a field knows of the state machine of its enum. -/
structure StateMachine where
  edges : List Edge
  initialValue : Option String
  adjacency : Adjacency
  values : List String
  deriving DecidableEq, Repr

namespace StateMachine

/-- The state machine of an enum, where it has edges. -/
def ofEnum? (e : EnumType) : Option StateMachine :=
  if e.hasTransitions then
    some
      { edges := e.edges
        initialValue := e.initialValue
        adjacency := Adjacency.build e.edges e.values
        values := e.values }
  else none

def allowedTargets (m : StateMachine) (state : String) : List String :=
  m.adjacency.targets state

end StateMachine

end DomainCompiler.Model
