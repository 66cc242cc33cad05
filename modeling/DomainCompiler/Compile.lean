import DomainCompiler.Check.Rules
import DomainCompiler.Declared.Excess
import DomainCompiler.Declared.Schema
import DomainCompiler.Model.Aggregate

/-!
# Compiling a description

A value is read under the schema, the rules are checked, and what passes is resolved. A
description that is not accepted gives no model.
-/

namespace DomainCompiler

open DomainCompiler.Declared (Document)

def missingAggregates : Failure :=
  .single <| .error "E301" "Invalid domain document: missing 'aggregates' array" "aggregates"
    (some "Add a top-level 'aggregates:' list")

def schemaIssue (p : Schema.Problem) : Issue :=
  .error "E300" p.fault.message p.dottedPath none [("error_type", .text p.fault.code)]

/-- Whether the value is a mapping with a list of aggregates. -/
def hasAggregates : Value → Bool
  | .map entries =>
    match Value.entry? "aggregates" entries with
    | some (.list _) => true
    | _ => false
  | _ => false

/-- Reads a description. -/
def parseDocument (v : Value) : Except Failure Document :=
  if hasAggregates v then
    match Document.read v with
    | .accepted d => .ok d
    | .rejected ps => .error { findings := ps.map schemaIssue, problems := ps }
  else .error missingAggregates

/-- A model and the warnings that it was compiled with. -/
structure Compiled where
  model : Model.DomainModel
  warnings : List Issue
  deriving Repr

/-- Why a description gives no model. -/
inductive CompileError where
  /-- It is not accepted. -/
  | failure (failure : Failure)
  /-- It is accepted, but what the model writes of it has no written form. -/
  | excess (excess : Excess)
  deriving Repr

def resolveDocument (options : Options) (d : Document) : Except CompileError Model.DomainModel :=
  match d.excess? with
  | some e => .error (.excess e)
  | none => (Model.DomainModel.resolve options d).mapError fun e => .failure e.failure

def compileDocument (options : Options) (d : Document) : Except CompileError Compiled := do
  let found ← (Check.accept options.strict d).mapError .failure
  let model ← resolveDocument options d
  return { model, warnings := found.warnings }

def compile (options : Options) (v : Value) : Except CompileError Compiled := do
  compileDocument options (← (parseDocument v).mapError .failure)

end DomainCompiler
