import DomainCompiler.Schema.Problem
import DomainCompiler.Value.Basic

/-!
# Issues

What is found wrong with a description, in the form in which it is reported. A description with
errors cannot be compiled; warnings only stop a strict compilation.
-/

namespace DomainCompiler

inductive Severity where
  | error
  | warning
  | info
  deriving DecidableEq, Repr

namespace Severity

def name : Severity → String
  | .error => "error"
  | .warning => "warning"
  | .info => "info"

def label : Severity → String
  | .error => "ERROR"
  | .warning => "WARNING"
  | .info => "INFO"

def ofName? : String → Option Severity
  | "error" => some .error
  | "warning" => some .warning
  | "info" => some .info
  | _ => none

theorem ofName?_name (s : Severity) : ofName? s.name = some s := by
  cases s <;> rfl

end Severity

/-- A place in a description, by dotted path and perhaps by line and column. -/
structure Location where
  path : String
  line : Option Int := none
  column : Option Int := none
  deriving DecidableEq, Repr

namespace Location

def text (l : Location) : String :=
  match l.line, l.column with
  | some line, some column =>
    l.path ++ " (line " ++ Decimal.ofInt line ++ ", col " ++ Decimal.ofInt column ++ ")"
  | some line, none => l.path ++ " (line " ++ Decimal.ofInt line ++ ")"
  | none, _ => l.path

end Location

structure Issue where
  code : String
  message : String
  severity : Severity
  location : Option Location := none
  suggestion : Option String := none
  /-- Further data for tools, by name. -/
  context : List (String × Value) := []
  deriving Repr

namespace Issue

def error (code message path : String) (suggestion : Option String)
    (context : List (String × Value) := []) : Issue :=
  { code, message, severity := .error, location := some { path }, suggestion, context }

def warning (code message path : String) (suggestion : Option String)
    (context : List (String × Value) := []) : Issue :=
  { code, message, severity := .warning, location := some { path }, suggestion, context }

def isError (i : Issue) : Bool := i.severity == .error

def isWarning (i : Issue) : Bool := i.severity == .warning

def hint (i : Issue) : Option String :=
  i.suggestion.filter (!·.isEmpty)

/-- The issue on one line. -/
def text (i : Issue) : String :=
  "[" ++ i.code ++ "] " ++ i.severity.label ++ " " ++ i.message ++
    (match i.location with
      | some l => " at " ++ l.text
      | none => "") ++
    (match i.hint with
      | some s => " (hint: " ++ s ++ ")"
      | none => "")

end Issue

/-- The issues of one examination, in the order in which they were found. -/
abbrev Findings := List Issue

namespace Findings

def errors (f : Findings) : List Issue := f.filter Issue.isError

def warnings (f : Findings) : List Issue := f.filter Issue.isWarning

def isValid (f : Findings) : Bool := !f.any Issue.isError

theorem isValid_iff (f : Findings) : isValid f = true ↔ errors f = [] := by
  simp [isValid, errors, List.filter_eq_nil_iff]

end Findings

/-- Why a description cannot be compiled. -/
structure Failure where
  findings : Findings
  /-- A single declaration is unusable. -/
  configuration : Bool := false
  /-- The problems of form behind the findings, when there are any. -/
  problems : List Schema.Problem := []
  deriving Repr

namespace Failure

def single (i : Issue) : Failure := { findings := [i] }

def listing (f : Findings) : String :=
  "\n".intercalate
    (f.errors.map (fun i => "ERROR: " ++ i.text) ++ f.warnings.map fun i => "WARNING: " ++ i.text)

def counts (f : Findings) : List String :=
  (if f.errors.isEmpty then [] else [Decimal.ofInt f.errors.length ++ " error(s)"]) ++
    (if f.warnings.isEmpty then [] else [Decimal.ofInt f.warnings.length ++ " warning(s)"])

def message (f : Failure) : String :=
  "Structural validation failed: " ++ ", ".intercalate (counts f.findings) ++
    (if f.findings.isEmpty then "" else "\n" ++ listing f.findings)

def errorTexts (f : Failure) : List String :=
  f.findings.errors.map Issue.text

end Failure

end DomainCompiler
