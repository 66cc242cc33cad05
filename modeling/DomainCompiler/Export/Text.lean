import DomainCompiler.Export.Plain
import DomainCompiler.Value.Json
import DomainCompiler.Yaml.Writer

/-!
# Models as text

A model is written as YAML or as JSON, both with the same data.
-/

namespace DomainCompiler

inductive ExportFormat where
  | yaml
  | json
  deriving DecidableEq, Repr

namespace ExportFormat

def all : List ExportFormat := [.yaml, .json]

def name : ExportFormat → String
  | .yaml => "yaml"
  | .json => "json"

def ofName? (s : String) : Option ExportFormat :=
  all.find? (·.name == s)

theorem ofName?_name (f : ExportFormat) : ofName? f.name = some f := by
  cases f <;> decide

/-- The text of a value in the format. -/
def write (f : ExportFormat) (v : Value) : Except Unwritable String :=
  match f with
  | .yaml =>
    match v.excess? with
    | some e => .error (.excess e)
    | none => .ok (String.ofList (Yaml.Writer.document (Yaml.Form.ofDocument v)))
  | .json => (Json.render v).map (· ++ "\n")

end ExportFormat

/-- Why a model cannot be written. -/
inductive ExportError where
  | format (name : String)
  | unwritable (what : Unwritable)
  deriving Repr

namespace ExportError

def message : ExportError → String
  | .format name => "Unsupported output format: " ++ name
  | .unwritable what => what.message

end ExportError

/-- The text of a model in the format of the name. -/
def Model.DomainModel.text (m : Model.DomainModel) (format : String) : Except ExportError String :=
  match ExportFormat.ofName? format with
  | some f => (f.write m.plain).mapError .unwritable
  | none => .error (.format format)

end DomainCompiler
