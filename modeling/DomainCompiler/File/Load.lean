import DomainCompiler.Compile
import DomainCompiler.File.Path
import DomainCompiler.Yaml.Document

/-!
# Loading files

A description is loaded from a file that holds a mapping. JSON files are read by the same rules
as YAML files.
-/

namespace DomainCompiler

/-- What stands at a path. -/
inductive FileEntry where
  | absent
  | directory
  | file (content : List UInt8)
  deriving Repr

/-- Why a file holds no description. -/
inductive LoadReason where
  | notFound
  | notFile
  | extension (suffix : String)
  | syntaxError (rule : Yaml.Malformed)
  | empty
  | notMapping (kind : String)
  deriving Repr

inductive LoadError where
  | refused (path : String) (reason : LoadReason)
  /-- The bytes are no text. -/
  | undecodable
  /-- A scalar does not write a value of its type. -/
  | scalar (error : Yaml.ScalarError)
  /-- Collections are inside of each other without end, or too deep. -/
  | endless
  deriving Repr

namespace LoadReason

def message (path : String) : LoadReason → String
  | .notFound => "File not found: " ++ path
  | .notFile => "Not a file: " ++ path
  | .extension suffix =>
    "Unsupported file extension: " ++ suffix ++ ". Use .yaml, .yml, or .json"
  | .syntaxError _ => "YAML parsing error"
  | .empty => "File is empty"
  | .notMapping kind => "Expected dictionary at root level, got " ++ kind

end LoadReason

namespace LoadError

def message : LoadError → String
  | .refused path reason => path ++ ": " ++ reason.message path
  | .undecodable => "'utf-8' codec can't decode the file"
  | .scalar error => error.message
  | .endless => Excess.endless.message

def isRefusal : LoadError → Bool
  | .refused .. => true
  | _ => false

end LoadError

namespace Value

/-- The name of the type of a value. -/
def kindName : Value → String
  | .null => "NoneType"
  | .bool _ => "bool"
  | .int _ => "int"
  | .float _ => "float"
  | .text _ => "str"
  | .date .. => "date"
  | .moment .. => "datetime"
  | .bytes _ => "bytes"
  | .set .. => "set"
  | .list _ => "list"
  | .map _ => "dict"
  | .endless => "list"

end Value

namespace Load

def suffixes : List String := [".yaml", ".yml", ".json"]

/-- The mapping that a text writes. -/
def text (path : String) (s : List Char) : Except LoadError (List (Value × Value)) :=
  match Yaml.Document.ofText (Utf8.withLineFeeds s) with
  | .error (.malformed rule) => .error (.refused path (.syntaxError rule))
  | .error (.scalar e) => .error (.scalar e)
  | .error .endless => .error .endless
  | .ok none => .error (.refused path .empty)
  | .ok (some .null) => .error (.refused path .empty)
  | .ok (some (.map entries)) => .ok entries
  | .ok (some v) => .error (.refused path (.notMapping v.kindName))

/-- The mapping in a file. -/
def file (path : String) (entry : FileEntry) : Except LoadError (List (Value × Value)) :=
  match entry with
  | .absent => .error (.refused path .notFound)
  | .directory => .error (.refused path .notFile)
  | .file bytes =>
    let suffix := Path.suffix path
    if suffixes.contains suffix then
      match Utf8.decode bytes with
      | some s => text path s
      | none => .error .undecodable
    else .error (.refused path (.extension suffix))

def problemTexts (ps : List Schema.Problem) : List String :=
  ps.map fun p => p.dottedPath ++ ": " ++ p.fault.message

/-- What is wrong with the file as a description: why it is refused, or its problems of form. -/
def examine (path : String) (entry : FileEntry) : Except LoadError (List String) :=
  match file path entry with
  | .ok entries => .ok (problemTexts (Declared.Document.read (.map entries)).problems)
  | .error e => if e.isRefusal then .ok [e.message] else .error e

end Load

/-- Why a file gives no model. -/
inductive FileError where
  | load (error : LoadError)
  | compile (error : CompileError)
  deriving Repr

def compileFile (options : Options) (path : String) (entry : FileEntry) :
    Except FileError Compiled := do
  let entries ← (Load.file path entry).mapError .load
  (compile options (.map entries)).mapError .compile

end DomainCompiler
