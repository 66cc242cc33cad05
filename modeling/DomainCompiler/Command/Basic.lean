import DomainCompiler.Command.Work
import DomainCompiler.Export.Text

/-!
# Commands

What each command does with the files, step by step: what it looks at, what it writes and prints,
and how it ends.
-/

namespace DomainCompiler

open DomainCompiler.Console
open DomainCompiler.Report (Trouble Style number)

structure ValidateArgs where
  file : String
  format : String := "text"
  quiet : Bool := false
  strict : Bool := false

structure CompileArgs where
  file : String
  package : String := ""
  module : String := ""
  format : String := "yaml"
  output : Option String := none
  force : Bool := false
  strict : Bool := false

def CompileArgs.options (a : CompileArgs) : Options :=
  { packageName := a.package, moduleName := a.module, strict := a.strict }

inductive Command where
  | validate (args : ValidateArgs)
  | compile (args : CompileArgs)
  | info (file : String)
  | version

/-- How a command ended. -/
structure Outcome where
  exit : Nat
  /-- What was printed. -/
  output : String
  /-- What was printed about errors. -/
  errors : String
  files : Files

namespace Command

def versionText : String := "0.1.0"

def loadTrouble (e : LoadError) : Trouble :=
  if e.isRefusal then .load e.message none else .unexpected e.message

def fileTrouble : FileError → Trouble
  | .load e => loadTrouble e
  | .compile (.failure f) => .failure f
  | .compile (.excess e) => .unexpected e.message

/-- The description in a file as it stands there now. -/
def description (file : String) : Work Declared.Document := do
  let path := Path.normal file
  let entries ← Work.attempt ((Load.file path (← Work.entryAt path)).mapError loadTrouble)
  Work.attempt ((parseDocument (.map entries)).mapError .failure)

def reportFindings (host : Host) (a : ValidateArgs) (found : Findings) : Work Unit :=
  if !found.isValid || !found.warnings.isEmpty then
    Work.tell (Report.lines (Style.ofName a.format) host.width (some (Path.normal a.file)) found)
  else pure ()

/-- What is printed of a file that passes. -/
def verdict (file : String) (found : Findings) : String :=
  if found.warnings.isEmpty then "\n✓ " ++ Path.name (Path.normal file) ++ " is valid\n"
  else "\n⚠ " ++ Path.name (Path.normal file) ++ " is valid with warnings\n"

/-- Checks a file and reports the issues. -/
def runValidate (host : Host) (a : ValidateArgs) : Work Unit := do
  let found : Findings := Check.examine (← description a.file)
  reportFindings host a found
  if !found.isValid || (a.strict && !found.warnings.isEmpty) then throw .told
  else if a.quiet then pure ()
  else Work.print host (verdict a.file found)

/-- What is printed when a model has been written. -/
def confirmation (c : Compiled) (path : String) : String :=
  "\n✓ Wrote " ++ number c.model.aggregates.length ++ " aggregate(s) to " ++ path ++ "\n"

/-- Stops where there is no such format. -/
def checkFormat (host : Host) (format : String) : Work Unit :=
  if (ExportFormat.ofName? format).isNone then
    Work.complain host ("\n✗ Invalid format: " ++ format ++ "\nSupported: " ++
      ", ".intercalate (ExportFormat.all.map ExportFormat.name))
  else pure ()

/-- Stops where something stands at the output that is not to be replaced. -/
def checkOutput (host : Host) (output : String) (force : Bool) : Work Unit := do
  if (← get).files.isThere output && !force then
    Work.complain host ("\n✗ Output file already exists: " ++ output ++
      "\nUse --force to overwrite.")

/-- The model of the input as it stands there now, and its text. -/
def compiledText (a : CompileArgs) : Work (Compiled × String) := do
  let path := Path.normal a.file
  let c ← Work.attempt ((compileFile a.options path (← Work.entryAt path)).mapError fileTrouble)
  let text ← Work.attempt ((c.model.text a.format).mapError fun e => .unexpected e.message)
  return (c, text)

/-- Compiles a file, and writes the model to another one or puts it out. What may stop it comes
before the file is written, but for the confirmation, which is printed at the end. -/
def runCompile (host : Host) (a : CompileArgs) : Work Unit := do
  checkFormat host a.format
  match a.output.map Path.normal with
  | none =>
    let (_, text) ← compiledText a
    Work.echo host text
  | some output =>
    checkOutput host output a.force
    let (c, text) ← compiledText a
    Work.write host output text
    Work.print host (confirmation c output)

def relationshipLabel (r : Model.Relationship) : String :=
  r.kind.name ++ " " ++ r.fieldName ++ " -> " ++ r.target ++
    (if r.isInverse then " inverse" else "")

def entityTree (e : Model.Entity) : Tree :=
  .node (e.name ++ " (" ++ e.tableName ++ ")" ++ (if e.isRoot then " root" else ""))
    (Tree.leaf (number e.fields.length ++ " field(s)") ::
      e.relationships.map fun r => Tree.leaf (relationshipLabel r))

def methodLabel (m : Model.Method) : String :=
  m.returnType ++ " " ++ m.name ++ "(" ++
    ", ".intercalate (m.parameters.map fun p => p.type ++ " " ++ p.name) ++ ")"

def aggregateTree (a : Model.Aggregate) : Tree :=
  .node a.name <|
    a.allEntities.map entityTree ++
      a.valueObjects.map (fun v =>
        Tree.leaf (v.name ++ " value object, " ++ number v.fields.length ++ " field(s)")) ++
      a.enums.map (fun e =>
        Tree.leaf (e.name ++ " enum, " ++ number e.values.length ++ " value(s)")) ++
      if a.methods.isEmpty then []
      else [.node "Root methods" (a.methods.map fun m => Tree.leaf (methodLabel m))]

/-- A model as a tree: its aggregates, and all its enums. -/
def modelTree (m : Model.DomainModel) : Tree :=
  .node "Aggregates" <|
    m.aggregates.map aggregateTree ++
      if m.allEnums.isEmpty then []
      else
        [.node "Enum registry" (m.allEnums.map fun e =>
          Tree.leaf (e.name ++ " " ++ ", ".intercalate e.values))]

/-- Shows what a file describes. -/
def runInfo (host : Host) (file : String) : Work Unit := do
  let path := Path.normal file
  let c ← Work.attempt ((compileFile {} path (← Work.entryAt path)).mapError fileTrouble)
  let panel : Panel :=
    { title := "File Info", content := "Domain Description\nFile: " ++ path, fit := true }
  Work.printLines host panel.content (panel.lines host.width)
  let lines := (modelTree c.model).lines host.width
  Work.printLines host (unlines lines) lines

/-- The work of a command. -/
def work (host : Host) : Command → Work Unit
  | .validate a => runValidate host a
  | .compile a => runCompile host a
  | .info file => runInfo host file
  | .version => Work.print host ("yaml-to-domain version " ++ versionText)

def stopLines (width : Nat) : Stop → List Line
  | .told => []
  | .trouble t => t.lines false width

/-- Runs a command on the files. -/
def runOn (host : Host) (files : Files) (c : Command) : Outcome :=
  match c.work host { files } with
  | .ok _ s => ⟨0, s.output, s.errors, s.files⟩
  | .error stop s => ⟨1, s.output, s.errors ++ unlines (stopLines host.width stop), s.files⟩

/-- Runs a command where nothing is refused. -/
def run (width : Nat) (files : Files) (c : Command) : Outcome :=
  runOn { width } files c

end Command

end DomainCompiler
