import DomainCompiler.Report.Issues

/-!
# Reports of what ends a command

A command that cannot do its work says why in the form that fits the cause.
-/

namespace DomainCompiler.Report

open DomainCompiler.Console

/-- What a command ends with instead of its work. -/
inductive Trouble where
  /-- The description is not accepted. -/
  | failure (failure : Failure)
  /-- A file is no description; there may be something behind the message. -/
  | load (message : String) (cause : Option String)
  /-- A value has not the form of a description. -/
  | schema (problems : List Schema.Problem)
  | fileMissing (name : Option String)
  | fileDenied (name : Option String)
  | unexpected (message : String)

namespace Trouble

def fileName (name : Option String) : String :=
  (name.filter (!·.isEmpty)).getD "unknown"

/-- A problem of form: its place, what is wrong, its code and advice. -/
def problemLines (width : Nat) (p : Schema.Problem) : List Line :=
  let r := p.report
  say width ("✗ " ++ r.location) ++ say width ("  " ++ r.explanation) ++
    say width ("  (" ++ p.fault.code ++ ")") ++
    (match r.suggestion with
      | some s => say width ("  💡 " ++ s)
      | none => []) ++
    [[]]

def schemaLines (width : Nat) (ps : List Schema.Problem) : List Line :=
  say width "Schema Validation Failed" ++ [[]] ++ ps.flatMap (problemLines width)

/-- The lines that tell the trouble; a verbose report also tells what is behind it. -/
def lines (verbose : Bool) (width : Nat) : Trouble → List Line
  | .failure f =>
    if f.problems.isEmpty then textLines width none f.findings else schemaLines width f.problems
  | .load message cause =>
    Panel.lines width { title := "Load Error", content := message } ++
      match verbose, cause with
      | true, some c => say width c
      | _, _ => []
  | .schema ps => schemaLines width ps
  | .fileMissing name =>
    Panel.lines width
      { title := "Error"
        content := "File not found: " ++ fileName name ++
          "\n\nPlease check that the file path is correct." }
  | .fileDenied name =>
    Panel.lines width
      { title := "Error"
        content := "Permission denied: " ++ fileName name ++
          "\n\nCheck file permissions and try again." }
  | .unexpected message =>
    Panel.lines width
      { title := "Error", content := "An unexpected error occurred:\n" ++ message } ++
      say width "\nUse --verbose for full traceback"

end Trouble

end DomainCompiler.Report
