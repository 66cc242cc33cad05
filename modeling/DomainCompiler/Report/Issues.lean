import DomainCompiler.Console.Panel
import DomainCompiler.Console.Table
import DomainCompiler.Console.Tree
import DomainCompiler.Issue.Basic
import DomainCompiler.Text.NameSet

/-!
# Reports of issues

The issues of a description as text with a summary in front, as a table, or as a tree by
aggregate.
-/

namespace DomainCompiler.Report

open DomainCompiler.Console

inductive Style where
  | text
  | table
  | tree
  deriving DecidableEq, Repr

/-- The style of a name; every other name stands for text. -/
def Style.ofName : String → Style
  | "table" => .table
  | "tree" => .tree
  | _ => .text

def say (width : Nat) (s : String) : List Line :=
  wrap width .fold s

def number (n : Nat) : String := Decimal.ofInt n

/-- The panel in front of the issues. -/
def summary (source : Option String) (f : Findings) : Panel :=
  let errors := f.errors.length
  let warnings := f.warnings.length
  let file := match source with
    | some path => "File: " ++ path ++ "\n"
    | none => ""
  let counts :=
    (if errors = 0 then [] else ["Errors: " ++ number errors]) ++
      (if warnings = 0 then [] else ["Warnings: " ++ number warnings])
  { title := if errors = 0 then "Validation Warnings" else "Validation Failed"
    content := file ++ "  ".intercalate counts }

/-- An issue with its place and its suggestion, and an empty line behind them. -/
def issueLines (width : Nat) (i : Issue) : List Line :=
  say width (i.severity.label ++ " [" ++ i.code ++ "] " ++ i.message) ++
    (match i.location with
      | some l => say width ("  at " ++ l.text)
      | none => []) ++
    (match i.hint with
      | some s => say width ("  💡 " ++ s)
      | none => []) ++
    [[]]

/-- How many errors and warnings there are. -/
def closing (f : Findings) : String :=
  let errors := f.errors.length
  let warnings := f.warnings.length
  ", ".intercalate <|
    (if errors = 0 then [] else ["✗ " ++ number errors ++ " error(s)"]) ++
      (if warnings = 0 then [] else [number warnings ++ " warning(s)"])

/-- The errors and then the warnings, between a summary and a count. -/
def textLines (width : Nat) (source : Option String) (f : Findings) : List Line :=
  if f.errors.isEmpty && f.warnings.isEmpty then say width "✓ Validation passed"
  else
    (summary source f).lines width ++ [[]] ++ f.errors.flatMap (issueLines width) ++
      f.warnings.flatMap (issueLines width) ++ say width (closing f)

/-- All issues in a table. -/
def table (f : Findings) : Table :=
  { title := "Validation Issues"
    columns := [⟨"Code", some 6⟩, ⟨"Severity", some 8⟩, ⟨"Location", none⟩, ⟨"Message", none⟩]
    rows := f.map fun i =>
      [i.code, i.severity.label, (i.location.map Location.text).getD "-", i.message] }

/-- The aggregate that an issue is about, or the word for the whole document. -/
def sectionOf (i : Issue) : String :=
  match i.location with
  | none => "document"
  | some l =>
    match l.path.toList.splitOn '.' with
    | first :: second :: _ =>
      if first == "aggregates".toList then String.ofList second else "document"
    | _ => "document"

/-- All issues below the names of their aggregates, which ascend. -/
def tree (f : Findings) : Tree :=
  .node "Validation Issues" <|
    (NameSet.ofList (f.map sectionOf)).map fun name =>
      let own := f.filter fun i => sectionOf i == name
      .node (name ++ " (" ++ number own.length ++ " issues)")
        (own.map fun i => Tree.leaf (i.code ++ " " ++ i.message))

/-- The issues in a style. -/
def lines (style : Style) (width : Nat) (source : Option String) (f : Findings) : List Line :=
  match style with
  | .text => textLines width source f
  | .table => (table f).lines width
  | .tree => (tree f).lines width

end DomainCompiler.Report
