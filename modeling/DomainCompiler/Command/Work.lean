import DomainCompiler.Command.Files
import DomainCompiler.Report.Trouble

/-!
# The steps of commands

A command looks at files, may write one, and prints, one step after the other. A step that fails
stops the command there: it has no effect itself, and what the steps before it did remains.
-/

namespace DomainCompiler

open DomainCompiler.Console
open DomainCompiler.Report (Trouble say)

/-- What a command runs on, besides the files: the width of the console, and what is refused, with
the message of what is raised then. By default nothing is refused. -/
structure Host where
  width : Nat
  /-- Why a text cannot be put out as it is. -/
  echoFault? : String → Option String := fun _ => none
  /-- Why a text cannot be printed: for markup in it besides that of the message itself, or because
  the output is closed or does not have one of its characters. -/
  printFault? : String → Option String := fun _ => none
  /-- Why nothing is written at a path, although a file may stand there. -/
  writeFault? : String → Option WriteError := fun _ => none

/-- Why nothing can be written at the path: for what stands there and above, or for the host. -/
def Host.writeError? (host : Host) (files : Files) (path : String) : Option WriteError :=
  (files.writeError? path).or (host.writeFault? path)

/-- The files, and what has been printed. -/
structure Session where
  files : Files
  output : String := ""
  /-- What was printed about errors. -/
  errors : String := ""

/-- Why a command stops: with nothing to add to what was printed, or with a trouble. -/
inductive Stop where
  | told
  | trouble (trouble : Trouble)

/-- Steps that end with a result or stop the command. -/
abbrev Work := EStateM Stop Session

namespace Work

variable {α : Type}

def fail (t : Trouble) : Work α :=
  throw (.trouble t)

/-- The result, unless there is a trouble in its place. -/
def attempt : Except Trouble α → Work α
  | .ok a => pure a
  | .error t => fail t

/-- What stands at the path now. -/
def entryAt (path : String) : Work FileEntry :=
  return (← get).files path

/-- Prints about errors; that output takes every text. -/
def tell (lines : List Line) : Work Unit :=
  modify fun s => { s with errors := s.errors ++ unlines lines }

/-- Says why the command stops, and stops it. -/
def complain (host : Host) (text : String) : Work α := do
  tell (say host.width text)
  throw .told

def put (fault : Option String) (text : String) : Work Unit :=
  match fault with
  | some message => fail (.unexpected message)
  | none => modify fun s => { s with output := s.output ++ text }

/-- Puts a text out as it is. -/
def echo (host : Host) (text : String) : Work Unit :=
  put (host.echoFault? text) text

/-- Prints a text with the lines that it takes. -/
def printLines (host : Host) (text : String) (lines : List Line) : Work Unit :=
  put (host.printFault? text) (unlines lines)

def print (host : Host) (text : String) : Work Unit :=
  printLines host text (say host.width text)

def writeTrouble (path : String) : WriteError → Trouble
  | .noDirectory => .fileMissing (some path)
  | .isDirectory => .unexpected ("[Errno 21] Is a directory: " ++ Text.quoted path)
  | .parentNotDirectory => .unexpected ("[Errno 20] Not a directory: " ++ Text.quoted path)
  | .denied => .fileDenied (some path)
  | .failed message => .unexpected message

/-- Writes a text to a file, whole or not at all. -/
def write (host : Host) (path text : String) : Work Unit := do
  match host.writeError? (← get).files path with
  | some e => fail (writeTrouble path e)
  | none => modify fun s => { s with files := s.files.set path (Utf8.encode text.toList) }

end Work

end DomainCompiler
