import DomainCompiler.Command.Arguments

/-!
# The program

Reads the files that a command looks at, runs the command, prints what it says and writes what it
wrote.
-/

open DomainCompiler

/-- What stands at a path; what cannot be read as a file counts as a directory. -/
def readEntry (path : String) : IO FileEntry := do
  try
    return .file (← IO.FS.readBinFile path).toList
  catch
    | .noFileOrDirectory .. => return .absent
    | _ => return .directory

def readFiles (paths : List String) : IO Files := do
  let entries ← paths.mapM fun p => return (p, ← readEntry p)
  return fun p => (entries.lookup p).getD .absent

def runCommand (c : Command) : IO UInt32 := do
  let width := ((← IO.getEnv "COLUMNS").bind String.toNat?).getD 80
  let outcome := c.run width (← readFiles c.paths)
  if outcome.exit = 0 then
    if let some path := c.target? then
      if let .file bytes := outcome.files path then
        IO.FS.writeBinFile path ⟨bytes.toArray⟩
  IO.print outcome.output
  IO.eprint outcome.errors
  return UInt32.ofNat outcome.exit

def main (arguments : List String) : IO UInt32 := do
  match Arguments.command arguments with
  | .ok c => runCommand c
  | .error e =>
    IO.eprintln ("Error: " ++ e.message)
    return 2
