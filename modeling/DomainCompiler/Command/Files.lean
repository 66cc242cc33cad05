import DomainCompiler.File.Load

/-!
# Files that commands work on

What stands at every path. Writing changes one path only.
-/

namespace DomainCompiler

abbrev Files := String → FileEntry

/-- Why a file cannot be written. -/
inductive WriteError where
  | noDirectory
  | isDirectory
  | parentNotDirectory
  | denied
  | failed (message : String)
  deriving DecidableEq, Repr

namespace Files

/-- Files with the given contents, and the directories that hold them. -/
def ofList (contents : List (String × List UInt8)) : Files := fun path =>
  match contents.lookup path with
  | some bytes => .file bytes
  | none =>
    let inside := path.toList ++ ['/']
    if path == "." || contents.any fun f => inside.isPrefixOf f.1.toList then .directory
    else .absent

def set (files : Files) (path : String) (content : List UInt8) : Files := fun p =>
  if p = path then .file content else files p

def isThere (files : Files) (path : String) : Bool :=
  match files path with
  | .absent => false
  | _ => true

/-- What stands in the way of writing at the path. -/
def writeError? (files : Files) (path : String) : Option WriteError :=
  match files path with
  | .directory => some .isDirectory
  | .file _ => none
  | .absent =>
    let parent := Path.parent path
    match files (if parent.isEmpty then "." else parent) with
    | .directory => none
    | .file _ => some .parentNotDirectory
    | .absent => some .noDirectory

theorem set_same (files : Files) (path : String) (content : List UInt8) :
    files.set path content path = .file content := by
  simp [set]

theorem set_other (files : Files) (path other : String) (content : List UInt8)
    (h : other ≠ path) : files.set path content other = files other := by
  simp [set, h]

end Files

end DomainCompiler
