import DomainCompiler.Text.Case

/-!
# Paths

Paths have parts between slashes. Empty parts and single points do not count.
-/

namespace DomainCompiler.Path

def parts (s : List Char) : List (List Char) :=
  (s.splitOn '/').filter fun p => !p.isEmpty && p != ['.']

/-- The path written with the parts that count alone. -/
def normal (path : String) : String :=
  let s := path.toList
  let body := ['/'].intercalate (parts s)
  let whole := if s.head? == some '/' then '/' :: body else body
  if whole.isEmpty then "." else String.ofList whole

def lastPart (path : String) : List Char :=
  ((parts path.toList).getLast?).getD []

def name (path : String) : String :=
  String.ofList (lastPart path)

/-- What stands behind the last point of a name, with the point; nothing where the point is the
first or the last character. -/
def suffixOf (name : List Char) : List Char :=
  let behind := (name.reverse.takeWhile (· != '.')).reverse
  let front := name.length - behind.length
  if behind.isEmpty || front ≤ 1 then [] else '.' :: behind

def suffix (path : String) : String :=
  String.ofList (Text.lower (suffixOf (lastPart path)))

/-- The path of the directory that holds the file. -/
def parent (path : String) : String :=
  let s := path.toList
  let body := ['/'].intercalate (parts s).dropLast
  String.ofList (if s.head? == some '/' then '/' :: body else body)

end DomainCompiler.Path
