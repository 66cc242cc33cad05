import DomainCompiler.Text.Blank
import DomainCompiler.Text.Case

/-!
# Spellings of a name

A name is declared in any of the usual spellings (`order_item`, `order-item`, `orderItem`,
`order item`) and used in one: class names in Pascal case, members in camel case, tables in snake
case. `pascal` and `camel` are normal forms: they hold no separator.
-/

namespace DomainCompiler.Naming

open DomainCompiler.Text

def isSeparator (c : Char) : Bool :=
  c == '-' || c == '_' || isBlank c

/--
Drops the separators and puts the character after each run of them in upper case. The first
argument says whether a separator was just passed.
-/
def joinWords : Bool → List Char → List Char
  | _, [] => []
  | opening, c :: rest =>
    if isSeparator c then joinWords true rest
    else (if opening then upperChar c else [c]) ++ joinWords false rest

def capitalize : List Char → List Char
  | [] => []
  | c :: rest => upperChar c ++ rest

def uncapitalize : List Char → List Char
  | [] => []
  | c :: rest => lowerChar c ++ rest

def pascalChars (s : List Char) : List Char :=
  capitalize (joinWords false s)

def camelChars (s : List Char) : List Char :=
  uncapitalize (pascalChars s)

/-- Writes `mark` before every capital letter of ASCII. -/
def markCapitals (mark : Char) : List Char → List Char
  | [] => []
  | c :: rest =>
    if c.isUpper then mark :: c :: markCapitals mark rest else c :: markCapitals mark rest

/--
Writes `mark` for every maximal run of characters of the class. The first argument says whether
the character before belongs to a run.
-/
def collapseRuns (mark : Char) (inClass : Char → Bool) : Bool → List Char → List Char
  | _, [] => []
  | inRun, c :: rest =>
    if inClass c then
      if inRun then collapseRuns mark inClass true rest
      else mark :: collapseRuns mark inClass true rest
    else c :: collapseRuns mark inClass false rest

/-- Drops one leading `mark`. -/
def dropMark (mark : Char) : List Char → List Char
  | [] => []
  | c :: rest => if c == mark then rest else c :: rest

/-- Lower-case words joined by `mark`; runs of the characters in `inClass` become one mark. -/
def markedChars (mark : Char) (inClass : Char → Bool) (s : List Char) : List Char :=
  lower (dropMark mark (collapseRuns mark inClass false (markCapitals mark s)))

def snakeChars : List Char → List Char :=
  markedChars '_' fun c => c == '-' || isBlank c

def kebabChars : List Char → List Char :=
  markedChars '-' fun c => c == '_' || isBlank c

/-- The name as a class is called: `OrderItem`. -/
def pascal (s : String) : String :=
  String.ofList (pascalChars s.toList)

/-- The name as a member is called: `orderItem`. -/
def camel (s : String) : String :=
  String.ofList (camelChars s.toList)

/-- The name as a table is called: `order_item`. -/
def snake (s : String) : String :=
  String.ofList (snakeChars s.toList)

/-- The name with its words joined by hyphens: `order-item`. -/
def kebab (s : String) : String :=
  String.ofList (kebabChars s.toList)

def packagePath (s : String) : String :=
  String.ofList (s.toList.map fun c => if c == '.' then '/' else c)

theorem toList_pascal (s : String) : (pascal s).toList = pascalChars s.toList := by
  simp [pascal]

theorem toList_camel (s : String) : (camel s).toList = camelChars s.toList := by
  simp [camel]

@[simp] theorem joinWords_nil (opening : Bool) : joinWords opening [] = [] := rfl

/-- Separators at the end of a name are dropped, and separators inside open a new word. -/
theorem joinWords_append (s t : List Char) (opening : Bool) :
    joinWords opening (s ++ t) =
      joinWords opening s ++
        joinWords (s.foldl (fun _ c => isSeparator c) opening) t := by
  induction s generalizing opening with
  | nil => rfl
  | cons c rest ih =>
    simp only [List.cons_append, joinWords, List.foldl_cons]
    by_cases h : isSeparator c <;> simp [h, ih, List.append_assoc]

end DomainCompiler.Naming
