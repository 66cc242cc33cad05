/-!
# Ascending lists of names

Sets of names, written as lists that ascend by code points and repeat nothing.
-/

namespace DomainCompiler.NameSet

/-- Adds a name at its place, unless it is there. -/
def insert (s : String) : List String → List String
  | [] => [s]
  | t :: rest =>
    if s = t then t :: rest
    else if s < t then s :: t :: rest
    else t :: insert s rest

def ofList (names : List String) : List String :=
  names.foldl (fun set s => insert s set) []

theorem mem_insert (s x : String) (set : List String) : x ∈ insert s set ↔ x = s ∨ x ∈ set := by
  induction set with
  | nil => simp [insert]
  | cons t rest ih =>
    unfold insert
    split
    · next h => subst h; simp
    · split
      · simp
      · simp only [List.mem_cons, ih]
        constructor
        · rintro (h | h | h) <;> simp [h]
        · rintro (h | h | h) <;> simp [h]

private theorem mem_foldl_insert (x : String) (names set : List String) :
    x ∈ names.foldl (fun set s => insert s set) set ↔ x ∈ names ∨ x ∈ set := by
  induction names generalizing set with
  | nil => simp
  | cons s rest ih =>
    simp only [List.foldl_cons, ih, mem_insert, List.mem_cons]
    constructor
    · rintro (h | h | h) <;> simp [h]
    · rintro ((h | h) | h) <;> simp [h]

theorem mem_ofList (x : String) (names : List String) : x ∈ ofList names ↔ x ∈ names := by
  simp [ofList, mem_foldl_insert]

end DomainCompiler.NameSet
