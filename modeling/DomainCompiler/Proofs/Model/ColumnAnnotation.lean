import DomainCompiler.Model.Field
import DomainCompiler.Proofs.Text.Marks
import Mathlib.Data.List.Infix

/-!
# Which annotation names the column

The annotations of a field are gone through from the front. The first that has the name `@Column` in
it ends the search, whether or not its arguments follow. So what is found is always the first column
with arguments, but an annotation that only has the name, be it as the start of another one, hides
every column behind it.
-/

namespace DomainCompiler.Model

namespace Annotation

/-- The annotation has the name in it, maybe as the start of a longer one. -/
def NamesColumn (a : String) : Prop := "@Column".toList <:+: a.toList

/-- The annotation has a column with arguments in it, closed on the line where they open. -/
def HasArguments (a : String) : Prop :=
  ∃ front arguments rest,
    a.toList = front ++ columnOpening ++ arguments ++ ')' :: rest ∧ '\n' ∉ arguments

/-- The first column with arguments, where there is one. -/
def IsFirstColumn (annotations : List String) : Option String → Prop
  | some a => ∃ front rest,
      annotations = front ++ a :: rest ∧ HasArguments a ∧ ∀ b ∈ front, ¬HasArguments b
  | none => ∀ a ∈ annotations, ¬HasArguments a

/-- The first annotation with the name is bare of arguments, and a column with arguments stands
behind it. -/
inductive HidesColumn : List String → Prop
  | here {b : String} {rest : List String} (hname : NamesColumn b) (hbare : ¬HasArguments b)
    (hbehind : ∃ a ∈ rest, HasArguments a) : HidesColumn (b :: rest)
  | later {b : String} {rest : List String} (hname : ¬NamesColumn b) (h : HidesColumn rest) :
    HidesColumn (b :: rest)

/-! ### Names and arguments in one annotation -/

theorem occurs_iff {word s : List Char} : occurs word s = true ↔ word <:+: s := by
  induction s with
  | nil => rw [occurs, List.isEmpty_iff, List.infix_nil]
  | cons c rest ih =>
    rw [occurs, Bool.or_eq_true, List.isPrefixOf_iff_prefix, ih, List.infix_cons_iff]

/-- Arguments at the front of the text. -/
theorem opensArguments_iff {s : List Char} :
    (columnOpening.isPrefixOf s &&
        ((s.drop columnOpening.length).takeWhile (· != '\n')).contains ')') = true ↔
      ∃ arguments rest, s = columnOpening ++ arguments ++ ')' :: rest ∧ '\n' ∉ arguments := by
  rw [Bool.and_eq_true, List.isPrefixOf_iff_prefix, Text.contains_takeWhile_iff (by decide)]
  constructor
  · rintro ⟨⟨behind, rfl⟩, arguments, rest, hsplit, hend⟩
    rw [List.drop_left] at hsplit
    exact ⟨arguments, rest, by rw [hsplit, List.append_assoc], hend⟩
  · rintro ⟨arguments, rest, rfl, hend⟩
    rw [List.append_assoc, List.drop_left]
    exact ⟨List.prefix_append _ _, arguments, rest, rfl, hend⟩

theorem hasColumnArguments_iff {s : List Char} :
    hasColumnArguments s = true ↔ ∃ front arguments rest,
      s = front ++ columnOpening ++ arguments ++ ')' :: rest ∧ '\n' ∉ arguments := by
  induction s with
  | nil => simp [hasColumnArguments]
  | cons c s ih =>
    rw [hasColumnArguments, Bool.or_eq_true, opensArguments_iff, ih]
    constructor
    · rintro (⟨arguments, rest, hopen, hend⟩ | ⟨front, arguments, rest, rfl, hend⟩)
      · exact ⟨[], arguments, rest, hopen, hend⟩
      · exact ⟨c :: front, arguments, rest, rfl, hend⟩
    · rintro ⟨front, arguments, rest, hsplit, hend⟩
      cases front with
      | nil => exact .inl ⟨arguments, rest, hsplit, hend⟩
      | cons x front =>
        obtain ⟨-, hrest⟩ := List.cons.inj hsplit
        exact .inr ⟨front, arguments, rest, hrest, hend⟩

theorem HasArguments.iff {a : String} : HasArguments a ↔ hasColumnArguments a.toList = true :=
  hasColumnArguments_iff.symm

theorem NamesColumn.iff {a : String} :
    NamesColumn a ↔ occurs "@Column".toList a.toList = true :=
  occurs_iff.symm

instance (a : String) : Decidable (HasArguments a) := decidable_of_iff _ HasArguments.iff.symm

instance (a : String) : Decidable (NamesColumn a) := decidable_of_iff _ NamesColumn.iff.symm

theorem HasArguments.namesColumn {a : String} (h : HasArguments a) : NamesColumn a := by
  obtain ⟨front, arguments, rest, ha, -⟩ := h
  refine ⟨front, '(' :: (arguments ++ ')' :: rest), ?_⟩
  have hopening : columnOpening = "@Column".toList ++ ['('] := by decide +kernel
  rw [ha, hopening]
  simp only [List.append_assoc, List.cons_append, List.nil_append]

/-! ### The search -/

theorem isFirstColumn_iff {annotations : List String} {found : Option String} :
    IsFirstColumn annotations found ↔ annotations.find? (HasArguments ·) = found := by
  cases found with
  | none => simp [IsFirstColumn, List.find?_eq_none]
  | some a =>
    rw [IsFirstColumn, List.find?_eq_some_iff_append]
    simp only [decide_eq_true_eq, Bool.not_eq_true', decide_eq_false_iff_not]
    constructor
    · rintro ⟨front, rest, hsplit, ha, hfront⟩
      exact ⟨ha, front, rest, hsplit, hfront⟩
    · rintro ⟨ha, front, rest, hsplit, hfront⟩
      exact ⟨front, rest, hsplit, ha, hfront⟩

theorem column?_cons (b : String) (rest : List String) :
    column? (b :: rest) =
      if NamesColumn b then if HasArguments b then some b else none else column? rest := by
  simp only [column?, List.find?_cons, NamesColumn.iff, HasArguments.iff]
  cases occurs "@Column".toList b.toList with
  | true => rfl
  | false => rfl

/-- What is found has arguments, and no annotation in front of it has the name. -/
theorem column?_eq_some_iff {annotations : List String} {a : String} :
    column? annotations = some a ↔ ∃ front rest,
      annotations = front ++ a :: rest ∧ HasArguments a ∧ ∀ b ∈ front, ¬NamesColumn b := by
  induction annotations with
  | nil => simp [column?]
  | cons b annotations ih =>
    rw [column?_cons]
    constructor
    · intro hfound
      split at hfound
      · split at hfound
        · next hargs =>
          obtain rfl := Option.some.inj hfound
          exact ⟨[], annotations, rfl, hargs, List.forall_mem_nil _⟩
        · cases hfound
      · next hname =>
        obtain ⟨front, rest, rfl, ha, hfront⟩ := ih.mp hfound
        exact ⟨b :: front, rest, rfl, ha, List.forall_mem_cons.mpr ⟨hname, hfront⟩⟩
    · rintro ⟨front, rest, hsplit, ha, hfront⟩
      cases front with
      | nil =>
        obtain ⟨rfl, -⟩ := List.cons.inj hsplit
        rw [if_pos ha.namesColumn, if_pos ha]
      | cons x front =>
        obtain ⟨rfl, hrest⟩ := List.cons.inj hsplit
        obtain ⟨hx, hfront⟩ := List.forall_mem_cons.mp hfront
        rw [if_neg hx]
        exact ih.mpr ⟨front, rest, hrest, ha, hfront⟩

theorem isFirstColumn_column?_iff {annotations : List String} :
    IsFirstColumn annotations (column? annotations) ↔ ¬HidesColumn annotations := by
  rw [isFirstColumn_iff]
  induction annotations with
  | nil => exact iff_of_true rfl nofun
  | cons b rest ih =>
    rw [column?_cons, List.find?_cons]
    by_cases hargs : HasArguments b
    · -- The search ends with the right answer.
      rw [if_pos hargs.namesColumn, if_pos hargs, decide_eq_true hargs]
      refine iff_of_true rfl fun hhides => ?_
      cases hhides with
      | here _ hbare _ => exact hbare hargs
      | later hname _ => exact hname hargs.namesColumn
    · rw [decide_eq_false hargs, if_neg hargs]
      by_cases hname : NamesColumn b
      · -- The search ends without an answer.
        rw [if_pos hname, List.find?_eq_none]
        constructor
        · intro hnone hhides
          cases hhides with
          | here _ _ hbehind =>
            obtain ⟨a, ha, hargs⟩ := hbehind
            exact hnone a ha (decide_eq_true hargs)
          | later hname' _ => exact hname' hname
        · intro hshows a ha hargs'
          exact hshows (.here hname hargs ⟨a, ha, of_decide_eq_true hargs'⟩)
      · rw [if_neg hname, ih]
        refine not_congr ⟨fun h => .later hname h, fun hhides => ?_⟩
        cases hhides with
        | here hname' _ _ => exact absurd hname' hname
        | later _ h => exact h

/-- How the annotation that is found relates to all annotations of the field. -/
structure FindsColumn (annotations : List String) (found : Option String) : Prop where
  eq_some_iff (a : String) : found = some a ↔ ∃ front rest,
    annotations = front ++ a :: rest ∧ HasArguments a ∧ ∀ b ∈ front, ¬NamesColumn b
  isFirstColumn_iff : IsFirstColumn annotations found ↔ ¬HidesColumn annotations

end Annotation

/-- The column annotation of a field has arguments and comes first among those with the name. It is
the first column with arguments, and there is none only where there is no such column, for exactly
the fields in which no bare name hides one. -/
theorem findsColumn_resolve (valueObjects : List String) (enums : List EnumType) (suffix : String)
    (synthetic : Bool) (d : Declared.Field) :
    Annotation.FindsColumn d.annotations
      (Field.columnAnnotation (Field.resolve valueObjects enums suffix synthetic d)) :=
  ⟨fun _ => Annotation.column?_eq_some_iff, Annotation.isFirstColumn_column?_iff⟩

/-- A field whose column has a default. -/
def fieldWithDefault : Declared.Field :=
  { name := "status"
    type := "String"
    annotations := ["@ColumnDefault(\"'new'\")", "@Column(name = \"state\", length = 16)"] }

theorem not_isFirstColumn_fieldWithDefault :
    ¬ Annotation.IsFirstColumn fieldWithDefault.annotations
      (Field.columnAnnotation (Field.resolve [] [] "Jpa" false fieldWithDefault)) := by
  refine Annotation.isFirstColumn_iff.not.mpr ?_
  decide +kernel

end DomainCompiler.Model
