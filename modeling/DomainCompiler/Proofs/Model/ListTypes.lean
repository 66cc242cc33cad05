import DomainCompiler.Proofs.Model.ValueObjects

/-!
# Types of lists

Whether a declared type is a list is seen from its text alone: brackets need not match inside of it,
and only one line end may stand behind it. Lists are taken off one after the other as long as there
are any, and what is found is written as it was.
-/

namespace DomainCompiler.Model

open DomainCompiler.Naming

/-! ### Texts -/

/-- The text of a list, and what stands in it: something, on one line. -/
def ListOf (text inner : String) : Prop :=
  text = "List<" ++ inner ++ ">" ∧ inner ≠ "" ∧ '\n' ∉ inner.toList

/-- So many lists can be taken off, and the rest is left. -/
inductive Peels : Nat → String → String → Prop
  | done (text : String) : Peels 0 text text
  | list {n : Nat} {text inner rest : String} (h : ListOf text inner) (hrest : Peels n inner rest) :
    Peels (n + 1) text rest

/-- The text with one line end less, where one stands at its end. -/
def WithoutLineEnd (declared text : String) : Prop :=
  declared = text ++ "\n" ∨ text = declared ∧ ∀ front, declared ≠ front ++ "\n"

/-! ### Line ends -/

theorem dropLineEnd_append (s : List Char) : dropLineEnd (s ++ ['\n']) = s := by
  rw [dropLineEnd, List.reverse_append]
  exact List.reverse_reverse s

theorem dropLineEnd_eq_self {s : List Char} (h : ∀ front, s ≠ front ++ ['\n']) :
    dropLineEnd s = s := by
  rw [dropLineEnd]
  split
  · next rest heq =>
    refine absurd ?_ (h rest.reverse)
    rw [← List.reverse_inj, heq]
    simp
  · rfl

theorem eq_append_lineEnd_iff {text front : String} :
    text = front ++ "\n" ↔ text.toList = front.toList ++ ['\n'] := by
  rw [← String.toList_inj, String.toList_append]
  rfl

theorem WithoutLineEnd.dropLineEnd {declared text : String} (h : WithoutLineEnd declared text) :
    dropLineEnd declared.toList = text.toList := by
  obtain h | ⟨rfl, h⟩ := h
  · rw [eq_append_lineEnd_iff.mp h, dropLineEnd_append]
  · refine dropLineEnd_eq_self fun front hfront => h (String.ofList front) ?_
    rw [eq_append_lineEnd_iff, String.toList_ofList, hfront]

theorem exists_withoutLineEnd (declared : String) : ∃ text, WithoutLineEnd declared text := by
  by_cases h : ∃ front, declared = front ++ "\n"
  · exact ⟨h.choose, .inl h.choose_spec⟩
  · exact ⟨declared, .inr ⟨rfl, fun front hfront => h ⟨front, hfront⟩⟩⟩

theorem withoutLineEnd_self {text : String} (h : '\n' ∉ text.toList) :
    WithoutLineEnd text text := by
  refine .inr ⟨rfl, fun front hfront => h ?_⟩
  rw [eq_append_lineEnd_iff.mp hfront]
  exact List.mem_append_right _ List.mem_cons_self

/-! ### Lists -/

theorem listOf_iff {text inner : String} :
    ListOf text inner ↔ text.toList = listOpening ++ inner.toList ++ ['>'] ∧
      inner.toList ≠ [] ∧ '\n' ∉ inner.toList := by
  rw [ListOf, ← String.toList_inj, String.toList_append, String.toList_append, ne_eq, ne_eq,
    String.toList_eq_nil_iff]
  rfl

/-- A list is recognised by what stands around its elements. -/
theorem listElement?_eq_some_iff {s inner : List Char} :
    listElement? s = some inner ↔
      dropLineEnd s = listOpening ++ inner ++ ['>'] ∧ inner ≠ [] ∧ '\n' ∉ inner := by
  rw [listElement?]
  generalize dropLineEnd s = body
  rw [Option.ite_none_right_eq_some, Option.some_inj]
  simp only [Bool.and_eq_true, List.isPrefixOf_iff_prefix, beq_iff_eq, Bool.not_eq_true',
    List.isEmpty_eq_false_iff, List.contains_eq_mem, decide_eq_false_iff_not]
  constructor
  · rintro ⟨⟨⟨⟨⟨rest, rfl⟩, hlast⟩, hne⟩, hline⟩, rfl⟩
    rw [List.drop_left] at hne hline ⊢
    have hrest : rest ≠ [] := by
      rintro rfl
      exact hne rfl
    rw [List.getLast?_append_of_ne_nil _ hrest] at hlast
    refine ⟨?_, hne, hline⟩
    rw [List.append_assoc, List.dropLast_append_getLast? _ hlast]
  · rintro ⟨rfl, hne, hline⟩
    have hinner : ((listOpening ++ inner ++ ['>']).drop listOpening.length).dropLast = inner := by
      rw [List.append_assoc, List.drop_left, List.dropLast_concat]
    rw [hinner]
    refine ⟨⟨⟨⟨⟨inner ++ ['>'], ?_⟩, ?_⟩, hne⟩, hline⟩, rfl⟩
    · rw [List.append_assoc]
    · rw [List.getLast?_concat]

theorem eq_of_list_eq {inner inner' : String}
    (h : "List<" ++ inner ++ ">" = "List<" ++ inner' ++ ">") : inner = inner' := by
  rw [← String.toList_inj, String.toList_append, String.toList_append, String.toList_append,
    String.toList_append, List.append_left_inj, List.append_right_inj, String.toList_inj] at h
  exact h

theorem ListOf.inner_eq {text inner inner' : String} (h : ListOf text inner)
    (h' : ListOf text inner') : inner = inner' :=
  eq_of_list_eq (h.1.symm.trans h'.1)

/-- The lists of a text end on its line. -/
theorem ListOf.not_mem {text inner : String} (h : ListOf text inner) : '\n' ∉ text.toList := by
  obtain ⟨htext, -, hline⟩ := listOf_iff.mp h
  rw [htext, List.mem_append, List.mem_append]
  rintro ((hopening | hinner) | hclosing)
  · exact absurd hopening (by decide)
  · exact hline hinner
  · exact absurd hclosing (by decide)

theorem listElement?_toList_iff {declared text inner : String} (h : WithoutLineEnd declared text) :
    listElement? declared.toList = some inner.toList ↔ ListOf text inner := by
  rw [listElement?_eq_some_iff, h.dropLineEnd, listOf_iff]

theorem listElement?_eq_none_iff {declared text : String} (h : WithoutLineEnd declared text) :
    listElement? declared.toList = none ↔ ∀ inner, ¬ListOf text inner := by
  rw [Option.eq_none_iff_forall_ne_some]
  constructor
  · intro hnone inner hlist
    exact hnone inner.toList ((listElement?_toList_iff h).mpr hlist)
  · intro hnone inner hsome
    refine hnone (String.ofList inner) ((listElement?_toList_iff h).mp ?_)
    rw [hsome, String.toList_ofList]

/-! ### Types -/

namespace TypeRef

/-- How many lists lie around the innermost type. -/
def depth : TypeRef → Nat
  | .collection element => element.depth + 1
  | _ => 0

def innermost : TypeRef → TypeRef
  | .collection element => element.innermost
  | t => t

/-- The type of a name that is taken as it is written. -/
def ofName (name : String) : TypeRef :=
  if name ∈ scalarTypes then .known name else .userDefined name false

end TypeRef

section Elements

variable {text inner rest : String}

theorem elementType_of_listOf (hline : '\n' ∉ text.toList) (h : ListOf text inner) :
    elementType text.toList = .collection (elementType inner.toList) := by
  have hlist := (listElement?_toList_iff (withoutLineEnd_self hline)).mpr h
  rw [elementType]
  split
  · next found heq =>
    rw [hlist] at heq
    rw [Option.some.inj heq]
  · next heq =>
    rw [hlist] at heq
    cases heq

theorem elementType_of_not_listOf (hline : '\n' ∉ text.toList) (h : ∀ inner, ¬ListOf text inner) :
    elementType text.toList = .ofName text := by
  have hlist := (listElement?_eq_none_iff (withoutLineEnd_self hline)).mpr h
  rw [elementType]
  split
  · next found heq =>
    rw [hlist] at heq
    cases heq
  · simp only [String.ofList_toList, List.contains_iff_mem, TypeRef.ofName]

/-- What stands in a list is told by the lists that can be taken off it, and written as it was. -/
structure ToldByLists (text : String) (t : TypeRef) : Prop where
  render : t.render = text
  peels : ∃ rest, Peels t.depth text rest ∧ t.innermost = .ofName rest
  greatest : ∀ n rest, Peels n text rest → n ≤ t.depth
  /-- A list has six characters of its own. -/
  bounded : 6 * t.depth ≤ text.length

theorem TypeRef.render_ofName (name : String) : (ofName name).render = name := by
  rw [ofName]
  split <;> rfl

theorem TypeRef.depth_ofName (name : String) : (ofName name).depth = 0 := by
  rw [ofName]
  split <;> rfl

theorem TypeRef.innermost_ofName (name : String) : (ofName name).innermost = ofName name := by
  rw [ofName]
  split <;> rfl

theorem ToldByLists.collection {t : TypeRef} (h : ListOf text inner) (ht : ToldByLists inner t) :
    ToldByLists text (.collection t) := by
  constructor
  case render => rw [TypeRef.render, ht.render, h.1]
  case peels =>
    obtain ⟨rest, hpeels, hinnermost⟩ := ht.peels
    exact ⟨rest, .list h hpeels, hinnermost⟩
  case greatest =>
    intro n rest hpeels
    cases hpeels with
    | done => exact Nat.zero_le _
    | list h' hrest =>
      obtain rfl := h.inner_eq h'
      exact Nat.succ_le_succ (ht.greatest _ _ hrest)
  case bounded =>
    have hbound := ht.bounded
    have hlength : text.length = inner.length + 6 := by
      rw [h.1, String.length_append, String.length_append, Nat.add_comm "List<".length,
        Nat.add_assoc]
      rfl
    rw [TypeRef.depth, hlength]
    omega

theorem toldByLists_ofName (h : ∀ inner, ¬ListOf text inner) : ToldByLists text (.ofName text) := by
  constructor
  case render => exact TypeRef.render_ofName text
  case peels =>
    refine ⟨text, ?_, TypeRef.innermost_ofName text⟩
    rw [TypeRef.depth_ofName]
    exact .done text
  case greatest =>
    intro n rest hpeels
    cases hpeels with
    | done => exact Nat.zero_le _
    | list h' hrest => exact absurd h' (h _)
  case bounded =>
    rw [TypeRef.depth_ofName]
    exact Nat.zero_le _

/-- What stands in a list is taken as it is, lists and all. -/
theorem toldByLists_elementType (text : String) (hline : '\n' ∉ text.toList) :
    ToldByLists text (elementType text.toList) := by
  by_cases h : ∃ inner, ListOf text inner
  · obtain ⟨inner, h⟩ := h
    rw [elementType_of_listOf hline h]
    exact (toldByLists_elementType inner h.2.2).collection h
  · have hnone : ∀ inner, ¬ListOf text inner := fun inner hlist => h ⟨inner, hlist⟩
    rw [elementType_of_not_listOf hline hnone]
    exact toldByLists_ofName hnone
termination_by text.length
decreasing_by
  rw [h.1, String.length_append, String.length_append]
  have hclosing : ">".length = 1 := rfl
  omega

end Elements

/-! ### Declared types -/

/-- What a declared type means where the field gives no values itself. -/
structure Recognised (declared : String) (t : TypeRef) : Prop where
  isCollection : t.isCollection = true ↔
    ∃ text, WithoutLineEnd declared text ∧ ∃ inner, ListOf text inner
  list : ∀ text inner, WithoutLineEnd declared text → ListOf text inner → ToldByLists text t
  name : (∀ text inner, WithoutLineEnd declared text → ¬ListOf text inner) →
    t = if declared ∈ scalarTypes then .known declared else .userDefined (pascal declared) false

theorem resolve_of_listOf {declared text inner : String} (htext : WithoutLineEnd declared text)
    (h : ListOf text inner) :
    TypeRef.resolve declared none = .collection (elementType inner.toList) :=
  TypeRef.resolve_none_eq_list ((listElement?_toList_iff htext).mpr h)

/-- Exactly the texts of lists are lists, and they are passed on unchanged. -/
theorem recognised_resolve (declared : String) :
    Recognised declared (TypeRef.resolve declared none) := by
  obtain ⟨text, htext⟩ := exists_withoutLineEnd declared
  constructor
  case isCollection =>
    rw [TypeRef.isCollection_resolve_none, Option.isSome_iff_exists]
    constructor
    · rintro ⟨inner, hinner⟩
      refine ⟨text, htext, String.ofList inner, (listElement?_toList_iff htext).mp ?_⟩
      rw [hinner, String.toList_ofList]
    · rintro ⟨text, htext, inner, h⟩
      exact ⟨inner.toList, (listElement?_toList_iff htext).mpr h⟩
  case list =>
    intro text inner htext h
    rw [resolve_of_listOf htext h]
    exact (toldByLists_elementType inner h.2.2).collection h
  case name =>
    intro hnone
    exact TypeRef.resolve_none_eq_name
      ((listElement?_eq_none_iff htext).mpr fun inner => hnone text inner htext)

/-- Brackets need not match, and of two line ends one is left. -/
example : (TypeRef.resolve "List<List<a>b>\n" none, TypeRef.resolve "List<Long>\n\n" none) =
    (.collection (.userDefined "List<a>b" false), .userDefined "List<Long>" false) := by
  decide +kernel

end DomainCompiler.Model
