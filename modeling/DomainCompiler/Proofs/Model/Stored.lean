import DomainCompiler.Proofs.Model.ListTypes

/-!
# How value objects are stored

A field holds value objects where the whole text of its type is the name of one, or the whole text
of the elements of a list. Names are not looked up any deeper: a list of lists is stored as it is
declared, whatever its innermost name. As no name reads like a list, it is the innermost name in at
most one list that counts.
-/

namespace DomainCompiler.Model

open DomainCompiler.Naming

/-! ### Names in lists -/

/-- The text of a type in so many lists. -/
def nested : Nat → String → String
  | 0, name => name
  | n + 1, name => "List<" ++ nested n name ++ ">"

/-- A name stands on one line and opens no bracket. -/
def IsName (name : String) : Prop :=
  name ≠ "" ∧ ∀ c ∈ name.toList, c ≠ '<' ∧ c ≠ '\n'

instance : DecidablePred IsName := fun name =>
  decidable_of_iff (name ≠ "" ∧ name.toList.all (fun c => c != '<' && c != '\n') = true) <| by
    simp [IsName, List.all_eq_true]

/-- What a name stands for in so many lists: only alone it is put in Pascal case. -/
def meantBy (n : Nat) (name : String) : String :=
  if n = 0 ∧ name ∉ scalarTypes then pascal name else name

variable {name : String}

theorem IsName.not_listOf (h : IsName name) (inner : String) : ¬ListOf name inner := by
  intro hlist
  have hopening : '<' ∈ name.toList := by
    rw [(listOf_iff.mp hlist).1]
    exact List.mem_append_left _ (List.mem_append_left _ (by decide))
  exact (h.2 _ hopening).1 rfl

theorem IsName.not_mem (h : IsName name) : '\n' ∉ name.toList :=
  fun hline => (h.2 _ hline).2 rfl

theorem listOf_nested (h : IsName name) (n : Nat) :
    ListOf (nested (n + 1) name) (nested n name) := by
  induction n with
  | zero => exact ⟨rfl, h.1, h.not_mem⟩
  | succ n ih =>
    refine ⟨rfl, fun hnil => ?_, ih.not_mem⟩
    have hlength := congrArg String.length (ih.1.symm.trans hnil)
    rw [String.length_append, String.length_append] at hlength
    exact absurd hlength (Nat.succ_ne_zero _)

theorem elementType_nested (h : IsName name) (n : Nat) :
    (elementType (nested n name).toList).depth = n ∧
      (elementType (nested n name).toList).innermost.render = name := by
  induction n with
  | zero =>
    show (elementType name.toList).depth = 0 ∧ (elementType name.toList).innermost.render = name
    rw [elementType_of_not_listOf h.not_mem h.not_listOf, TypeRef.depth_ofName,
      TypeRef.innermost_ofName, TypeRef.render_ofName]
    exact ⟨rfl, rfl⟩
  | succ n ih =>
    have hlist := listOf_nested h n
    rw [elementType_of_listOf hlist.not_mem hlist]
    exact ⟨congrArg (· + 1) ih.1, ih.2⟩

namespace TypeRef

theorem resolve_nested (h : IsName name) (n : Nat) :
    (resolve (nested n name) none).depth = n ∧
      (resolve (nested n name) none).innermost.render = meantBy n name := by
  cases n with
  | zero =>
    have hnone := (listElement?_eq_none_iff (withoutLineEnd_self h.not_mem)).mpr h.not_listOf
    rw [nested, resolve_none_eq_name hnone, meantBy]
    by_cases hscalar : name ∈ scalarTypes <;> simp [hscalar, depth, innermost, render]
  | succ n =>
    have hlist := listOf_nested h n
    rw [resolve_of_listOf (withoutLineEnd_self hlist.not_mem) hlist]
    obtain ⟨hdepth, hname⟩ := elementType_nested h n
    refine ⟨congrArg (· + 1) hdepth, hname.trans ?_⟩
    simp [meantBy]

/-- Each list in the type has the text of one. -/
def ReadsAsLists : TypeRef → Prop
  | .collection element => ListOf (collection element).render element.render ∧ element.ReadsAsLists
  | _ => True

theorem readsAsLists_of_peels {t : TypeRef} {rest : String} (h : Peels t.depth t.render rest) :
    t.ReadsAsLists := by
  induction t with
  | collection element ih =>
    cases h with
    | @list n text inner rest hlist hrest =>
      obtain rfl : element.render = inner := eq_of_list_eq hlist.1
      exact ⟨hlist, ih hrest⟩
  | known => trivial
  | userDefined => trivial

theorem readsAsLists_resolve (declared : String) (enumValues : Option (List String)) :
    (resolve declared enumValues).ReadsAsLists := by
  cases enumValues with
  | some values => trivial
  | none =>
    have hrecognised := recognised_resolve declared
    by_cases h : ∃ text, WithoutLineEnd declared text ∧ ∃ inner, ListOf text inner
    · obtain ⟨text, htext, inner, hlist⟩ := h
      have htold := hrecognised.list text inner htext hlist
      obtain ⟨rest, hpeels, -⟩ := htold.peels
      rw [← htold.render] at hpeels
      exact readsAsLists_of_peels hpeels
    · rw [hrecognised.name fun text inner htext hlist => h ⟨text, htext, inner, hlist⟩]
      split <;> trivial

theorem innermost_of_depth_eq_zero {t : TypeRef} (h : t.depth = 0) : t.innermost = t := by
  cases t with
  | collection element => cases h
  | _ => rfl

theorem persistence_of_depth_eq_zero {t : TypeRef} (h : t.depth = 0) (names : List String)
    (suffix : String) (forced : Bool) :
    t.persistence names suffix forced =
      if forced || names.contains t.render then t.render ++ suffix else t.render := by
  cases t with
  | collection element => cases h
  | _ => rfl

/-- One of the names is that of the type or of its elements. -/
def namesOne (names : List String) (t : TypeRef) : Bool :=
  names.contains t.render || t.collectionElement.any names.contains

section Names

variable {t : TypeRef} {names : List String} (suffix : String)

/-- A value object is found alone and in a list. -/
theorem stored_of_mem (hdepth : t.depth ≤ 1) (hmem : t.innermost.render ∈ names) (forced : Bool) :
    t.namesOne names = true ∧
      t.persistence names suffix forced = nested t.depth (t.innermost.render ++ suffix) := by
  cases t with
  | collection element =>
    have hzero : element.depth = 0 := Nat.le_zero.mp (Nat.le_of_succ_le_succ hdepth)
    have hcontains : names.contains element.render = true := by
      rw [List.contains_iff_mem]
      rwa [innermost, innermost_of_depth_eq_zero hzero] at hmem
    rw [namesOne, persistence, hcontains, Bool.or_true, if_pos rfl, depth, hzero, innermost,
      innermost_of_depth_eq_zero hzero]
    refine ⟨?_, ?_⟩
    · rw [collectionElement, Option.any_some, hcontains, Bool.or_true]
    · simp only [nested, String.append_assoc]
  | _ =>
    have hcontains := List.contains_iff_mem.mpr hmem
    rw [innermost_of_depth_eq_zero rfl] at hcontains
    rw [namesOne, persistence_of_depth_eq_zero rfl, hcontains, Bool.or_true, if_pos rfl]
    exact ⟨rfl, rfl⟩

/-- Where no name reads like a list, it is found nowhere else. -/
theorem of_namesOne (ht : t.ReadsAsLists) (hnames : ∀ v ∈ names, ∀ inner, ¬ListOf v inner)
    (h : t.namesOne names = true) : t.depth ≤ 1 ∧ t.innermost.render ∈ names := by
  have hlist : ∀ element : TypeRef, (collection element).ReadsAsLists →
      (collection element).render ∉ names := fun element hreads hmem => hnames _ hmem _ hreads.1
  rw [namesOne, Bool.or_eq_true, List.contains_iff_mem] at h
  cases t with
  | collection element =>
    obtain h | h := h
    · exact absurd h (hlist element ht)
    · rw [collectionElement, Option.any_some, List.contains_iff_mem] at h
      cases element with
      | collection element => exact absurd h (hlist element ht.2)
      | _ => exact ⟨Nat.le_refl _, h⟩
  | _ =>
    obtain h | h := h
    · exact ⟨Nat.zero_le _, h⟩
    · cases h

theorem persistence_of_not_namesOne (h : t.namesOne names = false) :
    t.persistence names suffix false = t.render := by
  obtain ⟨hrender, helement⟩ := Bool.or_eq_false_iff.mp h
  cases t with
  | collection element =>
    rw [collectionElement, Option.any_some] at helement
    rw [persistence, helement, if_neg (by decide)]
  | _ => rw [persistence_of_depth_eq_zero rfl, hrender, if_neg (by decide)]

end Names

end TypeRef

/-! ### Fields -/

namespace Field

/-- How a field holds the value objects of the names. -/
structure StoredAs (names : List String) (suffix : String) (d : Declared.Field) (f : Field) :
    Prop where
  /-- A name in so many lists is the innermost one. -/
  named : d.enumValues = none → ∀ n name, IsName name → d.type = nested n name →
    f.typeRef.depth = n ∧ f.typeRef.innermost.render = meantBy n name
  /-- Alone and in a list of them, value objects are stored under their names with the suffix. -/
  shallow : d.enumValues = none → ∀ n name, IsName name → d.type = nested n name → n ≤ 1 →
    meantBy n name ∈ names →
      f.isValueObject = true ∧ f.persistenceType = nested n (meantBy n name ++ suffix)
  /-- Deeper down they are not looked for. -/
  isValueObject : d.isValueObject = false → (∀ v ∈ names, ∀ inner, ¬ListOf v inner) →
    (f.isValueObject = true ↔ f.typeRef.depth ≤ 1 ∧ f.typeRef.innermost.render ∈ names)
  others : d.isValueObject = false → (∀ v ∈ names, ∀ inner, ¬ListOf v inner) →
    f.isValueObject = false → f.persistenceType = f.resolvedType

/-- Every field holds the value objects of its aggregate in this way. -/
theorem storedAs_resolve (names : List String) (enums : List EnumType) (suffix : String)
    (synthetic : Bool) (d : Declared.Field) :
    StoredAs names suffix d (resolve names enums suffix synthetic d) := by
  have hnamed : d.enumValues = none → ∀ n name, IsName name → d.type = nested n name →
      (TypeRef.resolve d.type d.enumValues).depth = n ∧
        (TypeRef.resolve d.type d.enumValues).innermost.render = meantBy n name := by
    intro hvalues n name hname htype
    rw [hvalues, htype]
    exact TypeRef.resolve_nested hname n
  have hflag : d.isValueObject = false →
      (resolve names enums suffix synthetic d).isValueObject =
        (TypeRef.resolve d.type d.enumValues).namesOne names := by
    intro hmark
    rw [resolve, hmark, Bool.false_or]
    rfl
  have hpersistence : (resolve names enums suffix synthetic d).persistenceType =
      (TypeRef.resolve d.type d.enumValues).persistence names suffix d.isValueObject := rfl
  constructor
  case named => exact hnamed
  case shallow =>
    intro hvalues n name hname htype hn hmem
    obtain ⟨hdepth, hinnermost⟩ := hnamed hvalues n name hname htype
    rw [← hdepth] at hn
    rw [← hinnermost] at hmem
    obtain ⟨hfound, hstored⟩ := TypeRef.stored_of_mem suffix hn hmem d.isValueObject
    refine ⟨?_, ?_⟩
    · rw [resolve, Bool.or_assoc, ← TypeRef.namesOne, hfound, Bool.or_true]
    · rw [hpersistence, hstored, hdepth, hinnermost]
  case isValueObject =>
    intro hmark hnames
    rw [hflag hmark]
    constructor
    · exact TypeRef.of_namesOne (TypeRef.readsAsLists_resolve _ _) hnames
    · exact fun h => (TypeRef.stored_of_mem suffix h.1 h.2 false).1
  case others =>
    intro hmark hnames hother
    rw [hflag hmark] at hother
    rw [hpersistence, hmark, TypeRef.persistence_of_not_namesOne suffix hother]
    rfl

def price (type : String) : Declared.Field := { name := "price", type }

/-- The name is that of a value object, and in so many lists it is not stored as one. -/
def Overlooked (names : List String) (n : Nat) (name : String) : Prop :=
  name ∈ names ∧ IsName name ∧
    ¬((resolve names [] "Jpa" false (price (nested n name))).isValueObject = true ∧
      (resolve names [] "Jpa" false (price (nested n name))).persistenceType =
        nested n (name ++ "Jpa"))

instance (names : List String) (n : Nat) (name : String) : Decidable (Overlooked names n name) :=
  inferInstanceAs (Decidable (_ ∧ _))

/-- A list of lists is overlooked, and so is a name that is not in Pascal case. Where a name reads
like a list, a field holds a value object whose innermost name is none. -/
theorem overlooked_nested :
    Overlooked ["Money"] 2 "Money" ∧ Overlooked ["money"] 0 "money" ∧
      (resolve ["List<Money>"] [] "Jpa" false (price (nested 1 "Money"))).isValueObject = true := by
  decide +kernel

end Field

end DomainCompiler.Model
