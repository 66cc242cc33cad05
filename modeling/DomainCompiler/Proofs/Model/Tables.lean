import DomainCompiler.Proofs.Model.Inverse
import DomainCompiler.Proofs.Naming.PluralEnding

/-!
# The tables of entities

The table that an entity declares none for is the plural of its name in snake case, and the plural
is formed of the name as it is declared. So the table tells the class of the plural, but two
spellings of one class may have two tables: snake case need not have its form, where a capital or a
digit stands behind a separator, and a word that the plural changes may reach across a separator.
Apart from this the table is that of the class.
-/

namespace DomainCompiler.Model

open DomainCompiler.Naming

/-- The table has the form of snake case, and the plural of the name is that of the class. -/
structure FollowsClass (name : String) : Prop where
  isSnake : IsSnake (Entity.defaultTable name).toList
  plural : pascal (plural name) = pascal (plural (pascal name))

instance (name : String) : Decidable (FollowsClass name) :=
  decidable_of_iff (IsSnake (Entity.defaultTable name).toList ∧
      pascal (plural name) = pascal (plural (pascal name)))
    ⟨fun h => ⟨h.1, h.2⟩, fun h => ⟨h.isSnake, h.plural⟩⟩

section DefaultTable

variable {name : String}

theorem toList_defaultTable :
    (Entity.defaultTable name).toList = snakeChars (pluralChars name.toList) := by
  simp [Entity.defaultTable, snake, plural]

theorem toList_plural : (plural name).toList = pluralChars name.toList := by
  simp [plural]

theorem asciiWords_pascal (h : AsciiWords name.toList) : AsciiWords (pascal name).toList := by
  rw [toList_pascal]
  exact fun c hc _ => toNat_lt_of_mem_pascalChars h c hc

/-- No word of the plural is lost in the table. -/
theorem pascal_defaultTable (h : AsciiWords name.toList) :
    pascal (Entity.defaultTable name) = pascal (plural name) := by
  rw [pascal, pascal, toList_defaultTable, toList_plural,
    pascalChars_snakeChars (asciiWords_pluralChars h)]

/-- The table of a name without separators has the form of snake case. -/
theorem isSnake_defaultTable (h : AsciiWords name.toList)
    (hword : ∀ c ∈ name.toList, isSeparator c = false) :
    IsSnake (Entity.defaultTable name).toList := by
  rw [toList_defaultTable]
  exact isSnake_snakeChars_of_word (isSeparator_of_mem_pluralChars hword)
    (asciiWords_pluralChars h)

/-- Tables in snake case are the same exactly where the plurals are the same in Pascal case. -/
theorem defaultTable_eq_iff {name' : String} (h : AsciiWords name.toList)
    (h' : AsciiWords name'.toList) (hsnake : IsSnake (Entity.defaultTable name').toList) :
    Entity.defaultTable name = Entity.defaultTable name' ↔
      IsSnake (Entity.defaultTable name).toList ∧ pascal (plural name) = pascal (plural name') := by
  have hplural := asciiWords_pluralChars h
  have hplural' := asciiWords_pluralChars h'
  constructor
  · intro heq
    rw [heq, ← pascal_defaultTable h, heq, pascal_defaultTable h']
    exact ⟨hsnake, rfl⟩
  · rintro ⟨hsnake', heq⟩
    rw [toList_defaultTable, ← snakeChars_pascalChars_iff hplural'] at hsnake
    rw [toList_defaultTable, ← snakeChars_pascalChars_iff hplural] at hsnake'
    rw [← String.toList_inj, toList_pascal, toList_pascal, toList_plural, toList_plural] at heq
    rw [← String.toList_inj, toList_defaultTable, toList_defaultTable, ← hsnake', heq, hsnake]

theorem defaultTable_eq_class_iff (h : AsciiWords name.toList) :
    Entity.defaultTable name = Entity.defaultTable (pascal name) ↔ FollowsClass name := by
  have hclass := asciiWords_pascal h
  have hword : ∀ c ∈ (pascal name).toList, isSeparator c = false := by
    rw [toList_pascal]
    exact (isPascal_pascalChars name.toList).isSeparator
  rw [defaultTable_eq_iff h hclass (isSnake_defaultTable hclass hword)]
  exact ⟨fun h => ⟨h.1, h.2⟩, fun h => ⟨h.isSnake, h.plural⟩⟩

theorem OneWord.followsClass (h : OneWord name.toList) : FollowsClass name := by
  have hascii : AsciiWords name.toList := fun c hc _ => toNat_lt_of_isAlphanum (h c hc)
  have hplural : ∀ s : String, AsciiWords s.toList → AsciiWords (plural s).toList := by
    intro s hs
    rw [toList_plural]
    exact asciiWords_pluralChars hs
  constructor
  case isSnake =>
    exact isSnake_defaultTable hascii fun c hc => (inWord (h c hc)).isSeparator
  case plural =>
    calc pascal (plural name)
        = pascal (camel (plural name)) := (pascal_camel (hplural name hascii)).symm
      _ = pascal (camel (plural (pascal name))) := by rw [camel_plural_pascal h]
      _ = pascal (plural (pascal name)) :=
        pascal_camel (hplural (pascal name) (asciiWords_pascal hascii))

end DefaultTable

/-- What the table of a name tells, and where it is the table of the class. -/
structure DerivedTable (name table : String) : Prop where
  plain : ∀ c ∈ table.toList, c.isUpper = false ∧ isGap c = false
  pascal_eq : pascal table = pascal (plural name)
  isSnake_of_small : SmallBehind isSeparator name.toList → IsSnake table.toList
  /-- Marks stand together for the capitals behind separators, where these stand alone. -/
  noneBehind_iff : SingleGaps name.toList →
    (NoneBehind isMark isMark table.toList ↔
      NoneBehind isSeparator Char.isUpper (plural name).toList)
  class_iff : table = Entity.defaultTable (pascal name) ↔ FollowsClass name
  followsClass : OneWord name.toList → FollowsClass name

theorem derivedTable_defaultTable {name : String} (h : AsciiWords name.toList) :
    DerivedTable name (Entity.defaultTable name) := by
  have hplural := asciiWords_pluralChars h
  constructor
  case plain =>
    rw [toList_defaultTable]
    exact plain_snakeChars hplural
  case pascal_eq => exact pascal_defaultTable h
  case isSnake_of_small =>
    intro hsmall
    have hending := newEnding_pluralChars (getLast?_ne_of_small hsmall)
    rw [toList_defaultTable]
    exact isSnake_snakeChars_of_small hplural (hending.smallBehind hsmall)
  case noneBehind_iff =>
    intro hsingle
    have hending := newEnding_pluralChars hsingle.getLast?_ne
    rw [toList_defaultTable, toList_plural]
    exact noneBehind_snakeChars_iff hplural (hending.head hsingle.head)
      (hending.noneBehind hsingle.alone)
  case class_iff => exact defaultTable_eq_class_iff h
  case followsClass => exact OneWord.followsClass

section Resolve

variable {valueObjects valueObjects' : List String} {enums enums' : List EnumType}
  {inverse inverse' : List (String × Relationship)} {options options' : Options}
  {d d' : Declared.Entity} {e e' : Entity}

theorem tableName_of_resolve (hnone : d.tableName = none)
    (h : Entity.resolve valueObjects enums inverse options d = .ok e) :
    e.tableName = Entity.defaultTable d.name := by
  obtain ⟨-, declared, -, rfl⟩ := Entity.resolve_eq_ok_iff.mp h
  rw [Entity.assemble, hnone]
  rfl

/-- Entities that declare no table have tables that are made of small letters and marks and keep the
words of their plurals. Two of one class have the same table wherever both follow their class: if
one does, the other has the same table exactly if it does. Names of one word follow their class. -/
theorem derivedTables_of_resolve (hname : AsciiWords d.name.toList)
    (hname' : AsciiWords d'.name.toList) (hnone : d.tableName = none)
    (hnone' : d'.tableName = none) (hclass : pascal d.name = pascal d'.name)
    (h : Entity.resolve valueObjects enums inverse options d = .ok e)
    (h' : Entity.resolve valueObjects' enums' inverse' options' d' = .ok e') :
    DerivedTable d.name e.tableName ∧ DerivedTable d'.name e'.tableName ∧
      (FollowsClass d.name → (e.tableName = e'.tableName ↔ FollowsClass d'.name)) := by
  rw [tableName_of_resolve hnone h, tableName_of_resolve hnone' h']
  refine ⟨derivedTable_defaultTable hname, derivedTable_defaultTable hname', fun hfollows => ?_⟩
  rw [(defaultTable_eq_class_iff hname).mpr hfollows, hclass, eq_comm,
    defaultTable_eq_class_iff hname']

end Resolve

/-- An entity of the name, with nothing but an id. -/
def entityNamed (name : String) : Declared.Entity :=
  Aggregate.plainEntity name true [{ name := "id", type := "Long" }] []

theorem derivedTables_of_resolve_orderItem :
    ∃ e e', Entity.resolve [] [] [] {} (entityNamed "order_item") = .ok e ∧
      Entity.resolve ["Money"] [] [] {} (entityNamed "Order_Item") = .ok e' ∧
      (DerivedTable "order_item" e.tableName ∧ DerivedTable "Order_Item" e'.tableName ∧
        (FollowsClass "order_item" → (e.tableName = e'.tableName ↔ FollowsClass "Order_Item"))) ∧
      FollowsClass "order_item" ∧ FollowsClass "order - item" ∧ ¬FollowsClass "Order_Item" := by
  have hnone (name : String) : (entityNamed name).tableName = none := rfl
  refine ⟨_, _, rfl, rfl, ?_, by decide +kernel, by decide +kernel, by decide +kernel⟩
  exact derivedTables_of_resolve (by decide +kernel) (by decide +kernel) (hnone "order_item")
    (hnone "Order_Item") (by decide +kernel) rfl rfl

/-- Entities of the two names have the same table, in which no two marks stand together. -/
def ShareTable (name name' : String) : Prop :=
  ∀ e e', Entity.resolve [] [] [] {} (entityNamed name) = .ok e →
    Entity.resolve [] [] [] {} (entityNamed name') = .ok e' →
      e.tableName = e'.tableName ∧ NoneBehind isMark isMark e'.tableName.toList

theorem not_shareTable_orderItem :
    pascal "order_item" = pascal "Order_Item" ∧ SingleGaps "Order_Item".toList ∧
      ¬ShareTable "order_item" "Order_Item" := by
  refine ⟨by decide +kernel, ⟨by decide +kernel, by decide +kernel, by decide +kernel⟩, ?_⟩
  intro hshare
  have hmarks := (hshare _ _ rfl rfl).2
  revert hmarks
  decide +kernel

end DomainCompiler.Model
