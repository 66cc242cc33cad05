import DomainCompiler.Export.Reader

/-!
# A model is read back from its plain data

Writing a part and reading it gives the part again, for every part that a model is put together
from, and so for whole models. Two models with the same plain data are therefore the same model.
-/

namespace DomainCompiler

namespace Value

variable {α : Type} {plain : α → Value} {reader : Value → Option α}

/-- The reader gives back everything that is written. -/
def Reads (reader : Value → Option α) (plain : α → Value) : Prop :=
  ∀ a, reader (plain a) = some a

theorem attribute?_record (entries : List (String × Value)) (name : String) :
    (record entries).attribute? name = entries.lookup name := by
  rw [record, attribute?]
  induction entries with
  | nil => rfl
  | cons e rest ih =>
    rw [List.map_cons, entry?_cons_text, ih, List.lookup_cons, BEq.comm]
    cases name == e.1 <;> rfl

theorem attributeSet_record (entries : List (String × Value)) :
    (record entries).attributeSet = NameSet.ofList (entries.map (·.1)) := by
  rw [record, attributeSet, List.filterMap_map]
  exact congrArg NameSet.ofList (List.filterMap_eq_map ▸ rfl)

theorem read_record_cons (key : String) (v : Value) (rest : List (String × Value)) (name : String) :
    (record ((key, v) :: rest)).read name reader =
      match name == key with
      | true => reader v
      | false => (record rest).read name reader := by
  rw [read, read, attribute?_record, attribute?_record, List.lookup_cons]
  cases name == key <;> rfl

theorem some_bind {β : Type} (a : α) (f : α → Option β) : (some a >>= f) = f a := rfl

@[simp] theorem text?_text (s : String) : text? (.text s) = some s := rfl

@[simp] theorem bool?_bool (b : Bool) : bool? (.bool b) = some b := rfl

@[simp] theorem items?_list (items : List Value) : items? (.list items) = some items := rfl

theorem Reads.mapM (h : Reads reader plain) (xs : List α) :
    (xs.map plain).mapM reader = some xs := by
  induction xs with
  | nil => rfl
  | cons x rest ih =>
    rw [List.map_cons, List.mapM_cons, h x, ih]
    rfl

theorem Reads.list (h : Reads reader plain) : Reads (listOf reader) (Model.plainList plain) :=
  fun xs => h.mapM xs

theorem Reads.option (h : Reads reader plain) (hnull : reader .null = none) :
    Reads (optionOf reader) (Model.plainOption plain) := by
  intro x
  cases x with
  | none => rfl
  | some a =>
    have hread : reader (plain a) = some a := h a
    have hne : plain a ≠ .null := by
      intro heq
      rw [heq, hnull] at hread
      cases hread
    show optionOf reader (plain a) = some (some a)
    rw [optionOf.eq_2 _ _ hne, hread]
    rfl

@[simp] theorem texts?_texts (items : List String) : texts? (texts items) = some items := by
  have h : Reads text? Value.text := text?_text
  exact h.mapM items

@[simp] theorem textOrNull?_textOrNull (s : Option String) :
    textOrNull? (textOrNull s) = some s := by
  cases s <;> rfl

end Value

namespace Model

open DomainCompiler.Value

@[simp] theorem oneOf?_relationshipKind (k : RelationshipKind) :
    oneOf? RelationshipKind.name RelationshipKind.all (.text k.name) = some k := by
  cases k <;> decide

@[simp] theorem oneOf?_fetchMode (m : FetchMode) :
    oneOf? FetchMode.name FetchMode.all (.text m.name) = some m := by
  cases m <;> decide

@[simp] theorem oneOf?_methodKind (k : MethodKind) :
    oneOf? MethodKind.name MethodKind.all (.text k.name) = some k := by
  cases k <;> decide

theorem TypeRef.ofPlain?_eq_collection {v element : Value}
    (hkind : v.read "kind" text? = some "collection")
    (helement : v.attribute? "element" = some element)
    (hcontainer : v.read "container" text? = some "List") :
    ofPlain? v = (ofPlain? element).map collection := by
  rw [ofPlain?.eq_def, hkind]
  simp only [hcontainer, if_true]
  split
  · next found hfound =>
    rw [helement] at hfound
    cases hfound
    rfl
  · next hfound =>
    rw [helement] at hfound
    cases hfound

theorem TypeRef.reads : Reads ofPlain? plain := by
  intro t
  induction t with
  | known name =>
    rw [ofPlain?.eq_def]
    simp only [plain, read_record_cons, String.reduceBEq, text?_text, Option.map_some]
  | userDefined name inlineEnum =>
    rw [ofPlain?.eq_def]
    simp only [plain, read_record_cons, String.reduceBEq, some_bind, text?_text, bool?_bool,
      Option.pure_def]
  | collection element ih =>
    have helement : (collection element).plain.attribute? "element" = some element.plain := by
      simp only [plain, attribute?_record, List.lookup_cons, String.reduceBEq]
    have hkind : (collection element).plain.read "kind" text? = some "collection" := by
      simp only [plain, read_record_cons, String.reduceBEq, text?_text]
    have hcontainer : (collection element).plain.read "container" text? = some "List" := by
      simp only [plain, read_record_cons, String.reduceBEq, text?_text]
    rw [ofPlain?_eq_collection hkind helement hcontainer, ih]
    rfl

theorem Edge.reads : Reads ofPlain? plain := by
  intro e
  simp only [plain, ofPlain?, read_record_cons, String.reduceBEq, some_bind, text?_text,
    texts?_texts, Option.pure_def]

theorem EnumType.reads : Reads ofPlain? plain := by
  intro e
  have htransitions := Reads.option (Reads.list Edge.reads) rfl e.transitions
  simp only [plain, ofPlain?, read_record_cons, String.reduceBEq, some_bind, text?_text,
    texts?_texts, textOrNull?_textOrNull, Option.pure_def, htransitions]

theorem Adjacency.reads : Reads ofPlain? plain := by
  have hentry : Reads entryOfPlain? fun e => .list [.text e.1, texts e.2] := by
    intro e
    simp [entryOfPlain?]
  exact hentry.list

theorem StateMachine.reads : Reads ofPlain? plain := by
  intro m
  have hedges := Reads.list Edge.reads m.edges
  have hadjacency := Adjacency.reads m.adjacency
  simp only [plain, ofPlain?, read_record_cons, String.reduceBEq, some_bind, texts?_texts,
    textOrNull?_textOrNull, Option.pure_def, hedges, hadjacency]

theorem Field.reads : Reads ofPlain? plain := by
  intro f
  have htype := TypeRef.reads f.typeRef
  have hmachine := Reads.option StateMachine.reads rfl f.stateMachine
  simp only [plain, ofPlain?, read_record_cons, String.reduceBEq, some_bind, text?_text, bool?_bool,
    texts?_texts, textOrNull?_textOrNull, Option.pure_def, htype, hmachine]

theorem Relationship.reads : Reads ofPlain? plain := by
  intro r
  simp only [plain, ofPlain?, read_record_cons, String.reduceBEq, some_bind, text?_text, bool?_bool,
    texts?_texts, textOrNull?_textOrNull, oneOf?_relationshipKind, oneOf?_fetchMode,
    Option.pure_def]

theorem Audit.reads : Reads ofPlain? plain := by
  intro a
  simp only [plain, ofPlain?, read_record_cons, String.reduceBEq, some_bind, bool?_bool,
    Option.pure_def]

theorem Entity.reads : Reads ofPlain? plain := by
  intro e
  have haudit := Audit.reads e.audit
  have hfields := Reads.list Field.reads e.fields
  have hrelationships := Reads.list Relationship.reads e.relationships
  have henums := Reads.list EnumType.reads e.enums
  simp only [plain, ofPlain?, read_record_cons, String.reduceBEq, some_bind, text?_text, bool?_bool,
    texts?_texts, Option.pure_def, haudit, hfields, hrelationships, henums]

theorem ValueObjectMethod.reads : Reads ofPlain? plain := by
  intro m
  simp only [plain, ofPlain?, read_record_cons, String.reduceBEq, some_bind, text?_text,
    items?_list, Option.pure_def]

theorem ValueObject.reads : Reads ofPlain? plain := by
  intro v
  have hfields := Reads.list Field.reads v.fields
  have hmethods := Reads.list ValueObjectMethod.reads v.methods
  have henums := Reads.list EnumType.reads v.enums
  simp only [plain, ofPlain?, read_record_cons, String.reduceBEq, some_bind, text?_text,
    items?_list, texts?_texts, Option.pure_def, hfields, hmethods, henums]

theorem Parameter.reads : Reads ofPlain? plain := by
  intro p
  simp only [plain, ofPlain?, read_record_cons, String.reduceBEq, some_bind, text?_text,
    Option.pure_def]

/-- The names of the attributes of a statement, in ascending order. -/
def Statement.attributeNames : Statement → List String
  | .construct .. => ["arguments", "entity", "variable"]
  | .invokeAssign .. => ["argument", "method", "receiver"]
  | .delegate .. => ["argument", "method"]
  | .assignField .. => ["field", "value"]
  | .append .. => ["collection", "value"]
  | .removeById .. => ["collection", "id_parameter"]
  | .returnView .. => ["collection"]

theorem Statement.attributeSet_plain (s : Statement) :
    s.plain.attributeSet = s.attributeNames := by
  cases s <;> rw [plain, attributeSet_record] <;> simp only [List.map, attributeNames] <;>
    decide +kernel

/-- The order in which the attributes stand does not matter. -/
example :
    (record [("value", .text "OPEN"), ("field", .text "status")]).attributeSet =
      (Statement.assignField "status" "OPEN").attributeNames := by
  decide +kernel

/-- The names of its attributes alone tell what a statement is. -/
theorem Statement.reads : Reads ofPlain? plain := by
  intro s
  rw [ofPlain?, attributeSet_plain]
  cases s <;>
    simp only [plain, read_record_cons, String.reduceBEq, some_bind, text?_text, texts?_texts,
      Option.map_some, Option.pure_def, attributeNames]

theorem NestedGroup.reads : Reads ofPlain? plain := by
  intro g
  have hparameters := Reads.list Parameter.reads g.parameters
  simp only [plain, ofPlain?, read_record_cons, String.reduceBEq, some_bind, text?_text,
    Option.pure_def, hparameters]

theorem Method.reads : Reads ofPlain? plain := by
  intro m
  have hparameters := Reads.list Parameter.reads m.parameters
  have hbody := Reads.list Statement.reads m.body
  have hgroups := Reads.list NestedGroup.reads m.nestedGroups
  simp only [plain, ofPlain?, read_record_cons, String.reduceBEq, some_bind, text?_text, bool?_bool,
    oneOf?_methodKind, Option.pure_def, hparameters, hbody, hgroups]

theorem Aggregate.reads : Reads ofPlain? plain := by
  intro a
  have hroot := Entity.reads a.rootEntity
  have hentities := Reads.list Entity.reads
  have hvalueObjects := Reads.list ValueObject.reads a.valueObjects
  have henums := Reads.list EnumType.reads a.enums
  have hmethods := Reads.list Method.reads a.methods
  simp only [plain, ofPlain?, read_record_cons, String.reduceBEq, some_bind, text?_text,
    textOrNull?_textOrNull, Option.pure_def, hroot, hentities _, hvalueObjects, henums, hmethods]

theorem DomainModel.reads : Reads ofPlain? plain := by
  intro m
  have haggregates := Reads.list Aggregate.reads m.aggregates
  have henums := Reads.list EnumType.reads m.allEnums
  simp only [plain, ofPlain?, read_record_cons, String.reduceBEq, some_bind, text?_text,
    Option.pure_def, haggregates, henums]

/-- The plain data say everything of a model: of its types at every depth, of the statements of its
methods, which have no tag, and of all else. -/
theorem DomainModel.ofPlain?_plain :
    (∀ m : DomainModel, ofPlain? m.plain = some m) ∧
      (∀ m m' : DomainModel, m.plain = m'.plain → m = m') ∧
      (∀ t : TypeRef, TypeRef.ofPlain? t.plain = some t) ∧
      ∀ s : Statement, Statement.ofPlain? s.plain = some s := by
  refine ⟨reads, fun m m' h => ?_, TypeRef.reads, Statement.reads⟩
  have hread : some m = some m' := by rw [← reads m, h, reads m']
  exact Option.some.inj hread

end Model

end DomainCompiler
