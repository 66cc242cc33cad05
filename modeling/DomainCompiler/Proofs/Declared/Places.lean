import DomainCompiler.Declared.Schema
import Mathlib.Data.List.Forall2

/-!
# Where records stand in a description

A description is a tree of records of eleven kinds. What stands under a key of a record is told by
the kind of the record and the key alone, and a record is read by asking for the keys of its kind:
so two records are read alike when they answer these questions alike and have the same keys to
spare.
-/

namespace DomainCompiler.Declared

open DomainCompiler.Schema

/-- The kinds of records that a description is made of. -/
inductive RecordKind where
  | document
  | aggregate
  | entity
  | audit
  | relationship
  | field
  | constraint
  | valueObject
  | method
  | enumType
  | transition
  deriving DecidableEq, Repr

/-- What may stand under a key. -/
inductive Content where
  /-- A record, where it is not null. -/
  | record (k : RecordKind)
  /-- A list of records, where it is not null. -/
  | records (k : RecordKind)
  /-- The source states of a transition. -/
  | sources
  /-- Scalars, and data that are not looked into. -/
  | other
  deriving DecidableEq, Repr

namespace RecordKind

def Declaration : RecordKind → Type
  | .document => Document
  | .aggregate => Aggregate
  | .entity => Entity
  | .audit => Audit
  | .relationship => Relationship
  | .field => Field
  | .constraint => Constraint
  | .valueObject => ValueObject
  | .method => Method
  | .enumType => EnumType
  | .transition => Transition

def read : (k : RecordKind) → Decoder k.Declaration
  | .document => Document.read
  | .aggregate => Aggregate.read
  | .entity => Entity.read
  | .audit => Audit.read
  | .relationship => Relationship.read
  | .field => Field.read
  | .constraint => Constraint.read
  | .valueObject => ValueObject.read
  | .method => Method.read
  | .enumType => EnumType.read
  | .transition => Transition.read

def keys : RecordKind → List Key
  | .document => Document.keys
  | .aggregate => Aggregate.keys
  | .entity => Entity.keys
  | .audit => Audit.keys
  | .relationship => Relationship.keys
  | .field => Field.keys
  | .constraint => Constraint.keys
  | .valueObject => ValueObject.keys
  | .method => Method.keys
  | .enumType => EnumType.keys
  | .transition => Transition.keys

/-- A key that had another spelling in older descriptions, and that spelling. -/
def olderSpelling? : RecordKind → Option (String × String)
  | .entity => some ("fields", "properties")
  | .valueObject => some ("fields", "properties")
  | .relationship => some ("target", "targetEntity")
  | _ => none

def fold (k : RecordKind) : Decoder Value :=
  match k.olderSpelling? with
  | some (key, older) => foldSpelling key older
  | none => .accepted

/-- The keys under which there is more than scalars, in all their spellings. -/
def parts : RecordKind → List (String × Content)
  | .document => [("aggregates", .records .aggregate)]
  | .aggregate =>
    [("entities", .records .entity), ("valueObjects", .records .valueObject),
      ("value_objects", .records .valueObject), ("enums", .records .enumType)]
  | .entity =>
    [("audit", .record .audit), ("fields", .records .field), ("properties", .records .field),
      ("relationships", .records .relationship)]
  | .field => [("validations", .records .constraint)]
  | .valueObject =>
    [("fields", .records .field), ("properties", .records .field), ("methods", .records .method)]
  | .enumType => [("transitions", .records .transition)]
  | .transition => [("from", .sources), ("from_states", .sources)]
  | _ => []

def content (k : RecordKind) (spelling : String) : Content :=
  (k.parts.lookup spelling).getD .other

end RecordKind

/-! ### Readings -/

namespace Content

/-- What is made of the value under a key. -/
def Reading : Content → Type
  | .record k => Checked (Option k.Declaration)
  | .records k => Checked (Option (List k.Declaration))
  | .sources => Checked (List String)
  | .other => Value

def reading : (c : Content) → Value → c.Reading
  | .record k => nullable k.read
  | .records k => nullable (list k.read)
  | .sources => Transition.readSources
  | .other => id

end Content

variable {γ : Type}

/-- The spelling under which the entries hold the key, and what is made of its value. -/
def reading (read : Value → γ) (key : Key) (entries : List (Value × Value)) : Option (String × γ) :=
  (key.find? entries).map fun found => (found.1, read found.2)

section

variable {α : Type} {read : Decoder α} {key : Key} {es fs : List (Value × Value)}

theorem required_eq_reading :
    key.required read es =
      match reading read key es with
      | some (spelling, x) => x.under (.key spelling)
      | none => .rejected [⟨[.key key.spelling], .missing⟩] := by
  rw [Key.required, reading]
  cases key.find? es <;> rfl

theorem optional_eq_reading {default : α} :
    key.optional read default es =
      match reading read key es with
      | some (spelling, x) => x.under (.key spelling)
      | none => .accepted default := by
  rw [Key.optional, reading]
  cases key.find? es <;> rfl

theorem required_congr (h : reading read key es = reading read key fs) :
    key.required read es = key.required read fs := by
  rw [required_eq_reading, required_eq_reading, h]

theorem optional_congr {default : α} (h : reading read key es = reading read key fs) :
    key.optional read default es = key.optional read default fs := by
  rw [optional_eq_reading, optional_eq_reading, h]

theorem reading_id : reading id key es = key.find? es := Option.map_id'

theorem reading_comp {δ : Type} (read : Value → γ) (f : γ → δ) :
    reading (f ∘ read) key es = (reading read key es).map fun found => (found.1, f found.2) := by
  rw [reading, reading, Option.map_map]
  rfl

end

/-- What is no list is null or has the same problem whether or not null is allowed. -/
theorem list_eq_comp {α : Type} (read : Decoder α) :
    list read =
      (fun x : Checked (Option (List α)) =>
        x.andThen fun items => items.elim (.fail .notList) .accepted) ∘ nullable (list read) := by
  funext v
  cases v with
  | null => rfl
  | list items => cases h : list read (.list items) <;> simp [nullable, h] <;> rfl
  | set members site => cases h : list read (.set members site) <;> simp [nullable, h] <;> rfl
  | _ => rfl

section

variable {α : Type} {key : Key} {es fs : List (Value × Value)}

theorem reading_list_congr (read : Decoder α)
    (h : reading (nullable (list read)) key es = reading (nullable (list read)) key fs) :
    reading (list read) key es = reading (list read) key fs := by
  rw [list_eq_comp, reading_comp, reading_comp, h]

theorem required_list_congr (read : Decoder α)
    (h : reading (nullable (list read)) key es = reading (nullable (list read)) key fs) :
    key.required (list read) es = key.required (list read) fs :=
  required_congr (reading_list_congr read h)

theorem optional_list_congr (read : Decoder α) {default : List α}
    (h : reading (nullable (list read)) key es = reading (nullable (list read)) key fs) :
    key.optional (list read) default es = key.optional (list read) default fs :=
  optional_congr (reading_list_congr read h)

end

theorem eq_of_nullable_eq {α : Type} {read : Decoder α} {v w : Value}
    (h : nullable read v = nullable read w) (hv : v ≠ .null) (hw : w ≠ .null) :
    read v = read w := by
  rw [nullable.eq_2 _ _ hv, nullable.eq_2 _ _ hw] at h
  cases hv : read v <;> cases hw : read w <;> simp_all [Checked.map]

theorem readItems_congr {α : Type} {read : Decoder α} {vs ws : List Value}
    (h : List.Forall₂ (fun v w => read v = read w) vs ws) (position : Nat) :
    readItems read position vs = readItems read position ws := by
  induction h generalizing position with
  | nil => rfl
  | cons hvw _ ih => rw [readItems, readItems, hvw, ih]

/-! ### Looking up entries -/

theorem entry?_cons_of_ne {s : String} {e : Value × Value} {rest : List (Value × Value)}
    (h : e.1 ≠ .text s) : Value.entry? s (e :: rest) = Value.entry? s rest := by
  obtain ⟨key, v⟩ := e
  cases key with
  | text t =>
    have hne : (t == s) = false := beq_false_of_ne fun heq => h (congrArg _ heq)
    rw [Value.entry?_cons_text, hne]
    rfl
  | _ => rfl

theorem entry?_cons_self (s : String) (v : Value) (rest : List (Value × Value)) :
    Value.entry? s ((.text s, v) :: rest) = some v := by
  rw [Value.entry?_cons_text, beq_self_eq_true]
  rfl

theorem entry?_eq_none_iff {s : String} {es : List (Value × Value)} :
    Value.entry? s es = none ↔ ∀ e ∈ es, e.1 ≠ .text s := by
  induction es with
  | nil => simp
  | cons e rest ih =>
    by_cases h : e.1 = .text s
    · obtain ⟨key, v⟩ := e
      cases h
      simp
    · rw [entry?_cons_of_ne h, ih, List.forall_mem_cons]
      exact ⟨fun hrest => ⟨h, hrest⟩, And.right⟩

theorem entry?_append (s : String) (es fs : List (Value × Value)) :
    Value.entry? s (es ++ fs) = (Value.entry? s es).or (Value.entry? s fs) := by
  induction es with
  | nil => rfl
  | cons e rest ih =>
    by_cases h : e.1 = .text s
    · obtain ⟨key, v⟩ := e
      cases h
      rw [List.cons_append, entry?_cons_self, entry?_cons_self]
      rfl
    · rw [List.cons_append, entry?_cons_of_ne h, entry?_cons_of_ne h, ih]

/-- Entries with the same keys in the same order have related values under each key. -/
theorem entry?_rel {R : Value → Value → Value → Prop} {es fs : List (Value × Value)}
    (h : List.Forall₂ (fun e f => e.1 = f.1 ∧ R e.1 e.2 f.2) es fs) (s : String) :
    Option.Rel (R (.text s)) (Value.entry? s es) (Value.entry? s fs) := by
  induction h with
  | nil => exact .none
  | @cons e f es fs hef _ ih =>
    obtain ⟨hkey, hR⟩ := hef
    by_cases he : e.1 = .text s
    · obtain ⟨key, v⟩ := e
      obtain ⟨key', w⟩ := f
      cases he
      cases hkey
      rw [entry?_cons_self, entry?_cons_self]
      exact .some hR
    · rw [entry?_cons_of_ne he, entry?_cons_of_ne (hkey ▸ he)]
      exact ih

namespace RecordKind

/-- The entries answer alike for each key of the record, and have the same keys to spare. -/
structure Agree (k : RecordKind) (es fs : List (Value × Value)) : Prop where
  keys : ∀ key ∈ k.keys,
    reading (k.content key.spelling).reading key es =
      reading (k.content key.spelling).reading key fs
  stray : strayKeys k.keys es = strayKeys k.keys fs

variable {k : RecordKind} {es fs es' fs' : List (Value × Value)}

theorem Agree.symm (h : k.Agree es fs) : k.Agree fs es :=
  ⟨fun key hkey => (h.keys key hkey).symm, h.stray.symm⟩

theorem Agree.trans {gs : List (Value × Value)} (h : k.Agree es fs) (h' : k.Agree fs gs) :
    k.Agree es gs :=
  ⟨fun key hkey => (h.keys key hkey).trans (h'.keys key hkey), h.stray.trans h'.stray⟩

/-- A key of scalars is read alike, by whatever it is read. -/
theorem Agree.find?_eq (h : k.Agree es fs) {key : Key} (hkey : key ∈ k.keys)
    (hcontent : k.content key.spelling = .other) : key.find? es = key.find? fs := by
  have hread := h.keys key hkey
  rw [hcontent] at hread
  exact reading_id.symm.trans (hread.trans reading_id)

variable {α : Type}

theorem Agree.required (h : k.Agree es fs) (key : Key) (read : Decoder α)
    (hkey : key ∈ k.keys := by decide) (hcontent : k.content key.spelling = .other := by rfl) :
    key.required read es = key.required read fs := by
  rw [Key.required, Key.required, h.find?_eq hkey hcontent]

theorem Agree.optional (h : k.Agree es fs) (key : Key) (read : Decoder α) (default : α)
    (hkey : key ∈ k.keys := by decide) (hcontent : k.content key.spelling = .other := by rfl) :
    key.optional read default es = key.optional read default fs := by
  rw [Key.optional, Key.optional, h.find?_eq hkey hcontent]

theorem Agree.readDescription (h : k.Agree es fs) (hkey : descriptionKey ∈ k.keys := by decide)
    (hcontent : k.content descriptionKey.spelling = .other := by rfl) :
    readDescription es = readDescription fs :=
  h.optional _ _ _ hkey hcontent

theorem record_congr {title : String} {body : List (Value × Value) → Checked α}
    (hbody : body es = body fs) (h : k.Agree es fs) :
    record title k.keys body (.map es) = record title k.keys body (.map fs) := by
  rw [record, record, hbody, h.stray]

theorem folded_congr (k : RecordKind) {title key older : String}
    {body : List (Value × Value) → Checked α}
    (hes : foldSpelling key older (.map es) = .accepted (.map es'))
    (hfs : foldSpelling key older (.map fs) = .accepted (.map fs')) (hbody : body es' = body fs')
    (h : k.Agree es' fs') :
    (foldSpelling key older (.map es)).andThen (record title k.keys body) =
      (foldSpelling key older (.map fs)).andThen (record title k.keys body) := by
  rw [hes, hfs]
  change record title k.keys body (.map es') = record title k.keys body (.map fs')
  exact record_congr hbody h

/-- Records whose entries agree, once the older spelling is folded, are read alike. -/
theorem read_eq_of_agree (hes : k.fold (.map es) = .accepted (.map es'))
    (hfs : k.fold (.map fs) = .accepted (.map fs')) (h : k.Agree es' fs') :
    k.read (.map es) = k.read (.map fs) := by
  cases k with
  | document =>
    cases hes
    cases hfs
    change Document.read _ = Document.read _
    refine record_congr ?_ h
    rw [required_list_congr Aggregate.read (h.keys Document.aggregatesKey (by decide))]
  | aggregate =>
    cases hes
    cases hfs
    change Aggregate.read _ = Aggregate.read _
    refine record_congr ?_ h
    rw [h.required nameKey, h.optional Aggregate.packageKey,
      optional_list_congr Entity.read (h.keys Aggregate.entitiesKey (by decide)),
      optional_list_congr ValueObject.read (h.keys Aggregate.valueObjectsKey (by decide)),
      optional_list_congr EnumType.read (h.keys Aggregate.enumsKey (by decide)), h.readDescription]
  | entity =>
    change Entity.read _ = Entity.read _
    refine folded_congr .entity hes hfs ?_ h
    have haudit := h.keys Entity.auditKey (by decide)
    rw [h.required nameKey, h.optional Entity.isRootKey, h.optional Entity.tableNameKey,
      optional_congr (show reading (nullable Audit.read) _ _ = _ from haudit),
      h.optional Entity.auditableKey,
      optional_list_congr Field.read (h.keys fieldsKey (by decide)),
      optional_list_congr Relationship.read (h.keys Entity.relationshipsKey (by decide)),
      h.readDescription]
  | audit =>
    cases hes
    cases hfs
    change Audit.read _ = Audit.read _
    refine record_congr ?_ h
    rw [h.optional Audit.enabledKey, h.optional Audit.trackUserKey]
  | relationship =>
    change Relationship.read _ = Relationship.read _
    refine folded_congr .relationship hes hfs ?_ h
    rw [h.required Relationship.kindKey, h.optional Relationship.targetKey,
      h.optional Relationship.mappedByKey, h.optional Relationship.joinColumnKey,
      h.optional Relationship.cascadeKey, h.optional Relationship.fetchKey, h.readDescription]
  | field =>
    cases hes
    cases hfs
    change Field.read _ = Field.read _
    refine record_congr ?_ h
    rw [h.required nameKey, h.required Field.typeKey, h.optional Field.enumValuesKey,
      h.optional Field.isValueObjectKey, h.optional Field.isEmbeddedKey,
      h.optional Field.readOnlyKey, h.optional Field.hiddenKey,
      optional_list_congr Constraint.read (h.keys Field.constraintsKey (by decide)),
      h.optional Field.annotationsKey, h.readDescription]
  | constraint =>
    cases hes
    cases hfs
    change Constraint.read _ = Constraint.read _
    refine record_congr ?_ h
    rw [h.required Constraint.kindKey, h.optional Constraint.messageKey,
      h.optional Constraint.valueKey, h.optional Constraint.minKey, h.optional Constraint.maxKey,
      h.optional Constraint.regexpKey, h.optional Constraint.integerKey,
      h.optional Constraint.fractionKey, h.optional Constraint.inclusiveKey]
  | valueObject =>
    change ValueObject.read _ = ValueObject.read _
    refine folded_congr .valueObject hes hfs ?_ h
    rw [h.required nameKey, optional_list_congr Field.read (h.keys fieldsKey (by decide)),
      optional_list_congr Method.read (h.keys ValueObject.methodsKey (by decide)),
      h.optional ValueObject.validationKey, h.readDescription]
  | method =>
    cases hes
    cases hfs
    change Method.read _ = Method.read _
    refine record_congr ?_ h
    rw [h.required nameKey, h.optional Method.returnTypeKey, h.optional Method.parametersKey,
      h.optional Method.bodyKey]
  | enumType =>
    cases hes
    cases hfs
    change EnumType.read _ = EnumType.read _
    refine record_congr ?_ h
    have htransitions := h.keys EnumType.transitionsKey (by decide)
    rw [h.required nameKey, h.required EnumType.valuesKey,
      optional_congr (show reading (nullable (list Transition.read)) _ _ = _ from htransitions),
      h.optional EnumType.initialValueKey, h.readDescription]
  | transition =>
    cases hes
    cases hfs
    change Transition.read _ = Transition.read _
    refine record_congr ?_ h
    have hsources := h.keys Transition.sourcesKey (by decide)
    rw [required_congr (show reading Transition.readSources _ _ = _ from hsources),
      h.required Transition.targetKey]

end RecordKind

end DomainCompiler.Declared
