import DomainCompiler.Proofs.Model.Resolved
import DomainCompiler.Proofs.NameSet

/-!
# Enums among the imports

The imports of enums depend on the options, all others only on the types. The two are never
confused: the import of an enum has more dots than any other, whatever the options are. An enum is
imported exactly where its name is left of a type when one list is taken off.
-/

namespace DomainCompiler

/-- How many dots there are in an import. -/
def dots (s : String) : Nat := s.toList.count '.'

namespace Options

variable {o : Options}

theorem three_le_dots_enumImport (o : Options) (name : String) : 3 ≤ dots (o.enumImport name) := by
  have hdot : ".".toList.count '.' = 1 := rfl
  simp only [dots, enumImport, String.toList_append, List.count_append, hdot]
  omega

theorem enumImport_injective (o : Options) : Function.Injective o.enumImport := by
  intro m n h
  exact (String.append_right_inj _).mp h

/-- The imports without those of the enums with the names. -/
def withoutEnums (o : Options) (names imports : List String) : List String :=
  imports.filter fun s => s ∉ names.map o.enumImport

theorem withoutEnums_append (names xs ys : List String) :
    o.withoutEnums names (xs ++ ys) = o.withoutEnums names xs ++ o.withoutEnums names ys :=
  List.filter_append xs ys

theorem withoutEnums_ofList (names imports : List String) :
    o.withoutEnums names (NameSet.ofList imports) =
      NameSet.ofList (o.withoutEnums names imports) :=
  NameSet.filter_ofList _ imports

theorem withoutEnums_eq_self {names imports : List String} (h : ∀ s ∈ imports, dots s = 2) :
    o.withoutEnums names imports = imports := by
  refine List.filter_eq_self.mpr fun s hs => decide_eq_true fun hmem => ?_
  obtain ⟨name, -, rfl⟩ := List.mem_map.mp hmem
  have htwo := h _ hs
  have hthree := three_le_dots_enumImport o name
  omega

end Options

namespace Model.Imports

open DomainCompiler.Text

theorem dots_of_mem_ofType {type s : String} (h : s ∈ ofType type) : dots s = 2 := by
  have htable : ∀ e ∈ typeImports, dots e.2 = 2 := by decide
  obtain ⟨e, he, hs⟩ := List.mem_filterMap.mp h
  split at hs
  · obtain rfl := Option.some.inj hs
    exact htable e he
  · cases hs

section Enums

variable {types : List String} {enums : List EnumType} {o : Options}

theorem mem_ofEnums_iff {s : String} :
    s ∈ ofEnums types enums o ↔ o.qualifiesEnums = true ∧
      ∃ t ∈ types, withoutList t ∈ enums.map (·.name) ∧ o.enumImport (withoutList t) = s := by
  rw [ofEnums]
  cases o.qualifiesEnums with
  | false => simp
  | true => simp [List.mem_filterMap]

theorem ofTypes_nil (types : List String) (o : Options) :
    ofTypes types [] o = types.flatMap ofType := by
  have hnone : ofEnums types [] o = [] := by
    refine List.eq_nil_iff_forall_not_mem.mpr fun s hs => ?_
    obtain ⟨-, t, -, hname, -⟩ := mem_ofEnums_iff.mp hs
    cases hname
  rw [ofTypes, hnone, List.append_nil]

theorem withoutEnums_ofTypes {names : List String} (h : ∀ e ∈ enums, e.name ∈ names) :
    o.withoutEnums names (ofTypes types enums o) = ofTypes types [] {} := by
  have hother : o.withoutEnums names (types.flatMap ofType) = types.flatMap ofType := by
    refine Options.withoutEnums_eq_self fun s hs => ?_
    obtain ⟨t, -, hs⟩ := List.mem_flatMap.mp hs
    exact dots_of_mem_ofType hs
  have hnone : o.withoutEnums names (ofEnums types enums o) = [] := by
    refine List.filter_eq_nil_iff.mpr fun s hs => ?_
    obtain ⟨-, t, -, hname, rfl⟩ := mem_ofEnums_iff.mp hs
    obtain ⟨e, he, hbase⟩ := List.mem_map.mp hname
    rw [decide_not, Bool.not_eq_true', decide_eq_false_iff_not, not_not, ← hbase]
    exact List.mem_map_of_mem (h e he)
  rw [ofTypes_nil, ofTypes, Options.withoutEnums_append, hother, hnone, List.append_nil]

variable {fields : List Field} {relationships : List Relationship} {names : List String}
  {name : String}

theorem enumImport_mem_ofTypes_iff :
    o.enumImport name ∈ ofTypes types enums o ↔ o.qualifiesEnums = true ∧
      name ∈ enums.map (·.name) ∧ ∃ t ∈ types, withoutList t = name := by
  have hother : o.enumImport name ∉ types.flatMap ofType := by
    intro h
    obtain ⟨t, -, ht⟩ := List.mem_flatMap.mp h
    have htwo := dots_of_mem_ofType ht
    have hthree := o.three_le_dots_enumImport name
    omega
  rw [ofTypes, List.mem_append, or_iff_right hother, mem_ofEnums_iff]
  refine and_congr_right fun _ => ?_
  constructor
  · rintro ⟨t, ht, hname, himport⟩
    obtain rfl := o.enumImport_injective himport
    exact ⟨hname, t, ht, rfl⟩
  · rintro ⟨hname, t, ht, rfl⟩
    exact ⟨t, ht, hname, rfl⟩

theorem enumImport_mem_ofTypes_append_iff {lists : List String}
    (hlists : ∀ s ∈ lists, dots s = 2) (needed : Bool) :
    o.enumImport name ∈
        NameSet.ofList (ofTypes types enums o ++ if needed then lists else []) ↔
      o.qualifiesEnums = true ∧ name ∈ enums.map (·.name) ∧ ∃ t ∈ types, withoutList t = name := by
  have hother : o.enumImport name ∉ if needed then lists else [] := by
    intro h
    split at h
    · have htwo := hlists _ h
      have hthree := o.three_le_dots_enumImport name
      omega
    · cases h
  rw [NameSet.mem_ofList, List.mem_append, or_iff_left hother, enumImport_mem_ofTypes_iff]

theorem enumImport_mem_ofEntity_iff :
    o.enumImport name ∈ ofEntity fields relationships enums o ↔ o.qualifiesEnums = true ∧
      name ∈ enums.map (·.name) ∧ ∃ f ∈ fields, withoutList f.resolvedType = name := by
  rw [ofEntity, enumImport_mem_ofTypes_append_iff (by decide)]
  simp only [List.mem_map, exists_exists_and_eq_and]

theorem enumImport_mem_ofValueObject_iff :
    o.enumImport name ∈ ofValueObject fields enums o ↔ o.qualifiesEnums = true ∧
      name ∈ enums.map (·.name) ∧ ∃ f ∈ fields, withoutList f.resolvedType = name := by
  rw [ofValueObject, enumImport_mem_ofTypes_append_iff (by decide)]
  simp only [List.mem_map, exists_exists_and_eq_and]

theorem enumImport_mem_ofParameters_iff :
    o.enumImport name ∈ ofParameters types enums o ↔ o.qualifiesEnums = true ∧
      name ∈ enums.map (·.name) ∧ ∃ t ∈ types, withoutList t = name := by
  rw [ofParameters, NameSet.mem_ofList, enumImport_mem_ofTypes_iff]

/-- What lists need is imported whatever the enums are. -/
theorem withoutEnums_ofTypes_append {lists : List String} (hlists : ∀ s ∈ lists, dots s = 2)
    (h : ∀ e ∈ enums, e.name ∈ names) (needed : Bool) :
    o.withoutEnums names
        (NameSet.ofList (ofTypes types enums o ++ if needed then lists else [])) =
      NameSet.ofList (ofTypes types [] {} ++ if needed then lists else []) := by
  have hkept : o.withoutEnums names (if needed then lists else []) =
      if needed then lists else [] := by
    refine Options.withoutEnums_eq_self fun s hs => ?_
    split at hs
    · exact hlists s hs
    · cases hs
  rw [Options.withoutEnums_ofList, Options.withoutEnums_append, withoutEnums_ofTypes h, hkept]

theorem withoutEnums_ofEntity (h : ∀ e ∈ enums, e.name ∈ names) :
    o.withoutEnums names (ofEntity fields relationships enums o) =
      ofEntity fields relationships [] {} :=
  withoutEnums_ofTypes_append (by decide) h _

theorem withoutEnums_ofValueObject (h : ∀ e ∈ enums, e.name ∈ names) :
    o.withoutEnums names (ofValueObject fields enums o) = ofValueObject fields [] {} :=
  withoutEnums_ofTypes_append (by decide) h _

theorem withoutEnums_ofParameters (h : ∀ e ∈ enums, e.name ∈ names) :
    o.withoutEnums names (ofParameters types enums o) = ofParameters types [] {} := by
  rw [ofParameters, ofParameters, Options.withoutEnums_ofList, withoutEnums_ofTypes h]

end Enums

end Model.Imports

/-! ### The imports of a resolved entity -/

namespace Model.Aggregate

variable {o : Options} {d : Declared.Aggregate} {x : Declared.Entity} {e : Entity}

theorem Resolves.enums_eq (h : Resolves o d x e) : e.enums = EnumType.inlineOf x.fields := by
  obtain ⟨-, declared, -, rfl⟩ := Entity.resolve_eq_ok_iff.mp h
  rfl

theorem Resolves.requiredImports_eq (h : Resolves o d x e) :
    e.requiredImports =
      Imports.ofEntity e.fields e.relationships (e.enums ++ resolvedEnums d) o := by
  obtain ⟨-, declared, -, rfl⟩ := Entity.resolve_eq_ok_iff.mp h
  rfl

theorem Resolves.ascending (h : Resolves o d x e) : NameSet.Ascending e.requiredImports := by
  rw [h.requiredImports_eq]
  exact NameSet.ascending_ofList _

theorem mem_of_filter_isRoot {entities : List Entity} (h : entities.filter (·.isRoot) = [e]) :
    e ∈ entities := by
  have hmem : e ∈ entities.filter (·.isRoot) := by
    rw [h]
    exact List.mem_singleton_self e
  exact List.mem_of_mem_filter hmem

theorem withImports_eq (h : NameSet.Ascending e.requiredImports) (imports : List String) :
    withImports e imports =
      { e with requiredImports := NameSet.ofList (e.requiredImports ++ imports) } := by
  cases imports with
  | nil =>
    rw [List.append_nil, h.ofList_eq]
    rfl
  | cons s rest => rfl

end Model.Aggregate

end DomainCompiler
