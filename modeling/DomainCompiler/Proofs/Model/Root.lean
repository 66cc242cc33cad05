import DomainCompiler.Proofs.Model.Inverse
import DomainCompiler.Proofs.Model.Imports

/-!
# The root of an aggregate

The root is met in three places: among all entities, beside the other ones, and by itself. It is
found by its flag alone, gets the imports of its methods on top of its own, and is put back to where
it stood. Whatever the entities are called, the three places agree, and where the flag does not
single out one entity nothing is resolved at all.
-/

namespace DomainCompiler.Model.Aggregate

open DomainCompiler.Naming
open DomainCompiler.Traversal

variable {options : Options} {d : Declared.Aggregate} {a : Aggregate}

/-! ### Without a root, or with many -/

theorem checkRoot_eq_error_iff {x : ResolveError} :
    checkRoot d = .error x ↔ rootNames d = [] ∧ x = .missingRoot d.name ∨
      2 ≤ (rootNames d).length ∧ x = .manyRoots d.name (rootNames d) := by
  rw [checkRoot]
  rcases rootNames d with _ | ⟨first, _ | ⟨second, rest⟩⟩ <;> simp [eq_comm]

/-- The roots are counted before anything else is looked at. -/
theorem resolve_eq_error_of_checkRoot {x : ResolveError} (h : checkRoot d = .error x) :
    resolve options d = .error x := by
  rw [resolve, h]
  rfl

theorem checkRoot_eq_error_of_refused {x : ResolveError} (h : resolve options d = .error x)
    (hcode : x.code = "E001" ∨ x.code = "E002") : checkRoot d = .error x := by
  rcases of_resolve_eq_error h with h | ⟨e, -, h⟩
  · exact h
  · -- What is wrong with an entity is reported by other codes.
    rcases Entity.of_resolve_eq_error h with ⟨-, rfl⟩ | ⟨r, -, -, rfl⟩ <;>
      simp [ResolveError.code] at hcode

/-- The resolver gives nothing but the one issue. -/
def RefusedFor (options : Options) (d : Declared.Aggregate) (code : String) : Prop :=
  ∃ x, resolve options d = .error x ∧ x.failure.findings.map (·.code) = [code]

theorem refusedFor_missingRoot_iff : RefusedFor options d "E001" ↔ rootNames d = [] := by
  constructor
  · rintro ⟨x, hx, hcode⟩
    have hcode : x.code = "E001" := (List.cons.inj hcode).1
    have hcheck := checkRoot_eq_error_of_refused hx (.inl hcode)
    rcases checkRoot_eq_error_iff.mp hcheck with ⟨hnone, -⟩ | ⟨-, rfl⟩
    · exact hnone
    · simp [ResolveError.code] at hcode
  · intro hnone
    exact ⟨_, resolve_eq_error_of_checkRoot (checkRoot_eq_error_iff.mpr (.inl ⟨hnone, rfl⟩)), rfl⟩

theorem refusedFor_manyRoots_iff : RefusedFor options d "E002" ↔ 2 ≤ (rootNames d).length := by
  constructor
  · rintro ⟨x, hx, hcode⟩
    have hcode : x.code = "E002" := (List.cons.inj hcode).1
    have hcheck := checkRoot_eq_error_of_refused hx (.inr hcode)
    rcases checkRoot_eq_error_iff.mp hcheck with ⟨-, rfl⟩ | ⟨hmany, -⟩
    · simp [ResolveError.code] at hcode
    · exact hmany
  · intro hmany
    exact ⟨_, resolve_eq_error_of_checkRoot (checkRoot_eq_error_iff.mpr (.inr ⟨hmany, rfl⟩)), rfl⟩

/-! ### The root among the entities -/

@[simp] theorem withImports_enums (e : Entity) (imports : List String) :
    (withImports e imports).enums = e.enums := by
  unfold withImports
  split <;> rfl

@[simp] theorem withImports_isRoot (e : Entity) (imports : List String) :
    (withImports e imports).isRoot = e.isRoot := by
  unfold withImports
  split <;> rfl

/-- What the types of the parameters of the methods call for. -/
def methodImports (o : Options) (a : Aggregate) : List String :=
  Imports.ofParameters (a.methods.flatMap fun m => m.parameters.map (·.type))
    (a.allEntities.flatMap (·.enums) ++ a.enums) o

theorem split_of_filter_isRoot {entities : List Entity} {root : Entity}
    (h : entities.filter (·.isRoot) = [root]) :
    ∃ before after, entities = before ++ root :: after ∧ root.isRoot = true ∧
      ∀ e ∈ before ++ after, e.isRoot = false := by
  obtain ⟨before, after, rfl, hbefore, hroot, hafter⟩ := List.filter_eq_cons_iff.mp h
  rw [List.filter_eq_nil_iff] at hafter
  refine ⟨before, after, rfl, hroot, List.forall_mem_append.mpr ⟨?_, ?_⟩⟩
  · exact fun e he => Bool.eq_false_iff.mpr (hbefore e he)
  · exact fun e he => Bool.eq_false_iff.mpr (hafter e he)

/-- The aggregate is put together around its root, which stands where it was declared. -/
structure Around (options : Options) (d : Declared.Aggregate) (a : Aggregate)
    (before : List Entity) (root : Entity) (after : List Entity) : Prop where
  entities : List.Forall₂ (Resolves options d) d.entities (before ++ root :: after)
  isRoot : root.isRoot = true
  others : ∀ e ∈ before ++ after, e.isRoot = false
  rootEntity : a.rootEntity = { root with
    requiredImports := NameSet.ofList (root.requiredImports ++ methodImports options a) }
  allEntities : a.allEntities = before ++ a.rootEntity :: after
  secondaryEntities : a.secondaryEntities = before ++ after
  enums : a.enums = resolvedEnums d

section Split

variable {before after : List Entity} {root : Entity}

theorem map_replace_root (hroot : root.isRoot = true)
    (hothers : ∀ e ∈ before ++ after, e.isRoot = false) (e' : Entity) :
    ((before ++ root :: after).map fun e => if e.isRoot then e' else e) =
      before ++ e' :: after := by
  have hkept : ∀ es : List Entity, (∀ e ∈ es, e.isRoot = false) →
      (es.map fun e => if e.isRoot then e' else e) = es := by
    intro es hes
    refine (List.map_congr_left fun e he => ?_).trans (List.map_id es)
    rw [hes e he, if_neg Bool.false_ne_true, id]
  obtain ⟨hbefore, hafter⟩ := List.forall_mem_append.mp hothers
  rw [List.map_append, List.map_cons, hkept before hbefore, hkept after hafter, if_pos hroot]

theorem filter_not_isRoot (hroot : root.isRoot = true)
    (hothers : ∀ e ∈ before ++ after, e.isRoot = false) :
    (before ++ root :: after).filter (fun e => !e.isRoot) = before ++ after := by
  have hkept : (before ++ after).filter (fun e => !e.isRoot) = before ++ after :=
    List.filter_eq_self.mpr fun e he => by rw [hothers e he]; rfl
  rw [List.filter_append] at hkept ⊢
  rw [List.filter_cons_of_neg (by rw [hroot]; exact Bool.false_ne_true), hkept]

end Split

theorem exists_around (h : resolve options d = .ok a) :
    ∃ before root after, Around options d a before root after := by
  obtain ⟨entities, root, hstep, hroots, rfl⟩ := resolve_eq_ok_iff.mp h
  obtain ⟨before, after, rfl, hroot, hothers⟩ := split_of_filter_isRoot hroots
  obtain ⟨x, -, hresolves⟩ := Forall₂.exists_left hstep (mem_of_filter_isRoot hroots)
  set a := assemble d options (resolvedEnums d) (resolvedValueObjects options d)
    (before ++ root :: after) root
  have hall : a.allEntities = before ++ a.rootEntity :: after :=
    map_replace_root hroot hothers a.rootEntity
  -- The enums in which the types of the parameters are looked up are those from before.
  have henums : a.allEntities.flatMap (·.enums) = (before ++ root :: after).flatMap (·.enums) := by
    have hroot : a.rootEntity.enums = root.enums := withImports_enums root _
    rw [hall, List.flatMap_append, List.flatMap_append, List.flatMap_cons, List.flatMap_cons, hroot]
  have hrootEntity : a.rootEntity = withImports root (methodImports options a) := by
    rw [methodImports, henums]
    rfl
  rw [withImports_eq hresolves.ascending] at hrootEntity
  exact ⟨before, root, after, hstep, hroot, hothers, hrootEntity, hall,
    filter_not_isRoot hroot hothers, rfl⟩

theorem rootEntity_mem_allEntities (h : resolve options d = .ok a) :
    a.rootEntity ∈ a.allEntities := by
  obtain ⟨before, root, after, haround⟩ := exists_around h
  rw [haround.allEntities]
  exact List.mem_append_right _ List.mem_cons_self

/-- What becomes of the entities of an aggregate that has one root. -/
structure Rooted (options : Options) (d : Declared.Aggregate) (a : Aggregate) : Prop where
  names : a.allEntities.map (·.name) = d.entities.map fun x => pascal x.name
  flags : a.allEntities.map (·.isRoot) = d.entities.map (·.isRoot)
  /-- The other entities are all entities without the root, in order. -/
  split : ∃ before after, a.allEntities = before ++ a.rootEntity :: after ∧
    a.secondaryEntities = before ++ after ∧ a.rootEntity.isRoot = true ∧
      ∀ e ∈ before ++ after, e.isRoot = false
  /-- The root has the imports of an entity and those of its methods. -/
  imports : a.rootEntity.requiredImports =
    NameSet.ofList (Imports.ofEntity a.rootEntity.fields a.rootEntity.relationships
      (a.rootEntity.enums ++ a.enums) options ++ methodImports options a)

theorem map_isRoot_allEntities (h : resolve options d = .ok a) :
    a.allEntities.map (·.isRoot) = d.entities.map (·.isRoot) := by
  refine (Forall₂.map_eq (forall₂_allEntities h) fun x e hx => ?_).symm
  obtain ⟨e', imports, hresolves, rfl⟩ := hx
  rw [withImports_isRoot, hresolves.isRoot]

theorem requiredImports_rootEntity (h : resolve options d = .ok a) :
    a.rootEntity.requiredImports =
      NameSet.ofList (Imports.ofEntity a.rootEntity.fields a.rootEntity.relationships
        (a.rootEntity.enums ++ a.enums) options ++ methodImports options a) := by
  obtain ⟨before, root, after, haround⟩ := exists_around h
  obtain ⟨x, -, hresolves⟩ := Forall₂.exists_left haround.entities
    (List.mem_append_right before List.mem_cons_self)
  rw [haround.rootEntity, hresolves.requiredImports_eq, haround.enums]

theorem rooted_of_resolve (h : resolve options d = .ok a) : Rooted options d a := by
  obtain ⟨before, root, after, haround⟩ := exists_around h
  refine ⟨map_name_allEntities h, map_isRoot_allEntities h, ?_, requiredImports_rootEntity h⟩
  refine ⟨before, after, haround.allEntities, haround.secondaryEntities, ?_, haround.others⟩
  rw [haround.rootEntity]
  exact haround.isRoot

/-- An aggregate is refused where it has no root and where it has several, each by its own code;
where it is resolved, the root that was declared is the root everywhere. -/
theorem rooted_or_refused (options : Options) (d : Declared.Aggregate) :
    (RefusedFor options d "E001" ↔ ∀ x ∈ d.entities, x.isRoot = false) ∧
      (RefusedFor options d "E002" ↔ 2 ≤ (d.entities.filter (·.isRoot)).length) ∧
      ∀ a, resolve options d = .ok a → Rooted options d a := by
  refine ⟨?_, ?_, fun a h => rooted_of_resolve h⟩
  · rw [refusedFor_missingRoot_iff, rootNames, List.map_eq_nil_iff, List.filter_eq_nil_iff]
    simp only [Bool.not_eq_true]
  · rw [refusedFor_manyRoots_iff, rootNames, List.length_map]

/-- Two notes of one name, and orders that have notes, behind the first of them. -/
def notesAndOrder : Declared.Aggregate :=
  let note (type : String) := plainEntity "note" false [{ name := "text", type }] []
  plainAggregate "Order"
    [note "BigDecimal", plainEntity "order" true [] [plainRelationship .oneToMany "note" none],
     note "UUID"]

def twoOrders : Declared.Aggregate :=
  plainAggregate "Order" [plainEntity "order" true [] [], plainEntity "order" true [] []]

theorem rooted_or_refused_notesAndOrder :
    RefusedFor {} (plainAggregate "Order" []) "E001" ∧ RefusedFor {} twoOrders "E002" ∧
      ∃ a, resolve {} notesAndOrder = .ok a ∧ Rooted {} notesAndOrder a ∧
        a.allEntities.map (fun e => (e.name, e.isRoot, e.requiredImports)) =
          [("Note", false, ["java.math.BigDecimal"]),
           ("Order", true, ["java.math.BigDecimal", "java.util.ArrayList",
            "java.util.Collections", "java.util.List"]),
           ("Note", false, ["java.util.UUID"])] :=
  ⟨(rooted_or_refused {} _).1.mpr nofun, (rooted_or_refused {} twoOrders).2.1.mpr (by decide), _,
    rfl, (rooted_or_refused {} notesAndOrder).2.2 _ rfl, by decide +kernel⟩

end DomainCompiler.Model.Aggregate
