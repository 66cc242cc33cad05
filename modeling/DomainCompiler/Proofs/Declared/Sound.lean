import DomainCompiler.Proofs.Declared.Folding
import DomainCompiler.Proofs.Schema.Problems

/-!
# Records without problems

In a record that is read without a problem every part is read without one, and every key is used.
-/

namespace DomainCompiler

namespace Declared

open DomainCompiler.Schema

/-! ### Parts without problems -/

/-- What the value is read as has no problem. -/
def Content.Clean : Content → Value → Prop
  | .record k, v => (nullable k.read v).problems = []
  | .records k, v => (nullable (list k.read) v).problems = []
  | _, _ => True

theorem Content.clean_null (c : Content) : c.Clean .null := by
  cases c <;> trivial

section

variable {α : Type} {read : Decoder α} {key : Key} {es : List (Value × Value)} {s : String}
  {v : Value}

theorem problems_nullable_of_nil (h : (read v).problems = []) :
    (nullable read v).problems = [] := by
  rw [nullable.eq_def]
  split
  · rfl
  · simpa using h

theorem problems_nil_of_find? {default : α} (h : (key.optional read default es).problems = [])
    (hfind : key.find? es = some (s, v)) : (read v).problems = [] := by
  simpa [Key.optional, hfind] using h

theorem clean_of_optional {k : RecordKind} {default : List k.Declaration}
    (h : (key.optional (list k.read) default es).problems = []) (s : String) (v : Value)
    (hfind : key.find? es = some (s, v)) : (Content.records k).Clean v :=
  problems_nullable_of_nil (problems_nil_of_find? h hfind)

theorem record_problems_nil {title : String} {keys : List Key}
    {body : List (Value × Value) → Checked α}
    (h : (record title keys body (.map es)).problems = []) :
    (body es).problems = [] ∧ strayKeys keys es = [] :=
  List.append_eq_nil_iff.mp ((Checked.problems_withProblems _ _).symm.trans h)

theorem andThen_problems_nil {β : Type} {x : Checked α} {f : α → Checked β} (hx : x.Honest)
    (h : (x.andThen f).problems = []) : ∃ a, x = .accepted a ∧ (f a).problems = [] := by
  cases x with
  | accepted a => exact ⟨a, rfl, h⟩
  | rejected ps =>
    obtain ⟨a, ha⟩ := hx h
    cases ha

end

namespace RecordKind

variable {k : RecordKind} {es fs : List (Value × Value)} {s : String} {x v : Value}

/-! ### Keys that are used -/

theorem mem_used (h : s ∈ k.used es) :
    ∃ key ∈ k.keys, (s = key.spelling ∨ s = key.name) ∧
      ∃ v, key.find? es = some (s, v) ∧ Value.entry? s es = some v := by
  obtain ⟨key, hkey, hfind⟩ := List.mem_filterMap.mp h
  refine ⟨key, hkey, ?_⟩
  rw [Key.find?] at hfind ⊢
  cases hspelling : Value.entry? key.spelling es with
  | some v =>
    rw [hspelling] at hfind
    cases hfind
    exact ⟨.inl rfl, v, rfl, hspelling⟩
  | none =>
    cases hname : Value.entry? key.name es with
    | some v =>
      rw [hspelling, hname] at hfind
      cases hfind
      exact ⟨.inr rfl, v, rfl, hname⟩
    | none => simp [hspelling, hname] at hfind

theorem strayKey_eq_none_iff {used : List String} :
    strayKey used x = none ↔ ∃ s ∈ used, x = .text s := by
  cases x <;> simp [strayKey]

theorem strayKeys_eq_nil_iff :
    strayKeys k.keys es = [] ↔ ∀ x ∈ es.map Prod.fst, strayKey (k.used es) x = none := by
  rw [strayKeys_eq, List.filterMap_eq_nil_iff, List.forall_mem_map]

/-! ### Sound records -/

/-- The entries fold, no key is left over, and what is found under a key has no problem. -/
structure Sound (k : RecordKind) (es : List (Value × Value)) : Prop where
  folds : k.Folds es
  stray : strayKeys k.keys (k.folded es) = []
  parts : ∀ key ∈ k.keys, ∀ s v, key.find? (k.folded es) = some (s, v) →
    (k.content key.spelling).Clean v

theorem sound_of_record {α : Type} {title : String} {body : List (Value × Value) → Checked α}
    (hk : k.olderSpelling? = none) (h : (record title k.keys body (.map es)).problems = [])
    (hparts : (body es).problems = [] → ∀ key ∈ k.keys, ∀ s v, key.find? es = some (s, v) →
      (k.content key.spelling).Clean v) : k.Sound es := by
  obtain ⟨hbody, hstray⟩ := record_problems_nil h
  have hself : k.folded es = es := folded_eq_self (by simp [hk])
  exact ⟨by simp [Folds, hk], hself.symm ▸ hstray, hself.symm ▸ hparts hbody⟩

theorem sound_of_folded {α : Type} {title key older : String}
    {body : List (Value × Value) → Checked α} (hk : k.olderSpelling? = some (key, older))
    (h : ((foldSpelling key older (.map es)).andThen (record title k.keys body)).problems = [])
    (hparts : ∀ fs, (body fs).problems = [] → ∀ key ∈ k.keys, ∀ s v, key.find? fs = some (s, v) →
      (k.content key.spelling).Clean v) : k.Sound es := by
  obtain ⟨w, hw, hrecord⟩ := andThen_problems_nil (reports_foldSpelling _ _ _) h
  have hfold : k.fold (.map es) = .accepted w := by
    rw [fold, hk]
    exact hw
  obtain ⟨hfolds, rfl⟩ := fold_eq_iff.mp hfold
  obtain ⟨hbody, hstray⟩ := record_problems_nil hrecord
  exact ⟨hfolds, hstray, hparts _ hbody⟩

/-- It is enough to look at the keys of records. -/
theorem clean_of_parts (parts : List Key)
    (hk : ∀ key ∈ k.keys, k.content key.spelling = .other ∨ k.content key.spelling = .sources ∨
      key ∈ parts)
    (h : ∀ key ∈ parts, ∀ s v, key.find? es = some (s, v) → (k.content key.spelling).Clean v) :
    ∀ key ∈ k.keys, ∀ s v, key.find? es = some (s, v) → (k.content key.spelling).Clean v := by
  intro key hkey s v hfind
  obtain hother | hsources | hpart := hk key hkey
  · rw [hother]
    trivial
  · rw [hsources]
    trivial
  · exact h key hpart s v hfind

/-- A record without problems is sound. -/
theorem sound_of_problems_nil (h : (k.read (.map es)).problems = []) : k.Sound es := by
  cases k with
  | document =>
    have h : (Document.read (.map es)).problems = [] := h
    rw [Document.read] at h
    refine sound_of_record rfl h fun hbody => clean_of_parts [Document.aggregatesKey] (by decide) ?_
    rw [Checked.problems_map, Key.required] at hbody
    refine List.forall_mem_singleton.mpr fun s v hfind => ?_
    rw [hfind] at hbody
    have haggregates : (list Aggregate.read v).problems = [] := by simpa using hbody
    exact problems_nullable_of_nil haggregates
  | aggregate =>
    have h : (Aggregate.read (.map es)).problems = [] := h
    rw [Aggregate.read] at h
    refine sound_of_record rfl h fun hbody => clean_of_parts
      [Aggregate.entitiesKey, Aggregate.valueObjectsKey, Aggregate.enumsKey] (by decide) ?_
    simp only [Checked.problems_map, Checked.problems_seq, List.append_eq_nil_iff] at hbody
    obtain ⟨⟨⟨⟨-, hentities⟩, hvalueObjects⟩, henums⟩, -⟩ := hbody
    simp only [List.forall_mem_cons]
    exact ⟨clean_of_optional hentities, clean_of_optional hvalueObjects, clean_of_optional henums,
      List.forall_mem_nil _⟩
  | entity =>
    have h : (Entity.read (.map es)).problems = [] := h
    rw [Entity.read] at h
    refine sound_of_folded rfl h fun fs hbody => clean_of_parts
      [Entity.auditKey, fieldsKey, Entity.relationshipsKey] (by decide) ?_
    simp only [Checked.problems_map, Checked.problems_seq, List.append_eq_nil_iff] at hbody
    obtain ⟨⟨⟨⟨⟨-, haudit⟩, -⟩, hfields⟩, hrelationships⟩, -⟩ := hbody
    simp only [List.forall_mem_cons]
    exact ⟨fun _ _ => problems_nil_of_find? haudit, clean_of_optional hfields,
      clean_of_optional hrelationships, List.forall_mem_nil _⟩
  | field =>
    have h : (Field.read (.map es)).problems = [] := h
    rw [Field.read] at h
    refine sound_of_record rfl h fun hbody => clean_of_parts [Field.constraintsKey] (by decide) ?_
    simp only [Checked.problems_map, Checked.problems_seq, List.append_eq_nil_iff] at hbody
    exact List.forall_mem_singleton.mpr (clean_of_optional hbody.1.1.2)
  | valueObject =>
    have h : (ValueObject.read (.map es)).problems = [] := h
    rw [ValueObject.read] at h
    refine sound_of_folded rfl h fun fs hbody => clean_of_parts
      [fieldsKey, ValueObject.methodsKey] (by decide) ?_
    simp only [Checked.problems_map, Checked.problems_seq, List.append_eq_nil_iff] at hbody
    obtain ⟨⟨⟨⟨-, hfields⟩, hmethods⟩, -⟩, -⟩ := hbody
    simp only [List.forall_mem_cons]
    exact ⟨clean_of_optional hfields, clean_of_optional hmethods, List.forall_mem_nil _⟩
  | enumType =>
    have h : (EnumType.read (.map es)).problems = [] := h
    rw [EnumType.read] at h
    refine sound_of_record rfl h fun hbody =>
      clean_of_parts [EnumType.transitionsKey] (by decide) ?_
    simp only [Checked.problems_map, Checked.problems_seq, List.append_eq_nil_iff] at hbody
    exact List.forall_mem_singleton.mpr fun _ _ => problems_nil_of_find? hbody.1.1.2
  | relationship =>
    have h : (Relationship.read (.map es)).problems = [] := h
    rw [Relationship.read] at h
    exact sound_of_folded rfl h fun _ _ => clean_of_parts [] (by decide) (List.forall_mem_nil _)
  | audit =>
    have h : (Audit.read (.map es)).problems = [] := h
    rw [Audit.read] at h
    exact sound_of_record rfl h fun _ => clean_of_parts [] (by decide) (List.forall_mem_nil _)
  | constraint =>
    have h : (Constraint.read (.map es)).problems = [] := h
    rw [Constraint.read] at h
    exact sound_of_record rfl h fun _ => clean_of_parts [] (by decide) (List.forall_mem_nil _)
  | method =>
    have h : (Method.read (.map es)).problems = [] := h
    rw [Method.read] at h
    exact sound_of_record rfl h fun _ => clean_of_parts [] (by decide) (List.forall_mem_nil _)
  | transition =>
    have h : (Transition.read (.map es)).problems = [] := h
    rw [Transition.read] at h
    exact sound_of_record rfl h fun _ => clean_of_parts [] (by decide) (List.forall_mem_nil _)

/-- What a sound record holds under a text has no problem. -/
theorem Sound.clean (h : k.Sound es) (hv : Value.entry? s es = some v) : (k.content s).Clean v := by
  have hfolded : ∀ s v, Value.entry? s (k.folded es) = some v → (k.content s).Clean v := by
    intro s v hv
    have hmem : .text s ∈ (k.folded es).map Prod.fst := by
      by_contra hnot
      rw [entry?_eq_none_iff.mpr fun e he heq => hnot (List.mem_map.mpr ⟨e, he, heq⟩)] at hv
      cases hv
    have hstray := strayKeys_eq_nil_iff.mp h.stray _ hmem
    obtain ⟨_, hused, heq⟩ := strayKey_eq_none_iff.mp hstray
    cases heq
    obtain ⟨key, hkey, hspelling, w, hfind, hw⟩ := mem_used hused
    cases hv.symm.trans hw
    have hclean := h.parts key hkey _ v hfind
    obtain rfl | rfl := hspelling
    · exact hclean
    · rwa [content_name key hkey]
  cases hk : k.olderSpelling? with
  | none => exact hfolded s v (by rwa [folded_eq_self (by simp [hk])])
  | some pair =>
    obtain ⟨key, older⟩ := pair
    cases hw : Value.entry? older es with
    | none => exact hfolded s v (by rwa [folded_eq_self (by simpa [hk] using hw)])
    | some w =>
      have hentry := entry?_folded (s := s) hk hw
      by_cases hkey : s = key
      · -- both spellings are there, so that of today stands for null
        subst hkey
        have hfolds := h.folds _ hk
        rw [hw, hv] at hfolds
        obtain hnone | hnone | hnull := hfolds
        · cases hnone
        · cases hnone
        · cases hnull
          exact Content.clean_null _
      · rw [if_neg hkey] at hentry
        by_cases holder : s = older
        · subst holder
          cases hv.symm.trans hw
          rw [content_older _ hk]
          exact hfolded key v (by rw [entry?_folded hk hw, if_pos rfl])
        · rw [if_neg holder] at hentry
          exact hfolded s v (hentry.trans hv)

end RecordKind

end Declared

end DomainCompiler
