import DomainCompiler.Declared.Schema

/-!
# What the schema makes sure of

A description that was read has no empty texts in the places where the schema forbids them. The
property passes from the readers of single values to those of records and lists, so that it is
stated once for each reader and never for a whole document.
-/

namespace DomainCompiler

namespace Schema

variable {α β : Type}

/-- Whatever the reader accepts has the property. -/
def Ensures (read : Decoder α) (p : α → Prop) : Prop := ∀ v a, read v = .accepted a → p a

namespace Checked

theorem map_eq_accepted_iff {f : α → β} {x : Checked α} {b : β} :
    f <$> x = .accepted b ↔ ∃ a, x = .accepted a ∧ f a = b := by
  cases x <;> simp [Functor.map, map]

theorem seq_eq_accepted_iff {f : Checked (α → β)} {x : Checked α} {b : β} :
    f <*> x = .accepted b ↔ ∃ g a, f = .accepted g ∧ x = .accepted a ∧ g a = b := by
  cases f <;> cases x <;> simp [Seq.seq, and]

theorem under_eq_accepted_iff {s : Step} {x : Checked α} {a : α} :
    x.under s = .accepted a ↔ x = .accepted a := by
  cases x <;> simp [under]

theorem andThen_eq_accepted_iff {x : Checked α} {f : α → Checked β} {b : β} :
    x.andThen f = .accepted b ↔ ∃ a, x = .accepted a ∧ f a = .accepted b := by
  cases x <;> simp [andThen]

theorem withProblems_eq_accepted_iff {x : Checked α} {ps : List Problem} {a : α} :
    x.withProblems ps = .accepted a ↔ x = .accepted a ∧ ps = [] := by
  cases ps <;> simp [withProblems]

end Checked

variable {read : Decoder α} {p : α → Prop}

theorem record_eq_accepted {title : String} {keys : List Key}
    {body : List (Value × Value) → Checked α} {v : Value} {a : α}
    (h : record title keys body v = .accepted a) : ∃ entries, body entries = .accepted a := by
  cases v <;> simp only [record, Checked.withProblems_eq_accepted_iff] at h
  case map entries => exact ⟨entries, h.1⟩
  all_goals cases h

theorem Ensures.required (h : Ensures read p) {k : Key} {entries : List (Value × Value)} {a : α}
    (ha : k.required read entries = .accepted a) : p a := by
  rw [Key.required] at ha
  split at ha
  · exact h _ _ (Checked.under_eq_accepted_iff.mp ha)
  · cases ha

/-- A key that may be absent holds its default or what its reader accepts. -/
theorem Ensures.optional (h : Ensures read p) {k : Key} {default : α} (hdefault : p default)
    {entries : List (Value × Value)} {a : α}
    (ha : k.optional read default entries = .accepted a) : p a := by
  rw [Key.optional] at ha
  split at ha
  · exact h _ _ (Checked.under_eq_accepted_iff.mp ha)
  · cases ha
    exact hdefault

theorem Ensures.nullable (h : Ensures read p) :
    Ensures (nullable read) fun x => ∀ a, x = some a → p a := by
  intro v x hx a ha
  subst ha
  rw [Schema.nullable.eq_def] at hx
  split at hx
  · cases hx
  · obtain ⟨b, hb, hab⟩ := Checked.map_eq_accepted_iff.mp hx
    cases hab
    exact h _ _ hb

theorem Ensures.readItems (h : Ensures read p) (position : Nat) (items : List Value)
    (xs : List α) (hxs : readItems read position items = .accepted xs) : ∀ x ∈ xs, p x := by
  induction items generalizing position xs with
  | nil =>
    cases hxs
    exact fun x hx => nomatch hx
  | cons item rest ih =>
    rw [Schema.readItems] at hxs
    obtain ⟨g, ys, hg, hys, rfl⟩ := Checked.seq_eq_accepted_iff.mp hxs
    obtain ⟨y, hy, rfl⟩ := Checked.map_eq_accepted_iff.mp hg
    have hy := h _ _ (Checked.under_eq_accepted_iff.mp hy)
    rintro x (_ | ⟨_, hx⟩)
    · exact hy
    · exact ih _ _ hys x hx

theorem Ensures.list (h : Ensures read p) : Ensures (list read) fun xs => ∀ x ∈ xs, p x := by
  intro v xs hxs
  rw [Schema.list] at hxs
  split at hxs
  · exact h.readItems _ _ _ hxs
  · cases hxs

theorem ensures_nonemptyText : Ensures nonemptyText (· ≠ "") := by
  intro v s hs
  obtain ⟨t, -, ht⟩ := Checked.andThen_eq_accepted_iff.mp hs
  split at ht
  · cases ht
  · next hempty =>
    cases ht
    rintro rfl
    exact hempty rfl

theorem ensures_nullable_nonemptyText : Ensures (nullable nonemptyText) (· ≠ some "") :=
  fun v _ hx he => ensures_nonemptyText.nullable v _ hx "" he rfl

end Schema

namespace Declared

open DomainCompiler.Schema

/-- No name in the relationship is empty. -/
structure Relationship.WellFormed (r : Relationship) : Prop where
  target : r.target ≠ some ""
  mappedBy : r.mappedBy ≠ some ""
  joinColumn : r.joinColumn ≠ some ""

instance (r : Relationship) : Decidable r.WellFormed :=
  decidable_of_iff (r.target ≠ some "" ∧ r.mappedBy ≠ some "" ∧ r.joinColumn ≠ some "")
    ⟨fun h => ⟨h.1, h.2.1, h.2.2⟩, fun h => ⟨h.target, h.mappedBy, h.joinColumn⟩⟩

theorem Relationship.ensures_read : Ensures Relationship.read Relationship.WellFormed := by
  intro v r hr
  obtain ⟨w, -, hr⟩ := Checked.andThen_eq_accepted_iff.mp hr
  obtain ⟨entries, hr⟩ := record_eq_accepted hr
  simp only [Checked.seq_eq_accepted_iff, Checked.map_eq_accepted_iff] at hr
  obtain ⟨_, _, ⟨_, _, ⟨_, _, ⟨_, joinColumn, ⟨_, mappedBy, ⟨_, target, ⟨_, -, rfl⟩, htarget, rfl⟩,
    hmapped, rfl⟩, hjoin, rfl⟩, -, rfl⟩, -, rfl⟩, -, rfl⟩ := hr
  have hnone : (none : Option String) ≠ some "" := nofun
  exact
    { target := ensures_nullable_nonemptyText.optional hnone htarget
      mappedBy := ensures_nullable_nonemptyText.optional hnone hmapped
      joinColumn := ensures_nullable_nonemptyText.optional hnone hjoin }

/-- No name in the relationships of the entities is empty. -/
def Aggregate.WellFormed (a : Aggregate) : Prop :=
  ∀ e ∈ a.entities, ∀ r ∈ e.relationships, r.WellFormed

instance (a : Aggregate) : Decidable a.WellFormed :=
  inferInstanceAs (Decidable (∀ e ∈ a.entities, ∀ r ∈ e.relationships, r.WellFormed))

theorem Entity.ensures_read :
    Ensures Entity.read fun e => ∀ r ∈ e.relationships, r.WellFormed := by
  intro v e he
  obtain ⟨w, -, he⟩ := Checked.andThen_eq_accepted_iff.mp he
  obtain ⟨entries, he⟩ := record_eq_accepted he
  simp only [Checked.seq_eq_accepted_iff] at he
  obtain ⟨_, _, ⟨_, relationships, ⟨_, _, ⟨_, _, ⟨_, _, ⟨_, _, ⟨_, _, h, -, rfl⟩, -, rfl⟩, -, rfl⟩,
    -, rfl⟩, -, rfl⟩, hrelationships, rfl⟩, -, rfl⟩ := he
  obtain ⟨_, -, rfl⟩ := Checked.map_eq_accepted_iff.mp h
  exact Relationship.ensures_read.list.optional (List.forall_mem_nil _) hrelationships

theorem Aggregate.ensures_read : Ensures Aggregate.read Aggregate.WellFormed := by
  intro v a ha
  obtain ⟨entries, ha⟩ := record_eq_accepted ha
  simp only [Checked.seq_eq_accepted_iff] at ha
  obtain ⟨_, _, ⟨_, _, ⟨_, _, ⟨_, entities, ⟨_, _, h, -, rfl⟩, hentities, rfl⟩, -, rfl⟩, -, rfl⟩, -,
    rfl⟩ := ha
  obtain ⟨_, -, rfl⟩ := Checked.map_eq_accepted_iff.mp h
  exact Entity.ensures_read.list.optional (List.forall_mem_nil _) hentities

/-- Every aggregate of a description that was read is well formed. -/
theorem Document.ensures_read :
    Ensures Document.read fun d => ∀ a ∈ d.aggregates, a.WellFormed := by
  intro v d hd
  obtain ⟨entries, hd⟩ := record_eq_accepted hd
  obtain ⟨aggregates, haggregates, rfl⟩ := Checked.map_eq_accepted_iff.mp hd
  exact Aggregate.ensures_read.list.required haggregates

end Declared

end DomainCompiler
