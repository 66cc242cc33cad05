import DomainCompiler.Declared.Schema

/-!
# A value without problems is read

The problems of a value are those of its parts, in order, and nothing is rejected without a
problem. So to know that a description is read it is enough to look for problems, and those of a
part show in the whole.
-/

namespace DomainCompiler

namespace Schema

variable {α β : Type}

namespace Checked

@[simp] theorem problems_map (f : α → β) (x : Checked α) : (f <$> x).problems = x.problems := by
  cases x <;> rfl

@[simp] theorem problems_map' (f : α → β) (x : Checked α) : (map f x).problems = x.problems := by
  cases x <;> rfl

@[simp] theorem problems_seq (f : Checked (α → β)) (x : Checked α) :
    (f <*> x).problems = f.problems ++ x.problems :=
  problems_and f x

@[simp] theorem problems_under (s : Step) (x : Checked α) :
    (x.under s).problems = x.problems.map (Problem.under s) := by
  cases x <;> rfl

@[simp] theorem problems_withProblems (x : Checked α) (ps : List Problem) :
    (x.withProblems ps).problems = x.problems ++ ps := by
  cases ps with
  | nil => simp [withProblems]
  | cons p ps => rfl

/-- Without a problem there is a value. -/
def Honest (x : Checked α) : Prop := x.problems = [] → ∃ a, x = .accepted a

theorem honest_accepted (a : α) : Honest (.accepted a) := fun _ => ⟨a, rfl⟩

theorem honest_fail (fault : Fault) : Honest (.fail fault : Checked α) := nofun

theorem Honest.ite {c : Prop} [Decidable c] {x y : Checked α} (hx : x.Honest) (hy : y.Honest) :
    (if c then x else y).Honest := by
  split
  · exact hx
  · exact hy

theorem Honest.map (f : α → β) {x : Checked α} (h : x.Honest) : (f <$> x).Honest := by
  intro hproblems
  obtain ⟨a, rfl⟩ := h (by simpa using hproblems)
  exact ⟨f a, rfl⟩

theorem Honest.seq {f : Checked (α → β)} {x : Checked α} (hf : f.Honest) (hx : x.Honest) :
    (f <*> x).Honest := by
  intro hproblems
  obtain ⟨hf', hx'⟩ := List.append_eq_nil_iff.mp ((problems_seq f x).symm.trans hproblems)
  obtain ⟨g, rfl⟩ := hf hf'
  obtain ⟨a, rfl⟩ := hx hx'
  exact ⟨g a, rfl⟩

theorem Honest.under (s : Step) {x : Checked α} (h : x.Honest) : (x.under s).Honest := by
  intro hproblems
  obtain ⟨a, rfl⟩ := h (by simpa using hproblems)
  exact ⟨a, rfl⟩

theorem Honest.andThen {x : Checked α} {f : α → Checked β} (hx : x.Honest)
    (hf : ∀ a, (f a).Honest) : (x.andThen f).Honest := by
  intro hproblems
  cases x with
  | accepted a => exact hf a hproblems
  | rejected ps =>
    obtain ⟨a, ha⟩ := hx hproblems
    cases ha

theorem Honest.withProblems {x : Checked α} (h : x.Honest) (ps : List Problem) :
    (x.withProblems ps).Honest := by
  intro hproblems
  obtain ⟨hx, rfl⟩ := List.append_eq_nil_iff.mp ((problems_withProblems x ps).symm.trans hproblems)
  exact h hx

end Checked

open Checked

/-- Whatever the reader rejects has a problem. -/
def Reports (read : Decoder α) : Prop := ∀ v, (read v).Honest

variable {read : Decoder α}

theorem reports_text : Reports text := by
  intro v
  rw [text.eq_def]
  split
  · exact honest_accepted _
  · split
    · exact honest_accepted _
    · exact honest_fail _
  · exact honest_fail _

theorem reports_nonemptyText : Reports nonemptyText := by
  intro v
  refine (reports_text v).andThen fun s => ?_
  split
  · exact honest_fail _
  · exact honest_accepted _

theorem Reports.nullable (h : Reports read) : Reports (nullable read) := by
  intro v
  rw [Schema.nullable.eq_def]
  split
  · exact honest_accepted _
  · exact (h v).map _

theorem reports_anything : Reports anything := honest_accepted

theorem reports_strictBool : Reports strictBool := by
  intro v
  rw [strictBool.eq_def]
  split
  · exact honest_accepted _
  · exact honest_fail _

theorem honest_boolOfText (s : String) : (boolOfText s).Honest := by
  rw [boolOfText]
  split
  · exact honest_accepted _
  · exact honest_fail _

theorem honest_boolOfInt (n : Int) : (boolOfInt n).Honest :=
  (honest_accepted _).ite <| (honest_accepted _).ite <| (honest_fail _).ite (honest_fail _)

theorem reports_bool : Reports bool := by
  intro v
  rw [bool.eq_def]
  split
  · exact honest_accepted _
  · exact honest_boolOfText _
  · split
    · exact honest_boolOfText _
    · exact honest_fail _
  · exact honest_boolOfInt _
  · split
    · exact (honest_fail _).ite (honest_boolOfInt _)
    · exact honest_fail _
  · exact honest_fail _

theorem honest_intOfText (s : String) : (intOfText s).Honest := by
  rw [intOfText]
  split
  · refine (honest_fail _).ite <| (honest_fail _).ite ?_
    split
    · exact honest_accepted _
    · exact honest_fail _
  · exact honest_fail _

theorem honest_intOfFloat (x : Binary64) : (intOfFloat x).Honest := by
  rw [intOfFloat]
  refine Honest.ite ?_ (honest_fail _)
  split
  · exact (honest_accepted _).ite (honest_fail _)
  · exact honest_fail _

theorem reports_int : Reports int := by
  intro v
  rw [int.eq_def]
  split
  · exact honest_accepted _
  · exact honest_accepted _
  · exact honest_intOfFloat _
  · exact honest_intOfText _
  · split
    · exact honest_intOfText _
    · exact honest_fail _
  · exact honest_fail _

theorem Reports.readItems (h : Reports read) (position : Nat) (items : List Value) :
    (readItems read position items).Honest := by
  induction items generalizing position with
  | nil => exact honest_accepted _
  | cons item rest ih => exact (((h item).under _).map _).seq (ih _)

theorem Reports.list (h : Reports read) : Reports (list read) := by
  intro v
  rw [Schema.list]
  split
  · exact h.readItems _ _
  · exact honest_fail _

theorem Reports.nonemptyList (h : Reports read) : Reports (nonemptyList read) :=
  fun v => (h.list v).andThen fun _ => (honest_fail _).ite (honest_accepted _)

theorem Reports.nonemptyTuple (h : Reports read) : Reports (nonemptyTuple read) := by
  intro v
  rw [Schema.nonemptyTuple]
  split
  · exact (h.readItems _ _).andThen fun _ => (honest_fail _).ite (honest_accepted _)
  · exact honest_fail _

theorem reports_oneOf (alternatives : List (String × α)) : Reports (oneOf alternatives) := by
  intro v
  rw [oneOf]
  split
  · exact honest_accepted _
  · exact honest_fail _

theorem Reports.required (h : Reports read) (k : Key) (entries : List (Value × Value)) :
    (k.required read entries).Honest := by
  rw [Key.required]
  split
  · exact (h _).under _
  · exact nofun

theorem Reports.optional (h : Reports read) (k : Key) (default : α)
    (entries : List (Value × Value)) : (k.optional read default entries).Honest := by
  rw [Key.optional]
  split
  · exact (h _).under _
  · exact honest_accepted _

theorem reports_record {title : String} {keys : List Key}
    {body : List (Value × Value) → Checked α} (h : ∀ entries, (body entries).Honest) :
    Reports (record title keys body) := by
  intro v
  rw [record.eq_def]
  split
  · exact (h _).withProblems _
  · exact honest_fail _

theorem reports_foldSpelling (key other : String) : Reports (foldSpelling key other) := by
  intro v
  rw [foldSpelling.eq_def]
  split
  · split
    · exact honest_accepted _
    · split
      · exact honest_accepted _
      · exact honest_accepted _
      · exact honest_fail _
  · exact honest_accepted _

end Schema

namespace Declared

open DomainCompiler.Schema
open DomainCompiler.Schema.Checked

theorem reports_readBound : Reports readBound := by
  intro v
  rw [readBound.eq_def]
  split
  · exact honest_accepted _
  · exact honest_accepted _
  · exact honest_accepted _
  · exact honest_accepted _
  · split
    · split <;> exact honest_accepted _
    · exact nofun
  · exact nofun

theorem honest_readDescription (r : List (Value × Value)) : (readDescription r).Honest :=
  reports_text.nullable.optional _ _ _

theorem Constraint.reports_read : Reports Constraint.read := by
  refine reports_record fun r => ?_
  have htext := reports_text.nullable
  have hbound := reports_readBound.nullable
  have hint := reports_int.nullable
  exact ((reports_nonemptyText.required _ r).map _
    |>.seq (htext.optional _ _ r) |>.seq (hbound.optional _ _ r) |>.seq (hbound.optional _ _ r)
    |>.seq (hbound.optional _ _ r) |>.seq (htext.optional _ _ r) |>.seq (hint.optional _ _ r)
    |>.seq (hint.optional _ _ r) |>.seq (reports_bool.nullable.optional _ _ r))

theorem Field.reports_read : Reports Field.read := by
  refine reports_record fun r => ?_
  have htexts := reports_text.list
  have hname := reports_nonemptyText
  exact ((hname.required _ r).map _
    |>.seq (hname.required _ r) |>.seq (htexts.nullable.optional _ _ r)
    |>.seq (reports_bool.optional _ _ r) |>.seq (reports_bool.optional _ _ r)
    |>.seq (reports_bool.optional _ _ r) |>.seq (reports_bool.optional _ _ r)
    |>.seq (Constraint.reports_read.list.optional _ _ r) |>.seq (htexts.optional _ _ r)
    |>.seq (honest_readDescription r))

theorem Transition.reports_readSources : Reports Transition.readSources := by
  intro v
  rw [readSources.eq_def]
  split
  · exact honest_accepted _
  · exact reports_text.nonemptyTuple _

theorem Transition.reports_read : Reports Transition.read :=
  reports_record fun r =>
    ((reports_readSources.required _ r).map _).seq (reports_nonemptyText.required _ r)

theorem EnumType.reports_read : Reports EnumType.read :=
  reports_record fun r =>
    (reports_nonemptyText.required _ r).map _
      |>.seq (reports_text.nonemptyList.required _ r)
      |>.seq (Transition.reports_read.list.nullable.optional _ _ r)
      |>.seq (reports_text.nullable.optional _ _ r) |>.seq (honest_readDescription r)

theorem Audit.reports_read : Reports Audit.read :=
  reports_record fun r =>
    (Reports.optional (fun v => (reports_strictBool v).map _) _ _ r).map _
      |>.seq (reports_strictBool.optional _ _ r)

theorem Relationship.reports_read : Reports Relationship.read := by
  refine fun v => (reports_foldSpelling _ _ v).andThen (reports_record fun r => ?_)
  have hname := reports_nonemptyText.nullable
  exact ((reports_oneOf _).required _ r).map _
    |>.seq (hname.optional _ _ r) |>.seq (hname.optional _ _ r) |>.seq (hname.optional _ _ r)
    |>.seq (reports_text.list.optional _ _ r) |>.seq ((reports_oneOf _).optional _ _ r)
    |>.seq (honest_readDescription r)

theorem Entity.reports_read : Reports Entity.read := by
  refine fun v => (reports_foldSpelling _ _ v).andThen (reports_record fun r => ?_)
  exact (reports_nonemptyText.required _ r).map _
    |>.seq (reports_strictBool.optional _ _ r) |>.seq (reports_nonemptyText.nullable.optional _ _ r)
    |>.seq (Audit.reports_read.nullable.optional _ _ r)
    |>.seq (reports_strictBool.nullable.optional _ _ r)
    |>.seq (Field.reports_read.list.optional _ _ r)
    |>.seq (Relationship.reports_read.list.optional _ _ r) |>.seq (honest_readDescription r)

theorem Method.reports_read : Reports Method.read :=
  reports_record fun r =>
    (reports_nonemptyText.required _ r).map _
      |>.seq (reports_text.optional _ _ r) |>.seq (reports_anything.list.optional _ _ r)
      |>.seq (Reports.optional (fun v => (reports_text v).map _) _ _ r)

theorem ValueObject.reports_read : Reports ValueObject.read := by
  refine fun v => (reports_foldSpelling _ _ v).andThen (reports_record fun r => ?_)
  exact (reports_nonemptyText.required _ r).map _
    |>.seq (Field.reports_read.list.optional _ _ r) |>.seq (Method.reports_read.list.optional _ _ r)
    |>.seq (reports_anything.list.optional _ _ r) |>.seq (honest_readDescription r)

theorem Aggregate.reports_read : Reports Aggregate.read :=
  reports_record fun r =>
    (reports_nonemptyText.required _ r).map _
      |>.seq (reports_text.nullable.optional _ _ r) |>.seq (Entity.reports_read.list.optional _ _ r)
      |>.seq (ValueObject.reports_read.list.optional _ _ r)
      |>.seq (EnumType.reports_read.list.optional _ _ r) |>.seq (honest_readDescription r)

/-- A description that is rejected has a problem. -/
theorem Document.reports_read : Reports Document.read :=
  reports_record fun r => (Aggregate.reports_read.list.required _ r).map _

end Declared

end DomainCompiler
