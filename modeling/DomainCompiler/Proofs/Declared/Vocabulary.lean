import DomainCompiler.Compile
import DomainCompiler.Proofs.Declared.Sound

/-!
# The keys of a description

Every record of a description is read by the keys of its kind and has a problem for each other key.
So no key of an accepted description is strange to its record, and one that is put into any of its
records makes it a rejected one.
-/

namespace DomainCompiler

namespace Declared

open DomainCompiler.Schema

namespace RecordKind

variable {k : RecordKind} {es fs : List (Value × Value)} {s : String} {x u v w : Value}

/-! ### Keys that are known -/

/-- The spellings of the keys of a record. -/
def vocabulary (k : RecordKind) : List String :=
  k.keys.flatMap (fun key => [key.spelling, key.name]) ++ (k.olderSpelling?.map Prod.snd).toList

/-- The key is a spelling of a key of the record. -/
def Knows (k : RecordKind) (x : Value) : Prop :=
  ∃ s ∈ k.vocabulary, x = .text s

theorem knows_of_mem_used (h : s ∈ k.used es) : k.Knows (.text s) := by
  obtain ⟨key, hkey, hs, -⟩ := mem_used h
  refine ⟨s, List.mem_append_left _ (List.mem_flatMap.mpr ⟨key, hkey, ?_⟩), rfl⟩
  obtain rfl | rfl := hs <;> simp

theorem knows_older : ∀ pair ∈ k.olderSpelling?, k.Knows (.text pair.2) := by
  intro pair hk
  refine ⟨pair.2, List.mem_append_right _ ?_, rfl⟩
  rw [Option.mem_def.mp hk]
  exact List.mem_singleton_self _

/-- The keys of a sound record are of its vocabulary. -/
theorem Sound.knows (h : k.Sound es) (hx : x ∈ es.map Prod.fst) : k.Knows x := by
  by_cases holder : ∀ pair ∈ k.olderSpelling?, x ≠ .text pair.2
  · have hstray := strayKeys_eq_nil_iff.mp h.stray _ (mem_keys_folded_of_mem hx holder)
    obtain ⟨s, hs, rfl⟩ := strayKey_eq_none_iff.mp hstray
    exact knows_of_mem_used hs
  · push Not at holder
    obtain ⟨pair, hk, rfl⟩ := holder
    exact knows_older pair hk

end RecordKind

open RecordKind

/-! ### Exchanging a record -/

/--
The second value is the first one with one of its records, of the kind `k` and with the entries
`es`, exchanged for one with the entries `fs`. No record stands in a set: members are keys.
-/
inductive Exchanged (k : RecordKind) (es fs : List (Value × Value)) : Content → Value → Value → Prop
  where
  | here : Exchanged k es fs (.record k) (.map es) (.map fs)
  | entry {j : RecordKind} {s : String} {v w : Value} {before after : List (Value × Value)}
      (first : ∀ e ∈ before, e.1 ≠ .text s) (part : Exchanged k es fs (j.content s) v w) :
      Exchanged k es fs (.record j) (.map (before ++ (.text s, v) :: after))
        (.map (before ++ (.text s, w) :: after))
  | item {j : RecordKind} {v w : Value} {before after : List Value}
      (part : Exchanged k es fs (.record j) v w) :
      Exchanged k es fs (.records j) (.list (before ++ v :: after)) (.list (before ++ w :: after))

section

variable {k : RecordKind} {es fs : List (Value × Value)} {c : Content} {v w : Value}

theorem Exchanged.symm (h : Exchanged k es fs c v w) : Exchanged k fs es c w v := by
  induction h with
  | here => exact .here
  | entry first _ ih => exact .entry first ih
  | item _ ih => exact .item ih

theorem entry?_inserted {s : String} {before after : List (Value × Value)}
    (first : ∀ e ∈ before, e.1 ≠ .text s) :
    Value.entry? s (before ++ (.text s, v) :: after) = some v := by
  rw [entry?_append, entry?_eq_none_iff.mpr first, entry?_cons_self]
  rfl

theorem entry?_inserted_of_ne {s : String} {x : Value} {before after : List (Value × Value)}
    (h : x ≠ .text s) :
    Value.entry? s (before ++ (x, v) :: after) = Value.entry? s (before ++ after) := by
  rw [entry?_append, entry?_append, entry?_cons_of_ne h]

theorem readItems_problems_nil {α : Type} {read : Decoder α} {before after : List Value}
    {position : Nat} (h : (readItems read position (before ++ v :: after)).problems = []) :
    (read v).problems = [] := by
  induction before generalizing position with
  | nil =>
    rw [List.nil_append, readItems, Checked.problems_and, List.append_eq_nil_iff] at h
    simpa using h.1
  | cons item before ih =>
    rw [List.cons_append, readItems, Checked.problems_and, List.append_eq_nil_iff] at h
    exact ih h.2

theorem problems_of_nullable {α : Type} {read : Decoder α} (hv : v ≠ .null)
    (h : (nullable read v).problems = []) : (read v).problems = [] := by
  rw [nullable.eq_2 _ _ hv] at h
  simpa using h

theorem Content.clean_item {j : RecordKind} {before after : List Value}
    (h : (Content.records j).Clean (.list (before ++ v :: after))) : (Content.record j).Clean v :=
  problems_nullable_of_nil (readItems_problems_nil (problems_of_nullable (by exact nofun) h))

/-- A record that stands in a value without problems is sound. -/
theorem Exchanged.sound (h : Exchanged k es fs c v w) (hclean : c.Clean v) : k.Sound es := by
  induction h with
  | here => exact sound_of_problems_nil (problems_of_nullable (by exact nofun) hclean)
  | entry first _ ih =>
    have hsound := sound_of_problems_nil (problems_of_nullable (by exact nofun) hclean)
    exact ih (hsound.clean (entry?_inserted first))
  | item _ ih => exact ih (Content.clean_item hclean)

theorem Exchanged.hasAggregates_eq (h : Exchanged k es fs (.record .document) v w)
    (heq : k = .document → Value.entry? "aggregates" es = Value.entry? "aggregates" fs) :
    hasAggregates v = hasAggregates w := by
  cases h with
  | here =>
    rw [hasAggregates, hasAggregates, heq rfl]
  | @entry _ s v w before after first part =>
    rw [hasAggregates, hasAggregates]
    by_cases hs : s = "aggregates"
    · subst hs
      rw [entry?_inserted first, entry?_inserted first]
      cases part
      rfl
    · have hne : Value.text s ≠ .text "aggregates" := fun heq => hs (Value.text.inj heq)
      rw [entry?_inserted_of_ne hne, entry?_inserted_of_ne hne]

end

/-- A record of the kind `k` with the entries `es` stands in the description. -/
def Stands (k : RecordKind) (es : List (Value × Value)) (v : Value) : Prop :=
  Exchanged k es es (.record .document) v v

/-- Each key of each record is one of the spellings for records of its kind. -/
def KnowsKeys (v : Value) : Prop :=
  ∀ k es, Stands k es v → ∀ x ∈ es.map Prod.fst, k.Knows x

end Declared

open DomainCompiler.Declared

/-- The description is rejected for its form alone, and whatever the options it gives no model. -/
def Refused (v : Value) : Prop :=
  ∃ f, parseDocument v = .error f ∧ f.configuration = false ∧ f.findings ≠ [] ∧
    (∀ i ∈ f.findings, i.code = "E300") ∧ ∀ options, compile options v = .error (.failure f)

theorem parseDocument_eq_ok_iff {v : Value} {d : Document} :
    parseDocument v = .ok d ↔ hasAggregates v = true ∧ Document.read v = .accepted d := by
  rw [parseDocument]
  cases hasAggregates v with
  | false => simp
  | true => cases Document.read v <;> simp

theorem refused_of_problems {v : Value} (haggregates : hasAggregates v = true)
    (h : (Document.read v).problems ≠ []) : Refused v := by
  cases hread : Document.read v with
  | accepted d => rw [hread] at h; exact absurd rfl h
  | rejected ps =>
    rw [hread, Schema.Checked.problems_rejected] at h
    have hparse : parseDocument v = .error { findings := ps.map schemaIssue, problems := ps } := by
      rw [parseDocument, haggregates, hread]
      rfl
    refine ⟨_, hparse, rfl, by simpa using h, ?_, fun options => ?_⟩
    · simp only [List.forall_mem_map]
      exact fun _ _ => rfl
    · rw [compile, hparse]
      rfl

/-- In a description that is accepted each key is one of its record. Another key, put at any place
into any of its records, leads to a rejection. -/
theorem knowsKeys_of_parseDocument {v : Value} {d : Document} (h : parseDocument v = .ok d) :
    KnowsKeys v ∧
      ∀ ⦃k : RecordKind⦄ ⦃before after : List (Value × Value)⦄ ⦃x u w : Value⦄,
        Exchanged k (before ++ after) (before ++ (x, u) :: after) (.record .document) v w →
          ¬k.Knows x → Refused w := by
  obtain ⟨haggregates, hread⟩ := parseDocument_eq_ok_iff.mp h
  have hclean : (Content.record .document).Clean v :=
    problems_nullable_of_nil (congrArg Schema.Checked.problems hread)
  refine ⟨fun k es hes x hx => (hes.sound hclean).knows hx, ?_⟩
  intro k before after x u w hw hx
  have haggregates' : hasAggregates w = true := by
    rw [← haggregates]
    refine (hw.hasAggregates_eq fun hk => (entry?_inserted_of_ne ?_).symm).symm
    subst hk
    rintro rfl
    exact hx ⟨"aggregates", by decide, rfl⟩
  refine refused_of_problems haggregates' fun hnil => hx ?_
  -- were there no problem, the key would be known
  have hsound := hw.symm.sound (problems_nullable_of_nil hnil)
  exact hsound.knows (by simp)

/-- An order whose entity has further entries. -/
def orderWith (further : List (Value × Value)) : Value :=
  .record [("aggregates", .list [.record [("name", .text "Order"),
    ("entities", .list [.map ([(.text "name", .text "order"), (.text "isRoot", .bool true)] ++ further)])]])]

theorem exchanged_orderWith (es fs : List (Value × Value)) :
    Exchanged .entity ([(.text "name", .text "order"), (.text "isRoot", .bool true)] ++ es)
      ([(.text "name", .text "order"), (.text "isRoot", .bool true)] ++ fs)
      (.record .document) (orderWith es) (orderWith fs) := by
  refine @Exchanged.entry _ _ _ _ _ _ _ [] [] nofun (@Exchanged.item _ _ _ _ _ _ [] [] ?_)
  exact @Exchanged.entry _ _ _ _ _ _ _ [(.text "name", .text "Order")] [] (by simp)
    (@Exchanged.item _ _ _ _ _ _ [] [] .here)

/-- A misspelt key, and the bytes of a key that is there. -/
theorem knowsKeys_of_parseDocument_orderWith :
    (∃ d, parseDocument (orderWith []) = .ok d) ∧ KnowsKeys (orderWith []) ∧
      Refused (orderWith [(.text "tabelName", .text "orders")]) ∧
        Refused (orderWith [(.bytes [110, 97, 109, 101], .text "orders")]) := by
  obtain ⟨hknows, hrefused⟩ := knowsKeys_of_parseDocument (v := orderWith []) rfl
  have hstrange : ¬RecordKind.entity.Knows (.text "tabelName") := by
    rintro ⟨s, hs, heq⟩
    cases heq
    revert hs
    decide
  have hbytes : ¬RecordKind.entity.Knows (.bytes [110, 97, 109, 101]) := by
    rintro ⟨s, -, heq⟩
    cases heq
  exact ⟨⟨_, rfl⟩, hknows, hrefused (exchanged_orderWith [] _) hstrange,
    hrefused (exchanged_orderWith [] _) hbytes⟩

end DomainCompiler
