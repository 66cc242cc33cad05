import DomainCompiler.Compile
import DomainCompiler.Proofs.Declared.Folding
import DomainCompiler.Proofs.Traversal

/-!
# Older spellings mean the same

Entities and value objects may have their fields under an older key, relationships their target,
and a transition may name its only source state without a list. A description in which some of these
are put into the spelling of today is read as before, whatever else is in it and whatever is wrong
with it.
-/

namespace DomainCompiler

namespace Declared

open DomainCompiler.Schema

namespace RecordKind

variable {k : RecordKind} {es fs : List (Value × Value)}

/-! ### Values in step -/

/-- Values under the same keys in the same order that are read alike. -/
def InStep (k : RecordKind) : List (Value × Value) → List (Value × Value) → Prop :=
  List.Forall₂ fun e f =>
    e.1 = f.1 ∧ (k.contentAt e.1).reading e.2 = (k.contentAt e.1).reading f.2

theorem InStep.alike (h : k.InStep es fs) : k.Alike es fs :=
  entry?_rel (R := fun x v w => (k.contentAt x).reading v = (k.contentAt x).reading w) h

theorem InStep.agree (h : k.InStep es fs) : k.Agree es fs where
  keys _ hkey := h.alike.reading_eq hkey
  stray := by
    have hused := h.alike.used_eq
    have hkeys : es.map Prod.fst = fs.map Prod.fst :=
      List.forall₂_eq_eq_eq ▸ List.forall₂_map_left_iff.mpr (List.forall₂_map_right_iff.mpr
        (h.imp fun _ _ hef => hef.1))
    have hmap : ∀ gs : List (Value × Value), (gs.filterMap fun e => strayKey (k.used es) e.1) =
        (gs.map Prod.fst).filterMap (strayKey (k.used es)) := by
      intro gs
      rw [List.filterMap_map]
      rfl
    rw [strayKeys_eq, strayKeys_eq, ← hused, hmap, hmap, hkeys]

end RecordKind

/-! ### Respelling -/

/--
The second value is the first one, put into the spelling of today at some places. Lists keep their
length and records their order; a record that is looked into has no key under both spellings.
-/
inductive Respelled : Content → Value → Value → Prop where
  | same (c : Content) (v : Value) : Respelled c v v
  /-- The only source state of a transition becomes a list. -/
  | source (s : String) : Respelled .sources (.text s) (.list [.text s])
  | records {k : RecordKind} {vs ws : List Value} (length : vs.length = ws.length)
      (items : ∀ (i : Nat) v w, vs[i]? = some v → ws[i]? = some w → Respelled (.record k) v w) :
      Respelled (.records k) (.list vs) (.list ws)
  /-- The older spelling is replaced where `today` says so. -/
  | record {k : RecordKind} {es fs : List (Value × Value)} (today : Bool) (once : k.SpelledOnce es)
      (keys : fs.map Prod.fst = es.map fun e => if today then k.currentKey e.1 else e.1)
      (values : ∀ (i : Nat) e f, es[i]? = some e → fs[i]? = some f →
        Respelled (k.contentAt e.1) e.2 f.2) :
      Respelled (.record k) (.map es) (.map fs)

theorem forall₂_iff_getElem? {α β : Type} {R : α → β → Prop} {xs : List α} {ys : List β} :
    List.Forall₂ R xs ys ↔ xs.length = ys.length ∧
      ∀ (i : Nat) x y, xs[i]? = some x → ys[i]? = some y → R x y := by
  constructor
  · intro h
    induction h with
    | nil => exact ⟨rfl, nofun⟩
    | cons hxy _ ih =>
      refine ⟨congrArg Nat.succ ih.1, fun i x y hx hy => ?_⟩
      cases i with
      | zero =>
        cases hx
        cases hy
        exact hxy
      | succ i => exact ih.2 i x y hx hy
  · rintro ⟨hlength, h⟩
    induction xs generalizing ys with
    | nil =>
      cases ys with
      | nil => exact .nil
      | cons => cases hlength
    | cons x xs ih =>
      cases ys with
      | nil => cases hlength
      | cons y ys =>
        exact .cons (h 0 x y rfl rfl) (ih (Nat.succ.inj hlength) fun i => h (i + 1))

namespace RecordKind

variable {k : RecordKind} {es fs : List (Value × Value)}

theorem currentKey_currentKey (x : Value) : k.currentKey (k.currentKey x) = k.currentKey x := by
  cases hk : k.olderSpelling? with
  | none => cases x <;> simp [currentKey, currentSpelling, hk]
  | some pair =>
    obtain ⟨key, older⟩ := pair
    by_cases hx : x = .text older
    · subst hx
      rw [currentKey_older hk]
      exact currentKey_of_ne hk fun heq => (current_mem _ hk).1 (Value.text.inj heq)
    · rw [currentKey_of_ne hk hx, currentKey_of_ne hk hx]

theorem contentAt_currentKey (x : Value) : k.contentAt (k.currentKey x) = k.contentAt x := by
  cases hk : k.olderSpelling? with
  | none => cases x <;> simp [currentKey, currentSpelling, hk]
  | some pair =>
    obtain ⟨key, older⟩ := pair
    by_cases hx : x = .text older
    · subst hx
      rw [currentKey_older hk]
      exact (content_older _ hk).symm
    · rw [currentKey_of_ne hk hx]

theorem SpelledOnce.renamed (h : k.SpelledOnce es) {today : Bool}
    (hkeys : fs.map Prod.fst = es.map fun e => if today then k.currentKey e.1 else e.1) :
    k.SpelledOnce fs := by
  have hmem : ∀ f ∈ fs, ∃ e ∈ es, (if today then k.currentKey e.1 else e.1) = f.1 := by
    intro f hf
    have hf' := List.mem_map_of_mem (f := Prod.fst) hf
    rw [hkeys] at hf'
    exact List.mem_map.mp hf'
  rintro ⟨key, older⟩ hk
  cases today with
  | true =>
    refine .inr (entry?_eq_none_iff.mpr fun f hf heq => ?_)
    obtain ⟨e, -, he⟩ := hmem f hf
    by_cases hx : e.1 = .text older
    · rw [heq, if_pos rfl, hx, currentKey_older hk] at he
      exact (current_mem _ hk).1 (Value.text.inj he)
    · rw [heq, if_pos rfl, currentKey_of_ne hk hx] at he
      exact hx he
  | false =>
    refine (h _ hk).imp (fun hnone => ?_) fun hnone => ?_ <;>
    · rw [entry?_eq_none_iff] at hnone ⊢
      intro f hf
      obtain ⟨e, he, hef⟩ := hmem f hf
      rw [← hef]
      exact hnone e he

/-- Renamed records are in step once both are in the spelling of today. -/
theorem inStep_current {today : Bool}
    (hkeys : fs.map Prod.fst = es.map fun e => if today then k.currentKey e.1 else e.1)
    (hvalues : ∀ (i : Nat) e f, es[i]? = some e → fs[i]? = some f →
      (k.contentAt e.1).reading e.2 = (k.contentAt e.1).reading f.2) :
    k.InStep (k.current es) (k.current fs) := by
  have hlength : es.length = fs.length := by simpa using (congrArg List.length hkeys).symm
  rw [InStep, current, current, List.forall₂_map_left_iff, List.forall₂_map_right_iff]
  refine forall₂_iff_getElem?.mpr ⟨hlength, fun i e f he hf => ?_⟩
  have hkey := congrArg (·[i]?) hkeys
  simp only [List.getElem?_map, he, hf, Option.map_some, Option.some.injEq] at hkey
  constructor
  · dsimp only
    rw [hkey]
    split
    · exact (currentKey_currentKey _).symm
    · rfl
  · dsimp only
    rw [contentAt_currentKey]
    exact hvalues i e f he hf

end RecordKind

/-- Respelling does not change what is read. -/
theorem Respelled.reading_eq {c : Content} {v w : Value} (h : Respelled c v w) :
    c.reading v = c.reading w := by
  induction h with
  | same => rfl
  | source => rfl
  | @records k vs ws length items ih =>
    have hread : List.Forall₂ (fun v w => k.read v = k.read w) vs ws := by
      refine forall₂_iff_getElem?.mpr ⟨length, fun i v w hv hw => ?_⟩
      cases items i v w hv hw with
      | same => rfl
      | record => exact eq_of_nullable_eq (ih i _ _ hv hw) nofun nofun
    exact congrArg (Checked.map some) (readItems_congr hread 0)
  | @record k es fs today once keys _ ih =>
    obtain ⟨hfolds, hagree⟩ := once.agree
    obtain ⟨hfolds', hagree'⟩ := (once.renamed keys).agree
    have hstep := (RecordKind.inStep_current keys ih).agree
    have hread := RecordKind.read_eq_of_agree (RecordKind.fold_eq_iff.mpr ⟨hfolds, rfl⟩)
      (RecordKind.fold_eq_iff.mpr ⟨hfolds', rfl⟩) (hagree.trans (hstep.trans hagree'.symm))
    exact congrArg (Checked.map some) hread

theorem Respelled.ofItems {k : RecordKind} {vs ws : List Value}
    (h : List.Forall₂ (Respelled (.record k)) vs ws) :
    Respelled (.records k) (.list vs) (.list ws) :=
  .records h.length_eq (forall₂_iff_getElem?.mp h).2

theorem Respelled.ofEntries {k : RecordKind} {es fs : List (Value × Value)} (today : Bool)
    (once : k.SpelledOnce es)
    (h : List.Forall₂ (fun e f => f.1 = (if today then k.currentKey e.1 else e.1) ∧
      Respelled (k.contentAt e.1) e.2 f.2) es fs) : Respelled (.record k) (.map es) (.map fs) :=
  .record today once (Traversal.Forall₂.map_eq h fun _ _ hef => hef.1.symm).symm
    fun i e f he hf => ((forall₂_iff_getElem?.mp h).2 i e f he hf).2

theorem hasAggregates_respelled {v w : Value} (h : Respelled (.record .document) v w) :
    hasAggregates v = hasAggregates w := by
  cases h with
  | same => rfl
  | @record _ es fs today _ keys values =>
    have hkeys : fs.map Prod.fst = es.map Prod.fst := by
      rw [keys]
      refine List.map_congr_left fun e _ => ?_
      split
      · obtain ⟨x, v⟩ := e
        cases x <;> rfl
      · rfl
    have hstep : List.Forall₂ (fun e f => e.1 = f.1 ∧
        Respelled (RecordKind.document.contentAt e.1) e.2 f.2) es fs := by
      have hlength : es.length = fs.length := by simpa using (congrArg List.length hkeys).symm
      refine forall₂_iff_getElem?.mpr ⟨hlength, fun i e f he hf => ⟨?_, values i e f he hf⟩⟩
      have hkey := congrArg (·[i]?) hkeys
      simpa only [List.getElem?_map, he, hf, Option.map_some, Option.some.injEq, eq_comm] using hkey
    have haggregates := entry?_rel (R := fun x v w => Respelled (RecordKind.document.contentAt x) v w)
      hstep "aggregates"
    rw [hasAggregates, hasAggregates]
    generalize Value.entry? "aggregates" es = a, Value.entry? "aggregates" fs = b at haggregates ⊢
    cases haggregates with
    | none => rfl
    | some hab =>
      have hab : Respelled (.records .aggregate) _ _ := hab
      cases hab <;> rfl

end Declared

open DomainCompiler.Declared

/-- Respelling changes neither what is read nor, where nothing is read, any issue: so it changes no
result of the rules and no model. -/
theorem parseDocument_respelled {v w : Value} (h : Respelled (.record .document) v w) :
    parseDocument v = parseDocument w ∧
      (parseDocument v).map Check.examine = (parseDocument w).map Check.examine ∧
        ∀ options, compile options v = compile options w := by
  have hread : Document.read v = Document.read w := by
    have hreading : Schema.nullable Document.read v = Schema.nullable Document.read w :=
      h.reading_eq
    cases h with
    | same => rfl
    | record => exact eq_of_nullable_eq hreading nofun nofun
  have hparse : parseDocument v = parseDocument w := by
    rw [parseDocument, parseDocument, hasAggregates_respelled h, hread]
  exact ⟨hparse, congrArg _ hparse, fun options => by rw [compile, compile, hparse]⟩

/-- An order and its items, with the keys of fields and of a target given and the sources of a
transition as given. -/
def orderSpelled (fieldsKey targetKey : String) (sources : Value) : Value :=
  .record [("aggregates", .list [.record [("name", .text "Order"),
    ("entities", .list [.record [("name", .text "order"),
      (fieldsKey, .list [.record [("name", .text "id"), ("type", .text "Long")]]),
      ("isRoot", .bool true),
      ("relationships", .list [.record [(targetKey, .text "item"), ("type", .text "OneToMany")]])],
      .record [("name", .text "item")]]),
    ("enums", .list [.record [("name", .text "Stage"),
      ("values", .list [.text "NEW", .text "DONE"]),
      ("transitions", .list [.record [("from", sources), ("to", .text "DONE")]])]])]])]

theorem parseDocument_respelled_order :
    Respelled (.record .document) (orderSpelled "properties" "targetEntity" (.text "NEW"))
        (orderSpelled "fields" "target" (.list [.text "NEW"])) ∧
      (∃ d, parseDocument (orderSpelled "properties" "targetEntity" (.text "NEW")) = .ok d) ∧
        parseDocument (orderSpelled "properties" "targetEntity" (.text "NEW")) =
          parseDocument (orderSpelled "fields" "target" (.list [.text "NEW"])) := by
  have hrelationship : Respelled (.record .relationship)
      (.record [("targetEntity", .text "item"), ("type", .text "OneToMany")])
      (.record [("target", .text "item"), ("type", .text "OneToMany")]) :=
    .ofEntries true (by decide) (.cons ⟨rfl, .same _ _⟩ (.cons ⟨rfl, .same _ _⟩ .nil))
  have htransition : Respelled (.record .transition)
      (.record [("from", .text "NEW"), ("to", .text "DONE")])
      (.record [("from", .list [.text "NEW"]), ("to", .text "DONE")]) :=
    .ofEntries true (by decide) (.cons ⟨rfl, .source _⟩ (.cons ⟨rfl, .same _ _⟩ .nil))
  have hentity : Respelled (.record .entity)
      (.record [("name", .text "order"),
        ("properties", .list [.record [("name", .text "id"), ("type", .text "Long")]]),
        ("isRoot", .bool true), ("relationships",
          .list [.record [("targetEntity", .text "item"), ("type", .text "OneToMany")]])])
      (.record [("name", .text "order"),
        ("fields", .list [.record [("name", .text "id"), ("type", .text "Long")]]),
        ("isRoot", .bool true), ("relationships",
          .list [.record [("target", .text "item"), ("type", .text "OneToMany")]])]) :=
    .ofEntries true (by decide) (.cons ⟨rfl, .same _ _⟩ (.cons ⟨rfl, .same _ _⟩
      (.cons ⟨rfl, .same _ _⟩ (.cons ⟨rfl, .ofItems (.cons hrelationship .nil)⟩ .nil))))
  have henum : Respelled (.record .enumType)
      (.record [("name", .text "Stage"), ("values", .list [.text "NEW", .text "DONE"]),
        ("transitions", .list [.record [("from", .text "NEW"), ("to", .text "DONE")]])])
      (.record [("name", .text "Stage"), ("values", .list [.text "NEW", .text "DONE"]),
        ("transitions", .list [.record [("from", .list [.text "NEW"]), ("to", .text "DONE")]])]) :=
    .ofEntries true (by decide) (.cons ⟨rfl, .same _ _⟩ (.cons ⟨rfl, .same _ _⟩
      (.cons ⟨rfl, .ofItems (.cons htransition .nil)⟩ .nil)))
  have horder : Respelled (.record .document)
      (orderSpelled "properties" "targetEntity" (.text "NEW"))
      (orderSpelled "fields" "target" (.list [.text "NEW"])) :=
    .ofEntries true (by decide) (.cons ⟨rfl, .ofItems (.cons (.ofEntries true (by decide)
      (.cons ⟨rfl, .same _ _⟩ (.cons ⟨rfl, .ofItems (.cons hentity (.cons (.same _ _) .nil))⟩
        (.cons ⟨rfl, .ofItems (.cons henum .nil)⟩ .nil)))) .nil)⟩ .nil)
  exact ⟨horder, ⟨_, rfl⟩, (parseDocument_respelled horder).1⟩

end DomainCompiler
