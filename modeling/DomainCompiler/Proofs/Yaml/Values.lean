import DomainCompiler.Proofs.Yaml.Parts
import DomainCompiler.Yaml.Document

/-!
# Nodes that write a value

Nodes without merges whose keys are texts write a value where there is an end to them, and this is
the value of the document. Collections are built in the order in which they were met. What was met
stays met, so in the end all that belongs to the outermost node is built.
-/

namespace DomainCompiler.Yaml

namespace Nodes

mutual

/-- The node at the site writes the value. A repeated key keeps its first place and takes its last
value. -/
inductive Writes (nodes : Nodes) : Site → Value → Prop where
  | scalar {s : Site} {tag : Tag} {text : String} {v : Value}
      (node : nodes[s]? = some (.scalar tag text)) (read : Scalar.read tag s text = .ok v) :
      Writes nodes s v
  | list {s : Site} {items : List Site} {vs : List Value}
      (node : nodes[s]? = some (.sequence .list items)) (items : WriteAll nodes items vs) :
      Writes nodes s (.list vs)
  | map {s : Site} {entries : List Entry} {ps : List (Value × Value)}
      (node : nodes[s]? = some (.mapping .map entries)) (entries : WriteEntries nodes entries ps) :
      Writes nodes s (.map (Value.mapOfEntries ps))

inductive WriteAll (nodes : Nodes) : List Site → List Value → Prop where
  | nil : WriteAll nodes [] []
  | cons {s : Site} {v : Value} {ss : List Site} {vs : List Value} (first : Writes nodes s v)
      (more : WriteAll nodes ss vs) : WriteAll nodes (s :: ss) (v :: vs)

inductive WriteEntries (nodes : Nodes) : List Entry → List (Value × Value) → Prop where
  | nil : WriteEntries nodes [] []
  | cons {e : Entry} {text : String} {v : Value} {es : List Entry} {ps : List (Value × Value)}
      (key : nodes[e.1]? = some (.scalar .text text)) (value : Writes nodes e.2 v)
      (more : WriteEntries nodes es ps) : WriteEntries nodes (e :: es) ((.text text, v) :: ps)

end

variable {nodes : Nodes} {s : Site} {tag : Tag} {text : String}

theorem get_of_getElem? {n : Node} (h : nodes[s]? = some n) : nodes.get s = n := by
  rw [get, h]
  rfl

theorem Writes.lt_size {v : Value} (h : nodes.Writes s v) : s < nodes.size := by
  cases h with
  | scalar node => exact (Array.getElem?_eq_some_iff.mp node).1
  | list node => exact (Array.getElem?_eq_some_iff.mp node).1
  | map node => exact (Array.getElem?_eq_some_iff.mp node).1

theorem isScalar_of_read {v : Value} (h : Scalar.read tag s text = .ok v) :
    tag.isScalar = true ∧ tag.isCollection = false := by
  cases tag <;> first | exact ⟨rfl, rfl⟩ | cases h

theorem Writes.not_isCollection {v : Value} (h : nodes.Writes s v)
    (hnode : nodes[s]? = some (.scalar tag text)) : (nodes.get s).tag.isCollection = false := by
  cases h with
  | scalar node read =>
    rw [get_of_getElem? node]
    exact (isScalar_of_read read).2
  | list node => rw [hnode] at node; cases node
  | map node => rw [hnode] at node; cases node

theorem scalarPart_eq {v : Value} (hnode : nodes[s]? = some (.scalar tag text))
    (hread : Scalar.read tag s text = .ok v) :
    nodes.scalarPart s = .ok (.scalar v (Scalar.isAlone text v)) := by
  have hget := get_of_getElem? hnode
  have hscalar : (nodes.get s).tag.isScalar = true := by
    rw [hget]
    exact (isScalar_of_read hread).1
  have htext : nodes.scalarText s = .ok text := by
    rw [scalarText, scalarTextWithin, hget]
  rw [scalarPart, hscalar, htext, hget]
  show (do
    let v ← Scalar.read tag s text
    return Part.scalar v (Scalar.isAlone text v) : Except Fault Part) = _
  rw [hread]
  rfl

end Nodes

/-! ### Distinct keys -/

namespace Parts

/-- Key and value of an entry stand for those of a pair. -/
def InStep (K R : Site → Value → Prop) (e : Entry) (p : Value × Value) : Prop :=
  K e.1 p.1 ∧ R e.2 p.2

variable {parts : Parts} {K R : Site → Value → Prop}

theorem forall₂_setEntry (hsame : ∀ a k b l, K a k → K b l → parts.sameKey a b = k.sameKey l)
    {e : Entry} {p : Value × Value} (he : InStep K R e p) {es : List Entry}
    {ps : List (Value × Value)} (h : List.Forall₂ (InStep K R) es ps) :
    List.Forall₂ (InStep K R) (parts.setEntry e es) (Value.setEntry p.1 p.2 ps) := by
  induction h with
  | nil => exact .cons he .nil
  | @cons e' p' es ps he' hrest ih =>
    rw [setEntry, Value.setEntry, hsame _ _ _ _ he'.1 he.1]
    split
    · exact .cons ⟨he'.1, he.2⟩ hrest
    · exact .cons he' ih

/-- Of a repeated key the parts keep the same entry as the pairs. -/
theorem forall₂_distinct (hsame : ∀ a k b l, K a k → K b l → parts.sameKey a b = k.sameKey l)
    {entries : List Entry} {ps : List (Value × Value)}
    (h : List.Forall₂ (InStep K R) entries ps) :
    List.Forall₂ (InStep K R) (parts.distinct entries) (Value.mapOfEntries ps) := by
  have hfold : ∀ es' ps', List.Forall₂ (InStep K R) es' ps' → List.Forall₂ (InStep K R)
      (entries.foldl (fun distinct e => parts.setEntry e distinct) es')
      (ps.foldl (fun m e => Value.setEntry e.1 e.2 m) ps') := by
    induction h with
    | nil => exact fun _ _ h' => h'
    | cons he _ ih => exact fun _ _ h' => ih _ _ (forall₂_setEntry hsame he h')
  exact hfold [] [] .nil

theorem sameKey_text {a b : Site} {x y : String}
    (ha : parts[a]?.join = some (.scalar (.text x) false))
    (hb : parts[b]?.join = some (.scalar (.text y) false)) :
    parts.sameKey a b = Value.sameKey (.text x) (.text y) := by
  rw [sameKey, ha, hb]
  show (a == b || Value.sameKey (.text x) (.text y)) = _
  by_cases hab : a = b
  · subst hab
    rw [ha] at hb
    cases hb
    simp [Value.sameKey]
  · simp [hab]

theorem holdEntries_of_forall₂ {entries : List Entry} {ps : List (Value × Value)}
    (h : List.Forall₂ (InStep parts.Holds parts.Holds) entries ps) :
    parts.HoldEntries entries ps := by
  induction h with
  | nil => exact .nil
  | cons he _ ih => exact .cons he.1 he.2 ih

end Parts

/-! ### What is met -/

namespace Builder

/-- The keys are texts, and their parts are these texts. -/
def HaveKeys (nodes : Nodes) (parts : Parts) (entries : List Entry) : Prop :=
  ∀ e ∈ entries, ∃ text, nodes[e.1]? = some (.scalar .text text) ∧
    parts[e.1]?.join = some (.scalar (.text text) false)

/-- The collection at the site is built, and its members were met. -/
structure IsBuilt (nodes : Nodes) (parts : Parts) (s : Site) : Prop where
  list : ∀ items, nodes[s]? = some (.sequence .list items) →
    parts[s]?.join = some (.list items) ∧ ∀ i ∈ items, parts[i]?.join.isSome
  map : ∀ entries, nodes[s]? = some (.mapping .map entries) →
    (∃ earlier, HaveKeys nodes earlier entries ∧
      parts[s]?.join = some (.map (Parts.distinct earlier entries))) ∧
    ∀ e ∈ entries, parts[e.1]?.join.isSome ∧ parts[e.2]?.join.isSome

/-- Nodes that write values are being built; of the collections so many are done. -/
structure IsUnderWay (nodes : Nodes) (done : Nat) (b : Building) : Prop where
  same : b.nodes = nodes
  size : b.parts.size = nodes.size
  writes : ∀ s, b.parts[s]?.join.isSome → ∃ v, nodes.Writes s v
  scalar : ∀ s tag text p, nodes[s]? = some (.scalar tag text) → b.parts[s]?.join = some p →
    ∃ v, Scalar.read tag s text = .ok v ∧ p = .scalar v (Scalar.isAlone text v)
  met : ∀ s, s ∈ b.met ↔ (nodes.get s).tag.isCollection = true ∧ b.parts[s]?.join.isSome
  nodup : b.met.toList.Nodup
  done_le : done ≤ b.met.size
  built : ∀ i < done, ∀ s, b.met[i]? = some s → IsBuilt nodes b.parts s

variable {nodes : Nodes} {done : Nat} {b : Building} {s : Site} {v : Value} {parts parts' : Parts}

theorem join_setIfInBounds {site : Site} {part : Part} (hsite : site < parts.size) (s : Site) :
    (parts.setIfInBounds site (some part))[s]?.join =
      if s = site then some part else parts[s]?.join := by
  rw [Array.getElem?_setIfInBounds]
  by_cases h : s = site
  · subst h
    simp [hsite]
  · rw [if_neg (Ne.symm h), if_neg h]

theorem isSome_setIfInBounds {site : Site} {part : Part} (hsite : site < parts.size)
    (h : parts[s]?.join.isSome) : (parts.setIfInBounds site (some part))[s]?.join.isSome := by
  rw [join_setIfInBounds hsite]
  split
  · rfl
  · exact h

theorem IsBuilt.of_eq (h : IsBuilt nodes parts s) (hsame : parts'[s]?.join = parts[s]?.join)
    (hmet : ∀ i : Site, parts[i]?.join.isSome → parts'[i]?.join.isSome) :
    IsBuilt nodes parts' s where
  list items hnode := by
    obtain ⟨hpart, hitems⟩ := h.list items hnode
    exact ⟨hsame.trans hpart, fun i hi => hmet i (hitems i hi)⟩
  map entries hnode := by
    obtain ⟨⟨earlier, hkeys, hpart⟩, hentries⟩ := h.map entries hnode
    exact ⟨⟨earlier, hkeys, hsame.trans hpart⟩, fun e he =>
      ⟨hmet _ (hentries e he).1, hmet _ (hentries e he).2⟩⟩

/-- The parts stay, and there may be more of them. -/
def KeepsParts (parts parts' : Parts) : Prop :=
  ∀ (s : Site) (p : Part), parts[s]?.join = some p → parts'[s]?.join = some p

theorem KeepsParts.isSome (h : KeepsParts parts parts') (hs : parts[s]?.join.isSome) :
    parts'[s]?.join.isSome := by
  obtain ⟨p, hp⟩ := Option.isSome_iff_exists.mp hs
  rw [h s p hp]
  rfl

theorem keepsParts_setIfInBounds (part : Part) (hs : s < parts.size)
    (hnew : parts[s]?.join = none) :
    KeepsParts parts (parts.setIfInBounds s (some part)) := by
  intro s' p hp
  rw [join_setIfInBounds hs, if_neg, hp]
  rintro rfl
  rw [hnew] at hp
  cases hp

theorem IsBuilt.keepsParts (h : IsBuilt nodes parts s) (hs : parts[s]?.join.isSome)
    (hkeeps : KeepsParts parts parts') : IsBuilt nodes parts' s := by
  obtain ⟨p, hp⟩ := Option.isSome_iff_exists.mp hs
  exact h.of_eq ((hkeeps s p hp).trans hp.symm) fun i hi => hkeeps.isSome hi

theorem IsUnderWay.lt_size (h : IsUnderWay nodes done b) (hs : nodes.Writes s v) :
    s < b.parts.size := by
  rw [h.size]
  exact hs.lt_size

theorem IsUnderWay.mem_of_built (h : IsUnderWay nodes done b) {i : Nat} (hi : b.met[i]? = some s) :
    b.parts[s]?.join.isSome :=
  ((h.met s).mp (Array.mem_of_getElem? hi)).2

theorem IsUnderWay.writes_put (h : IsUnderWay nodes done b) (hwrites : nodes.Writes s v)
    (part : Part) : ∀ s' : Site, (b.parts.setIfInBounds s (some part))[s']?.join.isSome →
      ∃ v, nodes.Writes s' v := by
  intro s' hs'
  rw [join_setIfInBounds (h.lt_size hwrites)] at hs'
  split at hs'
  · next heq => exact ⟨v, heq ▸ hwrites⟩
  · exact h.writes s' hs'

/-- Scalars have the parts that they are read as, if this is so of the part that is new. -/
theorem IsUnderWay.scalar_put (h : IsUnderWay nodes done b) (hs : s < b.parts.size) {part : Part}
    (hpart : ∀ tag text, nodes[s]? = some (.scalar tag text) →
      ∃ v, Scalar.read tag s text = .ok v ∧ part = .scalar v (Scalar.isAlone text v)) :
    ∀ (s' : Site) (tag : Tag) (text : String) (p : Part), nodes[s']? = some (.scalar tag text) →
      (b.parts.setIfInBounds s (some part))[s']?.join = some p →
        ∃ v, Scalar.read tag s' text = .ok v ∧ p = .scalar v (Scalar.isAlone text v) := by
  intro s' tag text p hnode hp
  rw [join_setIfInBounds hs] at hp
  split at hp
  · next heq =>
    subst heq
    cases hp
    exact hpart tag text hnode
  · exact h.scalar s' tag text p hnode hp

/-- A scalar is met and built. -/
theorem IsUnderWay.addScalar (h : IsUnderWay nodes done b) {tag : Tag} {text : String}
    (hnode : nodes[s]? = some (.scalar tag text)) (hread : Scalar.read tag s text = .ok v)
    (hnew : b.parts[s]?.join = none) :
    IsUnderWay nodes done { b with
      parts := b.parts.setIfInBounds s (some (.scalar v (Scalar.isAlone text v))) } := by
  have hwrites : nodes.Writes s v := .scalar hnode hread
  have hs := h.lt_size hwrites
  have hkeeps := keepsParts_setIfInBounds (.scalar v (Scalar.isAlone text v)) hs hnew
  constructor
  case same => exact h.same
  case size => exact Array.size_setIfInBounds.trans h.size
  case writes => exact h.writes_put hwrites _
  case scalar =>
    refine h.scalar_put hs fun tag' text' hnode' => ?_
    cases hnode.symm.trans hnode'
    exact ⟨v, hread, rfl⟩
  case met =>
    intro s'
    rw [h.met s', join_setIfInBounds hs]
    split
    · next heq =>
      subst heq
      have hscalar := (Nodes.isScalar_of_read hread).2
      rw [Nodes.get_of_getElem? hnode, hnew]
      simp [Node.tag, hscalar]
    · rfl
  case nodup => exact h.nodup
  case done_le => exact h.done_le
  case built =>
    exact fun i hi s' hs' => (h.built i hi s' hs').keepsParts (h.mem_of_built hs') hkeeps

/-- A collection is met, and waits for its turn. -/
theorem IsUnderWay.addCollection (h : IsUnderWay nodes done b) (hwrites : nodes.Writes s v)
    (hcollection : (nodes.get s).tag.isCollection = true) (hnew : b.parts[s]?.join = none) :
    IsUnderWay nodes done { b with
      parts := b.parts.setIfInBounds s (some (.list [])), met := b.met.push s } := by
  have hs := h.lt_size hwrites
  have hkeeps := keepsParts_setIfInBounds (.list []) hs hnew
  constructor
  case same => exact h.same
  case size => exact Array.size_setIfInBounds.trans h.size
  case writes => exact h.writes_put hwrites _
  case scalar =>
    refine h.scalar_put hs fun tag text hnode => ?_
    rw [hwrites.not_isCollection hnode] at hcollection
    cases hcollection
  case met =>
    intro s'
    rw [Array.mem_push, h.met s', join_setIfInBounds hs]
    split
    · next heq => simp [heq, hcollection]
    · next hne => simp [hne]
  case nodup =>
    have hnot : s ∉ b.met.toList := by
      intro hmem
      have hmet := ((h.met s).mp (Array.mem_toList_iff.mp hmem)).2
      rw [hnew] at hmet
      cases hmet
    rw [Array.toList_push]
    exact List.Nodup.append h.nodup (List.nodup_singleton s) (by simpa using hnot)
  case done_le =>
    rw [Array.size_push]
    exact Nat.le_succ_of_le h.done_le
  case built =>
    intro i hi s' hs'
    rw [Array.getElem?_push, if_neg (Nat.ne_of_lt (Nat.lt_of_lt_of_le hi h.done_le))] at hs'
    exact (h.built i hi s' hs').keepsParts (h.mem_of_built hs') hkeeps

/-- What was met stays so, and in its place. -/
structure Grows (b b' : Building) : Prop where
  parts : KeepsParts b.parts b'.parts
  met : ∀ (i : Nat) (s : Site), b.met[i]? = some s → b'.met[i]? = some s

theorem Grows.refl (b : Building) : Grows b b :=
  ⟨fun _ _ hp => hp, fun _ _ hs => hs⟩

theorem Grows.trans {b b' b'' : Building} (h : Grows b b') (h' : Grows b' b'') : Grows b b'' :=
  ⟨fun s p hp => h'.parts s p (h.parts s p hp), fun i s hs => h'.met i s (h.met i s hs)⟩

/-- From the state the builder goes on to one where the condition holds. -/
def GoesOn (nodes : Nodes) (done : Nat) (r : Builder Unit) (met : Parts → Prop) : Prop :=
  ∀ b, IsUnderWay nodes done b →
    ∃ b', r.run b = .ok ((), b') ∧ IsUnderWay nodes done b' ∧ Grows b b' ∧ met b'.parts

/-- A node is met once, and stays met. -/
theorem goesOn_meet (hs : nodes.Writes s v) :
    GoesOn nodes done (meet s) fun parts => parts[s]?.join.isSome := by
  intro b h
  have hlt := h.lt_size hs
  cases hpart : b.parts[s]?.join with
  | some p =>
    refine ⟨b, ?_, h, .refl b, congrArg Option.isSome hpart⟩
    simp [meet, hpart]
    rfl
  | none =>
    by_cases hcollection : (nodes.get s).tag.isCollection = true
    · refine ⟨_, ?_, h.addCollection hs hcollection hpart,
        ⟨keepsParts_setIfInBounds _ hlt hpart, fun i s' hs' => ?_⟩, ?_⟩
      · simp [meet, hpart, h.same, hcollection, put]
        rfl
      · have hi := (Array.getElem?_eq_some_iff.mp hs').1
        rw [Array.getElem?_push, if_neg (Nat.ne_of_lt hi), hs']
      · exact congrArg Option.isSome ((join_setIfInBounds hlt s).trans (if_pos rfl))
    · cases hs with
      | scalar node read =>
        refine ⟨_, ?_, h.addScalar node read hpart,
          ⟨keepsParts_setIfInBounds _ hlt hpart, fun _ _ hs' => hs'⟩, ?_⟩
        · simp [meet, hpart, h.same, hcollection, put, Nodes.scalarPart_eq node read]
        · exact congrArg Option.isSome ((join_setIfInBounds hlt s).trans (if_pos rfl))
      | list node items => exact absurd (by rw [Nodes.get_of_getElem? node]; rfl) hcollection
      | map node entries => exact absurd (by rw [Nodes.get_of_getElem? node]; rfl) hcollection

theorem GoesOn.bind {r r' : Builder Unit} {met met' : Parts → Prop} (h : GoesOn nodes done r met)
    (h' : GoesOn nodes done r' met')
    (hkeeps : ∀ parts parts', KeepsParts parts parts' → met parts → met parts') :
    GoesOn nodes done (r >>= fun _ => r') fun parts => met parts ∧ met' parts := by
  intro b hb
  obtain ⟨b₁, hrun, hb₁, hgrows, hmet⟩ := h b hb
  obtain ⟨b₂, hrun', hb₂, hgrows', hmet'⟩ := h' b₁ hb₁
  refine ⟨b₂, ?_, hb₂, hgrows.trans hgrows', hkeeps _ _ hgrows'.parts hmet, hmet'⟩
  rw [StateT.run_bind, hrun]
  exact hrun'

theorem GoesOn.forM {α : Type} {f : α → Builder Unit} {met : α → Parts → Prop} {xs : List α}
    (h : ∀ x ∈ xs, GoesOn nodes done (f x) (met x))
    (hkeeps : ∀ x parts parts', KeepsParts parts parts' → met x parts → met x parts') :
    GoesOn nodes done (xs.forM f) fun parts => ∀ x ∈ xs, met x parts := by
  induction xs with
  | nil => exact fun b hb => ⟨b, rfl, hb, .refl b, nofun⟩
  | cons x xs ih =>
    rw [List.forall_mem_cons] at h
    intro b hb
    obtain ⟨b', hrun, hb', hgrows, hx, hxs⟩ := (h.1.bind (ih h.2) (hkeeps x)) b hb
    exact ⟨b', hrun, hb', hgrows, List.forall_mem_cons.mpr ⟨hx, hxs⟩⟩

theorem goesOn_meetEntry {e : Entry} {text : String}
    (hkey : nodes[e.1]? = some (.scalar .text text)) (hvalue : nodes.Writes e.2 v) :
    GoesOn nodes done (meetEntry e) fun parts =>
      parts[e.1]?.join.isSome ∧ parts[e.2]?.join.isSome := by
  intro b hb
  have hwrites : nodes.Writes e.1 (.text text) := .scalar hkey rfl
  obtain ⟨b₁, hrun, hb₁, hgrows, hmet⟩ := goesOn_meet hwrites b hb
  obtain ⟨b₂, hrun', hb₂, hgrows', hmet'⟩ := goesOn_meet hvalue b₁ hb₁
  refine ⟨b₂, ?_, hb₂, hgrows.trans hgrows', hgrows'.parts.isSome hmet, hmet'⟩
  have hnode : (b₁.nodes.get e.1).tag.isCollection = false := by
    rw [hb₁.same]
    exact hwrites.not_isCollection hkey
  rw [meetEntry, StateT.run_bind, hrun]
  show (do
    if (← nodeAt e.1).tag.isCollection then fails .key
    meet e.2 : Builder Unit).run b₁ = _
  simp [nodeAt, hnode, hrun']

/-! ### Collections -/

theorem writes_of_mem_items {items : List Site} {vs : List Value} (h : nodes.WriteAll items vs) :
    ∀ i ∈ items, ∃ v, nodes.Writes i v := by
  induction items generalizing vs with
  | nil => exact nofun
  | cons i items ih =>
    cases h with
    | cons first more => exact List.forall_mem_cons.mpr ⟨⟨_, first⟩, ih more⟩

theorem writes_of_mem_entries {entries : List Entry} {ps : List (Value × Value)}
    (h : nodes.WriteEntries entries ps) :
    ∀ e ∈ entries, (∃ text, nodes[e.1]? = some (.scalar .text text)) ∧ ∃ v, nodes.Writes e.2 v := by
  induction entries generalizing ps with
  | nil => exact nofun
  | cons e entries ih =>
    cases h with
    | cons key value more => exact List.forall_mem_cons.mpr ⟨⟨⟨_, key⟩, _, value⟩, ih more⟩

theorem firstMerge_of_texts {entries : List Entry}
    (h : ∀ e ∈ entries, (nodes.get e.1).tag = .text) :
    Rewriter.firstMerge nodes entries = none := by
  induction entries with
  | nil => rfl
  | cons e entries ih =>
    rw [List.forall_mem_cons] at h
    rw [Rewriter.firstMerge, h.1, if_neg (by decide), ih h.2]
    rfl

theorem foldl_asText_of_texts {entries : List Entry}
    (h : ∀ e ∈ entries, (nodes.get e.1).tag = .text) :
    entries.foldl (fun nodes e => Rewriter.asText nodes e.1) nodes = nodes := by
  induction entries with
  | nil => rfl
  | cons e entries ih =>
    rw [List.forall_mem_cons] at h
    have hsame : Rewriter.asText nodes e.1 = nodes := by
      rw [Rewriter.asText, h.1]
      exact if_neg (by decide)
    rw [List.foldl_cons, hsame, ih h.2]

/-- Where all keys are texts there is nothing to merge. -/
theorem run_flattened {entries : List Entry} {tag : Tag} (fuel : Nat)
    (hnode : nodes[s]? = some (.mapping tag entries))
    (hkeys : ∀ e ∈ entries, (nodes.get e.1).tag = .text) :
    (Rewriter.flattened (fuel + 1) s).run nodes = .ok (entries, nodes) := by
  rw [Rewriter.flattened]
  simp [Nodes.get_of_getElem? hnode, Node.entries, firstMerge_of_texts hkeys,
    foldl_asText_of_texts hkeys]
  rfl

/-- The collection whose turn it is has its part. -/
theorem IsUnderWay.finish (h : IsUnderWay nodes done b) (hs : b.met[done]? = some s) (part : Part)
    (hbuilt : IsBuilt nodes (b.parts.setIfInBounds s (some part)) s) :
    IsUnderWay nodes (done + 1) { b with parts := b.parts.setIfInBounds s (some part) } := by
  have hmet := (h.met s).mp (Array.mem_of_getElem? hs)
  obtain ⟨v, hwrites⟩ := h.writes s hmet.2
  have hlt := h.lt_size hwrites
  constructor
  case same => exact h.same
  case size => exact Array.size_setIfInBounds.trans h.size
  case writes => exact h.writes_put hwrites part
  case scalar =>
    refine h.scalar_put hlt fun tag text hnode => ?_
    rw [hwrites.not_isCollection hnode] at hmet
    cases hmet.1
  case met =>
    intro s'
    rw [h.met s', join_setIfInBounds hlt]
    split
    · next heq => rw [heq, hmet.2]; rfl
    · rfl
  case nodup => exact h.nodup
  case done_le => exact (Array.getElem?_eq_some_iff.mp hs).1
  case built =>
    intro i hi s' hs'
    obtain hi | rfl := Nat.lt_succ_iff_lt_or_eq.mp hi
    · have hne : s' ≠ s := by
        rintro rfl
        have hlength : done < b.met.toList.length := (Array.getElem?_eq_some_iff.mp hs).1
        have hdistinct := List.nodup_iff_getElem?_ne_getElem?.mp h.nodup i done hi hlength
        rw [Array.getElem?_toList, Array.getElem?_toList, hs, hs'] at hdistinct
        exact hdistinct rfl
      exact (h.built i hi s' hs').of_eq ((join_setIfInBounds hlt s').trans (if_neg hne))
        fun _ hi => isSome_setIfInBounds hlt hi
    · cases hs.symm.trans hs'
      exact hbuilt

theorem build_sequence (h : IsUnderWay nodes done b) {items : List Site}
    (hnode : nodes[s]? = some (.sequence .list items)) :
    (build s).run b = (do
      items.forM meet
      put s (.list items) : Builder Unit).run b := by
  simp [build, nodeAt, h.same, Nodes.get_of_getElem? hnode, Node.tag]

theorem build_mapping (h : IsUnderWay nodes done b) {entries : List Entry}
    (hnode : nodes[s]? = some (.mapping .map entries))
    (hkeys : ∀ e ∈ entries, (nodes.get e.1).tag = .text) :
    (build s).run b = (do
      entries.forM meetEntry
      put s (.map ((← get).parts.distinct entries)) : Builder Unit).run b := by
  have hsame : { b with nodes } = b := by
    rw [← h.same]
  simp [build, nodeAt, meetEntries, h.same, Nodes.get_of_getElem? hnode, Node.tag,
    run_flattened b.entryCount hnode hkeys]
  show (do
    let p ← (entries.forM meetEntry).run { b with nodes }
    (put s (.map (p.2.parts.distinct entries))).run p.2) = _
  rw [hsame]
  rfl

/-- The keys that were met have their parts. -/
theorem IsUnderWay.haveKeys (h : IsUnderWay nodes done b) {entries : List Entry}
    (hkeys : ∀ e ∈ entries, ∃ text, nodes[e.1]? = some (.scalar .text text))
    (hmet : ∀ e ∈ entries, b.parts[e.1]?.join.isSome) : HaveKeys nodes b.parts entries := by
  intro e he
  obtain ⟨text, hnode⟩ := hkeys e he
  obtain ⟨p, hp⟩ := Option.isSome_iff_exists.mp (hmet e he)
  obtain ⟨v, hread, rfl⟩ := h.scalar e.1 .text text p hnode hp
  obtain rfl : Value.text text = v := Except.ok.inj hread
  exact ⟨text, hnode, hp⟩

theorem build_list (h : IsUnderWay nodes done b) (hs : b.met[done]? = some s) {items : List Site}
    {vs : List Value} (node : nodes[s]? = some (.sequence .list items))
    (hitems : nodes.WriteAll items vs) :
    ∃ b', (build s).run b = .ok ((), b') ∧ IsUnderWay nodes (done + 1) b' ∧
      ∀ i : Site, b.parts[i]?.join.isSome → b'.parts[i]?.join.isSome := by
  obtain ⟨b₁, hrun, hb₁, hgrows, hmembers⟩ := GoesOn.forM
    (fun i hi => goesOn_meet (writes_of_mem_items hitems i hi).choose_spec)
    (fun _ _ _ hkeeps hi => hkeeps.isSome hi) b h
  have hlt : s < b₁.parts.size := hb₁.lt_size (.list node hitems)
  refine ⟨_, ?_, hb₁.finish (hgrows.met done s hs) (.list items) ⟨?_, ?_⟩, ?_⟩
  · rw [build_sequence h node, StateT.run_bind, hrun]
    rfl
  · intro items' hnode
    cases node.symm.trans hnode
    refine ⟨(join_setIfInBounds hlt s).trans (if_pos rfl), fun i hi => ?_⟩
    exact isSome_setIfInBounds hlt (hmembers i hi)
  · intro entries hnode
    cases node.symm.trans hnode
  · exact fun i hi => isSome_setIfInBounds hlt (hgrows.parts.isSome hi)

theorem build_map (h : IsUnderWay nodes done b) (hs : b.met[done]? = some s) {entries : List Entry}
    {ps : List (Value × Value)} (node : nodes[s]? = some (.mapping .map entries))
    (hentries : nodes.WriteEntries entries ps) :
    ∃ b', (build s).run b = .ok ((), b') ∧ IsUnderWay nodes (done + 1) b' ∧
      ∀ i : Site, b.parts[i]?.join.isSome → b'.parts[i]?.join.isSome := by
  have hboth := writes_of_mem_entries hentries
  have hkeys : ∀ e ∈ entries, ∃ text, nodes[e.1]? = some (.scalar .text text) :=
    fun e he => (hboth e he).1
  have htags : ∀ e ∈ entries, (nodes.get e.1).tag = .text := by
    intro e he
    obtain ⟨text, hnode⟩ := hkeys e he
    rw [Nodes.get_of_getElem? hnode]
    rfl
  obtain ⟨b₁, hrun, hb₁, hgrows, hmembers⟩ := GoesOn.forM
    (fun e he => goesOn_meetEntry (hkeys e he).choose_spec (hboth e he).2.choose_spec)
    (fun _ _ _ hkeeps he => ⟨hkeeps.isSome he.1, hkeeps.isSome he.2⟩) b h
  have hlt : s < b₁.parts.size := hb₁.lt_size (.map node hentries)
  refine ⟨_, ?_, hb₁.finish (hgrows.met done s hs)
    (.map (Parts.distinct b₁.parts entries)) ⟨?_, ?_⟩, ?_⟩
  · rw [build_mapping h node htags, StateT.run_bind, hrun]
    rfl
  · intro items hnode
    cases node.symm.trans hnode
  · intro entries' hnode
    cases node.symm.trans hnode
    refine ⟨⟨b₁.parts, hb₁.haveKeys hkeys fun e he => (hmembers e he).1,
      (join_setIfInBounds hlt s).trans (if_pos rfl)⟩, fun e he => ?_⟩
    exact ⟨isSome_setIfInBounds hlt (hmembers e he).1,
      isSome_setIfInBounds hlt (hmembers e he).2⟩
  · exact fun i hi => isSome_setIfInBounds hlt (hgrows.parts.isSome hi)

/-- The collection whose turn it is gets built, and what was met stays so. -/
theorem build_eq (h : IsUnderWay nodes done b) (hs : b.met[done]? = some s) :
    ∃ b', (build s).run b = .ok ((), b') ∧ IsUnderWay nodes (done + 1) b' ∧
      ∀ i : Site, b.parts[i]?.join.isSome → b'.parts[i]?.join.isSome := by
  have hmet := (h.met s).mp (Array.mem_of_getElem? hs)
  obtain ⟨v, hwrites⟩ := h.writes s hmet.2
  cases hwrites with
  | scalar node read =>
    rw [Nodes.get_of_getElem? node, Node.tag, (Nodes.isScalar_of_read read).2] at hmet
    cases hmet.1
  | list node items => exact build_list h hs node items
  | map node entries => exact build_map h hs node entries

/-! ### Documents -/

/-- No more collections are met than there are nodes. -/
theorem IsUnderWay.size_met_le (h : IsUnderWay nodes done b) : b.met.size ≤ nodes.size := by
  have hmem : ∀ s ∈ b.met.toList.toFinset, s ∈ Finset.range nodes.size := by
    intro s hs
    have hmet := ((h.met s).mp (Array.mem_toList_iff.mp (List.mem_toFinset.mp hs))).2
    obtain ⟨v, hwrites⟩ := h.writes s hmet
    exact Finset.mem_range.mpr hwrites.lt_size
  have hcard := Finset.card_le_card hmem
  rwa [List.toFinset_card_of_nodup h.nodup, Finset.card_range, Array.length_toList] at hcard

/-- In the end all collections that were met are built. -/
theorem buildFrom_eq {sites : Nat} (h : IsUnderWay nodes done b)
    (hsites : nodes.size ≤ sites + done) :
    ∃ b', (buildFrom sites done).run b = .ok ((), b') ∧ IsUnderWay nodes b'.met.size b' ∧
      ∀ i : Site, b.parts[i]?.join.isSome → b'.parts[i]?.join.isSome := by
  induction sites generalizing done b with
  | zero =>
    have hall : done = b.met.size := by
      have hle := h.size_met_le
      have hge := h.done_le
      omega
    exact ⟨b, rfl, hall ▸ h, fun _ hi => hi⟩
  | succ sites ih =>
    cases hs : b.met[done]? with
    | none =>
      have hall : done = b.met.size :=
        Nat.le_antisymm h.done_le (Array.getElem?_eq_none_iff.mp hs)
      refine ⟨b, ?_, hall ▸ h, fun _ hi => hi⟩
      simp [buildFrom, hs]
      rfl
    | some s =>
      obtain ⟨b₁, hrun, hb₁, hmet⟩ := build_eq h hs
      obtain ⟨b₂, hrun', hb₂, hmet'⟩ := ih hb₁ (by omega)
      refine ⟨b₂, ?_, hb₂, fun i hi => hmet' i (hmet i hi)⟩
      simp only [buildFrom, StateT.run_bind, StateT.run_get, pure_bind, hs, hrun]
      exact hrun'

theorem isUnderWay_start (nodes : Nodes) (entryCount : Nat) :
    IsUnderWay nodes 0 ⟨nodes, entryCount, nodes.map fun _ => none, #[]⟩ := by
  have hnothing : ∀ s : Site, (nodes.map fun _ => (none : Option Part))[s]?.join = none := by
    intro s
    rw [Array.getElem?_map]
    cases nodes[s]? <;> rfl
  constructor
  case same => rfl
  case size => exact Array.size_map
  case writes =>
    intro s hs
    rw [hnothing] at hs
    cases hs
  case scalar =>
    intro s tag text p _ hp
    rw [hnothing] at hp
    cases hp
  case met =>
    intro s
    rw [hnothing]
    simp
  case nodup => exact List.nodup_nil
  case done_le => exact Nat.le_refl 0
  case built => exact fun i hi => absurd hi (Nat.not_lt_zero i)

/-- A key that is a text, also when its mapping was built. -/
def KeyHolds (earlier parts : Parts) (s : Site) (v : Value) : Prop :=
  (∃ text, v = .text text ∧ earlier[s]?.join = some (.scalar (.text text) false)) ∧
    Parts.Holds parts s v

theorem sameKey_of_keyHolds {earlier : Parts} {a b : Site} {k l : Value}
    (ha : KeyHolds earlier parts a k) (hb : KeyHolds earlier parts b l) :
    Parts.sameKey earlier a b = k.sameKey l := by
  obtain ⟨⟨x, rfl, hx⟩, -⟩ := ha
  obtain ⟨⟨y, rfl, hy⟩, -⟩ := hb
  exact Parts.sameKey_text hx hy

theorem IsUnderWay.isBuilt (h : IsUnderWay nodes b.met.size b)
    (hcollection : (nodes.get s).tag.isCollection = true) (hmet : b.parts[s]?.join.isSome) :
    IsBuilt nodes b.parts s := by
  obtain ⟨i, hi, hs⟩ := Array.mem_iff_getElem.mp ((h.met s).mpr ⟨hcollection, hmet⟩)
  exact h.built i hi s (by rw [Array.getElem?_eq_getElem hi, hs])

theorem IsUnderWay.holds_key (h : IsUnderWay nodes done b) {text : String}
    (hnode : nodes[s]? = some (.scalar .text text)) (hmet : b.parts[s]?.join.isSome) :
    Parts.Holds b.parts s (.text text) := by
  obtain ⟨p, hp⟩ := Option.isSome_iff_exists.mp hmet
  obtain ⟨v, hread, rfl⟩ := h.scalar s .text text p hnode hp
  obtain rfl : Value.text text = v := Except.ok.inj hread
  exact .scalar hp

mutual

/-- What the nodes write is held by the parts of what was met. -/
theorem holds_of_writes (h : IsUnderWay nodes b.met.size b) {s : Site} {v : Value} :
    nodes.Writes s v → b.parts[s]?.join.isSome → Parts.Holds b.parts s v
  | .scalar node read, hmet => by
    obtain ⟨p, hp⟩ := Option.isSome_iff_exists.mp hmet
    obtain ⟨v', hread, rfl⟩ := h.scalar _ _ _ p node hp
    cases read.symm.trans hread
    exact .scalar hp
  | .list node items, hmet => by
    have hbuilt := h.isBuilt (by rw [Nodes.get_of_getElem? node]; rfl) hmet
    obtain ⟨hpart, hmembers⟩ := hbuilt.list _ node
    exact .list hpart (holdAll_of_writes h items hmembers)
  | .map node entries, hmet => by
    have hbuilt := h.isBuilt (by rw [Nodes.get_of_getElem? node]; rfl) hmet
    obtain ⟨⟨earlier, hkeys, hpart⟩, hmembers⟩ := hbuilt.map _ node
    have hsteps := forall₂_of_writes h entries hkeys hmembers
    have hdistinct := Parts.forall₂_distinct
      (fun _ _ _ _ ha hb => sameKey_of_keyHolds ha hb) hsteps
    exact .map hpart (Parts.holdEntries_of_forall₂ (hdistinct.imp fun _ _ he => ⟨he.1.2, he.2⟩))

theorem holdAll_of_writes (h : IsUnderWay nodes b.met.size b) {items : List Site}
    {vs : List Value} : nodes.WriteAll items vs → (∀ i ∈ items, b.parts[i]?.join.isSome) →
      Parts.HoldAll b.parts items vs
  | .nil, _ => .nil
  | .cons first more, hmet =>
    have ⟨hfirst, hmore⟩ := List.forall_mem_cons.mp hmet
    .cons (holds_of_writes h first hfirst) (holdAll_of_writes h more hmore)

theorem forall₂_of_writes (h : IsUnderWay nodes b.met.size b) {entries : List Entry}
    {ps : List (Value × Value)} {earlier : Parts} :
    nodes.WriteEntries entries ps → HaveKeys nodes earlier entries →
      (∀ e ∈ entries, b.parts[e.1]?.join.isSome ∧ b.parts[e.2]?.join.isSome) →
        List.Forall₂ (Parts.InStep (KeyHolds earlier b.parts) (Parts.Holds b.parts)) entries ps
  | .nil, _, _ => .nil
  | .cons key value more, hkeys, hmet => by
    obtain ⟨⟨text, hnode, hpart⟩, hmoreKeys⟩ := List.forall_mem_cons.mp hkeys
    obtain ⟨hfirst, hmore⟩ := List.forall_mem_cons.mp hmet
    cases key.symm.trans hnode
    have hkey := h.holds_key key hfirst.1
    exact .cons ⟨⟨⟨_, rfl, hpart⟩, hkey⟩, holds_of_writes h value hfirst.2⟩
      (forall₂_of_writes h more hmoreKeys hmore)

end

end Builder

/-- The value that the outermost node writes is that of the document. -/
theorem Graph.value_eq {nodes : Nodes} {root : Site} {v : Value} (h : nodes.Writes root v) :
    Graph.value ⟨nodes, root⟩ = .ok v := by
  obtain ⟨b, hmeet, hb, -, hmet⟩ :=
    Builder.goesOn_meet h _ (Builder.isUnderWay_start nodes nodes.entryCount)
  obtain ⟨b', hrun, hb', hmet'⟩ := Builder.buildFrom_eq hb (Nat.le_add_right nodes.size 0)
  have hvalue := Parts.valueAt_eq (Builder.holds_of_writes hb' h (hmet' root hmet))
  simp only [Graph.value, StateT.run_bind, hmeet]
  show (do
    let p ← (Builder.buildFrom nodes.size 0).run b
    return p.2.parts.valueAt root : Except Fault Value) = _
  rw [hrun]
  exact congrArg Except.ok hvalue

end DomainCompiler.Yaml
