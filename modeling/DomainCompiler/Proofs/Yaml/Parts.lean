import DomainCompiler.Proofs.Yaml.Merging
import DomainCompiler.Yaml.Part
import Mathlib.Algebra.BigOperators.Group.Finset.Piecewise

/-!
# Values of parts

A part holds a value where its members do and there is an end to it. Such a value is read out of
the parts: a round settles a part once those of its members are settled, what is settled does not
change, and the rounds go on until nothing new is settled.
-/

namespace DomainCompiler.Yaml.Parts

mutual

/-- The part at the site has the value, whose members are held by the parts at their sites. -/
inductive Holds (parts : Parts) : Site → Value → Prop where
  | scalar {s : Site} {v : Value} {alone : Bool}
      (part : parts[s]?.join = some (.scalar v alone)) : Holds parts s v
  | list {s : Site} {items : List Site} {vs : List Value}
      (part : parts[s]?.join = some (.list items)) (items : HoldAll parts items vs) :
      Holds parts s (.list vs)
  | map {s : Site} {entries : List Entry} {ps : List (Value × Value)}
      (part : parts[s]?.join = some (.map entries)) (entries : HoldEntries parts entries ps) :
      Holds parts s (.map ps)

inductive HoldAll (parts : Parts) : List Site → List Value → Prop where
  | nil : HoldAll parts [] []
  | cons {s : Site} {v : Value} {ss : List Site} {vs : List Value} (first : Holds parts s v)
      (more : HoldAll parts ss vs) : HoldAll parts (s :: ss) (v :: vs)

inductive HoldEntries (parts : Parts) : List Entry → List (Value × Value) → Prop where
  | nil : HoldEntries parts [] []
  | cons {e : Entry} {p : Value × Value} {es : List Entry} {ps : List (Value × Value)}
      (key : Holds parts e.1 p.1) (value : Holds parts e.2 p.2) (more : HoldEntries parts es ps) :
      HoldEntries parts (e :: es) (p :: ps)

end

variable {parts : Parts} {known : Known} {s : Site} {v : Value}

theorem Holds.lt_size (h : parts.Holds s v) : s < parts.size := by
  by_contra hsize
  have hnone : parts[s]?.join = none := by
    rw [Array.getElem?_eq_none (Nat.le_of_not_lt hsize)]
    rfl
  cases h with
  | scalar part => rw [hnone] at part; cases part
  | list part => rw [hnone] at part; cases part
  | map part => rw [hnone] at part; cases part

/-! ### Rounds -/

theorem value?_next (hs : s < parts.size) :
    (parts.next known known).value? s =
      match known.value? s with
      | some v => some v
      | none => parts[s]?.join.bind (·.value? known.value? s) := by
  rw [next, Known.value?, Array.getElem?_mapIdx, Array.getElem?_eq_getElem hs]
  cases known.value? s <;> rfl

theorem size_next : (parts.next known known).size = parts.size :=
  Array.size_mapIdx

/-- What is known of parts that hold values are these values. -/
def Right (parts : Parts) (known : Known) : Prop :=
  ∀ s v, parts.Holds s v → known.value? s = none ∨ known.value? s = some v

theorem Right.mapM (h : Right parts known) {items : List Site} {vs : List Value} :
    parts.HoldAll items vs → items.mapM known.value? = none ∨ items.mapM known.value? = some vs
  | .nil => .inr rfl
  | .cons first more => by
    rw [List.mapM_cons]
    obtain hfirst | hfirst := h _ _ first <;> obtain hmore | hmore := h.mapM more <;>
      simp [hfirst, hmore]

theorem Right.mapM_entry (h : Right parts known) {entries : List Entry}
    {ps : List (Value × Value)} :
    parts.HoldEntries entries ps →
      entries.mapM (Part.value?.entry known.value?) = none ∨
        entries.mapM (Part.value?.entry known.value?) = some ps
  | .nil => .inr rfl
  | .cons key value more => by
    rw [List.mapM_cons, Part.value?.entry]
    obtain hkey | hkey := h _ _ key <;> obtain hvalue | hvalue := h _ _ value <;>
      obtain hmore | hmore := h.mapM_entry more <;> simp [hkey, hvalue, hmore]

theorem Right.next (h : Right parts known) : Right parts (parts.next known known) := by
  intro s v hholds
  rw [value?_next hholds.lt_size]
  obtain hnone | hsome := h s v hholds
  · rw [hnone]
    cases hholds with
    | scalar part =>
      rw [part]
      exact .inr rfl
    | list part items =>
      rw [part]
      obtain hitems | hitems := h.mapM items <;> simp [Part.value?, hitems]
    | map part entries =>
      rw [part]
      obtain hentries | hentries := h.mapM_entry entries <;> simp [Part.value?, hentries]
  · rw [hsome]
    exact .inr rfl

/-! ### The last round -/

/-- The sites of the parts whose values are known. -/
def settledSites (known : Known) : Finset Site :=
  (Finset.range known.size).filter fun s => (known.value? s).isSome

theorem count_eq_card (known : Known) : known.count = (settledSites known).card := by
  have hcount : known.count = known.toList.foldl (fun n v => n + if v.isSome then 1 else 0) 0 := by
    rw [Known.count, ← Array.foldl_toList]
    congr 1
    funext n v
    split <;> rfl
  have hvalue : ∀ s, (known.toList[s]?.getD none).isSome = (known.value? s).isSome := by
    intro s
    rw [Array.getElem?_toList, Known.value?]
    cases known[s]? <;> rfl
  rw [hcount, Nodes.foldl_add_eq_sum (fun v : Option Value => if v.isSome then 1 else 0) _ 0 none,
    Nat.zero_add, settledSites, Finset.card_filter]
  simp only [hvalue, Array.length_toList]

theorem settledSites_subset_next (hsize : known.size = parts.size) :
    settledSites known ⊆ settledSites (parts.next known known) := by
  intro s hs
  rw [settledSites, Finset.mem_filter, Finset.mem_range] at hs ⊢
  obtain ⟨hlt, hsome⟩ := hs
  rw [hsize] at hlt
  obtain ⟨v, hv⟩ := Option.isSome_iff_exists.mp hsome
  rw [size_next, value?_next hlt, hv]
  exact ⟨hlt, rfl⟩

/-- The next round settles nothing new. -/
def IsClosed (parts : Parts) (known : Known) : Prop :=
  ∀ s < parts.size, ((parts.next known known).value? s).isSome → (known.value? s).isSome

theorem isClosed_of_count_eq (hsize : known.size = parts.size)
    (hcount : (parts.next known known).count = known.count) : IsClosed parts known := by
  intro s hs hsome
  rw [count_eq_card, count_eq_card] at hcount
  have hsame := Finset.eq_of_subset_of_card_le (settledSites_subset_next hsize) hcount.le
  have hmem : s ∈ settledSites (parts.next known known) := by
    rw [settledSites, Finset.mem_filter, Finset.mem_range, size_next]
    exact ⟨hs, hsome⟩
  rw [← hsame, settledSites, Finset.mem_filter] at hmem
  exact hmem.2

theorem isClosed_of_size_le (hsize : known.size = parts.size) (hcount : parts.size ≤ known.count) :
    IsClosed parts known := by
  intro s hs _
  rw [count_eq_card, ← hsize] at hcount
  have hall : settledSites known = Finset.range known.size :=
    Finset.eq_of_subset_of_card_le (Finset.filter_subset _ _) (by rwa [Finset.card_range])
  have hmem : s ∈ settledSites known := by
    rw [hall, Finset.mem_range, hsize]
    exact hs
  rw [settledSites, Finset.mem_filter] at hmem
  exact hmem.2

/-- With as many rounds as there are parts left nothing new is settled in the end. -/
theorem right_settle (rounds : Nat) (hsize : known.size = parts.size) (hright : Right parts known)
    (hrounds : parts.size ≤ rounds + known.count) :
    Right parts (parts.settle rounds known) ∧ IsClosed parts (parts.settle rounds known) := by
  induction rounds generalizing known with
  | zero => exact ⟨hright, isClosed_of_size_le hsize (by rwa [Nat.zero_add] at hrounds)⟩
  | succ rounds ih =>
    rw [settle]
    split
    · next hcount => exact ⟨hright, isClosed_of_count_eq hsize (by simpa using hcount)⟩
    · next hcount =>
      have hle : known.count ≤ (parts.next known known).count := by
        rw [count_eq_card, count_eq_card]
        exact Finset.card_le_card (settledSites_subset_next hsize)
      have hne : (parts.next known known).count ≠ known.count := by simpa using hcount
      exact ih size_next hright.next (by omega)

theorem Right.some_of_next (hright : Right parts known) (hclosed : IsClosed parts known)
    (h : parts.Holds s v) (hnext : (parts.next known known).value? s = some v) :
    known.value? s = some v := by
  have hsome := hclosed s h.lt_size (by rw [hnext]; rfl)
  obtain hnone | hv := hright s v h
  · rw [hnone] at hsome
    cases hsome
  · exact hv

mutual

/-- Once nothing new is settled, each part that holds a value is. -/
theorem Holds.isKnown (hright : Right parts known) (hclosed : IsClosed parts known) {s : Site}
    {v : Value} (h : parts.Holds s v) : known.value? s = some v := by
  refine hright.some_of_next hclosed h ?_
  rw [value?_next h.lt_size]
  obtain hnone | hsome := hright s v h
  · rw [hnone]
    cases h with
    | scalar part =>
      rw [part]
      rfl
    | list part items =>
      rw [part]
      simp [Part.value?, HoldAll.mapM hright hclosed items]
    | map part entries =>
      rw [part]
      simp [Part.value?, HoldEntries.mapM hright hclosed entries]
  · rw [hsome]

theorem HoldAll.mapM (hright : Right parts known) (hclosed : IsClosed parts known)
    {items : List Site} {vs : List Value} (h : parts.HoldAll items vs) :
    items.mapM known.value? = some vs := by
  cases h with
  | nil => rfl
  | cons first more =>
    rw [List.mapM_cons]
    simp [Holds.isKnown hright hclosed first, HoldAll.mapM hright hclosed more]

theorem HoldEntries.mapM (hright : Right parts known) (hclosed : IsClosed parts known)
    {entries : List Entry} {ps : List (Value × Value)} (h : parts.HoldEntries entries ps) :
    entries.mapM (Part.value?.entry known.value?) = some ps := by
  cases h with
  | nil => rfl
  | cons key value more =>
    rw [List.mapM_cons, Part.value?.entry]
    simp [Holds.isKnown hright hclosed key, Holds.isKnown hright hclosed value,
      HoldEntries.mapM hright hclosed more]

end

/-- The value that a part holds is read out of the parts. -/
theorem valueAt_eq (h : parts.Holds s v) : parts.valueAt s = v := by
  have hnothing : Right parts (parts.map fun _ => none) := by
    intro s v _
    left
    rw [Known.value?, Array.getElem?_map]
    cases parts[s]? <;> rfl
  obtain ⟨hright, hclosed⟩ :=
    right_settle parts.size Array.size_map hnothing (Nat.le_add_right _ _)
  have hknown := Holds.isKnown hright hclosed h
  simp only [valueAt, hknown]

end DomainCompiler.Yaml.Parts
