import DomainCompiler.Proofs.Declared.Places

/-!
# Keys with an older spelling

Entities and value objects may have their fields under an older key, and relationships their
target. Folding takes the older key out and puts today's at the end of the record; no reader sees
the place of a key, so this is the same as respelling the key where it stands.
-/

namespace DomainCompiler

namespace Declared

open DomainCompiler.Schema

theorem sameKey_text_iff {x : Value} {s : String} : x.sameKey (.text s) = true ↔ x = .text s := by
  cases x <;> simp [Value.sameKey, Value.number?]

theorem setEntry_of_absent {s : String} {v : Value} {es : List (Value × Value)}
    (h : Value.entry? s es = none) : Value.setEntry (.text s) v es = es ++ [(.text s, v)] := by
  induction es with
  | nil => rfl
  | cons e rest ih =>
    rw [entry?_eq_none_iff, List.forall_mem_cons] at h
    have hne : ¬e.1.sameKey (.text s) = true := fun hsame => h.1 (sameKey_text_iff.mp hsame)
    rw [Value.setEntry, if_neg hne, ih (entry?_eq_none_iff.mpr h.2), List.cons_append]

/-- The entries without those under the spelling. -/
def without (s : String) (es : List (Value × Value)) : List (Value × Value) :=
  es.filter fun e => !(e.1.sameKey (.text s))

theorem without_cons_self (s : String) (v : Value) (rest : List (Value × Value)) :
    without s ((.text s, v) :: rest) = without s rest :=
  List.filter_cons_of_neg (by simp [sameKey_text_iff])

theorem without_cons_of_ne {s : String} {x v : Value} {rest : List (Value × Value)}
    (h : x ≠ .text s) : without s ((x, v) :: rest) = (x, v) :: without s rest := by
  refine List.filter_cons_of_pos ?_
  rw [Bool.not_eq_true', Bool.eq_false_iff]
  exact fun hsame => h (sameKey_text_iff.mp hsame)

theorem entry?_without_of_ne {s older : String} (h : s ≠ older) (es : List (Value × Value)) :
    Value.entry? s (without older es) = Value.entry? s es := by
  induction es with
  | nil => rfl
  | cons e rest ih =>
    obtain ⟨x, v⟩ := e
    by_cases hx : x = .text older
    · subst hx
      have hne : Value.text older ≠ .text s := fun heq => h (Value.text.inj heq).symm
      rw [without_cons_self, entry?_cons_of_ne hne, ih]
    · rw [without_cons_of_ne hx]
      by_cases hs : x = .text s
      · subst hs
        rw [entry?_cons_self, entry?_cons_self]
      · rw [entry?_cons_of_ne hs, entry?_cons_of_ne hs, ih]

section

variable {es : List (Value × Value)} {s : String} {x v : Value}

theorem entry?_setEntry_self {key : String} :
    Value.entry? key (Value.setEntry (.text key) v es) = some v := by
  induction es with
  | nil => exact entry?_cons_self _ _ _
  | cons e rest ih =>
    rw [Value.setEntry]
    split
    · next hsame =>
      rw [sameKey_text_iff.mp hsame]
      exact entry?_cons_self _ _ _
    · next hsame =>
      rw [entry?_cons_of_ne fun heq => hsame (sameKey_text_iff.mpr heq), ih]

theorem entry?_setEntry_of_ne {key : String} (h : s ≠ key) :
    Value.entry? s (Value.setEntry (.text key) v es) = Value.entry? s es := by
  have hne : Value.text key ≠ .text s := fun heq => h (Value.text.inj heq).symm
  induction es with
  | nil => exact entry?_cons_of_ne hne
  | cons e rest ih =>
    rw [Value.setEntry]
    split
    · next hsame =>
      have hkey : e.1 = .text key := sameKey_text_iff.mp hsame
      rw [entry?_cons_of_ne (hkey ▸ hne), entry?_cons_of_ne (hkey ▸ hne)]
    · by_cases hs : e.1 = .text s
      · obtain ⟨x, y⟩ := e
        cases hs
        rw [entry?_cons_self, entry?_cons_self]
      · rw [entry?_cons_of_ne hs, entry?_cons_of_ne hs, ih]

theorem mem_keys_setEntry {key : String} :
    x ∈ (Value.setEntry (.text key) v es).map Prod.fst ↔ x ∈ es.map Prod.fst ∨ x = .text key := by
  induction es with
  | nil => simp [Value.setEntry]
  | cons e rest ih =>
    rw [Value.setEntry]
    split
    · next hsame =>
      have hkey : e.1 = .text key := sameKey_text_iff.mp hsame
      simp only [List.map_cons, List.mem_cons, hkey]
      tauto
    · simp only [List.map_cons, List.mem_cons, ih, or_assoc]

theorem entry?_without_self (older : String) : Value.entry? older (without older es) = none := by
  refine entry?_eq_none_iff.mpr fun e he heq => ?_
  have hkept := (List.mem_filter.mp he).2
  rw [sameKey_text_iff.mpr heq] at hkept
  cases hkept

theorem mem_keys_without {older : String} :
    x ∈ (without older es).map Prod.fst ↔ x ∈ es.map Prod.fst ∧ x ≠ .text older := by
  have hkept : ∀ e : Value × Value, (!(e.1.sameKey (.text older))) = true ↔ e.1 ≠ .text older := by
    intro e
    rw [Bool.not_eq_true', Bool.eq_false_iff, ne_eq, sameKey_text_iff]
  simp only [without, List.mem_map, List.mem_filter, hkept]
  constructor
  · rintro ⟨e, ⟨he, hne⟩, rfl⟩
    exact ⟨⟨e, he, rfl⟩, hne⟩
  · rintro ⟨⟨e, he, rfl⟩, hne⟩
    exact ⟨e, ⟨he, hne⟩, rfl⟩

end

namespace RecordKind

variable {k : RecordKind} {es fs : List (Value × Value)} {s : String} {x v w : Value}

/-- The spelling of today for a spelling. -/
def currentSpelling (k : RecordKind) (s : String) : String :=
  match k.olderSpelling? with
  | some (key, older) => if s = older then key else s
  | none => s

def currentKey (k : RecordKind) : Value → Value
  | .text s => .text (k.currentSpelling s)
  | key => key

def current (k : RecordKind) (es : List (Value × Value)) : List (Value × Value) :=
  es.map fun e => (k.currentKey e.1, e.2)

theorem current_cons (x v : Value) (rest : List (Value × Value)) :
    k.current ((x, v) :: rest) = (k.currentKey x, v) :: k.current rest := rfl

/-- The record has at most one of the two spellings of a key. -/
def SpelledOnce (k : RecordKind) (es : List (Value × Value)) : Prop :=
  ∀ pair ∈ k.olderSpelling?, Value.entry? pair.1 es = none ∨ Value.entry? pair.2 es = none

instance : Decidable (k.SpelledOnce es) :=
  decidable_of_iff (∀ pair ∈ k.olderSpelling?,
      (Value.entry? pair.1 es).isNone ∨ (Value.entry? pair.2 es).isNone)
    (by simp only [Option.isNone_iff_eq_none, SpelledOnce])

/-- What may stand under a key. -/
def contentAt (k : RecordKind) : Value → Content
  | .text s => k.content s
  | _ => .other

/-! ### The older spelling of a key -/

theorem content_name : ∀ key ∈ k.keys, k.content key.name = k.content key.spelling := by
  cases k <;> decide

theorem content_older : ∀ pair ∈ k.olderSpelling?, k.content pair.2 = k.content pair.1 := by
  cases k <;> decide

theorem older_not_mem :
    ∀ pair ∈ k.olderSpelling?, ∀ key ∈ k.keys, key.spelling ≠ pair.2 ∧ key.name ≠ pair.2 := by
  cases k <;> decide

/-- The spelling of today is that of a key, and it has no other name. -/
theorem current_mem :
    ∀ pair ∈ k.olderSpelling?, pair.1 ≠ pair.2 ∧ Key.single pair.1 ∈ k.keys := by
  cases k <;> decide

section

variable {key older : String} (hk : k.olderSpelling? = some (key, older))

include hk

theorem currentKey_older : k.currentKey (.text older) = .text key := by
  simp [currentKey, currentSpelling, hk]

theorem currentKey_of_ne {x : Value} (h : x ≠ .text older) : k.currentKey x = x := by
  cases x with
  | text s =>
    have hne : s ≠ older := fun heq => h (congrArg _ heq)
    simp [currentKey, currentSpelling, hk, hne]
  | _ => rfl

theorem entry?_current_of_ne {s : String} (hkey : s ≠ key) (holder : s ≠ older) :
    Value.entry? s (k.current es) = Value.entry? s es := by
  induction es with
  | nil => rfl
  | cons e rest ih =>
    obtain ⟨x, v⟩ := e
    rw [current_cons]
    by_cases hx : x = .text older
    · subst hx
      have hkey' : Value.text key ≠ .text s := fun heq => hkey (Value.text.inj heq).symm
      have holder' : Value.text older ≠ .text s := fun heq => holder (Value.text.inj heq).symm
      rw [currentKey_older hk, entry?_cons_of_ne hkey', entry?_cons_of_ne holder', ih]
    · rw [currentKey_of_ne hk hx]
      by_cases hs : x = .text s
      · subst hs
        rw [entry?_cons_self, entry?_cons_self]
      · rw [entry?_cons_of_ne hs, entry?_cons_of_ne hs, ih]

theorem entry?_current_self (habsent : Value.entry? key es = none) :
    Value.entry? key (k.current es) = Value.entry? older es := by
  induction es with
  | nil => rfl
  | cons e rest ih =>
    obtain ⟨x, v⟩ := e
    rw [entry?_eq_none_iff, List.forall_mem_cons] at habsent
    rw [current_cons]
    by_cases hx : x = .text older
    · subst hx
      rw [currentKey_older hk, entry?_cons_self, entry?_cons_self]
    · rw [currentKey_of_ne hk hx, entry?_cons_of_ne habsent.1, entry?_cons_of_ne hx,
        ih (entry?_eq_none_iff.mpr habsent.2)]

theorem current_eq_self (habsent : Value.entry? older es = none) : k.current es = es := by
  rw [entry?_eq_none_iff] at habsent
  rw [current]
  conv_rhs => rw [← List.map_id es]
  exact List.map_congr_left fun e he => by rw [currentKey_of_ne hk (habsent e he)]; rfl

theorem filterMap_current {β : Type} {f : Value → Option β} (hf : f (.text key) = none) :
    (k.current es).filterMap (fun e => f e.1) = (without older es).filterMap fun e => f e.1 := by
  induction es with
  | nil => rfl
  | cons e rest ih =>
    obtain ⟨x, v⟩ := e
    rw [current_cons]
    by_cases hx : x = .text older
    · subst hx
      rw [without_cons_self, currentKey_older hk, ← ih, List.filterMap_cons, hf]
    · rw [without_cons_of_ne hx, currentKey_of_ne hk hx, List.filterMap_cons, List.filterMap_cons,
        ih]

end

theorem current_eq_self_of_none (hk : k.olderSpelling? = none) : k.current es = es := by
  have hkey : ∀ x, k.currentKey x = x := by
    intro x
    cases x <;> simp [currentKey, currentSpelling, hk]
  simp [current, hkey]

/-! ### Folding it -/

/-- The entries with the older spelling of a key folded into that of today. -/
def folded (k : RecordKind) (es : List (Value × Value)) : List (Value × Value) :=
  match k.olderSpelling? with
  | none => es
  | some (key, older) =>
    match Value.entry? older es with
    | none => es
    | some v => Value.setEntry (.text key) v (without older es)

/-- The two spellings are not both used, unless that of today stands for null. -/
def Folds (k : RecordKind) (es : List (Value × Value)) : Prop :=
  ∀ pair ∈ k.olderSpelling?, Value.entry? pair.2 es = none ∨ Value.entry? pair.1 es = none ∨
    Value.entry? pair.1 es = some .null

theorem fold_eq_iff {w : Value} :
    k.fold (.map es) = .accepted w ↔ k.Folds es ∧ w = .map (k.folded es) := by
  rw [fold, Folds, folded]
  cases hk : k.olderSpelling? with
  | none => simp [eq_comm]
  | some pair =>
    obtain ⟨key, older⟩ := pair
    cases holder : Value.entry? older es with
    | none => simp [foldSpelling, holder, eq_comm]
    | some v =>
      cases hkey : Value.entry? key es with
      | none => simp [foldSpelling, holder, hkey, foldSpelling.folded, without, eq_comm]
      | some y =>
        cases y <;>
          simp [foldSpelling, holder, hkey, foldSpelling.folded, without, Checked.fail, eq_comm]

/-- What a key of the folded record holds: the value of either spelling is under that of today. -/
theorem entry?_folded {key older : String} (hk : k.olderSpelling? = some (key, older))
    (hv : Value.entry? older es = some v) :
    Value.entry? s (k.folded es) =
      if s = key then some v else if s = older then none else Value.entry? s es := by
  simp only [folded, hk, hv]
  split
  · next hs => rw [hs, entry?_setEntry_self]
  · next hkey =>
    rw [entry?_setEntry_of_ne hkey]
    split
    · next hs => rw [hs, entry?_without_self]
    · next hs => exact entry?_without_of_ne hs es

theorem folded_eq_self (h : ∀ pair ∈ k.olderSpelling?, Value.entry? pair.2 es = none) :
    k.folded es = es := by
  rw [folded]
  cases hk : k.olderSpelling? with
  | none => rfl
  | some pair => simp only [h pair hk]

theorem mem_keys_folded_of_mem (hx : x ∈ es.map Prod.fst)
    (hne : ∀ pair ∈ k.olderSpelling?, x ≠ .text pair.2) : x ∈ (k.folded es).map Prod.fst := by
  cases hk : k.olderSpelling? with
  | none => simpa only [folded, hk] using hx
  | some pair =>
    obtain ⟨key, older⟩ := pair
    cases hv : Value.entry? older es with
    | none => simpa only [folded, hk, hv] using hx
    | some v =>
      simp only [folded, hk, hv]
      exact mem_keys_setEntry.mpr (.inl (mem_keys_without.mpr ⟨hx, hne _ hk⟩))

/-- The spellings under which the record finds its keys. -/
def used (k : RecordKind) (es : List (Value × Value)) : List String :=
  k.keys.filterMap fun key => (key.find? es).map (·.1)

theorem strayKeys_eq : strayKeys k.keys es = es.filterMap fun e => strayKey (k.used es) e.1 := rfl

theorem strayKey_of_mem {used : List String} {s : String} (h : s ∈ used) :
    strayKey used (.text s) = none := by
  simp [strayKey, h]

theorem used_congr (h : ∀ key ∈ k.keys, (key.find? es).map (·.1) = (key.find? fs).map (·.1)) :
    k.used es = k.used fs :=
  List.filterMap_congr h

/-- What the entries have under a text is read alike, or neither has it. -/
def Alike (k : RecordKind) (es fs : List (Value × Value)) : Prop :=
  ∀ s, Option.Rel (fun v w => (k.content s).reading v = (k.content s).reading w)
    (Value.entry? s es) (Value.entry? s fs)

theorem Alike.reading_eq (h : k.Alike es fs) {key : Key} (hkey : key ∈ k.keys) :
    reading (k.content key.spelling).reading key es =
      reading (k.content key.spelling).reading key fs := by
  have hspelling := h key.spelling
  have hname := h key.name
  rw [reading, reading, Key.find?, Key.find?]
  generalize Value.entry? key.spelling es = v, Value.entry? key.spelling fs = w at hspelling ⊢
  generalize Value.entry? key.name es = v', Value.entry? key.name fs = w' at hname ⊢
  cases hspelling with
  | some hv => exact congrArg (fun x => some (key.spelling, x)) hv
  | none =>
    cases hname with
    | some hv =>
      rw [content_name key hkey] at hv
      exact congrArg (fun x => some (key.name, x)) hv
    | none => rfl

theorem Alike.used_eq (h : k.Alike es fs) : k.used es = k.used fs := by
  refine used_congr fun key hkey => ?_
  have hread := congrArg (Option.map Prod.fst) (h.reading_eq hkey)
  rwa [reading, reading, Option.map_map, Option.map_map] at hread

/-- Entries in which every key is found alike agree where no key is left over in either alone. -/
theorem agree_of_find?_eq (hfind : ∀ key ∈ k.keys, key.find? es = key.find? fs)
    (hstray : es.filterMap (fun e => strayKey (k.used es) e.1) =
      fs.filterMap fun e => strayKey (k.used es) e.1) : k.Agree es fs where
  keys key hkey := by rw [reading, reading, hfind key hkey]
  stray := by
    have hused : k.used es = k.used fs := used_congr fun key hkey => by rw [hfind key hkey]
    rw [strayKeys_eq, strayKeys_eq, hstray, hused]

/-- What is folded and what is respelled in place agree: only the place of the key differs. -/
theorem agree_folded {key older : String} (hk : k.olderSpelling? = some (key, older))
    (hv : Value.entry? older es = some v) (hkey : Value.entry? key es = none) :
    k.Agree (k.folded es) (k.current es) := by
  obtain ⟨hne, hmem⟩ := current_mem _ hk
  have hentry : ∀ s ≠ older, Value.entry? s (k.folded es) = Value.entry? s (k.current es) := by
    intro s hs
    rw [entry?_folded hk hv, if_neg hs]
    split
    · next hskey => rw [hskey, entry?_current_self hk hkey, hv]
    · next hskey => rw [entry?_current_of_ne hk hskey hs]
  refine agree_of_find?_eq (fun K hK => ?_) ?_
  · obtain ⟨hspelling, hname⟩ := older_not_mem _ hk K hK
    rw [Key.find?, Key.find?, hentry _ hspelling, hentry _ hname]
  · have hused : strayKey (k.used (k.folded es)) (.text key) = none := by
      refine strayKey_of_mem (List.mem_filterMap.mpr ⟨_, hmem, ?_⟩)
      rw [Key.find?, Key.single, entry?_folded hk hv, if_pos rfl]
      rfl
    have habsent : Value.entry? key (without older es) = none :=
      (entry?_without_of_ne hne es).trans hkey
    have happend : k.folded es = without older es ++ [(.text key, v)] := by
      simp only [folded, hk, hv, setEntry_of_absent habsent]
    rw [filterMap_current hk hused]
    conv_lhs => rw [happend, List.filterMap_append, ← happend, List.filterMap_cons, hused]
    exact List.append_nil _

/-- A record that spells its keys once is read as the one in the spelling of today. -/
theorem SpelledOnce.agree (h : k.SpelledOnce es) :
    k.Folds es ∧ k.Agree (k.folded es) (k.current es) := by
  refine ⟨fun pair hk => (h pair hk).symm.imp_right .inl, ?_⟩
  have hself : k.Agree es es := agree_of_find?_eq (fun _ _ => rfl) rfl
  cases hk : k.olderSpelling? with
  | none => rwa [current_eq_self_of_none hk, folded_eq_self (by simp [hk])]
  | some pair =>
    obtain ⟨key, older⟩ := pair
    cases hv : Value.entry? older es with
    | none => rwa [current_eq_self hk hv, folded_eq_self (by simpa [hk] using hv)]
    | some v => exact agree_folded hk hv ((h _ hk).resolve_right (by simp [hv]))

end RecordKind

end Declared

end DomainCompiler
