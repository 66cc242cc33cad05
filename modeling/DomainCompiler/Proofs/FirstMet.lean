import Mathlib.Data.List.Basic
import Mathlib.Data.List.Induction

/-!
# Items that are added once

A list takes an item at its end unless it has one with the same key already. Adding many items one
after the other leaves the first of each key, so that a look-up by key finds what it would have
found in all that was added, and the keys stand in the order in which they were first met.
-/

namespace DomainCompiler.FirstMet

variable {α : Type}

/-- Adds an item at the end, unless there is one with its key. -/
def addNew (key : α → String) (xs : List α) (x : α) : List α :=
  if xs.any fun y => key y == key x then xs else xs ++ [x]

theorem addNew_of_mem {key : α → String} {xs : List α} {x : α} (h : key x ∈ xs.map key) :
    addNew key xs x = xs := by
  obtain ⟨y, hy, hkey⟩ := List.mem_map.mp h
  have hany : (xs.any fun y => key y == key x) = true :=
    List.any_eq_true.mpr ⟨y, hy, beq_iff_eq.mpr hkey⟩
  exact if_pos hany

theorem addNew_of_not_mem {key : α → String} {xs : List α} {x : α} (h : key x ∉ xs.map key) :
    addNew key xs x = xs ++ [x] := by
  refine if_neg fun hany => h ?_
  obtain ⟨y, hy, hkey⟩ := List.any_eq_true.mp hany
  exact List.mem_map.mpr ⟨y, hy, beq_iff_eq.mp hkey⟩

/-! ### What is added to a list -/

/-- Items that are added come behind those that are there: the ones with keys of their own, in the
order in which they stand when they are added to nothing. -/
theorem foldl_addNew (key : α → String) (added xs : List α) :
    added.foldl (addNew key) xs =
      xs ++ (added.foldl (addNew key) []).filter fun x => key x ∉ xs.map key := by
  induction added using List.reverseRecOn with
  | nil => simp
  | append_singleton rest x ih =>
    rw [List.foldl_concat, List.foldl_concat, ih]
    generalize rest.foldl (addNew key) [] = alone
    by_cases hthere : key x ∈ xs.map key
    · -- The item is not added to the list, and behind it not kept.
      rw [addNew_of_mem (by rw [List.map_append]; exact List.mem_append_left _ hthere)]
      by_cases halone : key x ∈ alone.map key
      · rw [addNew_of_mem halone]
      · rw [addNew_of_not_mem halone, List.filter_append, List.filter_singleton]
        simp [hthere]
    · have hbehind : key x ∈ (xs ++ alone.filter fun y => key y ∉ xs.map key).map key ↔
          key x ∈ alone.map key := by
        rw [List.map_append, List.mem_append, or_iff_right hthere, List.mem_map, List.mem_map]
        refine ⟨fun ⟨y, hy, hkey⟩ => ⟨y, (List.mem_filter.mp hy).1, hkey⟩, fun ⟨y, hy, hkey⟩ => ?_⟩
        exact ⟨y, List.mem_filter.mpr ⟨hy, decide_eq_true (hkey ▸ hthere)⟩, hkey⟩
      by_cases halone : key x ∈ alone.map key
      · rw [addNew_of_mem (hbehind.mpr halone), addNew_of_mem halone]
      · rw [addNew_of_not_mem (mt hbehind.mp halone), addNew_of_not_mem halone, List.filter_append,
          List.filter_singleton, List.append_assoc]
        simp [hthere]

/-! ### Look-up by key -/

theorem find?_addNew (key : α → String) (k : String) (xs : List α) (x : α) :
    (addNew key xs x).find? (fun y => key y == k) =
      (xs ++ [x]).find? fun y => key y == k := by
  by_cases h : key x ∈ xs.map key
  · rw [addNew_of_mem h, List.find?_append]
    cases hfound : xs.find? fun y => key y == k with
    | some y => rfl
    | none =>
      -- An item with the key of `x` is there and was not found, so `x` has another key than `k`.
      obtain ⟨y, hy, hkey⟩ := List.mem_map.mp h
      have hne := List.find?_eq_none.mp hfound y hy
      rw [hkey] at hne
      rw [List.find?_singleton, if_neg hne]
      rfl
  · rw [addNew_of_not_mem h]

/-- What is found is the first item of the key among all that there were and were added. -/
theorem find?_foldl_addNew (key : α → String) (k : String) (ys xs : List α) :
    (ys.foldl (addNew key) xs).find? (fun y => key y == k) =
      (xs ++ ys).find? fun y => key y == k := by
  induction ys generalizing xs with
  | nil => rw [List.foldl_nil, List.append_nil]
  | cons y rest ih =>
    rw [List.foldl_cons, ih, List.find?_append, find?_addNew, ← List.find?_append,
      List.append_assoc, List.singleton_append]

/-! ### Names -/

/-- Adds a name at the end, unless it is there. -/
abbrev addName : List String → String → List String := addNew id

theorem addName_of_mem {names : List String} {name : String} (h : name ∈ names) :
    addName names name = names :=
  addNew_of_mem (by rwa [List.map_id])

theorem addName_of_not_mem {names : List String} {name : String} (h : name ∉ names) :
    addName names name = names ++ [name] :=
  addNew_of_not_mem (by rwa [List.map_id])

theorem mem_addName {names : List String} {name other : String} :
    other ∈ addName names name ↔ other ∈ names ∨ other = name := by
  by_cases h : name ∈ names
  · rw [addName_of_mem h]
    exact ⟨.inl, fun hother => hother.elim id fun he => he ▸ h⟩
  · rw [addName_of_not_mem h, List.mem_append, List.mem_singleton]

theorem addName_cons (other name : String) (names : List String) :
    addName (other :: names) name =
      if other = name then other :: names else other :: addName names name := by
  by_cases h : other = name
  · rw [if_pos h, addName_of_mem (h ▸ List.mem_cons_self)]
  · rw [if_neg h]
    by_cases hname : name ∈ names
    · rw [addName_of_mem hname, addName_of_mem (List.mem_cons_of_mem _ hname)]
    · have hcons : name ∉ other :: names := List.not_mem_cons_of_ne_of_not_mem (Ne.symm h) hname
      rw [addName_of_not_mem hname, addName_of_not_mem hcons, List.cons_append]

theorem addName_addName (names : List String) (name : String) :
    addName (addName names name) name = addName names name :=
  addName_of_mem (mem_addName.mpr (.inr rfl))

/-- The keys of what is left are those of what is added, added as names. -/
theorem map_foldl_addNew (key : α → String) (added xs : List α) :
    (added.foldl (addNew key) xs).map key = (added.map key).foldl addName (xs.map key) := by
  induction added generalizing xs with
  | nil => rfl
  | cons x rest ih =>
    rw [List.foldl_cons, ih, List.map_cons, List.foldl_cons]
    congr 1
    by_cases h : key x ∈ xs.map key
    · rw [addNew_of_mem h, addName_of_mem h]
    · rw [addNew_of_not_mem h, addName_of_not_mem h, List.map_append, List.map_singleton]

/-- Names that are added come behind those that are there, each once where it is first met. -/
theorem foldl_addName (added names : List String) :
    added.foldl addName names = names ++ (added.filter (· ∉ names)).eraseDups := by
  induction added generalizing names with
  | nil => simp
  | cons name rest ih =>
    rw [List.foldl_cons, ih]
    by_cases h : name ∈ names
    · rw [addName_of_mem h, List.filter_cons_of_neg (by simpa using h)]
    · rw [addName_of_not_mem h, List.filter_cons_of_pos (by simpa using h), List.eraseDups_cons,
        List.filter_filter, List.append_assoc, List.singleton_append]
      congr 3
      refine List.filter_congr fun other _ => ?_
      by_cases hother : other = name <;> simp [hother]

theorem foldl_addName_nil (names : List String) : names.foldl addName [] = names.eraseDups := by
  rw [foldl_addName]
  simp

theorem foldl_addName_of_subset {added names : List String} (h : ∀ name ∈ added, name ∈ names) :
    added.foldl addName names = names := by
  rw [foldl_addName, List.filter_eq_nil_iff.mpr fun name hname => by simpa using h name hname,
    List.eraseDups_nil, List.append_nil]

theorem nodup_foldl_addName (added : List String) {names : List String} (h : names.Nodup) :
    (added.foldl addName names).Nodup := by
  induction added generalizing names with
  | nil => exact h
  | cons name rest ih =>
    rw [List.foldl_cons]
    apply ih
    by_cases hname : name ∈ names
    · rwa [addName_of_mem hname]
    · rw [addName_of_not_mem hname, List.perm_append_comm.nodup_iff]
      exact List.nodup_cons.mpr ⟨hname, h⟩

theorem nodup_eraseDups (names : List String) : names.eraseDups.Nodup := by
  rw [← foldl_addName_nil]
  exact nodup_foldl_addName names List.nodup_nil

theorem eraseDups_eq_self {names : List String} (h : names.Nodup) : names.eraseDups = names := by
  induction names with
  | nil => rfl
  | cons name rest ih =>
    obtain ⟨hname, hrest⟩ := List.nodup_cons.mp h
    have hfilter : rest.filter (fun other => !other == name) = rest := by
      refine List.filter_eq_self.mpr fun other hother => ?_
      have hne : other ≠ name := fun he => hname (he ▸ hother)
      simpa using hne
    rw [List.eraseDups_cons, hfilter, ih hrest]

end DomainCompiler.FirstMet
