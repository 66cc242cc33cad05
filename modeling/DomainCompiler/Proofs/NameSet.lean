import DomainCompiler.Text.NameSet
import Mathlib.Data.List.Sort

/-!
# Ascending lists as sets

A list that ascends is determined by its members, so that whatever is gathered in another order, or
with something that is dropped later, comes to the same list.
-/

namespace DomainCompiler.NameSet

def Ascending (set : List String) : Prop := set.Pairwise (· < ·)

theorem Ascending.ext {set set' : List String} (h : Ascending set) (h' : Ascending set')
    (hmem : ∀ s, s ∈ set ↔ s ∈ set') : set = set' :=
  List.Pairwise.eq_of_mem_iff h h' hmem

theorem lt_of_ne_of_not_lt {s t : String} (hne : s ≠ t) (h : ¬s < t) : t < s := by
  by_contra hts
  exact hne (String.le_antisymm (String.not_lt.mp hts) (String.not_lt.mp h))

theorem ascending_insert {set : List String} (h : Ascending set) (s : String) :
    Ascending (insert s set) := by
  induction set with
  | nil => exact List.pairwise_singleton _ s
  | cons t rest ih =>
    obtain ⟨hfirst, hrest⟩ := List.pairwise_cons.mp h
    rw [insert]
    by_cases heq : s = t
    · rw [if_pos heq]
      exact h
    · rw [if_neg heq]
      by_cases hlt : s < t
      · rw [if_pos hlt]
        refine List.pairwise_cons.mpr ⟨fun u hu => ?_, h⟩
        rcases List.mem_cons.mp hu with rfl | hu
        · exact hlt
        · exact String.lt_trans hlt (hfirst u hu)
      · rw [if_neg hlt]
        refine List.pairwise_cons.mpr ⟨fun u hu => ?_, ih hrest⟩
        rcases (mem_insert s u rest).mp hu with rfl | hu
        · exact lt_of_ne_of_not_lt heq hlt
        · exact hfirst u hu

theorem ascending_foldl_insert (names : List String) {set : List String} (h : Ascending set) :
    Ascending (names.foldl (fun set s => insert s set) set) := by
  induction names generalizing set with
  | nil => exact h
  | cons s rest ih => exact ih (ascending_insert h s)

theorem ascending_ofList (names : List String) : Ascending (ofList names) :=
  ascending_foldl_insert names List.Pairwise.nil

theorem Ascending.ofList_eq {set : List String} (h : Ascending set) : ofList set = set :=
  (ascending_ofList set).ext h fun s => mem_ofList s set

theorem filter_ofList (p : String → Bool) (names : List String) :
    (ofList names).filter p = ofList (names.filter p) := by
  have hfiltered : Ascending ((ofList names).filter p) := (ascending_ofList names).filter p
  refine hfiltered.ext (ascending_ofList _) fun s => ?_
  rw [List.mem_filter, mem_ofList, mem_ofList, List.mem_filter]

end DomainCompiler.NameSet
