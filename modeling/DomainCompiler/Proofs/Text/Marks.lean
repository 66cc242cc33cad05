import Mathlib.Data.List.TakeWhile

/-!
# Texts up to a mark

Where a text is put together from a part without a mark, the mark, and what stands behind it, the
mark tells where the part ends. These are the facts by which written texts are taken apart again.
-/

namespace DomainCompiler.Text

variable {a b u v : List Char} {mark : Char}

/-- A text without the mark ends before the mark. -/
theorem exists_of_append_eq_append_cons (ha : mark ∉ a) (h : a ++ u = b ++ mark :: v) :
    ∃ x, b = a ++ x ∧ u = x ++ mark :: v := by
  rcases List.append_eq_append_iff.mp h with ⟨x, hx, hu⟩ | ⟨x, rfl, hv⟩
  · exact ⟨x, hx, hu⟩
  · cases x with
    | nil => exact ⟨[], by rw [List.append_nil, List.append_nil], hv.symm⟩
    | cons y x =>
      obtain ⟨rfl, -⟩ := List.cons.inj hv
      exact absurd (List.mem_append_right _ List.mem_cons_self) ha

/-- A text without the mark begins behind the mark. -/
theorem exists_of_append_cons_eq_append (hv : mark ∉ v) (h : b ++ mark :: u = a ++ v) :
    ∃ x, a = b ++ mark :: x ∧ u = x ++ v := by
  rcases List.append_eq_append_iff.mp h with ⟨x, rfl, hx⟩ | ⟨x, -, rfl⟩
  · cases x with
    | nil =>
      rw [List.nil_append] at hx
      exact absurd (hx ▸ List.mem_cons_self) hv
    | cons y x =>
      obtain ⟨rfl, rfl⟩ := List.cons.inj hx
      exact ⟨x, rfl, rfl⟩
  · exact absurd (List.mem_append_right _ List.mem_cons_self) hv

theorem append_cons_inj (ha : mark ∉ a) (hb : mark ∉ b) (h : a ++ mark :: u = b ++ mark :: v) :
    a = b ∧ u = v := by
  obtain ⟨x, rfl, hrest⟩ := exists_of_append_eq_append_cons ha h
  cases x with
  | nil => exact ⟨(List.append_nil a).symm, (List.cons.inj hrest).2⟩
  | cons y x =>
    obtain ⟨rfl, -⟩ := List.cons.inj hrest
    exact absurd (List.mem_append_right _ List.mem_cons_self) hb

/-- The mark comes before another one that ends the search. -/
theorem contains_takeWhile_iff {s : List Char} {stop : Char} (hne : mark ≠ stop) :
    (s.takeWhile (· != stop)).contains mark = true ↔
      ∃ inside rest, s = inside ++ mark :: rest ∧ stop ∉ inside := by
  rw [List.contains_iff_mem]
  constructor
  · intro hmem
    obtain ⟨inside, more, hfront⟩ := List.append_of_mem hmem
    refine ⟨inside, more ++ s.dropWhile (· != stop), ?_, fun hstop => ?_⟩
    · rw [← List.cons_append, ← List.append_assoc, ← hfront, List.takeWhile_append_dropWhile]
    · have htaken : stop ∈ s.takeWhile (· != stop) := by
        rw [hfront]
        exact List.mem_append_left _ hstop
      exact absurd rfl (bne_iff_ne.mp (List.mem_takeWhile_imp (p := (· != stop)) htaken))
  · rintro ⟨inside, rest, rfl, hstop⟩
    have hfront : ∀ c ∈ inside, (c != stop) = true := by
      intro c hc
      rw [bne_iff_ne]
      rintro rfl
      exact hstop hc
    have hmark : (mark != stop) = true := bne_iff_ne.mpr hne
    rw [List.takeWhile_append_of_pos hfront, List.takeWhile_cons, if_pos hmark]
    exact List.mem_append_right _ List.mem_cons_self

end DomainCompiler.Text
