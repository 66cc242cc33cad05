import DomainCompiler.Model.Aggregate
import DomainCompiler.Proofs.Traversal
import DomainCompiler.Value.Json

/-!
# Data that every format has a form for

Null, truth values, numbers, texts, lists, and mappings from texts: what JSON can hold. A document
may carry other values along, dates above all. Here is what is told of such a value before it is
frozen, whether it becomes data and whether it has an excess, and that data without an excess can
be written.
-/

namespace DomainCompiler

open DomainCompiler.Traversal

namespace Value

def isText : Value → Bool
  | .text _ => true
  | _ => false

theorem isText_iff {v : Value} : v.isText = true ↔ ∃ s, v = .text s := by
  cases v <;> simp [isText]

mutual

/-- Whether the value is made of null, truth values, numbers and texts, by lists and by mappings
from texts. -/
def isData : Value → Bool
  | .null | .bool _ | .int _ | .float _ | .text _ => true
  | .date .. | .moment .. | .bytes _ | .set .. | .endless => false
  | .list items => areData items
  | .map entries => areDataByName entries

def areData : List Value → Bool
  | [] => true
  | v :: rest => isData v && areData rest

def areDataByName : List (Value × Value) → Bool
  | [] => true
  | (key, v) :: rest => key.isText && isData v && areDataByName rest

end

mutual

/-- Whether the value becomes data when it is frozen: its mappings may have other data than texts
for keys, because their entries turn into lists. -/
def freezesToData : Value → Bool
  | .list items => freezeToData items
  | .map entries => entriesFreezeToData entries
  | v => isData v

def freezeToData : List Value → Bool
  | [] => true
  | v :: rest => freezesToData v && freezeToData rest

def entriesFreezeToData : List (Value × Value) → Bool
  | [] => true
  | (key, v) :: rest => isData key && freezesToData v && entriesFreezeToData rest

end

theorem areData_iff (items : List Value) : areData items = true ↔ ∀ v ∈ items, v.isData = true := by
  induction items with
  | nil => simp [areData]
  | cons v rest ih => rw [areData, Bool.and_eq_true, ih, List.forall_mem_cons]

theorem areDataByName_record (entries : List (String × Value)) :
    areDataByName (entries.map fun e => (.text e.1, e.2)) = true ↔
      ∀ e ∈ entries, e.2.isData = true := by
  induction entries with
  | nil => simp [areDataByName]
  | cons e rest ih =>
    rw [List.map_cons, areDataByName, isText, Bool.true_and, Bool.and_eq_true, ih,
      List.forall_mem_cons]

/-! ### Excess -/

variable {counts : Excess → Bool}

theorem firstOfItems?_eq_none_iff (items : List Value) :
    firstOfItems? counts items = none ↔ ∀ v ∈ items, v.firstExcess? counts = none := by
  induction items with
  | nil => simp [firstOfItems?]
  | cons v rest ih =>
    rw [firstOfItems?, List.forall_mem_cons, ← ih]
    cases v.firstExcess? counts <;> simp

theorem firstOfEntries?_record (entries : List (String × Value)) :
    firstOfEntries? counts (entries.map fun e => (.text e.1, e.2)) = none ↔
      ∀ e ∈ entries, e.2.firstExcess? counts = none := by
  induction entries with
  | nil => simp [firstOfEntries?]
  | cons e rest ih =>
    have hkey : (Value.text e.1).firstExcess? counts = none := rfl
    rw [List.map_cons, firstOfEntries?, hkey, List.forall_mem_cons, ← ih]
    cases e.2.firstExcess? counts <;> simp

end Value

/-! ### Frozen values -/

namespace Model

open DomainCompiler.Value

theorem frozenItems_eq_map (items : List Value) : frozenItems items = items.map frozen := by
  induction items with
  | nil => rfl
  | cons v rest ih => rw [frozenItems, List.map_cons, ih]

mutual

theorem isData_frozen : ∀ v : Value, (frozen v).isData = v.freezesToData
  | .list items => by rw [frozen, isData, freezesToData, areData_frozenItems items]
  | .map entries => by rw [frozen, isData, freezesToData, areData_frozenEntries entries]
  | .null | .bool _ | .int _ | .float _ | .text _ => rfl
  | .date .. | .moment .. | .bytes _ | .set .. | .endless => rfl

theorem areData_frozenItems : ∀ items, areData (frozenItems items) = freezeToData items
  | [] => rfl
  | v :: rest => by
    rw [frozenItems, areData, freezeToData, isData_frozen v, areData_frozenItems rest]

theorem areData_frozenEntries :
    ∀ entries, areData (frozenEntries entries) = entriesFreezeToData entries
  | [] => rfl
  | (key, v) :: rest => by
    have hentry : isData (.list [key, frozen v]) = (key.isData && v.freezesToData) := by
      simp [isData, areData, isData_frozen v]
    rw [frozenEntries, areData, entriesFreezeToData, hentry, areData_frozenEntries rest]

end

/-- A number may be a key, but a date is no data there either. -/
example :
    (frozen (.map [(.int 1, .text "low")])).isData = true ∧
      (frozen (.map [(.date ⟨2024, 1, 31⟩ 0, .text "due")])).isData = false := by
  decide +kernel

variable {counts : Excess → Bool}

mutual

/-- Freezing takes no excess away and adds none. -/
theorem firstExcess?_frozen : ∀ v : Value, (frozen v).firstExcess? counts = v.firstExcess? counts
  | .list items => by rw [frozen, firstExcess?, firstExcess?, firstOfItems?_frozenItems items]
  | .map entries => by rw [frozen, firstExcess?, firstExcess?, firstOfItems?_frozenEntries entries]
  | .null | .bool _ | .int _ | .float _ | .text _ => rfl
  | .date .. | .moment .. | .bytes _ | .set .. | .endless => rfl

theorem firstOfItems?_frozenItems :
    ∀ items, firstOfItems? counts (frozenItems items) = firstOfItems? counts items
  | [] => rfl
  | v :: rest => by
    rw [frozenItems, firstOfItems?, firstOfItems?, firstExcess?_frozen v,
      firstOfItems?_frozenItems rest]

theorem firstOfItems?_frozenEntries :
    ∀ entries, firstOfItems? counts (frozenEntries entries) = firstOfEntries? counts entries
  | [] => rfl
  | (key, v) :: rest => by
    rw [frozenEntries, firstOfItems?, firstOfEntries?, firstExcess?, firstOfItems?, firstOfItems?,
      firstOfItems?, firstExcess?_frozen v, firstOfItems?_frozenEntries rest]
    cases key.firstExcess? counts with
    | some e => rfl
    | none => cases v.firstExcess? counts <;> rfl

end

end Model

/-! ### Data as JSON -/

namespace Json

open DomainCompiler.Value

theorem exists_intText {n : Int} (h : (Value.int n).excess? = none) : ∃ s, intText n = .ok s := by
  have hlong : Decimal.isLong n = false := by
    by_contra hlong
    rw [Bool.not_eq_false] at hlong
    simp [excess?, firstExcess?, ownExcess?, hlong] at h
  exact ⟨Decimal.ofInt n, by rw [intText, hlong]; rfl⟩

/-- What a list or a mapping leaves for its first part and for the rest. -/
theorem eq_none_of_first {first : Option Excess} {rest : Option Excess}
    (h : (match first with
      | some e => some e
      | none => rest) = none) : first = none ∧ rest = none := by
  cases first with
  | some e => cases h
  | none => exact ⟨rfl, h⟩

mutual

theorem exists_write (depth : Nat) :
    ∀ v : Value, v.isData = true → v.excess? = none → ∃ s, write depth v = .ok s
  | .int n => fun _ hexcess => by
    obtain ⟨s, hs⟩ := exists_intText hexcess
    exact ⟨s.toList, by rw [write, hs, Except.map]⟩
  | .list [] => fun _ _ => ⟨_, by rw [write]⟩
  | .list (item :: items) => fun hdata hexcess => by
    rw [isData, areData, Bool.and_eq_true] at hdata
    obtain ⟨hitem, hitems⟩ := eq_none_of_first hexcess
    obtain ⟨first, hfirst⟩ := exists_write (depth + 1) item hdata.1 hitem
    obtain ⟨more, hmore⟩ := exists_writeItems (depth + 1) items hdata.2 hitems
    exact ⟨_, by rw [write, hfirst, ok_bind, hmore, ok_bind]⟩
  | .map [] => fun _ _ => ⟨_, by rw [write]⟩
  | .map ((key, value) :: entries) => fun hdata hexcess => by
    rw [isData, areDataByName, Bool.and_eq_true, Bool.and_eq_true, isText_iff] at hdata
    obtain ⟨⟨⟨name, rfl⟩, hvalueData⟩, hentriesData⟩ := hdata
    obtain ⟨hvalue, hentries⟩ := eq_none_of_first hexcess
    obtain ⟨first, hfirst⟩ := exists_write (depth + 1) value hvalueData hvalue
    obtain ⟨more, hmore⟩ := exists_writeEntries (depth + 1) entries hentriesData hentries
    exact ⟨_, by rw [write, keyText, ok_bind, hfirst, ok_bind, hmore, ok_bind]⟩
  | .null | .bool _ | .float _ | .text _ => fun _ _ => ⟨_, by rw [write]⟩
  | .date .. | .moment .. | .bytes _ | .set .. | .endless => fun hdata _ => nomatch hdata

theorem exists_writeItems (depth : Nat) :
    ∀ items, areData items = true → firstOfItems? (fun _ => true) items = none →
      ∃ s, writeItems depth items = .ok s
  | [] => fun _ _ => ⟨[], by rw [writeItems]⟩
  | item :: items => fun hdata hexcess => by
    rw [areData, Bool.and_eq_true] at hdata
    obtain ⟨hitem, hitems⟩ := eq_none_of_first hexcess
    obtain ⟨first, hfirst⟩ := exists_write depth item hdata.1 hitem
    obtain ⟨more, hmore⟩ := exists_writeItems depth items hdata.2 hitems
    exact ⟨_, by rw [writeItems, hfirst, ok_bind, hmore, ok_bind]⟩

theorem exists_writeEntries (depth : Nat) :
    ∀ entries, areDataByName entries = true → firstOfEntries? (fun _ => true) entries = none →
      ∃ s, writeEntries depth entries = .ok s
  | [] => fun _ _ => ⟨[], by rw [writeEntries]⟩
  | (key, value) :: entries => fun hdata hexcess => by
    rw [areDataByName, Bool.and_eq_true, Bool.and_eq_true, isText_iff] at hdata
    obtain ⟨⟨⟨name, rfl⟩, hvalueData⟩, hentriesData⟩ := hdata
    obtain ⟨hvalue, hentries⟩ := eq_none_of_first hexcess
    obtain ⟨first, hfirst⟩ := exists_write depth value hvalueData hvalue
    obtain ⟨more, hmore⟩ := exists_writeEntries depth entries hentriesData hentries
    exact ⟨_, by rw [writeEntries, keyText, ok_bind, hfirst, ok_bind, hmore, ok_bind]⟩

end

end Json

end DomainCompiler
