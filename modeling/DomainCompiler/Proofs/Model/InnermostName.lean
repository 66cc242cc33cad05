import DomainCompiler.Proofs.Model.TypeImports
import DomainCompiler.Proofs.Naming.OneWord

/-!
# What a type imports by its innermost name

A type is a name inside of lists, and its imports are looked for in the text of it. The names of the
table are found where they are among the words of the text. Lists bring in no name of the table, so
the words of the innermost name decide. An identifier is a single word: it calls for its own import
or for none, although names of the table begin with each other and may stand inside of names that
are declared.
-/

namespace DomainCompiler.Model

open DomainCompiler.Naming
open DomainCompiler.Text

/-! ### Words of the table -/

namespace Imports

/-- A type calls for the imports of those of its words that the table has. -/
theorem mem_ofType_iff {type s : String} :
    s ∈ ofType type ↔ ∃ e ∈ typeImports, e.1.toList ∈ words type.toList ∧ e.2 = s := by
  rw [ofType, List.mem_filterMap]
  refine exists_congr fun e => and_congr_right fun he => ?_
  rw [← hasWord_iff_mem_words (isWord_of_mem_typeImports he)]
  split
  · next hword => rw [Option.some_inj, and_iff_right hword]
  · next hno => exact ⟨nofun, fun h => absurd h.1 hno⟩

example : ofType "Map<UUID, List<LocalDateTime>>" =
    ["java.time.LocalDateTime", "java.util.UUID"] := by decide +kernel

/-- The table has each import once. -/
theorem eq_of_mem_typeImports {e e' : String × String} (he : e ∈ typeImports)
    (he' : e' ∈ typeImports) (h : e.2 = e'.2) : e = e' := by
  have hnodup : (typeImports.map (·.2)).Nodup := by decide
  exact List.inj_on_of_nodup_map hnodup he he' h

/-- Where no name stands twice, the entries with a name are what is looked up. -/
theorem filterMap_eq_toList_lookup {table : List (String × String)}
    (h : (table.map (·.1)).Nodup) (name : String) :
    (table.filterMap fun e => if name = e.1 then some e.2 else none) =
      (table.lookup name).toList := by
  induction table with
  | nil => rfl
  | cons e rest ih =>
    rw [List.map_cons, List.nodup_cons] at h
    rw [List.filterMap_cons, List.lookup_cons]
    by_cases hname : name = e.1
    · -- The look-up ends here, and no entry behind this one has the name.
      have hrest : (rest.filterMap fun e => if name = e.1 then some e.2 else none) = [] := by
        refine List.filterMap_eq_nil_iff.mpr fun e' he' => if_neg fun heq => h.1 ?_
        exact hname ▸ heq ▸ List.mem_map_of_mem he'
      rw [if_pos hname, hrest, beq_iff_eq.mpr hname]
      rfl
    · rw [if_neg hname, ih h.2, beq_eq_false_iff_ne.mpr hname]

section Word

variable {type : String}

theorem name_mem_words_iff (htype : IsWord type.toList) {e : String × String}
    (he : e ∈ typeImports) : e.1.toList ∈ words type.toList ↔ type = e.1 := by
  rw [mem_words_iff_eq (isWord_of_mem_typeImports he).1 htype.2, String.toList_inj]

/-- A single word is looked up in the table. -/
theorem ofType_of_isWord (htype : IsWord type.toList) :
    ofType type = (typeImports.lookup type).toList := by
  have hnodup : (typeImports.map (·.1)).Nodup := by decide
  rw [← filterMap_eq_toList_lookup hnodup]
  refine List.filterMap_congr fun e he => ?_
  have hword : hasWord e.1 type = true ↔ type = e.1 := by
    rw [hasWord_iff_mem_words (isWord_of_mem_typeImports he), name_mem_words_iff htype he]
  rw [if_congr hword rfl rfl]

/-- A single word calls for the import of an entry by being its name, and in no other way. -/
theorem mem_ofType_iff_eq (htype : IsWord type.toList) {e : String × String}
    (he : e ∈ typeImports) : e.2 ∈ ofType type ↔ type = e.1 := by
  rw [mem_ofType_iff]
  constructor
  · rintro ⟨e', he', hword, himport⟩
    obtain rfl := eq_of_mem_typeImports he' he himport
    exact (name_mem_words_iff htype he).mp hword
  · intro hname
    exact ⟨e, he, (name_mem_words_iff htype he).mpr hname, rfl⟩

end Word

end Imports

/-! ### Names inside of lists -/

/-- The name is made of ASCII letters, digits and underscores, and has any. -/
def IsIdentifier (name : String) : Prop :=
  name ≠ "" ∧ ∀ c ∈ name.toList, c.isAlphanum = true ∨ c = '_'

instance : DecidablePred IsIdentifier := fun name =>
  decidable_of_iff (name ≠ "" ∧ (name.toList.all fun c => c.isAlphanum || c == '_') = true) <| by
    simp only [IsIdentifier, List.all_eq_true, Bool.or_eq_true, beq_iff_eq]

theorem IsIdentifier.isWord {name : String} (h : IsIdentifier name) : IsWord name.toList := by
  refine ⟨fun hnil => h.1 (String.toList_eq_nil_iff.mp hnil), fun c hc => ?_⟩
  have hchar := h.2 c hc
  have hascii : c.toNat < 0x80 := by
    rcases hchar with halphanum | rfl
    · exact toNat_lt_of_isAlphanum halphanum
    · decide
  rwa [isWordChar_ascii hascii, Bool.or_eq_true, beq_iff_eq]

namespace TypeRef

open Imports (ofType typeImports)

/-- The name at the bottom of the lists. -/
def innermostName : TypeRef → String
  | .known name => name
  | .userDefined name _ => name
  | .collection element => element.innermostName

theorem ofType_render (t : TypeRef) : ofType t.render = ofType t.innermostName := by
  induction t with
  | known name => rfl
  | userDefined name inlineEnum => rfl
  | collection element ih => rw [render, Imports.ofType_list, ih, innermostName]

/-- The imports of a type go by its innermost name, which is taken as a whole. -/
structure ImportsByName (t : TypeRef) : Prop where
  /-- The import of the name where the table has one, and nothing else. -/
  lookup : ofType t.render = (typeImports.lookup t.innermostName).toList
  /-- The import of an entry is called for by its name, and by no name that it is a part of. -/
  whole : ∀ e ∈ typeImports, e.2 ∈ ofType t.render ↔ t.innermostName = e.1
  /-- Lists around the name neither add an import nor hide one. -/
  lists : ofType t.render = ofType t.innermostName

/-- An identifier calls for the import that the table has for the whole of it, at any depth of
lists. -/
theorem importsByName_of_isIdentifier {t : TypeRef} (h : IsIdentifier t.innermostName) :
    t.ImportsByName := by
  refine ⟨?_, fun e he => ?_, t.ofType_render⟩
  · rw [t.ofType_render, Imports.ofType_of_isWord h.isWord]
  · rw [t.ofType_render, Imports.mem_ofType_iff_eq h.isWord he]

/-- Moments are not dates, although their name begins with that of dates. -/
theorem importsByName_listsOfMoments :
    IsIdentifier (collection (collection (known "LocalDateTime"))).innermostName ∧
      (collection (collection (known "LocalDateTime"))).ImportsByName ∧
      ofType (collection (collection (known "LocalDateTime"))).render =
        ["java.time.LocalDateTime"] :=
  ⟨by decide, importsByName_of_isIdentifier (by decide), by decide +kernel⟩

end TypeRef

end DomainCompiler.Model
