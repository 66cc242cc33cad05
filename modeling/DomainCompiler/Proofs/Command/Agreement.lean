import DomainCompiler.Proofs.Command.Outcome
import DomainCompiler.Proofs.Compile.BackReference
import DomainCompiler.Proofs.Export.Writing

/-!
# The commands agree on what is acceptable

Checking a file and compiling it read the file in one way and ask the same rules. They come apart
only behind the rules: where something in an accepted description is too large to be resolved or
to be written.
-/

namespace DomainCompiler.Command

open DomainCompiler.Check (Accepted Sound)
open DomainCompiler.Declared (Document)
open DomainCompiler.Traversal

variable {width : Nat} {files : Files}

/-- The file is loaded and read as the description. -/
def Describes (files : Files) (file : String) (d : Document) : Prop :=
  ∃ entries, Load.file (Path.normal file) (files (Path.normal file)) = .ok entries ∧
    parseDocument (.map entries) = .ok d

theorem Describes.unique {file : String} {d d' : Document} (h : Describes files file d)
    (h' : Describes files file d') : d = d' := by
  obtain ⟨entries, hload, hparse⟩ := h
  obtain ⟨entries', hload', hparse'⟩ := h'
  rw [hload] at hload'
  cases hload'
  rw [hparse] at hparse'
  cases hparse'
  rfl

/-- A file has no more than one description. -/
theorem Describes.exists_iff {file : String} {d : Document} (h : Describes files file d)
    {P : Document → Prop} : (∃ d', Describes files file d' ∧ P d') ↔ P d := by
  constructor
  · rintro ⟨d', h', hP⟩
    rw [h.unique h']
    exact hP
  · intro hP
    exact ⟨d, h, hP⟩

theorem compileFile_eq_ok_iff {options : Options} {file : String} {c : Compiled} :
    compileFile options (Path.normal file) (files (Path.normal file)) = .ok c ↔
      ∃ d, Describes files file d ∧ compileDocument options d = .ok c := by
  simp only [compileFile, bind_eq_ok_iff, mapError_eq_ok_iff, compile_eq_ok_iff, Describes]
  constructor
  · rintro ⟨entries, hload, d, hparse, hc⟩
    exact ⟨d, ⟨entries, hload, hparse⟩, hc⟩
  · rintro ⟨d, ⟨entries, hload, hparse⟩, hc⟩
    exact ⟨entries, hload, d, hparse, hc⟩

theorem exists_compileDocument_iff_accepted {options : Options} {d : Document} :
    (∃ c, compileDocument options d = .ok c) ↔
      Accepted options.strict d ∧ d.excess? = none := by
  constructor
  · rintro ⟨c, hc⟩
    obtain ⟨haccepted, hmodel, -⟩ := compileDocument_eq_ok_iff.mp hc
    exact ⟨haccepted, (resolveDocument_eq_ok_iff.mp hmodel).1⟩
  · rintro ⟨haccepted, hexcess⟩
    obtain ⟨m, hm⟩ := (exists_resolveDocument_iff haccepted.1).mpr hexcess
    exact ⟨⟨m, _⟩, compileDocument_eq_ok_iff.mpr ⟨haccepted, hm, rfl⟩⟩

/-- Nothing is asked of warnings where they do not count. -/
theorem accepted_false_iff {d : Document} : Accepted false d ↔ Sound d :=
  and_iff_left_of_imp fun _ h => nomatch h

/-! ### When each command ends well -/

section Steps

open Work (Looks Leads)

variable {host : Host} {s : Session}

theorem looks_description {file : String} :
    Looks s (description file) (Describes s.files file) (¬∃ d, Describes s.files file d) := by
  refine Leads.entryAt_bind (Work.looks_attempt.bind_leads (fun entries hload => ?_) ?_)
  · refine Work.looks_attempt.imp ?_ ?_
    · rintro d s' ⟨rfl, hparse⟩
      exact ⟨rfl, entries, hload, hparse⟩
    · rintro s' ⟨hs, hmissed⟩
      refine ⟨hs, ?_⟩
      rintro ⟨d, entries', hload', hparse⟩
      cases hload.symm.trans hload'
      exact hmissed ⟨d, hparse⟩
  · exact fun s' hs hmissed => ⟨hs, fun ⟨d, entries, hload, _⟩ => hmissed ⟨entries, hload⟩⟩

theorem leads_reportFindings {a : ValidateArgs} {found : Findings} {stopped : Session → Prop} :
    Leads s (reportFindings host a found) (fun _ s' => s'.files = s.files) stopped :=
  Leads.ite (fun _ => Work.leads_tell rfl) fun _ => Leads.pure rfl

theorem leads_printLines {text : String} {lines : List Console.Line} {P : Prop}
    {stopped : Session → Prop} (hfault : host.printFault? text = none) (h : P) :
    Leads s (Work.printLines host text lines) (fun _ _ => P) stopped :=
  Work.leads_put (fun _ => h) fun hrefused => absurd hfault hrefused

end Steps

theorem exit_validate_eq_zero_iff {a : ValidateArgs} :
    (run width files (.validate a)).exit = 0 ↔
      ∃ d, Describes files a.file d ∧ Accepted a.strict d := by
  refine exit_runOn_eq_zero_iff (looks_description.bind_leads (fun d hd => ?_) ?_)
  · have haccepted : (∃ d', Describes files a.file d' ∧ Accepted a.strict d') ↔
        Accepted a.strict d := hd.exists_iff
    rw [haccepted]
    refine leads_reportFindings.bind fun _ s _ => Work.Leads.ite (fun hrejected => ?_)
      fun hpasses => ?_
    · exact Work.leads_throw (Check.isRejected_iff.mp hrejected)
    · rw [Check.isRejected_iff, not_not] at hpasses
      exact Work.Leads.ite (fun _ => Work.Leads.pure hpasses) fun _ => leads_printLines rfl hpasses
  · rintro s hs hmissed ⟨d, hd, -⟩
    exact hmissed ⟨d, hd⟩

theorem exit_info_eq_zero_iff {file : String} :
    (run width files (.info file)).exit = 0 ↔
      ∃ d, Describes files file d ∧ Sound d ∧ d.excess? = none := by
  have hcompiled : (run width files (.info file)).exit = 0 ↔
      ∃ c, compileFile {} (Path.normal file) (files (Path.normal file)) = .ok c := by
    refine exit_runOn_eq_zero_iff
      (Work.Leads.entryAt_bind (Work.looks_attempt.bind_leads (fun c hc => ?_) ?_))
    · exact (leads_printLines (P := True) rfl trivial).bind
        fun _ s _ => leads_printLines rfl ⟨c, hc⟩
    · exact fun s _ hmissed => hmissed
  rw [hcompiled]
  constructor
  · rintro ⟨c, hc⟩
    obtain ⟨d, hd, hc⟩ := compileFile_eq_ok_iff.mp hc
    obtain ⟨hsound, hexcess⟩ := exists_compileDocument_iff_accepted.mp ⟨c, hc⟩
    exact ⟨d, hd, accepted_false_iff.mp hsound, hexcess⟩
  · rintro ⟨d, hd, hsound, hexcess⟩
    obtain ⟨c, hc⟩ := (@exists_compileDocument_iff_accepted {} d).mpr
      ⟨accepted_false_iff.mpr hsound, hexcess⟩
    exact ⟨c, compileFile_eq_ok_iff.mpr ⟨d, hd, hc⟩⟩

/-- The file is compiled to YAML that is printed. -/
structure PrintsYaml (b : CompileArgs) (file : String) (strict : Bool) : Prop where
  file : b.file = file
  strict : b.strict = strict
  format : b.format = "yaml"
  output : b.output = none

theorem exit_compile_yaml_eq_zero_iff {b : CompileArgs} {file : String} {strict : Bool}
    (h : PrintsYaml b file strict) :
    (run width files (.compile b)).exit = 0 ↔
      ∃ d, Describes files file d ∧ Accepted strict d ∧ d.excess? = none ∧
        ∀ v ∈ d.carriedData, v.excess? = none := by
  obtain ⟨rfl, rfl, hformat, houtput⟩ := h
  have htarget : (Command.compile b).target? = none := by rw [target?, houtput]; rfl
  have hnothing : ∀ c text, lastFault? { width } b c text = none := fun c text => by
    rw [lastFault?, htarget]
  refine exit_compile_eq_zero_iff.trans ⟨?_, ?_⟩
  · rintro ⟨-, c, text, ⟨hc, htext⟩, -⟩
    obtain ⟨d, hd, hc⟩ := compileFile_eq_ok_iff.mp hc
    obtain ⟨haccepted, hexcess⟩ := exists_compileDocument_iff_accepted.mp ⟨c, hc⟩
    rw [hformat] at htext
    have hplain := c.model.exists_yaml_iff.mp ⟨text, htext⟩
    exact ⟨d, hd, haccepted, hexcess, (excess?_plain_iff hc).mp hplain⟩
  · rintro ⟨d, hd, haccepted, hexcess, hcarried⟩
    obtain ⟨c, hc⟩ := (@exists_compileDocument_iff_accepted b.options d).mpr
      ⟨haccepted, hexcess⟩
    obtain ⟨text, htext⟩ := c.model.exists_yaml_iff.mpr ((excess?_plain_iff hc).mpr hcarried)
    have hrendered : Renders files b c text :=
      ⟨compileFile_eq_ok_iff.mpr ⟨d, hd, hc⟩, by rw [hformat, htext]⟩
    exact ⟨unobstructed_of_none htarget, c, text, hrendered, hnothing c text⟩

/-! ### Agreement -/

/-- Checking, compiling and showing a file end alike, whatever else they are asked for. -/
structure Agree (width : Nat) (files : Files) (a : ValidateArgs) : Prop where
  /-- Checking ends well exactly where compiling does. -/
  compiled : ∀ b, PrintsYaml b a.file a.strict →
    ((run width files (.validate a)).exit = 0 ↔ (run width files (.compile b)).exit = 0)
  /-- Showing ends well exactly where both do that let warnings pass. -/
  shown : ∀ b, PrintsYaml b a.file false →
    ((run width files (.info a.file)).exit = 0 ↔
      (run width files (.validate { a with strict := false })).exit = 0 ∧
        (run width files (.compile b)).exit = 0)

theorem printsYaml (file : String) (strict : Bool) : PrintsYaml { file, strict } file strict :=
  ⟨rfl, rfl, rfl, rfl⟩

theorem agree_of_not_describes {a : ValidateArgs} (h : ∀ d, ¬Describes files a.file d) :
    Agree width files a where
  compiled b hb := by
    rw [exit_validate_eq_zero_iff, exit_compile_yaml_eq_zero_iff hb]
    simp only [h, false_and]
  shown b hb := by
    rw [exit_info_eq_zero_iff, exit_compile_yaml_eq_zero_iff hb]
    simp only [h, false_and, exists_false, and_false]

theorem agree_iff_of_describes {a : ValidateArgs} {d : Document} (h : Describes files a.file d) :
    Agree width files a ↔
      (Accepted a.strict d → d.excess? = none) ∧
        (Sound d → d.excess? = none → ∀ v ∈ d.carriedData, v.excess? = none) := by
  have hvalidate : ∀ strict, (run width files (.validate { a with strict })).exit = 0 ↔
      Accepted strict d := fun strict => by
    rw [exit_validate_eq_zero_iff, h.exists_iff]
  have hinfo : (run width files (.info a.file)).exit = 0 ↔ Sound d ∧ d.excess? = none := by
    rw [exit_info_eq_zero_iff, h.exists_iff]
  have hcompile : ∀ {b strict}, PrintsYaml b a.file strict →
      ((run width files (.compile b)).exit = 0 ↔ Accepted strict d ∧ d.excess? = none ∧
        ∀ v ∈ d.carriedData, v.excess? = none) := fun hb => by
    rw [exit_compile_yaml_eq_zero_iff hb, h.exists_iff]
  constructor
  · intro hagree
    refine ⟨fun haccepted => ?_, fun hsound hexcess => ?_⟩
    · have hcompiled := hagree.compiled _ (printsYaml a.file a.strict)
      exact ((hcompile (printsYaml _ _)).mp (hcompiled.mp ((hvalidate _).mpr haccepted))).2.1
    · have hshown := hagree.shown _ (printsYaml a.file false)
      exact ((hcompile (printsYaml _ _)).mp (hshown.mp (hinfo.mpr ⟨hsound, hexcess⟩)).2).2.2
  · rintro ⟨hexcess, hcarried⟩
    refine ⟨fun b hb => ?_, fun b hb => ?_⟩
    · rw [hcompile hb]
      refine (hvalidate a.strict).trans ⟨fun haccepted => ?_, And.left⟩
      have hnone := hexcess haccepted
      exact ⟨haccepted, hnone, hcarried haccepted.1 hnone⟩
    · rw [hinfo, hvalidate, hcompile hb, accepted_false_iff]
      constructor
      · rintro ⟨hsound, hnone⟩
        exact ⟨hsound, hsound, hnone, hcarried hsound hnone⟩
      · rintro ⟨hsound, -, hnone, -⟩
        exact ⟨hsound, hnone⟩

/-- The commands agree on a file exactly where the description in it, if the rules accept it, can be
resolved and written. Whether or not they agree, what does not end well ends with one. -/
theorem agree_iff (width : Nat) (files : Files) (a : ValidateArgs) :
    (Agree width files a ↔ ∀ d, Describes files a.file d →
      (Accepted a.strict d → d.excess? = none) ∧
        (Sound d → d.excess? = none → ∀ v ∈ d.carriedData, v.excess? = none)) ∧
      ∀ c, (run width files c).exit ≠ 0 → (run width files c).exit = 1 := by
  refine ⟨⟨fun h d hd => (agree_iff_of_describes hd).mp h, fun h => ?_⟩, ?_⟩
  · by_cases hdescribes : ∃ d, Describes files a.file d
    · obtain ⟨d, hd⟩ := hdescribes
      exact (agree_iff_of_describes hd).mpr (h d hd)
    · exact agree_of_not_describes (not_exists.mp hdescribes)
  · intro c hc
    exact (exit_runOn _ files c).resolve_left hc

/-- A description whose value object carries a list along that contains itself. -/
def coiled : String :=
  "aggregates:\n- name: A\n  entities:\n  - name: a\n    isRoot: true\n" ++
    "  valueObjects:\n  - name: V\n    validation: &v [*v]\n"

/-- The rules accept data that contain themselves, and they are not compiled. -/
theorem not_agree_coiled :
    ¬Agree 80 (Files.ofList [("a.yaml", Utf8.encode coiled.toList)]) { file := "a.yaml" } := by
  intro h
  have hcompiled := h.compiled _ (printsYaml "a.yaml" false)
  revert hcompiled
  decide +kernel

end DomainCompiler.Command
