import DomainCompiler.Command.Arguments
import DomainCompiler.Proofs.Command.Steps
import DomainCompiler.Proofs.Text.Marks
import DomainCompiler.Proofs.Text.Utf8
import DomainCompiler.Proofs.Traversal

/-!
# What compiling leaves behind

Compiling has one file to write. All that may stop it before has changed no file, so that the file
holds the whole text of a model, or is what it was. Behind it comes only the confirmation: where the
console refuses to print that, the command fails and the file is written all the same.
-/

namespace DomainCompiler

open DomainCompiler.Traversal

/-! ### Markup -/

/-- The text has a tag of the console's markup in it. -/
def HasMarkup (text : String) : Prop :=
  ∃ before c inside after, text.toList = before ++ '[' :: c :: (inside ++ ']' :: after) ∧
    (c.isLower = true ∨ c ∈ ['#', '/', '@']) ∧ '[' ∉ inside

/-- The console prints the texts that have no markup. -/
def Host.PrintsPlain (host : Host) : Prop :=
  ∀ text, ¬HasMarkup text → host.printFault? text = none

theorem not_hasMarkup_of_not_mem {text : String} (h : '[' ∉ text.toList) : ¬HasMarkup text := by
  rintro ⟨before, c, inside, after, heq, -⟩
  exact h (by rw [heq]; simp)

/-- A tag does not reach beyond a text whose surroundings have no brackets. -/
theorem hasMarkup_of_surrounded {left text right : String}
    (hleft : '[' ∉ left.toList) (hright : ']' ∉ right.toList)
    (h : HasMarkup (left ++ text ++ right)) : HasMarkup text := by
  obtain ⟨before, c, inside, after, heq, hc, hinside⟩ := h
  rw [String.toList_append, String.toList_append, List.append_assoc] at heq
  obtain ⟨before', -, hopen⟩ := Text.exists_of_append_eq_append_cons hleft heq
  have hclose : (before' ++ '[' :: c :: inside) ++ ']' :: after = text.toList ++ right.toList := by
    rw [hopen]
    simp
  obtain ⟨rest, htext, -⟩ := Text.exists_of_append_cons_eq_append hright hclose
  exact ⟨before', c, inside, rest, by rw [htext]; simp, hc, hinside⟩

namespace Command

variable {host : Host} {files : Files}

theorem not_mem_number {c : Char} (n : Nat) (h : c.isDigit = false) :
    c ∉ (Report.number n).toList := by
  intro hmem
  have hdigit : c ∈ Nat.toDigits 10 n := by
    simpa [Report.number, Decimal.ofInt, Decimal.ofNat] using hmem
  rw [Nat.isDigit_of_mem_toDigits (by decide) (by decide) hdigit] at h
  cases h

/-- All markup in the confirmation comes from the path. -/
theorem hasMarkup_of_confirmation {c : Compiled} {path : String}
    (h : HasMarkup (confirmation c path)) : HasMarkup path := by
  refine hasMarkup_of_surrounded ?_ (by decide) h
  have hnumber := not_mem_number (c := '[') c.model.aggregates.length (by decide)
  simp only [String.toList_append, List.mem_append, hnumber, or_false, not_or]
  decide

/-! ### The end of a command -/

theorem exit_runOn (host : Host) (files : Files) (c : Command) :
    (runOn host files c).exit = 0 ∨ (runOn host files c).exit = 1 := by
  rw [runOn]
  cases c.work host { files } with
  | ok u s => exact .inl rfl
  | error stop s => exact .inr rfl

/-- What the steps lead to is what the command leaves behind. -/
theorem runOn_of_leads {c : Command} {done stopped : Session → Prop}
    (h : Work.Leads { files } (c.work host) (fun _ => done) stopped) :
    (∃ s, done s ∧ (runOn host files c).exit = 0 ∧ (runOn host files c).output = s.output ∧
        (runOn host files c).files = s.files) ∨
      ∃ s, stopped s ∧ (runOn host files c).exit = 1 ∧ (runOn host files c).files = s.files := by
  rw [Work.Leads] at h
  rw [runOn]
  cases hrun : c.work host { files } with
  | ok u s =>
    rw [hrun] at h
    exact .inl ⟨s, h, rfl, rfl, rfl⟩
  | error stop s =>
    rw [hrun] at h
    exact .inr ⟨s, h, rfl, rfl⟩

theorem exit_runOn_eq_zero_iff {c : Command} {P : Prop}
    (h : Work.Leads { files } (c.work host) (fun _ _ => P) fun _ => ¬P) :
    (runOn host files c).exit = 0 ↔ P := by
  rcases runOn_of_leads h with ⟨s, hP, hexit, -⟩ | ⟨s, hP, hexit, -⟩
  · exact iff_of_true hexit hP
  · exact iff_of_false (by rw [hexit]; decide) hP

end Command

/-! ### Compiling a file -/

/-- Compiling the file among the files gives the model. -/
def Compiles (files : Files) (a : CompileArgs) (c : Compiled) : Prop :=
  compileFile a.options (Path.normal a.file) (files (Path.normal a.file)) = .ok c

/-- The text is that of the model which compiling gives, in the format that is asked for. -/
def Renders (files : Files) (a : CompileArgs) (c : Compiled) (text : String) : Prop :=
  Compiles files a c ∧ c.model.text a.format = .ok text

/-- Nothing stands in the way of the output: it is new or is forced, and can be written. -/
def Unobstructed (host : Host) (files : Files) (a : CompileArgs) : Prop :=
  ∀ path, (Command.compile a).target? = some path →
    (files.isThere path = true → a.force = true) ∧ host.writeError? files path = none

/-- Why what is put out at the end is refused: the text, or the confirmation that it is written. -/
def lastFault? (host : Host) (a : CompileArgs) (c : Compiled) (text : String) : Option String :=
  match (Command.compile a).target? with
  | none => host.echoFault? text
  | some path => host.printFault? (Command.confirmation c path)

/-- Nothing stops the compilation. -/
def Succeeds (host : Host) (files : Files) (a : CompileArgs) : Prop :=
  Unobstructed host files a ∧ ∃ c text, Renders files a c text ∧ lastFault? host a c text = none

/-- The files after a compilation that nothing stops but the console, which refuses to print that
the text is written: it is written. -/
def Unconfirmed (host : Host) (files : Files) (a : CompileArgs) (after : Files) : Prop :=
  Unobstructed host files a ∧ ∃ path c text, (Command.compile a).target? = some path ∧
    Renders files a c text ∧ host.printFault? (Command.confirmation c path) ≠ none ∧
    after = files.set path (Utf8.encode text.toList)

/-- Nothing stops the compilation, and the text is put out or stands at the output. -/
def Delivered (host : Host) (before : Session) (a : CompileArgs) (after : Session) : Prop :=
  Unobstructed host before.files a ∧ ∃ c text, Renders before.files a c text ∧
    lastFault? host a c text = none ∧
      match (Command.compile a).target? with
      | none => after.output = before.output ++ text ∧ after.files = before.files
      | some path => after.files = before.files.set path (Utf8.encode text.toList)

/-- Something stops the compilation before anything is changed, or it is the confirmation. -/
def Stopped (host : Host) (files : Files) (a : CompileArgs) (after : Files) : Prop :=
  ¬Succeeds host files a ∧ after = files ∨ Unconfirmed host files a after

section Obstruction

variable {host : Host} {files : Files} {a : CompileArgs}

theorem unobstructed_of_none (htarget : (Command.compile a).target? = none) :
    Unobstructed host files a := by
  intro path hpath
  rw [htarget] at hpath
  cases hpath

theorem unobstructed_iff_of_some {path : String}
    (htarget : (Command.compile a).target? = some path) :
    Unobstructed host files a ↔
      (files.isThere path = true → a.force = true) ∧ host.writeError? files path = none := by
  constructor
  · intro h
    exact h path htarget
  · rintro h path' hpath'
    rw [htarget] at hpath'
    cases hpath'
    exact h

end Obstruction

section Renders

variable {host : Host} {files : Files} {a : CompileArgs} {c : Compiled} {text : String}

theorem Renders.unique {c' : Compiled} {text' : String} (h : Renders files a c text)
    (h' : Renders files a c' text') : c = c' ∧ text = text' := by
  obtain ⟨hc, htext⟩ := h
  obtain ⟨hc', htext'⟩ := h'
  rw [Compiles, hc] at hc'
  cases hc'
  rw [htext] at htext'
  cases htext'
  exact ⟨rfl, rfl⟩

/-- There is no text in a format that there is not. -/
theorem Renders.isNone_ofName? (h : Renders files a c text) :
    (ExportFormat.ofName? a.format).isNone = false := by
  have htext := h.2
  rw [Model.DomainModel.text] at htext
  cases hformat : ExportFormat.ofName? a.format with
  | some f => rfl
  | none => rw [hformat] at htext; cases htext

theorem succeeds_iff_of_renders (h : Renders files a c text) :
    Succeeds host files a ↔ Unobstructed host files a ∧ lastFault? host a c text = none := by
  refine and_congr_right fun _ => ⟨?_, fun hlast => ⟨c, text, h, hlast⟩⟩
  rintro ⟨c', text', h', hlast⟩
  obtain ⟨rfl, rfl⟩ := h.unique h'
  exact hlast

theorem Delivered.succeeds {before after : Session} (h : Delivered host before a after) :
    Succeeds host before.files a := by
  obtain ⟨hopen, c, text, htext, hlast, -⟩ := h
  exact ⟨hopen, c, text, htext, hlast⟩

/-- Where the confirmation is refused, the compilation does not succeed. -/
theorem Unconfirmed.not_succeeds {after : Files} (h : Unconfirmed host files a after) :
    ¬Succeeds host files a := by
  obtain ⟨-, path, c, text, htarget, htext, hfault, -⟩ := h
  rw [succeeds_iff_of_renders htext, lastFault?, htarget]
  exact fun hsucceeds => hfault hsucceeds.2

theorem Stopped.not_succeeds {after : Files} (h : Stopped host files a after) :
    ¬Succeeds host files a :=
  h.elim And.left Unconfirmed.not_succeeds

end Renders

namespace Command

variable {host : Host} {files : Files} {a : CompileArgs} {s after : Session}

open Work (Looks Leads)

/-! ### The steps of compiling -/

theorem looks_checkFormat {format : String} :
    Looks s (checkFormat host format) (fun _ => (ExportFormat.ofName? format).isNone = false)
      ((ExportFormat.ofName? format).isNone = true) :=
  Leads.ite (fun h => Work.looks_complain h)
    fun h => Work.looks_pure (Bool.eq_false_iff.mpr h)

theorem looks_checkOutput {output : String} {force : Bool} :
    Looks s (checkOutput host output force) (fun _ => s.files.isThere output = true → force = true)
      (s.files.isThere output = true ∧ force = false) := by
  refine Leads.get_bind (Leads.ite (fun h => Work.looks_complain ?_) fun h => Work.looks_pure ?_)
  · simpa using h
  · simpa using h

theorem looks_compiledText :
    Looks s (compiledText a) (fun r => Renders s.files a r.1 r.2)
      (¬∃ c text, Renders s.files a c text) := by
  refine Leads.entryAt_bind (Work.looks_attempt.bind_leads (fun c hc => ?_) fun s' hs hmissed => ?_)
  · refine Work.looks_attempt.bind_leads (fun text htext => Work.looks_pure ⟨hc, htext⟩) ?_
    intro s' hs hmissed
    refine ⟨hs, ?_⟩
    rintro ⟨c', text, hc', htext⟩
    cases hc.symm.trans hc'
    exact hmissed ⟨text, htext⟩
  · exact ⟨hs, fun ⟨c, text, hc, _⟩ => hmissed ⟨c, hc⟩⟩

theorem leads_echo {c : Compiled} {text : String} (htarget : (Command.compile a).target? = none)
    (h : Renders s.files a c text) :
    Leads s (Work.echo host text) (fun _ => Delivered host s a)
      (fun s' => Stopped host s.files a s'.files) := by
  have hopen : Unobstructed host s.files a := unobstructed_of_none htarget
  have hlast : lastFault? host a c text = host.echoFault? text := by rw [lastFault?, htarget]
  refine Work.leads_put (fun hfault => ?_) fun hfault => .inl ⟨fun hsucceeds => ?_, rfl⟩
  · refine ⟨hopen, c, text, h, hlast.trans hfault, ?_⟩
    rw [htarget]
    exact ⟨rfl, rfl⟩
  · exact hfault (hlast.symm.trans ((succeeds_iff_of_renders h).mp hsucceeds).2)

/-- Writing comes before the confirmation, and is not taken back. -/
theorem leads_write_print {path : String} {c : Compiled} {text : String}
    (htarget : (Command.compile a).target? = some path)
    (hforce : s.files.isThere path = true → a.force = true) (h : Renders s.files a c text) :
    Leads s (do Work.write host path text; Work.print host (confirmation c path))
      (fun _ => Delivered host s a) (fun s' => Stopped host s.files a s'.files) := by
  have hopen : Unobstructed host s.files a ↔ _ ∧ _ := unobstructed_iff_of_some htarget
  have hlast : lastFault? host a c text = host.printFault? (confirmation c path) := by
    rw [lastFault?, htarget]
  have hwrites : Leads s (Work.write host path text)
      (fun _ s' => host.writeError? s.files path = none ∧
        s' = { s with files := s.files.set path (Utf8.encode text.toList) })
      (fun s' => Stopped host s.files a s'.files) :=
    Work.leads_write (fun hwrite => ⟨hwrite, rfl⟩)
      fun hwrite => .inl ⟨fun hsucceeds => hwrite (hopen.mp hsucceeds.1).2, rfl⟩
  refine hwrites.bind ?_
  rintro - _ ⟨hwrite, rfl⟩
  refine Work.leads_put (fun hfault => ?_) fun hfault => ?_
  · refine ⟨hopen.mpr ⟨hforce, hwrite⟩, c, text, h, hlast.trans hfault, ?_⟩
    rw [htarget]
  · exact .inr ⟨hopen.mpr ⟨hforce, hwrite⟩, path, c, text, htarget, h, hfault, rfl⟩

theorem leads_runCompile :
    Leads s (runCompile host a) (fun _ => Delivered host s a)
      (fun s' => Stopped host s.files a s'.files) := by
  have hunrendered : ∀ s' : Session, s'.files = s.files → (¬∃ c text, Renders s.files a c text) →
      Stopped host s.files a s'.files :=
    fun s' hs hmissed => .inl ⟨fun ⟨_, c, text, h, _⟩ => hmissed ⟨c, text, h⟩, hs⟩
  refine looks_checkFormat.bind_leads (fun _ _ => ?_) fun s' hs hmissed => .inl ⟨?_, hs⟩
  · cases htarget : a.output.map Path.normal with
    | none => exact looks_compiledText.bind_leads (fun _ h => leads_echo htarget h) hunrendered
    | some path =>
      refine looks_checkOutput.bind_leads (fun _ hforce => ?_) fun s' hs hmissed => .inl ⟨?_, hs⟩
      · exact looks_compiledText.bind_leads (fun _ h => leads_write_print htarget hforce h)
          hunrendered
      · rintro ⟨hopen, -⟩
        have hforce := ((unobstructed_iff_of_some htarget).mp hopen).1 hmissed.1
        rw [hmissed.2] at hforce
        cases hforce
  · rintro ⟨-, c, text, h, -⟩
    rw [h.isNone_ofName?] at hmissed
    cases hmissed

/-! ### All or nothing -/

/-- The file holds the text and no more, and is read as that text. -/
def Holds (entry : FileEntry) (text : String) : Prop :=
  ∃ bytes, entry = .file bytes ∧ bytes = Utf8.encode text.toList ∧
    Utf8.decode bytes = some text.toList

theorem holds_set (files : Files) (path text : String) :
    Holds (files.set path (Utf8.encode text.toList) path) text :=
  ⟨_, files.set_same path _, rfl, Utf8.decode_encode _⟩

/-- What compiling among the files leaves behind: the whole text of the model, or nothing. -/
structure AllOrNothing (host : Host) (files : Files) (a : CompileArgs) (o : Outcome) : Prop where
  ends : o.exit = 0 ∨ o.exit = 1
  /-- Nothing stops a compilation but an obstructed output, a model without a text, and what is
  refused at the end. -/
  succeeds : o.exit = 0 ↔ Succeeds host files a
  failed : o.exit = 1 → o.files = files ∨ Unconfirmed host files a o.files
  printed : o.exit = 0 → (Command.compile a).target? = none →
    (∃ c, Renders files a c o.output) ∧ o.files = files
  /-- The text is that of the input as it was, also where the input is what is written. -/
  written : o.exit = 0 → ∀ path, (Command.compile a).target? = some path →
    (files.isThere path = true → a.force = true) ∧
      (∃ c text, Renders files a c text ∧ Holds (o.files path) text) ∧
      ∀ other, other ≠ path → o.files other = files other

theorem exit_compile_eq_zero_iff :
    (runOn host files (.compile a)).exit = 0 ↔ Succeeds host files a :=
  exit_runOn_eq_zero_iff
    (leads_runCompile.imp (fun _ _ h => h.succeeds) fun _ h => h.not_succeeds)

theorem delivered_of_exit (h : (runOn host files (.compile a)).exit = 0) :
    ∃ s, Delivered host { files } a s ∧ (runOn host files (.compile a)).output = s.output ∧
      (runOn host files (.compile a)).files = s.files := by
  rcases runOn_of_leads (c := .compile a) leads_runCompile with
    ⟨s, hs, -, hend⟩ | ⟨s, -, hexit, -⟩
  · exact ⟨s, hs, hend⟩
  · rw [hexit] at h
    cases h

theorem stopped_of_exit (h : (runOn host files (.compile a)).exit = 1) :
    Stopped host files a (runOn host files (.compile a)).files := by
  rcases runOn_of_leads (c := .compile a) leads_runCompile with
    ⟨s, -, hexit, -⟩ | ⟨s, hs, -, hfiles⟩
  · rw [hexit] at h
    cases h
  · rw [hfiles]
    exact hs

theorem allOrNothing_compile (host : Host) (files : Files) (a : CompileArgs) :
    AllOrNothing host files a (runOn host files (.compile a)) where
  ends := exit_runOn host files _
  succeeds := exit_compile_eq_zero_iff
  failed h := (stopped_of_exit h).imp_left And.right
  printed h htarget := by
    obtain ⟨s, ⟨-, c, text, htext, -, hend⟩, houtput, hfiles⟩ := delivered_of_exit h
    rw [htarget] at hend
    refine ⟨⟨c, ?_⟩, hfiles.trans hend.2⟩
    rw [houtput, hend.1, String.empty_append]
    exact htext
  written h path htarget := by
    obtain ⟨s, ⟨hopen, c, text, htext, -, hend⟩, -, hfiles⟩ := delivered_of_exit h
    rw [htarget] at hend
    rw [hfiles, hend]
    refine ⟨(hopen path htarget).1, ⟨c, text, htext, holds_set files path text⟩, ?_⟩
    intro other hother
    exact files.set_other path other _ hother

/-- A console that prints plain texts confirms what is written to a path without markup. -/
theorem not_unconfirmed {after : Files} (hconsole : host.PrintsPlain)
    (hpath : ∀ path, (Command.compile a).target? = some path → ¬HasMarkup path) :
    ¬Unconfirmed host files a after := by
  rintro ⟨-, path, c, text, htarget, -, hfault, -⟩
  exact hfault (hconsole _ fun h => hpath path htarget (hasMarkup_of_confirmation h))

/-- Whatever the host refuses, compiling writes all or nothing, and it fails with the file written
only where the console refuses the confirmation: not for a path without markup, if the console
prints plain texts. -/
theorem allOrNothing_runOn (host : Host) (files : Files) (a : CompileArgs) :
    AllOrNothing host files a (runOn host files (.compile a)) ∧
      (host.PrintsPlain →
        (∀ path, (Command.compile a).target? = some path → ¬HasMarkup path) →
          (runOn host files (.compile a)).exit = 1 →
            (runOn host files (.compile a)).files = files) := by
  have hall := allOrNothing_compile host files a
  refine ⟨hall, fun hconsole hpath hfails => ?_⟩
  exact (hall.failed hfails).resolve_right (not_unconfirmed hconsole hpath)

/-- A closing tag of markup stands in the text. -/
def closesTag : List Char → Bool
  | [] => false
  | c :: rest =>
    (c == '[' && rest.head? == some '/' && (rest.tail.takeWhile (· != '[')).contains ']') ||
      closesTag rest

theorem exists_of_closesTag {cs : List Char} (h : closesTag cs = true) :
    ∃ before inside after, cs = before ++ '[' :: '/' :: (inside ++ ']' :: after) ∧
      '[' ∉ inside := by
  induction cs with
  | nil => cases h
  | cons c rest ih =>
    rw [closesTag, Bool.or_eq_true] at h
    rcases h with h | h
    · rw [Bool.and_eq_true, Bool.and_eq_true, Text.contains_takeWhile_iff (by decide)] at h
      obtain ⟨⟨hc, hslash⟩, inside, after, htail, hinside⟩ := h
      obtain ⟨tail, rfl⟩ := List.head?_eq_some_iff.mp (beq_iff_eq.mp hslash)
      refine ⟨[], inside, after, ?_, hinside⟩
      rw [beq_iff_eq.mp hc, ← htail]
      rfl
    · obtain ⟨before, inside, after, rfl, hinside⟩ := ih h
      exact ⟨c :: before, inside, after, rfl, hinside⟩

/-- A console that takes a closing tag amiss, as none is open. -/
def taggedConsole : Host where
  width := 80
  printFault? text :=
    if closesTag text.toList then some "closing tag does not match any open tag" else none

theorem printsPlain_taggedConsole : taggedConsole.PrintsPlain := by
  intro text hplain
  refine if_neg fun h => hplain ?_
  obtain ⟨before, inside, after, heq, hinside⟩ := exists_of_closesTag h
  exact ⟨before, '/', inside, after, heq, by decide, hinside⟩

/-- A description and a model that stands there already. -/
def twoFiles : Files :=
  Files.ofList [("a.yaml", Utf8.encode "aggregates: []\n".toList), ("b.yaml", [])]

/-- The model that stands there is kept, and is replaced where that is forced. -/
theorem allOrNothing_runOn_taggedConsole :
    let a : CompileArgs := { file := "a.yaml", output := some "b.yaml" }
    let forced : CompileArgs := { a with force := true }
    (runOn taggedConsole twoFiles (.compile a)).exit = 1 ∧
      (runOn taggedConsole twoFiles (.compile a)).files = twoFiles ∧
        ∃ c text, Renders twoFiles forced c text ∧
          Holds ((runOn taggedConsole twoFiles (.compile forced)).files "b.yaml") text := by
  intro a forced
  have hfails : (runOn taggedConsole twoFiles (.compile a)).exit = 1 := by decide +kernel
  have hpath : ∀ path, (Command.compile a).target? = some path → ¬HasMarkup path := by
    intro path hpath
    rw [← Option.some.inj hpath]
    exact not_hasMarkup_of_not_mem (by decide +kernel)
  obtain ⟨-, hunchanged⟩ := allOrNothing_runOn taggedConsole twoFiles a
  obtain ⟨hforced, -⟩ := allOrNothing_runOn taggedConsole twoFiles forced
  have hwritten := hforced.written (by decide +kernel) "b.yaml" (by decide +kernel)
  exact ⟨hfails, hunchanged printsPlain_taggedConsole hpath hfails, hwritten.2.1⟩

/-- What is written under a name that the console takes amiss stays written. -/
example :
    let files := Files.ofList [("a.yaml", Utf8.encode "aggregates: []\n".toList), ("b[/c", [])]
    let o := runOn taggedConsole files
      (.compile { file := "a.yaml", output := some "b[/d].yaml" })
    o.exit = 1 ∧ o.files.isThere "b[/d].yaml" = true := by
  decide +kernel

end Command

end DomainCompiler
