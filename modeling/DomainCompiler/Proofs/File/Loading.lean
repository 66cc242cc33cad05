import DomainCompiler.File.Load
import DomainCompiler.Proofs.Schema.Problems
import DomainCompiler.Proofs.Yaml.Building

/-!
# When loading is answered

A file should give a mapping, or be refused with its path. Faults of form are refusals. But bytes
that are no text, an escape for no character, scalars that do not write a value of their tag,
collections that lie too deep and mappings that stand for each other come out of the loader as
they are, and then nothing is reported of the file either. There is no other way to fail.
-/

namespace DomainCompiler

open Declared Yaml

namespace Load

variable {path : String} {entry : FileEntry} {bytes : List UInt8} {s : List Char} {e : LoadError}

/-- The file holds a mapping or is refused with its path, and a report of it can be given, which is
empty exactly where the mapping is a description. -/
structure Answers (path : String) (entry : FileEntry) : Prop where
  loads : (∃ entries, file path entry = .ok entries) ∨
    ∃ reason, file path entry = .error (.refused path reason)
  reports : ∃ messages, examine path entry = .ok messages ∧
    (messages = [] ↔ ∃ entries d, file path entry = .ok entries ∧
      Document.read (.map entries) = .accepted d)

/-- What bytes have in them for an error that is no refusal. -/
inductive Spoils (bytes : List UInt8) : LoadError → Prop where
  | bytes (undecodable : Utf8.decode bytes = none) : Spoils bytes .undecodable
  | escape {s : List Char} (decodes : Utf8.decode bytes = some s)
      (wild : HasWildEscape (Utf8.withLineFeeds s)) : Spoils bytes (.scalar .codePoint)
  | depth {s : List Char} (decodes : Utf8.decode bytes = some s)
      (deep : TooDeep (Tokens.ofText (Utf8.withLineFeeds s)).list) : Spoils bytes .endless
  | scalar {s : List Char} {g : Graph} {e : ScalarError} (decodes : Utf8.decode bytes = some s)
      (reads : Graph.ofText (Utf8.withLineFeeds s) = .ok (some g)) (misfits : g.nodes.Misfits e) :
      Spoils bytes (.scalar e)
  | circle {s : List Char} {g : Graph} (decodes : Utf8.decode bytes = some s)
      (reads : Graph.ofText (Utf8.withLineFeeds s) = .ok (some g)) (circular : g.nodes.Circular) :
      Spoils bytes .endless

/-- The error of a fault that is no fault of form. -/
def Escapes (f : Yaml.Fault) (e : LoadError) : Prop :=
  (∃ e', f = .scalar e' ∧ e = .scalar e') ∨ (f = .endless ∧ e = .endless)

/-- A text gives a mapping or is refused, unless its fault is none of form. -/
theorem text_ends (path : String) (s : List Char) :
    Ends (fun _ => True)
      (fun e => (∃ reason, e = .refused path reason) ∨
        ∃ f, Yaml.Document.ofText (Utf8.withLineFeeds s) = .error f ∧ Escapes f e)
      (text path s) := by
  rw [text]
  cases hvalue : Yaml.Document.ofText (Utf8.withLineFeeds s) with
  | error f =>
    cases f with
    | malformed rule => exact .inl ⟨_, rfl⟩
    | scalar e => exact .inr ⟨_, rfl, .inl ⟨e, rfl, rfl⟩⟩
    | endless => exact .inr ⟨_, rfl, .inr ⟨rfl, rfl⟩⟩
  | ok v =>
    rcases v with - | (_ | _ | _ | _ | _ | _ | _ | _ | _ | _ | _ | _)
    all_goals first | trivial | exact .inl ⟨_, rfl⟩

/-- A fault of a text that is none of form is one of its nodes, or there are none. -/
theorem spoils_of_ofText {f : Yaml.Fault} (hbytes : Utf8.decode bytes = some s)
    (hf : Yaml.Document.ofText (Utf8.withLineFeeds s) = .error f) (he : Escapes f e) :
    Spoils bytes e := by
  rw [Yaml.Document.ofText] at hf
  cases hgraph : Graph.ofText (Utf8.withLineFeeds s) with
  | error f' =>
    rw [hgraph] at hf
    cases hf
    obtain (⟨rule, rfl⟩ | ⟨rfl, hwild⟩) | ⟨rfl, hdeep⟩ := Graph.stopsIn_of_ofText hgraph
    · obtain ⟨_, hf, -⟩ | ⟨hf, -⟩ := he <;> cases hf
    · obtain ⟨_, hf, rfl⟩ | ⟨hf, -⟩ := he <;> cases hf
      exact .escape hbytes hwild
    · obtain ⟨_, hf, -⟩ | ⟨-, rfl⟩ := he
      · cases hf
      · exact .depth hbytes hdeep
  | ok g =>
    rw [hgraph] at hf
    cases g with
    | none => cases hf
    | some g =>
      have hvalue : g.value = .error f := by
        cases hvalue : g.value with
        | ok v => simp [hvalue, bind, Except.bind, Except.map] at hf
        | error f' => simpa [hvalue, bind, Except.bind, Except.map] using hf
      obtain ⟨rule, rfl⟩ | ⟨e', rfl, hmisfits⟩ | ⟨rfl, hcircular⟩ := Graph.stopsIn_of_value hvalue
      · obtain ⟨_, hf, -⟩ | ⟨hf, -⟩ := he <;> cases hf
      · obtain ⟨_, hf, rfl⟩ | ⟨hf, -⟩ := he <;> cases hf
        exact .scalar hbytes hgraph hmisfits
      · obtain ⟨_, hf, -⟩ | ⟨-, rfl⟩ := he
        · cases hf
        · exact .circle hbytes hgraph hcircular

/-- A file gives a mapping or is refused, unless its bytes are spoilt. -/
theorem file_ends (path : String) (entry : FileEntry) :
    Ends (fun _ => True)
      (fun e => (∃ reason, e = .refused path reason) ∨
        ∃ bytes, entry = .file bytes ∧ suffixes.contains (Path.suffix path) ∧ Spoils bytes e)
      (file path entry) := by
  cases entry with
  | absent => exact .inl ⟨_, rfl⟩
  | directory => exact .inl ⟨_, rfl⟩
  | file bytes =>
    rw [file]
    split
    · next hsuffix =>
      cases hbytes : Utf8.decode bytes with
      | none => exact .inr ⟨bytes, rfl, hsuffix, .bytes hbytes⟩
      | some s =>
        refine (text_ends path s).imp (fun _ h => h) fun e he => he.imp_right ?_
        rintro ⟨f, hf, hescapes⟩
        exact ⟨bytes, rfl, hsuffix, spoils_of_ofText hbytes hf hescapes⟩
    · exact .inl ⟨_, rfl⟩

theorem problemTexts_eq_nil {ps : List Schema.Problem} : problemTexts ps = [] ↔ ps = [] :=
  List.map_eq_nil_iff

theorem answers_of_ok {entries : List (Value × Value)} (h : file path entry = .ok entries) :
    Answers path entry := by
  refine ⟨.inl ⟨entries, h⟩, _, by rw [examine, h], problemTexts_eq_nil.trans ⟨fun hnone => ?_, ?_⟩⟩
  · obtain ⟨d, hd⟩ := Document.reports_read _ hnone
    exact ⟨entries, d, h, hd⟩
  · rintro ⟨entries', d, hentries, hd⟩
    obtain rfl : entries = entries' := by simpa [h] using hentries
    rw [hd, Schema.Checked.problems_accepted]

theorem answers_of_refused {reason : LoadReason}
    (h : file path entry = .error (.refused path reason)) :
    Answers path entry := by
  have hexamine : examine path entry = .ok [(LoadError.refused path reason).message] := by
    rw [examine, h]
    rfl
  refine ⟨.inr ⟨reason, h⟩, _, hexamine, nofun, ?_⟩
  rintro ⟨entries, d, hentries, -⟩
  rw [h] at hentries
  cases hentries

/-- Every file is answered, unless its bytes are spoilt; then there is no report either. -/
theorem answers_or_spoils (path : String) (entry : FileEntry) :
    Answers path entry ∨
      ∃ bytes e, entry = .file bytes ∧ suffixes.contains (Path.suffix path) ∧ Spoils bytes e ∧
        file path entry = .error e ∧ examine path entry = .error e := by
  cases hfile : file path entry with
  | ok entries => exact .inl (answers_of_ok hfile)
  | error e =>
    obtain ⟨reason, rfl⟩ | ⟨bytes, rfl, hsuffix, hspoils⟩ := (file_ends path entry).of_error hfile
    · exact .inl (answers_of_refused hfile)
    · have hrefusal : e.isRefusal = false := by cases hspoils <;> rfl
      refine .inr ⟨bytes, e, rfl, hsuffix, hspoils, rfl, ?_⟩
      rw [examine, hfile]
      simp [hrefusal]

/-- Whether there is a mapping or a refusal. -/
def isAnswer : Except LoadError (List (Value × Value)) → Bool
  | .ok _ => true
  | .error e => e.isRefusal

theorem Answers.isAnswer (h : Answers path entry) : isAnswer (file path entry) = true := by
  obtain ⟨entries, hfile⟩ | ⟨reason, hfile⟩ := h.loads <;> rw [hfile] <;> rfl

/-- A byte that no text has, and a date of no month. -/
theorem not_answers_domain : ¬Answers "domain.yaml" (.file [0xFF]) ∧
    ¬Answers "domain.yaml" (.file (Utf8.encode "a: 2024-13-45".toList)) :=
  ⟨fun h => absurd h.isAnswer (by decide +kernel), fun h => absurd h.isAnswer (by decide +kernel)⟩

end Load

end DomainCompiler
