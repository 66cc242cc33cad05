import DomainCompiler.Proofs.Json.Grammar
import DomainCompiler.Yaml.Quoted

/-!
# Strings as quoted scalars

The pieces of a string are read one by one. Spaces are held back in case that the line ends behind
them, which it does not inside of a string; so what is held back and what was read count together.
-/

namespace DomainCompiler.Json

open Yaml Yaml.Quoted

section

variable {held read : List Nat} {state : State} {rest : List Char} {c : Char}

/-- The reader is between two pieces and holds back the numbers. -/
def Holds (held : List Nat) : State → Prop
  | .text => held = []
  | .blanks ns => held = ns
  | _ => False

theorem stepText_raw (hc : isUnescaped c = true) (hbreak : isBreak c = false) :
    ∃ held' state' read', stepText .double read c rest = .goes state' read' ∧ Holds held' state' ∧
      held' ++ read' = c.toNat :: read := by
  have hmark : c ≠ '"' ∧ c ≠ '\\' := by
    simp only [isUnescaped, Bool.and_eq_true, bne_iff_ne] at hc
    exact ⟨hc.1.2, hc.2⟩
  by_cases hspace : isTabOrSpace c = true
  · refine ⟨[c.toNat], .blanks [c.toNat], read, ?_, rfl, rfl⟩
    simp [stepText, Style.mark, hmark, hspace]
  · refine ⟨[], .text, c.toNat :: read, ?_, rfl, rfl⟩
    simp [stepText, Style.mark, hmark, hspace, hbreak]

/-- A character that stands for itself is read or held back. -/
theorem step_raw (hstate : Holds held state) (hc : isUnescaped c = true)
    (hbreak : isBreak c = false) :
    ∃ held' state' read', step .double state read c rest = .goes state' read' ∧
      Holds held' state' ∧ held' ++ read' = c.toNat :: (held ++ read) := by
  cases state with
  | text =>
    obtain rfl : held = [] := hstate
    exact stepText_raw hc hbreak
  | blanks ns =>
    obtain rfl : held = ns := hstate
    by_cases hspace : isTabOrSpace c = true
    · exact ⟨c.toNat :: held, .blanks (c.toNat :: held), read, by simp [step, hspace], rfl, rfl⟩
    · have hstep : step .double (.blanks held) read c rest =
          stepText .double (held ++ read) c rest := by
        simp [step, hspace, hbreak]
      rw [hstep]
      exact stepText_raw hc hbreak
  | lines => exact hstate.elim
  | quote => exact hstate.elim
  | escape => exact hstate.elim
  | number => exact hstate.elim

theorem step_backslash (hstate : Holds held state) :
    step .double state read '\\' rest = .goes .escape (held ++ read) := by
  cases state with
  | text =>
    obtain rfl : held = [] := hstate
    simp [step, stepText, Style.mark]
  | blanks ns =>
    obtain rfl : held = ns := hstate
    simp [step, stepText, Style.mark, isTabOrSpace, isBreak]
  | lines => exact hstate.elim
  | quote => exact hstate.elim
  | escape => exact hstate.elim
  | number => exact hstate.elim

theorem step_mark (hstate : Holds held state) :
    step .double state read '"' rest = .ends (held ++ read) := by
  cases state with
  | text =>
    obtain rfl : held = [] := hstate
    simp [step, stepText, Style.mark]
  | blanks ns =>
    obtain rfl : held = ns := hstate
    simp [step, stepText, Style.mark, isTabOrSpace, isBreak]
  | lines => exact hstate.elim
  | quote => exact hstate.elim
  | escape => exact hstate.elim
  | number => exact hstate.elim

theorem step_letter (e : Escape) :
    step .double .escape read e.letter rest = .goes .text (e.char.toNat :: read) := by
  cases e <;> rfl

theorem step_code : step .double .escape read 'u' rest = .goes (.number 4 0) read := rfl

theorem digitValue?_hexDigit (d : HexDigit) : Decimal.digitValue? d.char = some d.value.val := by
  obtain ⟨value, capital⟩ := d
  revert value capital
  decide

theorem step_digit {digits value : Nat} (d : HexDigit) (hdigits : 1 < digits) :
    step .double (.number digits value) read d.char rest =
      .goes (.number (digits - 1) (value * 16 + d.value.val)) read := by
  have hlt : ¬16 ≤ d.value.val := by omega
  simp [step, stepNumber, digitValue?_hexDigit, hlt, hdigits]

theorem step_lastDigit {value : Nat} (d : HexDigit) (hvalue : value < 0x1000) :
    step .double (.number 1 value) read d.char rest =
      .goes .text ((value * 16 + d.value.val) :: read) := by
  have hlt : ¬16 ≤ d.value.val := by omega
  have hsmall : ¬0x110000 ≤ value * 16 + d.value.val := by omega
  simp [step, stepNumber, digitValue?_hexDigit, hlt, hsmall]

theorem scan_cons {state' : State} {read' : List Nat}
    (h : step .double state read c rest = .goes state' read') :
    scan .double state read (c :: rest) = scan .double state' read' rest := by
  rw [scan, h]

/-- A piece is read, or held back. -/
theorem scan_piece (p : Piece) (hp : p.isShared = true) (hstate : Holds held state) :
    ∃ held' state' read', Holds held' state' ∧ held' ++ read' = p.unit :: (held ++ read) ∧
      scan .double state read (p.chars ++ rest) = scan .double state' read' rest := by
  cases p with
  | raw c hc =>
    have hbreak : isBreak c = false := by
      simp only [Piece.isShared, Bool.and_eq_true, Bool.not_eq_true'] at hp
      exact hp.2
    obtain ⟨held', state', read', hstep, hstate', heq⟩ := step_raw hstate hc hbreak
    exact ⟨held', state', read', hstate', heq, scan_cons hstep⟩
  | escape e =>
    refine ⟨[], .text, e.char.toNat :: (held ++ read), rfl, rfl, ?_⟩
    show scan .double state read ('\\' :: e.letter :: rest) = _
    rw [scan_cons (step_backslash hstate), scan_cons (step_letter e)]
  | code a b c d =>
    refine ⟨[], .text, (Piece.code a b c d).unit :: (held ++ read), rfl, rfl, ?_⟩
    show scan .double state read ('\\' :: 'u' :: a.char :: b.char :: c.char :: d.char :: rest) = _
    rw [scan_cons (step_backslash hstate), scan_cons step_code,
      scan_cons (step_digit a (by omega)), scan_cons (step_digit b (by omega)),
      scan_cons (step_digit c (by omega)), scan_cons (step_lastDigit d (by omega))]
    simp [Piece.unit]

theorem scan_body {s : Str} (hs : s.all Piece.isShared = true) (hstate : Holds held state) :
    scan .double state read (Str.body s ++ '"' :: rest) =
      .ok ((s.map Piece.unit).reverse ++ (held ++ read), rest) := by
  induction s generalizing held state read with
  | nil =>
    show scan .double state read ('"' :: rest) = _
    rw [scan, step_mark hstate]
    rfl
  | cons p s ih =>
    rw [List.all_cons, Bool.and_eq_true] at hs
    have hbody : Str.body (p :: s) ++ '"' :: rest = p.chars ++ (Str.body s ++ '"' :: rest) := by
      simp [Str.body]
    rw [hbody]
    obtain ⟨held', state', read', hstate', heq, hscan⟩ := scan_piece p hs.1 hstate
    rw [hscan, ih hs.2 hstate', heq]
    simp

end

theorem characters_eq_charsOfUnits (ns : List Nat) : characters ns = charsOfUnits ns := by
  fun_induction characters ns with
  | case1 => rfl
  | case2 n => rfl
  | case3 m n rest h ih =>
    rw [charsOfUnits, ih]
    exact (if_pos h).symm
  | case4 m n rest h ih =>
    rw [charsOfUnits, ih]
    exact (if_neg h).symm

/-- A string is read up to its closing quote as the text that it denotes. -/
theorem read_body {s : Str} (hs : s.all Piece.isShared = true) (rest : List Char) :
    Quoted.read .double (s.body ++ '"' :: rest) = .ok (s.value.toList, rest) := by
  have hstart : Holds [] .text := rfl
  rw [Quoted.read, scan_body hs hstart]
  simp [Except.map, Str.value, characters_eq_charsOfUnits]

end DomainCompiler.Json
