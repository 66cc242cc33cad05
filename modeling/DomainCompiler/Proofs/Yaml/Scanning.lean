import DomainCompiler.Proofs.Outcome
import DomainCompiler.Yaml.Scan
import Mathlib.Algebra.Order.Ring.Nat

/-!
# What stops the reading of tokens

Text that is no document breaks one of the rules. There is one other thing that may be wrong with
it: an escape in double quotes may ask for a character beyond the last one. Each reader is shown to
end with the one or the other, the text that it is given being the end of the whole text.
-/

namespace DomainCompiler.Yaml

/-- An escape for a character beyond the last one. -/
def HasWildEscape (text : List Char) : Prop :=
  ∃ before digits after n, text = before ++ '\\' :: 'U' :: (digits ++ after) ∧
    digits.length = 8 ∧ Decimal.readNat? 16 digits = some n ∧ 0x110000 ≤ n

/-- The text breaks a rule or has such an escape. -/
def StopsIn (text : List Char) (f : Fault) : Prop :=
  (∃ rule, f = .malformed rule) ∨ (f = .scalar .codePoint ∧ HasWildEscape text)

variable {text : List Char}

theorem StopsIn.malformed (rule : Malformed) : StopsIn text (.malformed rule) :=
  .inl ⟨rule, rfl⟩

theorem StopsIn.of_suffix {s : List Char} {f : Fault} (h : StopsIn s f) (hs : s <:+ text) :
    StopsIn text f := by
  obtain hrule | ⟨rfl, before, digits, after, n, rfl, hn⟩ := h
  · exact .inl hrule
  · obtain ⟨front, rfl⟩ := hs
    exact .inr ⟨rfl, front ++ before, digits, after, n, by simp, hn⟩

/-! ### Escapes -/

theorem readDigits_append (base acc : Nat) (s t : List Char) :
    Decimal.readDigits base acc (s ++ t) =
      (Decimal.readDigits base acc s).bind fun n => Decimal.readDigits base n t := by
  induction s generalizing acc with
  | nil => rfl
  | cons c s ih =>
    rw [List.cons_append, Decimal.readDigits, Decimal.readDigits]
    split
    · split
      · exact ih _
      · rfl
    · rfl

theorem readDigits_lt {base acc n : Nat} {s : List Char}
    (h : Decimal.readDigits base acc s = some n) : n < (acc + 1) * base ^ s.length := by
  induction s generalizing acc with
  | nil =>
    cases h
    simp
  | cons c s ih =>
    rw [Decimal.readDigits] at h
    split at h
    · next d hd =>
      split at h
      · next hlt =>
        calc n < (acc * base + d + 1) * base ^ s.length := ih h
          _ ≤ (acc + 1) * base * base ^ s.length := by
            refine Nat.mul_le_mul_right _ ?_
            rw [Nat.add_mul]
            omega
          _ = (acc + 1) * base ^ (c :: s).length := by
            rw [List.length_cons, Nat.pow_succ, Nat.mul_assoc, Nat.mul_comm base]
      · cases h
    · cases h

namespace Quoted

/-- What is known of the text read so far. -/
def Follows (read : List Char) : State → Prop
  | .escape => ∃ before, read = before ++ ['\\']
  | .number digits value =>
    ∃ before letter hexes count, escapeDigits? letter = some count ∧
      read = before ++ '\\' :: letter :: hexes ∧ 0 < digits ∧ hexes.length + digits = count ∧
        Decimal.readDigits 16 0 hexes = some value
  | _ => True

/-- A step leads to a state that is known of, or stops. -/
def Step.Fine (read : List Char) (c : Char) (rest : List Char) : Step → Prop
  | .goes state _ => Follows (read ++ [c]) state
  | .ends _ => True
  | .fails f => StopsIn (read ++ c :: rest) f

variable {style : Style} {state : State} {done : List Nat} {read rest : List Char} {c : Char}

theorem atLine_fine (h : Follows (read ++ [c]) state) :
    (atLine state rest done).Fine read c rest := by
  rw [atLine]
  split
  · exact .malformed _
  · exact h

theorem stepText_fine : (stepText style done c rest).Fine read c rest := by
  rw [stepText.eq_def]
  split
  · cases style <;> trivial
  · split
    · next h =>
      rw [Bool.and_eq_true, beq_iff_eq] at h
      exact ⟨read, by rw [h.1]⟩
    · split
      · trivial
      · split
        · exact atLine_fine trivial
        · trivial

theorem escapeDigits?_eq_some {count : Nat} (h : escapeDigits? c = some count) :
    (c = 'U' ∧ count = 8) ∨ count ≤ 4 := by
  rw [escapeDigits?.eq_def] at h
  split at h <;> cases h <;> simp

theorem stepEscape_fine (h : Follows read .escape) : (stepEscape done c rest).Fine read c rest := by
  obtain ⟨before, rfl⟩ := h
  rw [stepEscape]
  split
  · trivial
  · next digits _ hdigits =>
    refine ⟨before, c, [], digits, hdigits, by simp, ?_, by simp, rfl⟩
    rw [escapeDigits?.eq_def] at hdigits
    split at hdigits <;> cases hdigits <;> decide
  · split
    · exact atLine_fine trivial
    · exact .malformed _

theorem stepNumber_fine {digits value : Nat} (h : Follows read (.number digits value)) :
    (stepNumber done digits value c).Fine read c rest := by
  obtain ⟨before, letter, hexes, count, hletter, rfl, hpos, hcount, hvalue⟩ := h
  rw [stepNumber]
  split
  · exact .malformed _
  · next d hd =>
    dsimp only
    split
    · exact .malformed _
    · next hlt =>
      have hn : Decimal.readDigits 16 0 (hexes ++ [c]) = some (value * 16 + d) := by
        rw [readDigits_append, hvalue]
        simp only [Option.bind_some, Decimal.readDigits, hd]
        rw [if_pos (by omega)]
      split
      · exact ⟨before, letter, hexes ++ [c], count, hletter, by simp, by omega,
          by simp; omega, hn⟩
      · split
        · next hwild =>
          have hlength : (hexes ++ [c]).length = count := by simp; omega
          obtain ⟨rfl, rfl⟩ | hsmall := escapeDigits?_eq_some hletter
          · refine .inr ⟨rfl, before, hexes ++ [c], rest, value * 16 + d, by simp, hlength, ?_,
              hwild⟩
            rw [Decimal.readNat?, if_neg (by simp), hn]
          · -- four digits do not reach that far
            have hbound := readDigits_lt hn
            have hpow : 16 ^ (hexes ++ [c]).length ≤ 16 ^ 4 :=
              Nat.pow_le_pow_right (by decide) (hlength ▸ hsmall)
            omega
        · trivial

theorem step_fine (h : Follows read state) : (step style state done c rest).Fine read c rest := by
  cases state with
  | text => exact stepText_fine
  | blanks held =>
    rw [step]
    split
    · trivial
    · split
      · exact atLine_fine trivial
      · exact stepText_fine
  | lines first more =>
    rw [step.eq_def]
    dsimp only
    split
    · trivial
    · split
      · exact atLine_fine trivial
      · cases first <;> exact stepText_fine
  | quote =>
    rw [step]
    split <;> trivial
  | escape => exact stepEscape_fine h
  | number digits value => exact stepNumber_fine h

theorem scan_ends {s : List Char} (h : Follows read state) :
    Ends (fun _ => True) (StopsIn (read ++ s)) (scan style state done s) := by
  induction s generalizing read state done with
  | nil => cases state <;> first | exact .malformed _ | trivial
  | cons c rest ih =>
    have hstep : (step style state done c rest).Fine read c rest := step_fine h
    rw [scan]
    generalize step style state done c rest = next at hstep
    cases next with
    | goes state done =>
      rw [List.append_cons]
      exact ih hstep
    | ends done => cases style <;> trivial
    | fails f => exact hstep

/-- A quoted scalar is read, or its text stops the reading. -/
theorem read_ends (style : Style) (s : List Char) :
    Ends (fun _ => True) (StopsIn s) (Quoted.read style s) := by
  have hstart : Follows [] .text := trivial
  exact Ends.map (scan_ends hstart)

end Quoted

/-! ### Names, tags, directives and block scalars -/

/-- Only a rule is broken. -/
def IsMalformed (f : Fault) : Prop := ∃ rule, f = .malformed rule

theorem IsMalformed.of (rule : Malformed) : IsMalformed (.malformed rule) := ⟨rule, rfl⟩

namespace Property

variable (s : List Char)

theorem fails_ends {α : Type} (rule : Malformed) {good : α → Prop} :
    Ends good IsMalformed (fails rule) :=
  .of rule

theorem name_ends : Ends (fun _ => True) IsMalformed (name s) := by
  rw [name]
  split
  · exact fails_ends _
  · trivial

theorem tagText_ends : Ends (fun _ => True) IsMalformed (tagText s) := by
  rw [tagText]
  split
  · split
    · exact fails_ends _
    · trivial
  · exact fails_ends _

theorem handle_ends : Ends (fun _ => True) IsMalformed (handle s) := by
  rw [handle.eq_def]
  split
  · split
    · trivial
    · dsimp only
      split
      · trivial
      · exact fails_ends _
  · exact fails_ends _

theorem tagParts_ends : Ends (fun _ => True) IsMalformed (tagParts s) := by
  rw [tagParts]
  split
  · refine (tagText_ends _).bind ?_
    rintro ⟨text, rest⟩ -
    dsimp only
    split
    · trivial
    · exact fails_ends _
  · split
    · trivial
    · split
      · exact (handle_ends _).bind fun _ _ => (tagText_ends _).bind fun _ _ => trivial
      · exact (tagText_ends _).bind fun _ _ => trivial

theorem tag_ends : Ends (fun _ => True) IsMalformed (tag s) := by
  rw [tag]
  refine (tagParts_ends _).bind ?_
  rintro ⟨parts, rest⟩ -
  dsimp only
  split
  · trivial
  · exact fails_ends _

theorem number_ends : Ends (fun _ => True) IsMalformed (number s) := by
  rw [number]
  dsimp only
  split
  · trivial
  · exact fails_ends _

theorem version_ends : Ends (fun _ => True) IsMalformed (version s) := by
  rw [version]
  refine (number_ends _).bind ?_
  rintro ⟨major, rest⟩ -
  dsimp only
  split
  · refine (number_ends _).bind ?_
    rintro ⟨minor, rest⟩ -
    dsimp only
    split
    · trivial
    · exact fails_ends _
  · exact fails_ends _

theorem handleMeaning_ends : Ends (fun _ => True) IsMalformed (handleMeaning s) := by
  rw [handleMeaning]
  refine (handle_ends _).bind ?_
  rintro ⟨handle, rest⟩ -
  dsimp only
  split
  · refine (tagText_ends _).bind ?_
    rintro ⟨text, rest⟩ -
    dsimp only
    split
    · trivial
    · exact fails_ends _
  · exact fails_ends _

theorem lineEnd_ends (d : Directive) (s : List Char) :
    Ends (fun _ => True) IsMalformed
      (if endsLine (next s) then pure (d, s.tail) else fails .directive) := by
  split
  · trivial
  · exact fails_ends _

theorem directive_ends : Ends (fun _ => True) IsMalformed (directive s) := by
  rw [directive]
  dsimp only
  split
  · exact fails_ends _
  split
  · exact (version_ends _).bind fun _ _ => lineEnd_ends _ _
  split
  · exact (handleMeaning_ends _).bind fun _ _ => lineEnd_ends _ _
  · exact lineEnd_ends _ _

end Property

namespace Block

theorem header_ends (s : List Char) : Ends (fun _ => True) IsMalformed (header s) := by
  rw [header]
  dsimp only
  split
  · split
    · trivial
    · exact .of _
  · exact .of _

theorem read_ends (fold : Bool) (least : Nat) (s : List Char) :
    Ends (fun _ => True) IsMalformed (Block.read fold least s) := by
  rw [Block.read]
  refine (header_ends _).bind ?_
  rintro ⟨h, below⟩ -
  dsimp only
  cases h.increment <;> dsimp only <;> split <;> trivial

end Block

/-! ### Tokens -/

theorem Cursor.step_suffix (c : Cursor) : c.step.rest <:+ c.rest := by
  rw [Cursor.step]
  split
  · exact List.suffix_refl _
  · next ch rest hrest =>
    rw [hrest]
    split
    · exact List.suffix_cons _ _
    · split <;> exact List.suffix_cons _ _

theorem Cursor.skip_suffix (n : Nat) (c : Cursor) : (c.skip n).rest <:+ c.rest := by
  induction n generalizing c with
  | zero => exact List.suffix_refl _
  | succ n ih => exact (ih _).trans c.step_suffix

namespace Scan

/-- What is read next is the end of the text. -/
def Reads (text : List Char) (s : Scan) : Prop := s.cursor.rest <:+ text

/-- The step of the scanner goes on in the text or stops. -/
abbrev Goes (text : List Char) : Except Fault Scan → Prop :=
  Ends (Reads text) (StopsIn text)

variable {s : Scan} {t : Token}

theorem Reads.start {body : List Char} (h : body <:+ text) : (Scan.start body).Reads text := h

theorem Reads.step (h : s.Reads text) : s.cursor.step.rest <:+ text :=
  (Cursor.step_suffix _).trans h

theorem Reads.goTo (h : s.Reads text) (rest : List Char) : (s.goTo rest).Reads text :=
  (Cursor.skip_suffix _ _).trans h

theorem Reads.of_cursor_eq {s' : Scan} (h : s.Reads text) (hs : s'.cursor = s.cursor) :
    s'.Reads text := by
  rw [Reads, hs]
  exact h

theorem cursor_setKeyStart (k : Option KeyStart) : (s.setKeyStart k).cursor = s.cursor := by
  rw [setKeyStart]
  split <;> rfl

theorem cursor_openBlock (column : Nat) : (s.openBlock column).2.cursor = s.cursor := by
  rw [openBlock]
  split <;> rfl

theorem cursor_unwind (column : Nat) : (s.unwind column).cursor = s.cursor := by
  rw [unwind]
  split <;> rfl

theorem cursor_unwindAll : s.unwindAll.cursor = s.cursor := by
  rw [unwindAll]
  split <;> rfl

theorem Reads.dropKey (h : s.Reads text) : Goes text s.dropKey := by
  rw [Scan.dropKey]
  split
  · split
    · exact .malformed _
    · exact h.of_cursor_eq (cursor_setKeyStart _)
  · exact h

theorem Reads.saveKey (h : s.Reads text) : Goes text s.saveKey := by
  rw [Scan.saveKey]
  split
  · exact h.dropKey.bind fun s hs => Reads.of_cursor_eq hs (cursor_setKeyStart _)
  · exact h

theorem freshKey_ends (c : Cursor) (k : Option KeyStart) :
    Ends (fun _ => True) (StopsIn text) (freshKey c k) := by
  rw [freshKey.eq_def]
  split
  · trivial
  · split
    · split
      · exact .malformed _
      · trivial
    · trivial

theorem Reads.dropStale (h : s.Reads text) : Goes text s.dropStale := by
  rw [Scan.dropStale]
  have hkeys : Ends (fun ks => ∀ k ∈ ks, True) (StopsIn text)
      (s.flowKeys.mapM (freshKey s.cursor)) :=
    Ends.mapM fun k _ => freshKey_ends s.cursor k
  exact hkeys.bind fun _ _ => (freshKey_ends _ _).bind fun _ _ => h

theorem Reads.passBlank (h : s.Reads text) (lines : Nat) : (s.passBlank lines).Reads text := by
  induction lines generalizing s with
  | zero => exact h
  | succ lines ih =>
    have hskip : ∀ p c, c.rest <:+ text → (Cursor.skipWhile p c).rest <:+ text :=
      fun p c hc => (Cursor.skip_suffix _ c).trans hc
    have hblanks : (if next (s.cursor.skipWhile (· == ' ')).rest == '#'
        then (s.cursor.skipWhile (· == ' ')).skipWhile fun x => !endsLine x
        else s.cursor.skipWhile (· == ' ')).rest <:+ text := by
      split
      · exact hskip _ _ (hskip _ _ h)
      · exact hskip _ _ h
    rw [Scan.passBlank]
    generalize (if next (s.cursor.skipWhile (· == ' ')).rest == '#'
        then (s.cursor.skipWhile (· == ' ')).skipWhile fun x => !endsLine x
        else s.cursor.skipWhile (· == ' ')) = c at hblanks ⊢
    split
    · refine ih (s := { s with cursor := c.step, keyAllowed := s.keyAllowed || !s.inFlow }) ?_
      exact (Cursor.step_suffix c).trans hblanks
    · exact hblanks

theorem Reads.atMargin (h : s.Reads text) : Goes text s.atMargin :=
  (h.of_cursor_eq cursor_unwindAll).dropKey.bind fun _ hs => hs

theorem Reads.directive (h : s.Reads text) : Goes text s.directive :=
  h.atMargin.bind fun _ hs =>
    ((Property.directive_ends _).imp (fun _ _ => trivial) fun _ he => .inl he).bind fun _ _ =>
      hs.goTo _

theorem Reads.separator (h : s.Reads text) : Goes text (s.separator t) :=
  h.atMargin.bind fun _ hs => hs.goTo _

theorem Reads.openFlow (h : s.Reads text) : Goes text (s.openFlow t) :=
  h.saveKey.bind fun _ hs => hs.step

theorem Reads.closeFlow (h : s.Reads text) : Goes text (s.closeFlow t) := by
  refine h.dropKey.bind fun s hs => ?_
  split
  · exact .malformed _
  · exact hs.step

theorem Reads.flowSeparator (h : s.Reads text) : Goes text s.flowSeparator :=
  h.dropKey.bind fun _ hs => hs.step

theorem Reads.openFor (h : s.Reads text) : Goes text (s.openFor t) := by
  rw [Scan.openFor]
  split
  · exact h
  · split
    · have hopen := cursor_openBlock (s := s) s.cursor.column
      split
      · next s' hs' => exact h.of_cursor_eq (by rw [hs'] at hopen; exact hopen)
      · next s' hs' => exact h.of_cursor_eq (by rw [hs'] at hopen; exact hopen)
    · exact .malformed _

theorem Reads.entry (h : s.Reads text) : Goes text s.entry :=
  h.openFor.bind fun _ hs => hs.dropKey.bind fun _ hs => hs.step

theorem Reads.key (h : s.Reads text) : Goes text s.key :=
  h.openFor.bind fun _ hs => hs.dropKey.bind fun _ hs => hs.step

theorem Reads.value (h : s.Reads text) : Goes text s.value := by
  rw [Scan.value]
  split
  · next k _ =>
    have hopened : (if (s.setKeyStart none).inFlow then (false, s.setKeyStart none)
        else (s.setKeyStart none).openBlock k.column).2.Reads text := by
      split
      · exact h.of_cursor_eq (cursor_setKeyStart _)
      · exact h.of_cursor_eq ((cursor_openBlock _).trans (cursor_setKeyStart _))
    exact hopened.step
  · exact h.openFor.bind fun _ hs => hs.step

theorem Reads.part (h : s.Reads text) {read : List Char → Except Fault (Token × List Char)}
    (hread : ∀ rest, rest <:+ text → Ends (fun _ => True) (StopsIn text) (read rest)) :
    Goes text (s.part read) :=
  h.saveKey.bind fun _ hs => (hread _ hs).bind fun _ _ => hs.goTo _

theorem Reads.block (h : s.Reads text) (fold : Bool) : Goes text (s.block fold) :=
  h.dropKey.bind fun _ hs =>
    ((Block.read_ends _ _ _).imp (fun _ _ => trivial) fun _ he => .inl he).bind fun _ _ =>
      hs.goTo _

theorem Reads.quoted (h : s.Reads text) (style : Quoted.Style) : Goes text (s.quoted style) := by
  refine h.part fun rest hrest => ?_
  have htail : rest.tail <:+ text := (List.tail_suffix rest).trans hrest
  exact (((Quoted.read_ends style rest.tail).imp (fun _ _ => trivial) fun _ he =>
    he.of_suffix htail).bind fun _ _ => trivial)

theorem Reads.plain (h : s.Reads text) : Goes text s.plain :=
  h.saveKey.bind fun _ hs => hs.goTo _

theorem Reads.named (h : s.Reads text) {β : Type} {read : List Char → Except Fault β}
    {f : β → Token × List Char} (hread : ∀ rest, Ends (fun _ => True) IsMalformed (read rest)) :
    Goes text (s.part fun rest => (read rest.tail).map f) :=
  h.part fun _ _ => Ends.map ((hread _).imp (fun _ _ => trivial) fun _ he => .inl he)

theorem Reads.token (h : s.Reads text) : Goes text s.token :=
  h.directive.ite <| h.separator.ite <| h.separator.ite <| h.openFlow.ite <| h.openFlow.ite <|
    h.closeFlow.ite <| h.closeFlow.ite <| h.flowSeparator.ite <| h.entry.ite <| h.key.ite <|
      h.value.ite <| (h.named Property.name_ends).ite <| (h.named Property.name_ends).ite <|
        (h.named Property.tag_ends).ite <| (h.block _).ite <| (h.block _).ite <|
          (h.quoted _).ite <| (h.quoted _).ite <| h.plain.ite <| .malformed _

theorem Reads.nextToken (h : s.Reads text) (lines : Nat) :
    Ends (fun p => p.1.Reads text) (StopsIn text) (s.nextToken lines) := by
  rw [Scan.nextToken]
  refine (h.passBlank lines).dropStale.bind fun s hs => ?_
  split
  · exact (hs.of_cursor_eq cursor_unwindAll).dropKey.bind fun _ hs => hs
  · exact (hs.of_cursor_eq (cursor_unwind _)).token.bind fun _ hs => hs

end Scan

theorem Tokens.stopsIn_of_ofScan {f : Fault} {fuel : Nat} {s : Scan} (h : s.Reads text)
    (hf : (Tokens.ofScan fuel s).fault = some f) : StopsIn text f := by
  induction fuel generalizing s with
  | zero =>
    cases hf
    exact .malformed _
  | succ fuel ih =>
    have hnext := h.nextToken (fuel + 1)
    rw [Tokens.ofScan] at hf
    generalize s.nextToken (fuel + 1) = step at hf hnext
    obtain g | ⟨s', _ | _⟩ := step
    · cases hf
      exact hnext
    · cases hf
    · exact ih hnext hf

/-- The tokens of a text end where it breaks a rule or has an escape for no character. -/
theorem Tokens.stopsIn_of_ofText {f : Fault} (hf : (Tokens.ofText text).fault = some f) :
    StopsIn text f := by
  by_cases hreadable : text.all isReadable
  · rw [Tokens.ofText, if_pos hreadable] at hf
    refine Tokens.stopsIn_of_ofScan (Scan.Reads.start ?_) hf
    split
    · exact List.tail_suffix _
    · exact List.suffix_refl _
  · rw [Tokens.ofText, if_neg hreadable] at hf
    cases hf
    exact .malformed _

end DomainCompiler.Yaml
