import DomainCompiler.Proofs.Yaml.Flow

/-!
# Tokens of JSON texts

The scanner finds in a text the tokens of its tree, in order, with the mark of a key in front of
each key. It needs no more calls than there are characters.
-/

namespace DomainCompiler.Yaml

open Json (IsSpacing IsEnd IsWord plain_read)

namespace Scan

variable {s : Scan} {depth : Nat} {read : List Token} {ahead w : List Char} {t : Token} {c : Char}

/-! ### Runs -/

/-- The scanner comes from the one state to the other, with calls enough for the text ahead. -/
def Leads (s s' : Scan) : Prop :=
  ∀ fuel, s.cursor.rest.length + 2 ≤ fuel → ∃ fuel', s'.cursor.rest.length + 2 ≤ fuel' ∧
    Tokens.ofScan fuel s = Tokens.ofScan fuel' s'

theorem Leads.trans {s s' s'' : Scan} (h : Leads s s') (h' : Leads s' s'') : Leads s s'' := by
  intro fuel hfuel
  obtain ⟨fuel', hfuel', heq⟩ := h fuel hfuel
  obtain ⟨fuel'', hfuel'', heq'⟩ := h' fuel' hfuel'
  exact ⟨fuel'', hfuel'', heq.trans heq'⟩

theorem Stands.atToken (h : Stands depth read (w ++ ahead) s) :
    Stands depth read ahead (s.atToken w) :=
  h.behind.refreshed

theorem Stands.leads (front : List Char) (h : Stands depth read (w ++ c :: ahead) s)
    (hw : IsSpacing w) (hc : IsReady (c :: ahead)) {depth' : Nat} {read' : List Token}
    {ahead' : List Char} {s' : Scan} (htoken : (s.atToken w).token = .ok s')
    (hs' : Stands depth' read' ahead' s') (hahead : ahead = front ++ ahead') : Leads s s' := by
  intro fuel hfuel
  obtain ⟨fuel, rfl⟩ := Nat.exists_eq_add_one_of_ne_zero (show fuel ≠ 0 by omega)
  rw [h.rest, List.length_append, List.length_cons, hahead, List.length_append] at hfuel
  refine ⟨fuel, by rw [hs'.rest]; omega, ?_⟩
  rw [Tokens.ofScan, h.nextToken hw hc (by omega), htoken]
  rfl

theorem Stands.ofScan_of_end (h : Stands 0 read w s) (hw : IsSpacing w) {fuel : Nat}
    (hfuel : w.length < fuel) : Tokens.ofScan fuel s = ⟨read, none⟩ := by
  obtain ⟨fuel, rfl⟩ := Nat.exists_eq_add_one_of_ne_zero (Nat.ne_of_gt (Nat.zero_lt_of_lt hfuel))
  obtain ⟨s', hnext, htokens⟩ := h.nextToken_of_end hw hfuel
  rw [Tokens.ofScan, hnext, Tokens.ofStep, htokens, List.reverse_reverse]

/-! ### Tokens behind blanks -/

theorem isReady_cons (h : c ≠ ' ' ∧ c ≠ '#' ∧ isBreak c = false) : IsReady (c :: ahead) :=
  ⟨h.1, h.2.1, h.2.2⟩

theorem Stands.leads_open (h : Stands depth read (w ++ c :: ahead) s) (hw : IsSpacing w)
    (hc : c = '[' ∧ t = .flowSequence ∨ c = '{' ∧ t = .flowMapping) :
    ∃ s', Leads s s' ∧ Stands (depth + 1) (read ++ [t]) ahead s' ∧ s'.keyAllowed = true := by
  obtain ⟨s', hopen, hs', hallowed⟩ := h.atToken.openFlow t
  refine ⟨s', ?_, hs', hallowed⟩
  obtain ⟨rfl, rfl⟩ | ⟨rfl, rfl⟩ := hc
  · exact h.leads [] hw (isReady_cons (by decide))
      ((token_bracket h.atToken.rest).trans hopen) hs' rfl
  · exact h.leads [] hw (isReady_cons (by decide))
      ((token_brace h.atToken.rest).trans hopen) hs' rfl

theorem Stands.leads_close (h : Stands (depth + 1) read (w ++ c :: ahead) s) (hw : IsSpacing w)
    (hc : c = ']' ∧ t = .flowSequenceEnd ∨ c = '}' ∧ t = .flowMappingEnd) :
    ∃ s', Leads s s' ∧ Stands depth (read ++ [t]) ahead s' := by
  obtain ⟨s', hclose, hs'⟩ := h.atToken.closeFlow t
  refine ⟨s', ?_, hs'⟩
  obtain ⟨rfl, rfl⟩ | ⟨rfl, rfl⟩ := hc
  · exact h.leads [] hw (isReady_cons (by decide))
      ((token_bracketEnd h.atToken.rest).trans hclose) hs' rfl
  · exact h.leads [] hw (isReady_cons (by decide))
      ((token_braceEnd h.atToken.rest).trans hclose) hs' rfl

theorem Stands.leads_comma (h : Stands depth read (w ++ ',' :: ahead) s) (hw : IsSpacing w) :
    ∃ s', Leads s s' ∧ Stands depth (read ++ [.separator]) ahead s' ∧ s'.keyAllowed = true := by
  obtain ⟨s', hcomma, hs', hallowed⟩ := h.atToken.flowSeparator
  exact ⟨s', h.leads [] hw (isReady_cons (by decide))
    ((token_comma h.atToken.rest).trans hcomma) hs' rfl, hs', hallowed⟩

theorem Stands.leads_quoted {front text : List Char}
    (h : Stands depth read (w ++ '"' :: (front ++ ahead)) s) (hw : IsSpacing w)
    (hread : Quoted.read .double (front ++ ahead) = .ok (text, ahead)) :
    ∃ s', Leads s s' ∧ Stands depth (read ++ [.scalar (String.ofList text) false]) ahead s' := by
  obtain ⟨s', hquoted, hs', -, -⟩ := h.atToken.quoted hread
  exact ⟨s', h.leads _ hw (isReady_cons (by decide)) ((token_quote h.atToken.rest).trans hquoted) hs'
    rfl, hs'⟩

/-- Spaces do not make a place forgotten that is on the line and not too far back. -/
theorem Stands.keyStart?_atToken {spaces : Nat} {start : KeyStart}
    (h : Stands depth read (List.replicate spaces ' ' ++ ahead) s)
    (hstart : s.keyStart? = some start) (hline : start.line = s.cursor.line)
    (hleft : start.left ≤ ahead.length + 1024) :
    (s.atToken (List.replicate spaces ' ')).keyStart? = some start := by
  have hbehind := h.behind
  have hbehindLine : (s.behind (List.replicate spaces ' ')).cursor.line = s.cursor.line := by
    refine Cursor.line_skip fun ch hch => ?_
    rw [h.rest, List.take_left] at hch
    rw [List.eq_of_mem_replicate hch]
    rfl
  have hkept : (s.behind (List.replicate spaces ' ')).keyStart? = some start := hstart
  have hstale : isStale (s.behind (List.replicate spaces ' ')).cursor start = false := by
    rw [isStale, hbehindLine, hbehind.fits, hbehind.rest, hline, bne_self_eq_false, Bool.false_or,
      decide_eq_false_iff_not]
    exact Nat.not_lt.mpr hleft
  rw [Scan.atToken, keyStart?_refreshed, hkept]
  simp [fresh, Option.filter, hstale]

/-- A key stands on one line with its colon, not too far in front of it. -/
theorem Stands.leads_key {front text : List Char} {spaces : Nat}
    (h : Stands (depth + 1) read
      (w ++ '"' :: (front ++ (List.replicate spaces ' ' ++ ':' :: ahead))) s)
    (hw : IsSpacing w) (hallowed : s.keyAllowed = true)
    (hread : Quoted.read .double (front ++ (List.replicate spaces ' ' ++ ':' :: ahead)) =
      .ok (text, List.replicate spaces ' ' ++ ':' :: ahead))
    (hline : ∀ ch ∈ front, isBreak ch = false) (hlength : front.length + 1 + spaces ≤ 1024) :
    ∃ s', Leads s s' ∧
      Stands (depth + 1) (read ++ [.key, .scalar (String.ofList text) false, .value]) ahead s' := by
  have hat := h.atToken
  obtain ⟨s₁, hquoted, hs₁, hcursor, hkey⟩ := hat.quoted hread
  have hallowed' : (s.atToken w).keyAllowed = true := by
    show (s.keyAllowed || _) = true
    rw [hallowed, Bool.true_or]
  have hlineKept : (s.atToken w).cursor.line = s₁.cursor.line := by
    rw [hcursor]
    refine (Cursor.line_skip fun ch hch => ?_).symm
    rw [hat.rest, List.take_succ_cons, List.take_left] at hch
    obtain rfl | hch := List.mem_cons.mp hch
    · rfl
    · exact hline ch hch
  have hleft : (s.atToken w).cursor.left ≤ (':' :: ahead).length + 1024 := by
    rw [hat.fits, hat.rest]
    simp only [List.length_cons, List.length_append, List.length_replicate]
    omega
  have hcolon := hs₁.atToken
  obtain ⟨s₂, hvalue, hs₂⟩ :=
    hcolon.value (hs₁.keyStart?_atToken (hkey hallowed') hlineKept hleft) rfl
  have hspacing : IsSpacing (List.replicate spaces ' ') :=
    fun ch hch => .inl (List.eq_of_mem_replicate hch)
  have hfirst : Leads s s₁ :=
    h.leads _ hw (isReady_cons (by decide)) ((token_quote hat.rest).trans hquoted) hs₁ rfl
  exact ⟨s₂, hfirst.trans (hs₁.leads [] hspacing (isReady_cons (by decide))
    ((token_colon hcolon.rest hcolon.inFlow).trans hvalue) hs₂ rfl), hs₂⟩

theorem isReady_word {cs : List Char} (hcs : IsWord cs) : IsReady (cs ++ ahead) := by
  have hall :
      '-' :: "0123456789tfn".toList |>.all (fun c => c != ' ' && c != '#' && !isBreak c) := rfl
  have hready : ∀ c ∈ '-' :: "0123456789tfn".toList, c ≠ ' ' ∧ c ≠ '#' ∧ isBreak c = false := by
    intro c hc
    simpa [and_assoc] using List.all_eq_true.mp hall c hc
  obtain ⟨c, rest, rfl, hc⟩ | ⟨d, rest, rfl, -⟩ := hcs.begins
  · exact isReady_cons (hready c (List.mem_cons_of_mem _ hc))
  · exact isReady_cons (hready '-' List.mem_cons_self)

theorem token_eq_plain {cs rest : List Char} (hcs : IsWord cs) (h : s.cursor.rest = cs ++ rest) :
    s.token = s.plain := by
  obtain ⟨c, cs, rfl, hc⟩ | ⟨d, cs, rfl, hd⟩ := hcs.begins
  · exact token_word h hc
  · exact token_minus h hd

/-- A word is read as a plain scalar, and the blanks behind it are passed. -/
theorem Stands.leads_word {w' cs : List Char} {e : Char}
    (h : Stands (depth + 1) read (w ++ (cs ++ (w' ++ e :: ahead))) s) (hw : IsSpacing w)
    (hcs : IsWord cs) (hw' : IsSpacing w') (he : IsEnd e) :
    ∃ s', Leads s s' ∧
      Stands (depth + 1) (read ++ [.scalar (String.ofList cs) true]) (e :: ahead) s' := by
  have hat := h.atToken
  obtain ⟨c, rest, rfl⟩ := List.exists_cons_of_ne_nil hcs.ne_nil
  have hread : ∀ indent,
      (Plain.read true indent (c :: rest ++ (w' ++ e :: ahead)).length
        (c :: rest ++ (w' ++ e :: ahead))).text = c :: rest ∧
      (Plain.read true indent (c :: rest ++ (w' ++ e :: ahead)).length
        (c :: rest ++ (w' ++ e :: ahead))).rest = e :: ahead :=
    fun indent => plain_read hcs hw' he (by simp)
  have hfront : c :: rest ++ (w' ++ e :: ahead) = (c :: rest ++ w') ++ e :: ahead :=
    (List.append_assoc _ _ _).symm
  have htoken := token_eq_plain hcs hat.rest
  rw [hfront] at hat hread
  obtain ⟨s', hplain, hs'⟩ := hat.plain hread
  exact ⟨s', h.leads _ hw (isReady_word hcs) (htoken.trans hplain) hs'
    (List.append_assoc rest w' (e :: ahead)).symm, hs'⟩

end Scan

end DomainCompiler.Yaml

namespace DomainCompiler.Json

open Yaml Yaml.Scan

/-! ### The tokens of a tree -/

mutual

def Tree.tokens : Tree → List Token
  | .null => [.scalar "null" true]
  | .bool true => [.scalar "true" true]
  | .bool false => [.scalar "false" true]
  | .number n => [.scalar (String.ofList n.chars) true]
  | .string s => [.scalar s.value false]
  | .emptyArray _ => [.flowSequence, .flowSequenceEnd]
  | .array items => .flowSequence :: items.tokens ++ [.flowSequenceEnd]
  | .emptyObject _ => [.flowMapping, .flowMappingEnd]
  | .object members => .flowMapping :: members.tokens ++ [.flowMappingEnd]

def Items.tokens : Items → List Token
  | .one _ item _ => item.tokens
  | .more _ item _ rest => item.tokens ++ .separator :: rest.tokens

def Members.tokens : Members → List Token
  | .one _ key _ _ value _ => [.key, .scalar key.value false, .value] ++ value.tokens
  | .more _ key _ _ value _ rest =>
    [.key, .scalar key.value false, .value] ++ value.tokens ++ .separator :: rest.tokens

end

theorem Number.isWord_chars (n : Number) : IsWord n.chars := by
  refine ⟨fun c hc => List.mem_append_left _ (n.mem_numerals hc), ?_⟩
  obtain ⟨rest, hrest⟩ := n.magnitudeChars_eq_cons
  rw [chars, hrest]
  cases n.negative with
  | true => exact .inr ⟨_, rest, rfl, isDigit_char _⟩
  | false =>
    have hdigits : ∀ d : Digit, d.char ∈ "0123456789tfn".toList := by decide
    exact .inl ⟨_, rest, rfl, hdigits _⟩

theorem isWord_of_all {c : Char} {cs : List Char} (hc : c ∈ "0123456789tfn".toList)
    (hall : (c :: cs).all wordChars.contains = true) : IsWord (c :: cs) :=
  ⟨fun _ hx => List.contains_iff_mem.mp (List.all_eq_true.mp hall _ hx), .inl ⟨c, cs, rfl, hc⟩⟩

theorem isWord_null : IsWord "null".toList :=
  isWord_of_all (by decide) rfl

theorem isWord_bool (b : Bool) (w : Spacing) : IsWord ((Tree.bool b).written w) := by
  cases b
  · exact isWord_of_all (c := 'f') (by decide) rfl
  · exact isWord_of_all (c := 't') (by decide) rfl

theorem Piece.isReadable_of_mem {p : Piece} (hp : p.isShared = true) {c : Char}
    (hc : c ∈ p.chars) : isReadable c = true ∧ isBreak c = false := by
  have hhex : ∀ d : HexDigit, isReadable d.char = true ∧ isBreak d.char = false := by
    intro d
    obtain ⟨value, capital⟩ := d
    revert value capital
    decide
  cases p with
  | raw c' hc' =>
    obtain rfl := List.mem_singleton.mp hc
    simpa [Piece.isShared] using hp
  | escape e =>
    have hletter : isReadable e.letter = true ∧ isBreak e.letter = false := by
      cases e <;> decide
    obtain rfl | hc := List.mem_cons.mp hc
    · decide
    · rw [List.mem_singleton.mp hc]
      exact hletter
  | code x y z u =>
    simp only [Piece.chars, List.mem_cons, List.not_mem_nil, or_false] at hc
    obtain rfl | rfl | rfl | rfl | rfl | rfl := hc
    · decide
    · decide
    · exact hhex x
    · exact hhex y
    · exact hhex z
    · exact hhex u

theorem isReadable_of_mem_body {s : Str} (hs : s.all Piece.isShared = true) {c : Char}
    (hc : c ∈ s.body) : isReadable c = true ∧ isBreak c = false := by
  obtain ⟨p, hp, hc⟩ := List.mem_flatMap.mp hc
  exact Piece.isReadable_of_mem (List.all_eq_true.mp hs p hp) hc

section

variable {depth : Nat} {read : List Token} {w w' ahead : List Char} {e : Char} {s : Scan}

theorem leads_plain {cs : List Char} (hcs : IsWord cs)
    (h : Stands (depth + 1) read (w ++ (cs ++ (w' ++ e :: ahead))) s) (hw : IsSpacing w)
    (hw' : IsSpacing w') (he : IsEnd e) :
    ∃ s' w'', IsSpacing w'' ∧ Leads s s' ∧
      Stands (depth + 1) (read ++ [.scalar (String.ofList cs) true]) (w'' ++ e :: ahead) s' := by
  obtain ⟨s', hleads, hs'⟩ := h.leads_word hw hcs hw' he
  exact ⟨s', [], nofun, hleads, hs'⟩

theorem leads_string {str : Str} (hstr : str.all Piece.isShared = true)
    (h : Stands depth read (w ++ (str.chars ++ ahead)) s) (hw : IsSpacing w) :
    ∃ s', Leads s s' ∧ Stands depth (read ++ [.scalar str.value false]) ahead s' := by
  have hchars : str.chars ++ ahead = '"' :: (str.body ++ ['"'] ++ ahead) := rfl
  rw [hchars] at h
  have hread := read_body hstr ahead
  obtain ⟨s', hleads, hs'⟩ := h.leads_quoted hw (by simpa using hread)
  rw [String.ofList_toList] at hs'
  exact ⟨s', hleads, hs'⟩

theorem leads_member {key : Str} {behind : List Blank} (hkey : key.isSharedKey behind = true)
    (h : Stands (depth + 1) read (w ++ (key.chars ++ (unified behind ++ ':' :: ahead))) s)
    (hw : IsSpacing w) (hallowed : s.keyAllowed = true) :
    ∃ s', Leads s s' ∧
      Stands (depth + 1) (read ++ [.key, .scalar key.value false, .value]) ahead s' := by
  simp only [Str.isSharedKey, Bool.and_eq_true, decide_eq_true_eq] at hkey
  obtain ⟨⟨hstr, hbehind⟩, hlength⟩ := hkey
  rw [unified_spaces hbehind] at h
  have hread := read_body hstr (List.replicate behind.length ' ' ++ ':' :: ahead)
  have hkeyChars : key.chars ++ (List.replicate behind.length ' ' ++ ':' :: ahead) =
      '"' :: (key.body ++ ['"'] ++ (List.replicate behind.length ' ' ++ ':' :: ahead)) := rfl
  rw [hkeyChars] at h
  have hline : ∀ c ∈ key.body ++ ['"'], isBreak c = false := by
    intro c hc
    obtain hc | hc := List.mem_append.mp hc
    · exact (isReadable_of_mem_body hstr hc).2
    · rw [List.mem_singleton.mp hc]
      rfl
  have hnear : (key.body ++ ['"']).length + 1 + behind.length ≤ 1024 := by
    simpa [Str.chars, keyLimit] using hlength
  obtain ⟨s', hleads, hs'⟩ := h.leads_key hw hallowed (by simpa using hread) hline hnear
  rw [String.ofList_toList] at hs'
  exact ⟨s', hleads, hs'⟩

theorem leads_emptyArray {blanks : List Blank} (hblanks : areShared blanks = true)
    (h : Stands depth read (w ++ ((Tree.emptyArray blanks).written unified ++ ahead)) s)
    (hw : IsSpacing w) :
    ∃ s', Leads s s' ∧ Stands depth (read ++ (Tree.emptyArray blanks).tokens) ahead s' := by
  simp only [Tree.written, List.cons_append, List.append_assoc, List.nil_append] at h
  obtain ⟨s₁, hopen, hs₁, -⟩ := h.leads_open (t := .flowSequence) hw (.inl ⟨rfl, rfl⟩)
  obtain ⟨s₂, hclose, hs₂⟩ :=
    hs₁.leads_close (t := .flowSequenceEnd) (isSpacing_unified hblanks) (.inl ⟨rfl, rfl⟩)
  rw [List.append_assoc] at hs₂
  exact ⟨s₂, hopen.trans hclose, hs₂⟩

theorem leads_emptyObject {blanks : List Blank} (hblanks : areShared blanks = true)
    (h : Stands depth read (w ++ ((Tree.emptyObject blanks).written unified ++ ahead)) s)
    (hw : IsSpacing w) :
    ∃ s', Leads s s' ∧ Stands depth (read ++ (Tree.emptyObject blanks).tokens) ahead s' := by
  simp only [Tree.written, List.cons_append, List.append_assoc, List.nil_append] at h
  obtain ⟨s₁, hopen, hs₁, -⟩ := h.leads_open (t := .flowMapping) hw (.inr ⟨rfl, rfl⟩)
  obtain ⟨s₂, hclose, hs₂⟩ :=
    hs₁.leads_close (t := .flowMappingEnd) (isSpacing_unified hblanks) (.inr ⟨rfl, rfl⟩)
  rw [List.append_assoc] at hs₂
  exact ⟨s₂, hopen.trans hclose, hs₂⟩

end

mutual

/-- A value is read as its tokens; the blanks behind a word are passed with it. -/
theorem Tree.leads (t : Tree) (ht : t.isShared = true) {depth : Nat} {read : List Token}
    {w w' ahead : List Char} {e : Char} {s : Scan}
    (h : Stands (depth + 1) read (w ++ (t.written unified ++ (w' ++ e :: ahead))) s)
    (hw : IsSpacing w) (hw' : IsSpacing w') (he : IsEnd e) :
    ∃ s' w'', IsSpacing w'' ∧ Leads s s' ∧
      Stands (depth + 1) (read ++ t.tokens) (w'' ++ e :: ahead) s' := by
  cases t with
  | null => exact leads_plain isWord_null h hw hw' he
  | bool b =>
    have hword := isWord_bool b unified
    cases b
    · exact leads_plain hword h hw hw' he
    · exact leads_plain hword h hw hw' he
  | number n => exact leads_plain n.isWord_chars h hw hw' he
  | string str =>
    obtain ⟨s', hleads, hs'⟩ := leads_string ht h hw
    exact ⟨s', w', hw', hleads, hs'⟩
  | emptyArray blanks =>
    obtain ⟨s', hleads, hs'⟩ := leads_emptyArray ht h hw
    exact ⟨s', w', hw', hleads, hs'⟩
  | array items =>
    simp only [Tree.written, List.cons_append, List.append_assoc, List.nil_append] at h
    obtain ⟨s₁, hopen, hs₁, -⟩ := h.leads_open (t := .flowSequence) hw (.inl ⟨rfl, rfl⟩)
    obtain ⟨s₂, hitems, hs₂⟩ := items.leads ht hs₁
    rw [List.append_assoc] at hs₂
    exact ⟨s₂, w', hw', hopen.trans hitems, hs₂⟩
  | emptyObject blanks =>
    obtain ⟨s', hleads, hs'⟩ := leads_emptyObject ht h hw
    exact ⟨s', w', hw', hleads, hs'⟩
  | object members =>
    simp only [Tree.written, List.cons_append, List.append_assoc, List.nil_append] at h
    obtain ⟨s₁, hopen, hs₁, hallowed⟩ := h.leads_open (t := .flowMapping) hw (.inr ⟨rfl, rfl⟩)
    obtain ⟨s₂, hmembers, hs₂⟩ := members.leads ht hs₁ hallowed
    rw [List.append_assoc] at hs₂
    exact ⟨s₂, w', hw', hopen.trans hmembers, hs₂⟩

/-- The items are read up to the end of the array. -/
theorem Items.leads (items : Items) (hitems : items.areShared = true) {depth : Nat}
    {read : List Token} {ahead : List Char} {s : Scan}
    (h : Stands (depth + 1) read (items.written unified ++ ']' :: ahead) s) :
    ∃ s', Leads s s' ∧ Stands depth (read ++ (items.tokens ++ [.flowSequenceEnd])) ahead s' := by
  cases items with
  | one before item after =>
    simp only [Items.areShared, Bool.and_eq_true] at hitems
    obtain ⟨⟨hbefore, hitem⟩, hafter⟩ := hitems
    simp only [Items.written, List.append_assoc] at h
    obtain ⟨s₁, w, hw, hvalue, hs₁⟩ := item.leads hitem h (isSpacing_unified hbefore)
      (isSpacing_unified hafter) (.inr (.inl rfl))
    obtain ⟨s₂, hclose, hs₂⟩ := hs₁.leads_close (t := .flowSequenceEnd) hw (.inl ⟨rfl, rfl⟩)
    rw [List.append_assoc] at hs₂
    exact ⟨s₂, hvalue.trans hclose, hs₂⟩
  | more before item after rest =>
    simp only [Items.areShared, Bool.and_eq_true] at hitems
    obtain ⟨⟨⟨hbefore, hitem⟩, hafter⟩, hrest⟩ := hitems
    simp only [Items.written, List.append_assoc, List.cons_append] at h
    obtain ⟨s₁, w, hw, hvalue, hs₁⟩ := item.leads hitem h (isSpacing_unified hbefore)
      (isSpacing_unified hafter) (.inl rfl)
    obtain ⟨s₂, hcomma, hs₂, -⟩ := hs₁.leads_comma hw
    obtain ⟨s₃, hmore, hs₃⟩ := rest.leads hrest hs₂
    refine ⟨s₃, hvalue.trans (hcomma.trans hmore), ?_⟩
    simpa [Items.tokens] using hs₃

/-- The members are read up to the end of the object. -/
theorem Members.leads (members : Members) (hmembers : members.areShared = true) {depth : Nat}
    {read : List Token} {ahead : List Char} {s : Scan}
    (h : Stands (depth + 1) read (members.written unified ++ '}' :: ahead) s)
    (hallowed : s.keyAllowed = true) :
    ∃ s', Leads s s' ∧ Stands depth (read ++ (members.tokens ++ [.flowMappingEnd])) ahead s' := by
  cases members with
  | one before key behind before' value after =>
    simp only [Members.areShared, Bool.and_eq_true] at hmembers
    obtain ⟨⟨⟨⟨hbefore, hkey⟩, hbefore'⟩, hvalue⟩, hafter⟩ := hmembers
    simp only [Members.written, List.append_assoc, List.cons_append] at h
    obtain ⟨s₁, hstart, hs₁⟩ := leads_member hkey h (isSpacing_unified hbefore) hallowed
    obtain ⟨s₂, w, hw, hmember, hs₂⟩ := value.leads hvalue hs₁ (isSpacing_unified hbefore')
      (isSpacing_unified hafter) (.inr (.inr rfl))
    obtain ⟨s₃, hclose, hs₃⟩ := hs₂.leads_close (t := .flowMappingEnd) hw (.inr ⟨rfl, rfl⟩)
    refine ⟨s₃, hstart.trans (hmember.trans hclose), ?_⟩
    simpa [Members.tokens] using hs₃
  | more before key behind before' value after rest =>
    simp only [Members.areShared, Bool.and_eq_true] at hmembers
    obtain ⟨⟨⟨⟨⟨hbefore, hkey⟩, hbefore'⟩, hvalue⟩, hafter⟩, hrest⟩ := hmembers
    simp only [Members.written, List.append_assoc, List.cons_append] at h
    obtain ⟨s₁, hstart, hs₁⟩ := leads_member hkey h (isSpacing_unified hbefore) hallowed
    obtain ⟨s₂, w, hw, hmember, hs₂⟩ := value.leads hvalue hs₁ (isSpacing_unified hbefore')
      (isSpacing_unified hafter) (.inl rfl)
    obtain ⟨s₃, hcomma, hs₃, hallowed'⟩ := hs₂.leads_comma hw
    obtain ⟨s₄, hmore, hs₄⟩ := rest.leads hrest hs₃ hallowed'
    refine ⟨s₄, hstart.trans (hmember.trans (hcomma.trans hmore)), ?_⟩
    simpa [Members.tokens] using hs₄

end

/-! ### Characters of a text -/

def AreReadable (cs : List Char) : Prop :=
  ∀ c ∈ cs, isReadable c = true

theorem AreReadable.append {cs cs' : List Char} (h : AreReadable cs) (h' : AreReadable cs') :
    AreReadable (cs ++ cs') :=
  List.forall_mem_append.mpr ⟨h, h'⟩

theorem AreReadable.cons {c : Char} {cs : List Char} (hc : isReadable c = true)
    (h : AreReadable cs) : AreReadable (c :: cs) :=
  List.forall_mem_cons.mpr ⟨hc, h⟩

theorem areReadable_nil : AreReadable [] := nofun

theorem areReadable_unified {blanks : List Blank} (h : areShared blanks = true) :
    AreReadable (unified blanks) := by
  intro c hc
  obtain rfl | rfl := isSpacing_unified h c hc <;> rfl

theorem areReadable_word {cs : List Char} (h : IsWord cs) : AreReadable cs := by
  have hall : wordChars.all isReadable = true := rfl
  exact fun c hc => List.all_eq_true.mp hall c (h.chars c hc)

theorem areReadable_string {s : Str} (hs : s.all Piece.isShared = true) : AreReadable s.chars :=
  .cons rfl (.append (fun _ hc => (isReadable_of_mem_body hs hc).1) (.cons rfl areReadable_nil))

theorem areReadable_key {key : Str} {behind : List Blank} (h : key.isSharedKey behind = true) :
    AreReadable key.chars ∧ AreReadable (unified behind) := by
  simp only [Str.isSharedKey, Bool.and_eq_true] at h
  refine ⟨areReadable_string h.1.1, ?_⟩
  rw [unified_spaces h.1.2]
  intro c hc
  rw [List.eq_of_mem_replicate hc]
  rfl

mutual

theorem Tree.areReadable_written (t : Tree) (ht : t.isShared = true) :
    AreReadable (t.written unified) := by
  cases t with
  | null => exact areReadable_word isWord_null
  | bool b => exact areReadable_word (isWord_bool b unified)
  | number n => exact areReadable_word n.isWord_chars
  | string s => exact areReadable_string ht
  | emptyArray blanks =>
    exact .cons rfl ((areReadable_unified ht).append (.cons rfl areReadable_nil))
  | array items =>
    exact .cons rfl ((items.areReadable_written ht).append (.cons rfl areReadable_nil))
  | emptyObject blanks =>
    exact .cons rfl ((areReadable_unified ht).append (.cons rfl areReadable_nil))
  | object members =>
    exact .cons rfl ((members.areReadable_written ht).append (.cons rfl areReadable_nil))

theorem Items.areReadable_written (items : Items) (hitems : items.areShared = true) :
    AreReadable (items.written unified) := by
  cases items with
  | one before item after =>
    simp only [Items.areShared, Bool.and_eq_true] at hitems
    obtain ⟨⟨hbefore, hitem⟩, hafter⟩ := hitems
    exact ((areReadable_unified hbefore).append (item.areReadable_written hitem)).append
      (areReadable_unified hafter)
  | more before item after rest =>
    simp only [Items.areShared, Bool.and_eq_true] at hitems
    obtain ⟨⟨⟨hbefore, hitem⟩, hafter⟩, hrest⟩ := hitems
    exact (((areReadable_unified hbefore).append (item.areReadable_written hitem)).append
      (areReadable_unified hafter)).append (.cons rfl (rest.areReadable_written hrest))

theorem Members.areReadable_written (members : Members) (hmembers : members.areShared = true) :
    AreReadable (members.written unified) := by
  cases members with
  | one before key behind before' value after =>
    simp only [Members.areShared, Bool.and_eq_true] at hmembers
    obtain ⟨⟨⟨⟨hbefore, hkey⟩, hbefore'⟩, hvalue⟩, hafter⟩ := hmembers
    obtain ⟨hkeyChars, hbehind⟩ := areReadable_key hkey
    have hcolon := AreReadable.cons (c := ':') rfl (areReadable_unified hbefore')
    exact (((((areReadable_unified hbefore).append hkeyChars).append hbehind).append hcolon).append
      (value.areReadable_written hvalue)).append (areReadable_unified hafter)
  | more before key behind before' value after rest =>
    simp only [Members.areShared, Bool.and_eq_true] at hmembers
    obtain ⟨⟨⟨⟨⟨hbefore, hkey⟩, hbefore'⟩, hvalue⟩, hafter⟩, hrest⟩ := hmembers
    obtain ⟨hkeyChars, hbehind⟩ := areReadable_key hkey
    have hcolon := AreReadable.cons (c := ':') rfl (areReadable_unified hbefore')
    have hmember := ((((areReadable_unified hbefore).append hkeyChars).append hbehind).append
      hcolon).append (value.areReadable_written hvalue)
    exact (hmember.append (areReadable_unified hafter)).append
      (.cons rfl (rest.areReadable_written hrest))

end

/-! ### The tokens of a text -/

/-- The value is an object. -/
def Tree.IsObject : Tree → Prop
  | .emptyObject _ => True
  | .object _ => True
  | _ => False

/-- An object is read from outside of brackets. -/
theorem Tree.leads_object {t : Tree} (hobject : t.IsObject) (ht : t.isShared = true)
    {depth : Nat} {read : List Token} {w ahead : List Char} {s : Scan}
    (h : Stands depth read (w ++ (t.written unified ++ ahead)) s) (hw : IsSpacing w) :
    ∃ s', Leads s s' ∧ Stands depth (read ++ t.tokens) ahead s' := by
  cases t with
  | emptyObject blanks => exact leads_emptyObject ht h hw
  | object members =>
    simp only [Tree.written, List.cons_append, List.append_assoc, List.nil_append] at h
    obtain ⟨s₁, hopen, hs₁, hallowed⟩ := h.leads_open (t := .flowMapping) hw (.inr ⟨rfl, rfl⟩)
    obtain ⟨s₂, hmembers, hs₂⟩ := members.leads ht hs₁ hallowed
    rw [List.append_assoc] at hs₂
    exact ⟨s₂, hopen.trans hmembers, hs₂⟩
  | _ => exact hobject.elim

/-- The scanner finds the tokens of the tree and no fault. -/
theorem Document.ofText_written {d : Document} (hd : d.isShared = true) (hroot : d.root.IsObject) :
    Tokens.ofText (d.written unified) = ⟨d.root.tokens, none⟩ := by
  simp only [Document.isShared, Bool.and_eq_true] at hd
  obtain ⟨⟨⟨hbefore, hshared⟩, hafter⟩, -⟩ := hd
  have hreadable : AreReadable (d.written unified) :=
    ((areReadable_unified hbefore).append (d.root.areReadable_written hshared)).append
      (areReadable_unified hafter)
  have hmark : (next (d.written unified) == '\uFEFF') = false := by
    obtain ⟨before, root, after⟩ := d
    have hspacing := isSpacing_unified hbefore
    rw [Document.written]
    cases hunified : unified before with
    | nil => cases root <;> first | rfl | exact hroot.elim
    | cons c w =>
      rw [hunified] at hspacing
      obtain rfl | rfl := hspacing c List.mem_cons_self <;> rfl
  have hstart : Stands 0 [] (unified d.before ++ (d.root.written unified ++ unified d.after))
      (Scan.start (d.written unified)) := by
    rw [← List.append_assoc]
    exact stands_start _
  obtain ⟨s, hleads, hs⟩ := d.root.leads_object hroot hshared hstart (isSpacing_unified hbefore)
  obtain ⟨fuel, hfuel, heq⟩ := hleads ((d.written unified).length + 2) (Nat.le_refl _)
  rw [Tokens.ofText, if_pos (List.all_eq_true.mpr hreadable), hmark, if_neg Bool.false_ne_true, heq]
  rw [hs.rest] at hfuel
  exact hs.ofScan_of_end (isSpacing_unified hafter) (by omega)

end DomainCompiler.Json
