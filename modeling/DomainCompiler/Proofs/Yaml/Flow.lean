import DomainCompiler.Proofs.Json.Spacing
import DomainCompiler.Proofs.Json.Strings
import DomainCompiler.Proofs.Yaml.Scanning

/-!
# Tokens inside of brackets

Where no block collection is open, the state of the scanner is told by the tokens read, the text
ahead and the number of open brackets. One lemma for each kind of token says what it does there. A
place where a key may begin only counts if a colon comes soon enough, and there is no key that has
to stand at a place.
-/

namespace DomainCompiler.Yaml

open Json (IsSpacing startsMarker_cons_of_ne)

/-! ### Places in the text -/

namespace Cursor

variable {c : Cursor}

/-- The number of characters behind the place is right. -/
def Fits (c : Cursor) : Prop :=
  c.left = c.rest.length

@[simp] theorem rest_step (c : Cursor) : c.step.rest = c.rest.tail := by
  rw [step]
  split
  · next h => rw [h]; rfl
  · next h =>
    rw [h]
    split
    · rfl
    · split <;> rfl

theorem Fits.step (h : c.Fits) : c.step.Fits := by
  have hleft : c.step.left = c.left - 1 := by
    rw [Cursor.step]
    split
    · next hnil => rw [h, hnil]; rfl
    · split
      · rfl
      · split <;> rfl
  rw [Fits, hleft, rest_step, h, List.length_tail]

@[simp] theorem rest_skip (n : Nat) (c : Cursor) : (c.skip n).rest = c.rest.drop n := by
  induction n generalizing c with
  | zero => rfl
  | succ n ih => rw [skip_succ, ih, rest_step, List.drop_tail]

theorem Fits.skip (h : c.Fits) (n : Nat) : (c.skip n).Fits := by
  induction n generalizing c with
  | zero => exact h
  | succ n ih => exact ih h.step

/-- The line stays where no line ends. -/
theorem line_skip {n : Nat} (h : ∀ ch ∈ c.rest.take n, isBreak ch = false) :
    (c.skip n).line = c.line := by
  induction n generalizing c with
  | zero => rfl
  | succ n ih =>
    cases hrest : c.rest with
    | nil =>
      have hstep : c.step = c := by rw [step, hrest]
      rw [skip_succ, hstep]
      exact ih (by rw [hrest]; simp)
    | cons ch rest =>
      rw [hrest, List.take_succ_cons, List.forall_mem_cons] at h
      have hstep : c.step.line = c.line := by
        rw [step, hrest]
        simp only [h.1]
        split
        · next hbreak => cases hbreak
        · split <;> rfl
      rw [skip_succ, ih (by rw [rest_step, hrest]; exact h.2), hstep]

theorem moveTo_eq_skip (front : List Char) {rest : List Char} (h : c.Fits) (hrest : c.rest = front ++ rest) :
    c.moveTo rest = c.skip front.length := by
  rw [moveTo, h, hrest, List.length_append, Nat.add_sub_cancel]

end Cursor

/-! ### The state of the scanner -/

namespace Scan

/-- No key has to stand at the place. -/
def IsOptional (k : Option KeyStart) : Prop :=
  ∀ k' ∈ k, k'.required = false

/-- The tokens were read, the text is ahead and so many brackets are open, but no block
collection. -/
structure Stands (depth : Nat) (read : List Token) (ahead : List Char) (s : Scan) : Prop where
  rest : s.cursor.rest = ahead
  fits : s.cursor.Fits
  tokens : s.tokens = read.reverse
  count : s.count = read.length
  indents : s.indents = []
  flowKeys : s.flowKeys.length = depth
  optional : ∀ k ∈ s.blockKey :: s.flowKeys, IsOptional k

variable {s : Scan} {depth : Nat} {read : List Token} {ahead w : List Char} {t : Token} {c : Char}
  {k : Option KeyStart}

theorem stands_start (text : List Char) : Stands 0 [] text (start text) where
  rest := rfl
  fits := rfl
  tokens := rfl
  count := rfl
  indents := rfl
  flowKeys := rfl
  optional k hk := by
    obtain rfl := List.mem_singleton.mp hk
    exact nofun

theorem Stands.inFlow (h : Stands (depth + 1) read ahead s) : s.inFlow = true := by
  cases hkeys : s.flowKeys with
  | nil =>
    have hlength := h.flowKeys
    rw [hkeys] at hlength
    cases hlength
  | cons k keys => rw [Scan.inFlow, hkeys]; rfl

theorem Stands.keyStart? (h : Stands depth read ahead s) : IsOptional s.keyStart? := by
  rw [Scan.keyStart?]
  cases hkeys : s.flowKeys with
  | nil => exact h.optional _ List.mem_cons_self
  | cons k keys => exact h.optional k (by rw [hkeys]; simp)

theorem Stands.setKeyStart (h : Stands depth read ahead s) (hk : IsOptional k) :
    Stands depth read ahead (s.setKeyStart k) := by
  obtain ⟨hrest, hfits, htokens, hcount, hindents, hflowKeys, hoptional⟩ := h
  obtain ⟨cursor, tokens, count, indents, flowKeys, blockKey, keyAllowed⟩ := s
  rw [List.forall_mem_cons] at hoptional
  cases flowKeys with
  | nil =>
    exact ⟨hrest, hfits, htokens, hcount, hindents, hflowKeys,
      List.forall_mem_cons.mpr ⟨hk, hoptional.2⟩⟩
  | cons k' keys =>
    have hkeys : ∀ k ∈ keys, IsOptional k :=
      fun k hmem => hoptional.2 k (List.mem_cons_of_mem _ hmem)
    exact ⟨hrest, hfits, htokens, hcount, hindents, hflowKeys,
      List.forall_mem_cons.mpr ⟨hoptional.1, List.forall_mem_cons.mpr ⟨hk, hkeys⟩⟩⟩

@[simp] theorem keyStart?_setKeyStart (s : Scan) (k : Option KeyStart) :
    (s.setKeyStart k).keyStart? = k := by
  obtain ⟨cursor, tokens, count, indents, flowKeys, blockKey, keyAllowed⟩ := s
  cases flowKeys <;> rfl

@[simp] theorem keyAllowed_setKeyStart (s : Scan) (k : Option KeyStart) :
    (s.setKeyStart k).keyAllowed = s.keyAllowed := by
  obtain ⟨cursor, tokens, count, indents, flowKeys, blockKey, keyAllowed⟩ := s
  cases flowKeys <;> rfl

theorem isOptional_none : IsOptional none := nofun

/-- A place without a key is forgotten. -/
theorem dropKey_eq (h : Stands depth read ahead s) :
    ∃ s', s.dropKey = .ok s' ∧ Stands depth read ahead s' ∧ s'.cursor = s.cursor ∧
      s'.keyAllowed = s.keyAllowed := by
  rw [dropKey]
  cases hkey : s.keyStart? with
  | none => exact ⟨s, rfl, h, rfl, rfl⟩
  | some k =>
    have hrequired := h.keyStart? k (by rw [hkey]; rfl)
    refine ⟨s.setKeyStart none, ?_, h.setKeyStart isOptional_none, cursor_setKeyStart none,
      keyAllowed_setKeyStart s none⟩
    dsimp only
    rw [hrequired, if_neg Bool.false_ne_true]

/-- A place where a key may begin is remembered. -/
theorem saveKey_eq (h : Stands depth read ahead s) :
    ∃ s', s.saveKey = .ok s' ∧ Stands depth read ahead s' ∧ s'.cursor = s.cursor ∧
      (s.keyAllowed = true → s'.keyStart? =
        some ⟨read.length, false, s.cursor.left, s.cursor.line, s.cursor.column⟩) := by
  rw [saveKey]
  cases hallowed : s.keyAllowed with
  | false => exact ⟨s, by simp, h, rfl, by simp⟩
  | true =>
    obtain ⟨s', hdrop, hs', hcursor, -⟩ := dropKey_eq h
    have hrequired : (!s.inFlow && s.indents.head? == some s.cursor.column) = false := by
      rw [h.indents]
      exact Bool.and_false _
    refine ⟨s'.setKeyStart (some ⟨s'.count, false, s'.cursor.left, s'.cursor.line,
      s'.cursor.column⟩), ?_, ?_, ?_, ?_⟩
    · rw [hrequired, hdrop]
      rfl
    · apply hs'.setKeyStart
      intro k hk
      cases hk
      rfl
    · rw [cursor_setKeyStart, hcursor]
    · intro _
      rw [keyStart?_setKeyStart, hs'.count, hcursor]

theorem Stands.advance (h : Stands depth read (c :: ahead) s) (t : Token) :
    Stands depth (read ++ [t]) ahead (s.advance t) where
  rest := by
    show s.cursor.step.rest = ahead
    rw [Cursor.rest_step, h.rest]
    rfl
  fits := h.fits.step
  tokens := by
    show t :: s.tokens = _
    rw [h.tokens, List.reverse_append]
    rfl
  count := by
    show s.count + 1 = _
    rw [h.count, List.length_append]
    rfl
  indents := h.indents
  flowKeys := h.flowKeys
  optional := h.optional

theorem Stands.goTo (front : List Char) (h : Stands depth read (front ++ ahead) s) (t : Token) :
    Stands depth (read ++ [t]) ahead ((s.emit t).goTo ahead) where
  rest := by
    show (s.cursor.moveTo ahead).rest = ahead
    rw [Cursor.moveTo_eq_skip front h.fits h.rest, Cursor.rest_skip, h.rest, List.drop_left]
  fits := by
    show (s.cursor.moveTo ahead).Fits
    rw [Cursor.moveTo_eq_skip front h.fits h.rest]
    exact h.fits.skip _
  tokens := by
    show t :: s.tokens = _
    rw [h.tokens, List.reverse_append]
    rfl
  count := by
    show s.count + 1 = _
    rw [h.count, List.length_append]
    rfl
  indents := h.indents
  flowKeys := h.flowKeys
  optional := h.optional

end Scan


/-! ### Passing blanks -/

theorem Cursor.skipWhile_cons {c : Cursor} {p : Char → Bool} {ch : Char} {rest : List Char}
    (hrest : c.rest = ch :: rest) (hp : p ch = true) : c.skipWhile p = c.step.skipWhile p := by
  have hstep : c.step.rest = rest := by rw [rest_step, hrest]; rfl
  rw [skipWhile, skipWhile, hrest, hstep, List.takeWhile_cons_of_pos hp]
  rfl

theorem Cursor.skipWhile_of_next {c : Cursor} {p : Char → Bool} (h : p (next c.rest) = false) :
    c.skipWhile p = c := by
  have htake : c.rest.takeWhile p = [] := by
    cases hrest : c.rest with
    | nil => rfl
    | cons ch rest =>
      rw [hrest] at h
      exact List.takeWhile_cons_of_neg (Bool.eq_false_iff.mp h)
  rw [skipWhile, htake]
  rfl

/-- The text begins with a token, or it has ended. -/
structure IsReady (ahead : List Char) : Prop where
  notSpace : next ahead ≠ ' '
  notComment : next ahead ≠ '#'
  notBreak : isBreak (next ahead) = false

namespace Scan

/-- The state behind blanks. -/
def behind (w : List Char) (s : Scan) : Scan :=
  { s with
    cursor := s.cursor.skip w.length
    keyAllowed := s.keyAllowed || (w.contains '\n' && !s.inFlow) }

variable {s : Scan} {depth lines : Nat} {read : List Token} {ahead w : List Char} {t : Token}
  {c : Char} {k : Option KeyStart}

theorem passBlank_eq_behind (hrest : s.cursor.rest = w ++ ahead) (hw : IsSpacing w)
    (hahead : IsReady ahead) (hlines : w.length < lines) : s.passBlank lines = s.behind w := by
  induction w generalizing s lines with
  | nil =>
    obtain ⟨fuel, rfl⟩ := Nat.exists_eq_add_one_of_ne_zero (Nat.ne_of_gt hlines)
    have hnext : next s.cursor.rest = next ahead := congrArg next hrest
    have hskip : s.cursor.skipWhile (· == ' ') = s.cursor :=
      Cursor.skipWhile_of_next (by simpa [hnext] using hahead.notSpace)
    simp [passBlank, hskip, hnext, hahead.notComment, hahead.notBreak, behind]
  | cons ch w ih =>
    obtain ⟨fuel, rfl⟩ := Nat.exists_eq_add_one_of_ne_zero (Nat.ne_of_gt (Nat.zero_lt_of_lt hlines))
    have hstep : s.cursor.step.rest = w ++ ahead := by rw [Cursor.rest_step, hrest]; rfl
    obtain rfl | rfl := hw ch List.mem_cons_self
    · have hpass : s.passBlank (fuel + 1) =
          { s with cursor := s.cursor.step }.passBlank (fuel + 1) := by
        rw [passBlank, passBlank, Cursor.skipWhile_cons hrest rfl]
        rfl
      rw [hpass, ih hstep hw.tail (Nat.lt_of_succ_lt hlines)]
      simp [behind, inFlow]
    · have hskip : s.cursor.skipWhile (· == ' ') = s.cursor :=
        Cursor.skipWhile_of_next (by rw [hrest]; rfl)
      have hpass : s.passBlank (fuel + 1) =
          { s with
            cursor := s.cursor.step
            keyAllowed := s.keyAllowed || !s.inFlow }.passBlank fuel := by
        have hnext : next s.cursor.rest = '\n' := by rw [hrest]; rfl
        rw [passBlank, hskip]
        simp [hnext, isBreak]
      rw [hpass, ih hstep hw.tail (Nat.lt_of_succ_lt_succ hlines)]
      have hallowed : ((s.keyAllowed || !s.inFlow) || (w.contains '\n' && !s.inFlow)) =
          (s.keyAllowed || (('\n' :: w).contains '\n' && !s.inFlow)) := by
        cases s.keyAllowed <;> cases s.inFlow <;> simp
      rw [behind, behind, ← hallowed]
      rfl

theorem Stands.behind (h : Stands depth read (w ++ ahead) s) :
    Stands depth read ahead (s.behind w) where
  rest := by
    show (s.cursor.skip w.length).rest = ahead
    rw [Cursor.rest_skip, h.rest, List.drop_left]
  fits := h.fits.skip _
  tokens := h.tokens
  count := h.count
  indents := h.indents
  flowKeys := h.flowKeys
  optional := h.optional

/-- The place if it is not too far back. -/
def fresh (c : Cursor) (k : Option KeyStart) : Option KeyStart :=
  k.filter fun k => !isStale c k

theorem freshKey_eq_fresh {c : Cursor} (hk : IsOptional k) : freshKey c k = .ok (fresh c k) := by
  cases k with
  | none => rfl
  | some k =>
    have hrequired : k.required = false := hk k rfl
    by_cases hstale : isStale c k = true
    · simp [freshKey, fresh, Option.filter, hstale, hrequired]
    · simp [freshKey, fresh, Option.filter, hstale]

theorem isOptional_fresh {c : Cursor} (hk : IsOptional k) : IsOptional (fresh c k) :=
  fun k' hk' => hk k' (Option.filter_eq_some_iff.mp hk').1

/-- The state without the places that are too far back. -/
def refreshed (s : Scan) : Scan :=
  { s with flowKeys := s.flowKeys.map (fresh s.cursor), blockKey := fresh s.cursor s.blockKey }

theorem Stands.dropStale (h : Stands depth read ahead s) : s.dropStale = .ok s.refreshed := by
  obtain ⟨hblock, hflow⟩ := List.forall_mem_cons.mp h.optional
  have hkeys : ∀ ks : List (Option KeyStart), (∀ k ∈ ks, IsOptional k) →
      ks.mapM (freshKey s.cursor) = .ok (ks.map (fresh s.cursor)) := by
    intro ks hks
    induction ks with
    | nil => rfl
    | cons k ks ih =>
      rw [List.forall_mem_cons] at hks
      rw [List.mapM_cons, freshKey_eq_fresh hks.1, ih hks.2]
      rfl
  rw [Scan.dropStale, hkeys s.flowKeys hflow, freshKey_eq_fresh hblock]
  rfl

theorem Stands.refreshed (h : Stands depth read ahead s) : Stands depth read ahead s.refreshed where
  rest := h.rest
  fits := h.fits
  tokens := h.tokens
  count := h.count
  indents := h.indents
  flowKeys := (List.length_map _).trans h.flowKeys
  optional := by
    obtain ⟨hblock, hflow⟩ := List.forall_mem_cons.mp h.optional
    refine List.forall_mem_cons.mpr ⟨isOptional_fresh hblock, fun k hk => ?_⟩
    obtain ⟨k', hk', rfl⟩ := List.mem_map.mp hk
    exact isOptional_fresh (hflow k' hk')

theorem keyStart?_refreshed (s : Scan) : s.refreshed.keyStart? = fresh s.cursor s.keyStart? := by
  obtain ⟨cursor, tokens, count, indents, flowKeys, blockKey, keyAllowed⟩ := s
  cases flowKeys <;> rfl

/-- The state at the token behind blanks. -/
def atToken (w : List Char) (s : Scan) : Scan :=
  (s.behind w).refreshed

theorem Stands.unwind (h : Stands depth read ahead s) (column : Nat) : s.unwind column = s := by
  obtain ⟨cursor, tokens, count, indents, flowKeys, blockKey, keyAllowed⟩ := s
  obtain rfl : indents = [] := h.indents
  rw [Scan.unwind]
  split <;> rfl

theorem Stands.unwindAll (h : Stands depth read ahead s) : s.unwindAll = s := by
  obtain ⟨cursor, tokens, count, indents, flowKeys, blockKey, keyAllowed⟩ := s
  obtain rfl : indents = [] := h.indents
  rw [Scan.unwindAll]
  split <;> rfl

/-- In front of a token blanks are passed, and it is read. -/
theorem Stands.nextToken (h : Stands depth read (w ++ c :: ahead) s) (hw : IsSpacing w)
    (hc : IsReady (c :: ahead)) (hlines : w.length < lines) :
    s.nextToken lines = (s.atToken w).token.map (·, true) := by
  have hbehind := h.behind
  have hat : Stands depth read (c :: ahead) (s.atToken w) := hbehind.refreshed
  rw [Scan.nextToken, passBlank_eq_behind h.rest hw hc hlines, hbehind.dropStale]
  show (do
    if (s.atToken w).cursor.rest.isEmpty then return (← (s.atToken w).finish, false)
    return (← ((s.atToken w).unwind (s.atToken w).cursor.column).token, true)) = _
  rw [hat.rest, hat.unwind]
  cases (s.atToken w).token <;> rfl

/-- Behind the last token nothing is left to be read. -/
theorem Stands.nextToken_of_end (h : Stands 0 read w s) (hw : IsSpacing w)
    (hlines : w.length < lines) :
    ∃ s', s.nextToken lines = .ok (s', false) ∧ s'.tokens = read.reverse := by
  have hend : IsReady [] := ⟨by decide, by decide, by decide⟩
  have hrest : s.cursor.rest = w ++ [] := h.rest.trans (List.append_nil w).symm
  have hbehind : Stands 0 read [] (s.behind w) := Stands.behind ((List.append_nil w).symm ▸ h)
  have hat : Stands 0 read [] (s.atToken w) := hbehind.refreshed
  obtain ⟨s', hdrop, hs', -⟩ := dropKey_eq hat
  refine ⟨s', ?_, hs'.tokens⟩
  rw [Scan.nextToken, passBlank_eq_behind hrest hw hend hlines, hbehind.dropStale]
  show (do
    if (s.atToken w).cursor.rest.isEmpty then return (← (s.atToken w).finish, false)
    return (← ((s.atToken w).unwind (s.atToken w).cursor.column).token, true)) = _
  rw [hat.rest, finish, hat.unwindAll, hdrop]
  rfl

/-! ### Brackets and commas -/

theorem Stands.allow (h : Stands depth read ahead s) (allowed : Bool) :
    Stands depth read ahead { s with keyAllowed := allowed } :=
  ⟨h.rest, h.fits, h.tokens, h.count, h.indents, h.flowKeys, h.optional⟩

theorem Stands.openFlow (h : Stands depth read (c :: ahead) s) (t : Token) :
    ∃ s', s.openFlow t = .ok s' ∧ Stands (depth + 1) (read ++ [t]) ahead s' ∧
      s'.keyAllowed = true := by
  obtain ⟨s', hsave, hs', -, -⟩ := saveKey_eq h
  obtain ⟨hblock, hflow⟩ := List.forall_mem_cons.mp hs'.optional
  have hnext := hs'.advance t
  refine ⟨{ s'.advance t with flowKeys := none :: s'.flowKeys, keyAllowed := true }, ?_, ?_, rfl⟩
  · rw [Scan.openFlow, hsave]
    rfl
  · exact ⟨hnext.rest, hnext.fits, hnext.tokens, hnext.count, hnext.indents,
      congrArg (· + 1) hs'.flowKeys,
      List.forall_mem_cons.mpr ⟨hblock, List.forall_mem_cons.mpr ⟨isOptional_none, hflow⟩⟩⟩

theorem Stands.closeFlow (h : Stands (depth + 1) read (c :: ahead) s) (t : Token) :
    ∃ s', s.closeFlow t = .ok s' ∧ Stands depth (read ++ [t]) ahead s' := by
  obtain ⟨s', hdrop, hs', -, -⟩ := dropKey_eq h
  obtain ⟨hblock, hflow⟩ := List.forall_mem_cons.mp hs'.optional
  have hnext := hs'.advance t
  obtain ⟨k, outer, hkeys⟩ := List.exists_cons_of_length_eq_add_one hs'.flowKeys
  have hlength := hs'.flowKeys
  rw [hkeys] at hlength hflow
  refine ⟨{ s'.advance t with flowKeys := outer, keyAllowed := false }, ?_, ?_⟩
  · simp only [Scan.closeFlow, hdrop, bind, Except.bind, hkeys]
    rfl
  · exact ⟨hnext.rest, hnext.fits, hnext.tokens, hnext.count, hnext.indents,
      Nat.succ.inj hlength, List.forall_mem_cons.mpr ⟨hblock, (List.forall_mem_cons.mp hflow).2⟩⟩

theorem Stands.flowSeparator (h : Stands depth read (c :: ahead) s) :
    ∃ s', s.flowSeparator = .ok s' ∧ Stands depth (read ++ [.separator]) ahead s' ∧
      s'.keyAllowed = true := by
  obtain ⟨s', hdrop, hs', -, -⟩ := dropKey_eq h
  refine ⟨{ s'.advance .separator with keyAllowed := true }, ?_,
    (hs'.advance .separator).allow true, rfl⟩
  rw [Scan.flowSeparator, hdrop]
  rfl

/-! ### Keys -/

theorem Stands.insertKey (h : Stands depth (read ++ [t]) ahead s) :
    Stands depth (read ++ [.key, t]) ahead (s.insertAt read.length [.key]) where
  rest := h.rest
  fits := h.fits
  tokens := by
    have hbehind : s.count - read.length = 1 := by simp [h.count]
    simp [insertAt, hbehind, h.tokens]
  count := by simp [insertAt, h.count]
  indents := h.indents
  flowKeys := h.flowKeys
  optional := h.optional

/-- A colon makes a key of the token in front of it. -/
theorem Stands.value (h : Stands (depth + 1) (read ++ [t]) (c :: ahead) s) {start : KeyStart}
    (hstart : s.keyStart? = some start) (hposition : start.position = read.length) :
    ∃ s', s.value = .ok s' ∧ Stands (depth + 1) (read ++ [.key, t, .value]) ahead s' := by
  have hnone := h.setKeyStart isOptional_none
  have hkey := (hnone.insertKey.advance .value).allow false
  rw [List.append_assoc] at hkey
  refine ⟨_, ?_, hkey⟩
  simp only [Scan.value, hstart, hnone.inFlow, if_true, hposition]
  rfl

/-! ### Scalars -/

/-- A quoted scalar is read up to its end, and a key may begin with it. -/
theorem Stands.quoted {front text : List Char}
    (h : Stands depth read ('"' :: (front ++ ahead)) s)
    (hread : Quoted.read .double (front ++ ahead) = .ok (text, ahead)) :
    ∃ s', s.quoted .double = .ok s' ∧
      Stands depth (read ++ [.scalar (String.ofList text) false]) ahead s' ∧
      s'.cursor = s.cursor.skip (front.length + 1) ∧
      (s.keyAllowed = true → s'.keyStart? =
        some ⟨read.length, false, s.cursor.left, s.cursor.line, s.cursor.column⟩) := by
  obtain ⟨s₁, hsave, hs₁, hcursor, hkey⟩ := saveKey_eq h
  have hgo : Stands depth (read ++ [.scalar (String.ofList text) false]) ahead
      ((s₁.emit (.scalar (String.ofList text) false)).goTo ahead) :=
    hs₁.goTo ('"' :: front) _
  refine ⟨_, ?_, hgo.allow false, ?_, hkey⟩
  · simp only [Scan.quoted, part, hsave, bind, Except.bind, hs₁.rest, List.tail_cons, hread]
    rfl
  · show s₁.cursor.moveTo ahead = _
    rw [Cursor.moveTo_eq_skip ('"' :: front) hs₁.fits hs₁.rest, hcursor]
    rfl

theorem Stands.plain {front text : List Char} (h : Stands (depth + 1) read (front ++ ahead) s)
    (hread : ∀ indent,
      (Plain.read true indent (front ++ ahead).length (front ++ ahead)).text = text ∧
        (Plain.read true indent (front ++ ahead).length (front ++ ahead)).rest = ahead) :
    ∃ s', s.plain = .ok s' ∧
      Stands (depth + 1) (read ++ [.scalar (String.ofList text) true]) ahead s' := by
  obtain ⟨s₁, hsave, hs₁, -, -⟩ := saveKey_eq h
  obtain ⟨htext, hrest⟩ := hread s₁.indent
  have hleft : s₁.cursor.left = (front ++ ahead).length := by rw [hs₁.fits, hs₁.rest]
  refine ⟨_, ?_, (hs₁.goTo front (.scalar (String.ofList text) true)).allow
    (Plain.read true s₁.indent (front ++ ahead).length (front ++ ahead)).multiline⟩
  simp only [Scan.plain, hsave, bind, Except.bind, hs₁.inFlow, hs₁.rest, hleft, htext, hrest]
  rfl

/-! ### Which token it is -/

section Token

variable {rest : List Char}

theorem token_bracket (h : s.cursor.rest = '[' :: rest) : s.token = s.openFlow .flowSequence := by
  simp [token, h, next, startsMarker_cons_of_ne]

theorem token_brace (h : s.cursor.rest = '{' :: rest) : s.token = s.openFlow .flowMapping := by
  simp [token, h, next, startsMarker_cons_of_ne]

theorem token_bracketEnd (h : s.cursor.rest = ']' :: rest) :
    s.token = s.closeFlow .flowSequenceEnd := by
  simp [token, h, next, startsMarker_cons_of_ne]

theorem token_braceEnd (h : s.cursor.rest = '}' :: rest) :
    s.token = s.closeFlow .flowMappingEnd := by
  simp [token, h, next, startsMarker_cons_of_ne]

theorem token_comma (h : s.cursor.rest = ',' :: rest) : s.token = s.flowSeparator := by
  simp [token, h, next, startsMarker_cons_of_ne]

theorem token_colon (h : s.cursor.rest = ':' :: rest) (hflow : s.inFlow = true) :
    s.token = s.value := by
  simp [token, h, hflow, next, startsMarker_cons_of_ne]

theorem token_quote (h : s.cursor.rest = '"' :: rest) : s.token = s.quoted .double := by
  simp [token, h, next, startsMarker_cons_of_ne]

/-- A word begins with a character that stands for nothing else. -/
theorem token_word (h : s.cursor.rest = c :: rest) (hc : c ∈ "0123456789tfn".toList) :
    s.token = s.plain := by
  have hstarts : "0123456789tfn".toList.all (fun c =>
      !"%-.[]\x7b\x7d,?:*&!|>'\"".toList.contains c &&
        Plain.starts s.inFlow (c :: rest)) = true := by
    cases s.inFlow <;> rfl
  have hplain := List.all_eq_true.mp hstarts c hc
  simp only [Bool.and_eq_true, Bool.not_eq_true', List.contains_eq_mem,
    decide_eq_false_iff_not] at hplain
  obtain ⟨hmark, hstart⟩ := hplain
  have hne : ∀ x ∈ "%-.[]\x7b\x7d,?:*&!|>'\"".toList, c ≠ x := fun x hx heq => hmark (heq ▸ hx)
  simp only [String.reduceToList, List.mem_cons, List.not_mem_nil, or_false, ne_eq,
    forall_eq_or_imp, forall_eq] at hne
  simp [token, h, next, startsMarker_cons_of_ne, hne, hstart]

theorem token_minus {d : Char} (h : s.cursor.rest = '-' :: d :: rest) (hd : d.isDigit = true) :
    s.token = s.plain := by
  have hne : d ≠ '-' := by rintro rfl; cases hd
  have hword : endsWord d = false := by
    have hnot : ∀ x : Char, x.isDigit = false → (d == x) = false := by
      intro x hx
      rw [beq_eq_false_iff_ne]
      rintro rfl
      rw [hx] at hd
      cases hd
    simp [endsWord, isTabOrSpace, endsLine, isBreak, hnot ' ' rfl, hnot '\t' rfl, hnot '\x00' rfl,
      hnot '\n' rfl, hnot '\u0085' rfl, hnot '\u2028' rfl, hnot '\u2029' rfl]
  have hmarker : startsMarker '-' ('-' :: d :: rest) = false := by
    cases rest with
    | nil => rfl
    | cons e rest => simp [startsMarker, hne]
  simp [token, h, next, hmarker, startsMarker_cons_of_ne, hword, Plain.starts]

end Token

end Scan

end DomainCompiler.Yaml
