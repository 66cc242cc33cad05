import DomainCompiler.Proofs.Json.Words
import DomainCompiler.Text.Utf8

/-!
# Line ends in JSON texts

A file is read with one character for each line end. Line ends of JSON stand in blanks only, and no
two runs of blanks touch each other, so this changes the spacing of a text and nothing else.
-/

namespace DomainCompiler.Json

open Utf8

/-- The blanks with one line feed for each line end. -/
def unified (blanks : List Blank) : List Char :=
  withLineFeeds (blankChars blanks)

theorem withLineFeeds_cons {c : Char} (hc : c ≠ '\r') (s : List Char) :
    withLineFeeds (c :: s) = c :: withLineFeeds s := by
  rw [withLineFeeds.eq_def]
  split
  · next heq => cases heq
  · next heq => exact absurd (List.cons.inj heq).1 hc
  · next heq =>
    cases heq
    simp [hc]

theorem withLineFeeds_append {s : List Char} (hs : '\r' ∉ s) (rest : List Char) :
    withLineFeeds (s ++ rest) = s ++ withLineFeeds rest := by
  induction s with
  | nil => rfl
  | cons c s ih =>
    rw [List.mem_cons, not_or] at hs
    rw [List.cons_append, withLineFeeds_cons (Ne.symm hs.1), ih hs.2]
    rfl

/-- A text may be cut where no line feed follows. -/
theorem withLineFeeds_cut (s : List Char) {rest : List Char} (hrest : rest.head? ≠ some '\n') :
    withLineFeeds (s ++ rest) = withLineFeeds s ++ withLineFeeds rest := by
  fun_induction withLineFeeds s with
  | case1 => rfl
  | case2 s ih =>
    show withLineFeeds ('\r' :: '\n' :: (s ++ rest)) = _
    rw [withLineFeeds, ih]
    rfl
  | case3 c s hnot ih =>
    rw [List.cons_append, withLineFeeds.eq_def]
    split
    · next heq => cases heq
    · next rest' heq =>
      obtain ⟨hc, htail⟩ := List.cons.inj heq
      cases s with
      | nil =>
        rw [List.nil_append] at htail
        rw [htail] at hrest
        exact absurd rfl hrest
      | cons c' s =>
        obtain ⟨hc', -⟩ := List.cons.inj htail
        exact (hnot s hc (by rw [hc'])).elim
    · next heq =>
      cases heq
      rw [ih]
      rfl

/-! ### The parts of a text -/

theorem not_mem_of_numerals {s : List Char} (hs : ∀ c ∈ s, c ∈ numerals) : '\r' ∉ s :=
  fun h => absurd (hs _ h) (by decide)

theorem not_mem_chars (s : Str) : '\r' ∉ s.chars := by
  have hhex : ∀ d : HexDigit, d.char ≠ '\r' := by
    intro d
    obtain ⟨value, capital⟩ := d
    revert value capital
    decide
  have hpiece : ∀ p : Piece, '\r' ∉ p.chars := by
    intro p
    cases p with
    | raw c hc =>
      intro h
      obtain rfl := List.mem_singleton.mp h
      cases hc
    | escape e => cases e <;> decide
    | code a b c d =>
      have ha := Ne.symm (hhex a)
      have hb := Ne.symm (hhex b)
      have hc := Ne.symm (hhex c)
      have hd := Ne.symm (hhex d)
      simp [Piece.chars, ha, hb, hc, hd]
  simpa [Str.chars, Str.body] using fun p _ => hpiece p

theorem Number.not_mem_chars (n : Number) : '\r' ∉ n.chars :=
  not_mem_of_numerals fun _ hc => n.mem_numerals hc

/-- Values do not begin with a line end. -/
theorem Tree.head_written (t : Tree) (w : Spacing) (rest : List Char) :
    (t.written w ++ rest).head? ≠ some '\n' := by
  cases t with
  | null => simp [Tree.written]
  | bool b => cases b <;> simp [Tree.written]
  | number n =>
    obtain ⟨c, cs, hchars, hc⟩ := n.chars_eq_cons
    rw [Tree.written, hchars]
    intro heq
    obtain rfl : c = '\n' := by simpa using heq
    obtain hc | hc := hc <;> cases hc
  | _ => simp [Tree.written, Str.chars]

mutual

theorem Tree.withLineFeeds_written (t : Tree) (rest : List Char) :
    withLineFeeds (t.written blankChars ++ rest) = t.written unified ++ withLineFeeds rest := by
  cases t with
  | null => exact withLineFeeds_append (by decide) rest
  | bool b => cases b <;> exact withLineFeeds_append (by decide) rest
  | number n => exact withLineFeeds_append n.not_mem_chars rest
  | string s => exact withLineFeeds_append (not_mem_chars s) rest
  | emptyArray blanks =>
    simp only [Tree.written, List.cons_append, List.append_assoc, List.nil_append]
    rw [withLineFeeds_cons (by decide), withLineFeeds_cut _ (by simp),
      withLineFeeds_cons (by decide)]
    rfl
  | array items =>
    simp only [Tree.written, List.cons_append, List.append_assoc, List.nil_append]
    rw [withLineFeeds_cons (by decide), items.withLineFeeds_written (by simp),
      withLineFeeds_cons (by decide)]
  | emptyObject blanks =>
    simp only [Tree.written, List.cons_append, List.append_assoc, List.nil_append]
    rw [withLineFeeds_cons (by decide), withLineFeeds_cut _ (by simp),
      withLineFeeds_cons (by decide)]
    rfl
  | object members =>
    simp only [Tree.written, List.cons_append, List.append_assoc, List.nil_append]
    rw [withLineFeeds_cons (by decide), members.withLineFeeds_written (by simp),
      withLineFeeds_cons (by decide)]

theorem Items.withLineFeeds_written (items : Items) {rest : List Char}
    (hrest : rest.head? ≠ some '\n') :
    withLineFeeds (items.written blankChars ++ rest) =
      items.written unified ++ withLineFeeds rest := by
  cases items with
  | one before item after =>
    simp only [Items.written, List.append_assoc]
    rw [withLineFeeds_cut _ (item.head_written _ _), item.withLineFeeds_written,
      withLineFeeds_cut _ hrest]
    rfl
  | more before item after more =>
    simp only [Items.written, List.cons_append, List.append_assoc]
    rw [withLineFeeds_cut _ (item.head_written _ _), item.withLineFeeds_written,
      withLineFeeds_cut _ (by simp), withLineFeeds_cons (by decide),
      more.withLineFeeds_written hrest]
    rfl

theorem Members.withLineFeeds_written (members : Members) {rest : List Char}
    (hrest : rest.head? ≠ some '\n') :
    withLineFeeds (members.written blankChars ++ rest) =
      members.written unified ++ withLineFeeds rest := by
  cases members with
  | one before key behind before' value after =>
    simp only [Members.written, List.cons_append, List.append_assoc]
    rw [withLineFeeds_cut _ (by simp [Str.chars]), withLineFeeds_append (not_mem_chars key),
      withLineFeeds_cut _ (by simp), withLineFeeds_cons (by decide),
      withLineFeeds_cut _ (value.head_written _ _), value.withLineFeeds_written,
      withLineFeeds_cut _ hrest]
    rfl
  | more before key behind before' value after more =>
    simp only [Members.written, List.cons_append, List.append_assoc]
    rw [withLineFeeds_cut _ (by simp [Str.chars]), withLineFeeds_append (not_mem_chars key),
      withLineFeeds_cut _ (by simp), withLineFeeds_cons (by decide),
      withLineFeeds_cut _ (value.head_written _ _), value.withLineFeeds_written,
      withLineFeeds_cut _ (by simp), withLineFeeds_cons (by decide),
      more.withLineFeeds_written hrest]
    rfl

end

/-- A file is read as the same document with the line ends made one. -/
theorem Document.withLineFeeds_chars (d : Document) :
    withLineFeeds d.chars = d.written unified := by
  rw [Document.chars, Document.written, Document.written, List.append_assoc,
    withLineFeeds_cut _ (d.root.head_written _ _), d.root.withLineFeeds_written]
  rw [List.append_assoc]
  rfl

/-! ### Spacing that YAML shares -/

theorem isSpacing_withLineFeeds {s : List Char} (h : ∀ c ∈ s, c = ' ' ∨ c = '\n' ∨ c = '\r') :
    IsSpacing (withLineFeeds s) := by
  fun_induction withLineFeeds s with
  | case1 => exact nofun
  | case2 s ih =>
    have htail := ih fun c hc => h c (List.mem_cons_of_mem _ (List.mem_cons_of_mem _ hc))
    exact List.forall_mem_cons.mpr ⟨.inr rfl, htail⟩
  | case3 c s hnot ih =>
    have htail := ih fun c hc => h c (List.mem_cons_of_mem _ hc)
    refine List.forall_mem_cons.mpr ⟨?_, htail⟩
    obtain rfl | rfl | rfl := h c List.mem_cons_self
    · exact .inl rfl
    · exact .inr rfl
    · exact .inr rfl

theorem isSpacing_unified {blanks : List Blank} (h : areShared blanks = true) :
    IsSpacing (unified blanks) := by
  apply isSpacing_withLineFeeds
  intro c hc
  obtain ⟨blank, hmem, rfl⟩ := List.mem_map.mp hc
  have hblank := List.all_eq_true.mp h blank hmem
  cases blank with
  | space => exact .inl rfl
  | tab => cases hblank
  | lineFeed => exact .inr (.inl rfl)
  | carriageReturn => exact .inr (.inr rfl)

/-- Spaces are left as they are. -/
theorem unified_spaces {blanks : List Blank} (h : blanks.all (· == .space) = true) :
    unified blanks = List.replicate blanks.length ' ' := by
  have hchars : blankChars blanks = List.replicate blanks.length ' ' := by
    rw [List.eq_replicate_iff]
    refine ⟨List.length_map _, fun c hc => ?_⟩
    obtain ⟨blank, hmem, rfl⟩ := List.mem_map.mp hc
    have hblank := eq_of_beq (List.all_eq_true.mp h blank hmem)
    rw [hblank]
    rfl
  have hreturn : '\r' ∉ List.replicate blanks.length ' ' := by
    intro hmem
    exact absurd (List.eq_of_mem_replicate hmem) (by decide)
  have happend := withLineFeeds_append hreturn []
  rw [List.append_nil] at happend
  rw [unified, hchars, happend]
  exact List.append_nil _

end DomainCompiler.Json
