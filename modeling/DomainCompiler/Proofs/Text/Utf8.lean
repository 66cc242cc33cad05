import DomainCompiler.Text.Utf8

/-!
# What is written as UTF-8 is read back

Reading takes off the front of the bytes exactly the character that was written there, whatever
follows it. A text that is written to a file is therefore the text that stands in the file.
-/

namespace DomainCompiler.Utf8

theorem toNat_byte {n : Nat} (h : n < 256) : (UInt8.ofNat n).toNat = n :=
  UInt8.toNat_ofNat_of_lt' h

theorem continued?_trailing (n : Nat) : continued? (trailing n) = some (n % 64) := by
  have hlow : n % 64 < 64 := Nat.mod_lt n (by decide)
  have hbyte : (trailing n).toNat = 0x80 + n % 64 := toNat_byte (by omega)
  have hrange : (0x80 ≤ 0x80 + n % 64 && decide (0x80 + n % 64 < 0xC0)) = true := by
    simp only [Bool.and_eq_true, decide_eq_true_eq]
    omega
  rw [continued?, hbyte, if_pos hrange, Nat.add_sub_cancel_left]

theorem toNat_range (c : Char) :
    c.toNat < 0xD800 ∨ 0xDFFF < c.toNat ∧ c.toNat < 0x110000 := c.valid

theorem charFrom?_toNat {c : Char} {least : Nat} (h : least ≤ c.toNat) :
    charFrom? least c.toNat = some c := by
  have hrange := toNat_range c
  rw [charFrom?, if_pos, Char.ofNat_toNat]
  simp only [Bool.and_eq_true, Bool.or_eq_true, decide_eq_true_eq]
  exact ⟨h, hrange⟩

/-! ### One step of reading -/

section Step

variable {read : List Char} {rest : List UInt8} {a b c d : UInt8} {x : Char}

theorem decodeFrom_one (h : a.toNat < 0x80) :
    decodeFrom read (a :: rest) = decodeFrom (Char.ofNat a.toNat :: read) rest := by
  have hsize : size? a = some 1 := if_pos h
  rw [decodeFrom.eq_def]
  simp only [hsize]

theorem decodeFrom_two (h : 0xC0 ≤ a.toNat) (h' : a.toNat < 0xE0) (hx : two? a b = some x) :
    decodeFrom read (a :: b :: rest) = decodeFrom (x :: read) rest := by
  have hsize : size? a = some 2 := by
    rw [size?, if_neg (by omega), if_neg (by omega), if_pos h']
  rw [decodeFrom.eq_def]
  simp only [hsize, hx]

theorem decodeFrom_three (h : 0xE0 ≤ a.toNat) (h' : a.toNat < 0xF0)
    (hx : three? a b c = some x) :
    decodeFrom read (a :: b :: c :: rest) = decodeFrom (x :: read) rest := by
  have hsize : size? a = some 3 := by
    rw [size?, if_neg (by omega), if_neg (by omega), if_neg (by omega), if_pos h']
  rw [decodeFrom.eq_def]
  simp only [hsize, hx]

theorem decodeFrom_four (h : 0xF0 ≤ a.toNat) (h' : a.toNat < 0xF8)
    (hx : four? a b c d = some x) :
    decodeFrom read (a :: b :: c :: d :: rest) = decodeFrom (x :: read) rest := by
  have hsize : size? a = some 4 := by
    rw [size?, if_neg (by omega), if_neg (by omega), if_neg (by omega), if_neg (by omega),
      if_pos h']
  rw [decodeFrom.eq_def]
  simp only [hsize, hx]

end Step

/-- The bytes of a character are read as that character, and nothing behind them is looked at. -/
theorem decodeFrom_encodeChar (c : Char) (read : List Char) (rest : List UInt8) :
    decodeFrom read (encodeChar c ++ rest) = decodeFrom (c :: read) rest := by
  have hrange := toNat_range c
  rw [encodeChar]
  by_cases hone : c.toNat < 0x80
  · have hfirst : (UInt8.ofNat c.toNat).toNat = c.toNat := toNat_byte (by omega)
    rw [if_pos hone, List.singleton_append, decodeFrom_one (by omega), hfirst, Char.ofNat_toNat]
  rw [if_neg hone]
  by_cases htwo : c.toNat < 0x800
  · have hfirst : (UInt8.ofNat (0xC0 + c.toNat / 64)).toNat = 0xC0 + c.toNat / 64 :=
      toNat_byte (by omega)
    have hsum : (0xC0 + c.toNat / 64 - 0xC0) * 64 + c.toNat % 64 = c.toNat := by omega
    rw [if_pos htwo]
    apply decodeFrom_two (by omega) (by omega)
    simp only [two?, continued?_trailing, hfirst, Option.bind_eq_bind, Option.bind_some, hsum]
    exact charFrom?_toNat (by omega)
  rw [if_neg htwo]
  by_cases hthree : c.toNat < 0x10000
  · have hfirst : (UInt8.ofNat (0xE0 + c.toNat / 4096)).toNat = 0xE0 + c.toNat / 4096 :=
      toNat_byte (by omega)
    have hsum : ((0xE0 + c.toNat / 4096 - 0xE0) * 64 + c.toNat / 64 % 64) * 64 + c.toNat % 64 =
        c.toNat := by omega
    rw [if_pos hthree]
    apply decodeFrom_three (by omega) (by omega)
    simp only [three?, continued?_trailing, hfirst, Option.bind_eq_bind, Option.bind_some, hsum]
    exact charFrom?_toNat (by omega)
  · have hfirst : (UInt8.ofNat (0xF0 + c.toNat / 262144)).toNat = 0xF0 + c.toNat / 262144 :=
      toNat_byte (by omega)
    have hsum : (((0xF0 + c.toNat / 262144 - 0xF0) * 64 + c.toNat / 4096 % 64) * 64 +
        c.toNat / 64 % 64) * 64 + c.toNat % 64 = c.toNat := by omega
    rw [if_neg hthree]
    apply decodeFrom_four (by omega) (by omega)
    simp only [four?, continued?_trailing, hfirst, Option.bind_eq_bind, Option.bind_some, hsum]
    exact charFrom?_toNat (by omega)

/-! ### Texts -/

theorem decodeFrom_encode (s read : List Char) :
    decodeFrom read (encode s) = some (read.reverse ++ s) := by
  induction s generalizing read with
  | nil => simp [encode, decodeFrom]
  | cons c rest ih =>
    have hsplit : encode (c :: rest) = encodeChar c ++ encode rest := List.flatMap_cons
    rw [hsplit, decodeFrom_encodeChar, ih, List.reverse_cons, List.append_assoc,
      List.singleton_append]

theorem decode_encode (s : List Char) : decode (encode s) = some s :=
  decodeFrom_encode s []

end DomainCompiler.Utf8
