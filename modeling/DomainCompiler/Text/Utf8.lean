/-!
# UTF-8

Texts as sequences of bytes. Reading is strict: every character has its shortest form, and bytes
that no character is written with make the whole sequence unreadable.
-/

namespace DomainCompiler.Utf8

/-- The byte with the given leading bits and the low six bits of a number. -/
def trailing (n : Nat) : UInt8 :=
  UInt8.ofNat (0x80 + n % 64)

/-- The bytes of a character. -/
def encodeChar (c : Char) : List UInt8 :=
  let n := c.toNat
  if n < 0x80 then [UInt8.ofNat n]
  else if n < 0x800 then [UInt8.ofNat (0xC0 + n / 64), trailing n]
  else if n < 0x10000 then [UInt8.ofNat (0xE0 + n / 4096), trailing (n / 64), trailing n]
  else
    [UInt8.ofNat (0xF0 + n / 262144), trailing (n / 4096), trailing (n / 64), trailing n]

def encode (s : List Char) : List UInt8 :=
  s.flatMap encodeChar

def continued? (b : UInt8) : Option Nat :=
  let n := b.toNat
  if 0x80 ≤ n && n < 0xC0 then some (n - 0x80) else none

def charFrom? (least n : Nat) : Option Char :=
  if least ≤ n && (n < 0xD800 || (0xDFFF < n && n < 0x110000)) then some (Char.ofNat n) else none

def two? (a b : UInt8) : Option Char := do
  let y ← continued? b
  charFrom? 0x80 ((a.toNat - 0xC0) * 64 + y)

def three? (a b c : UInt8) : Option Char := do
  let y ← continued? b
  let z ← continued? c
  charFrom? 0x800 (((a.toNat - 0xE0) * 64 + y) * 64 + z)

/-- The character that four bytes write. -/
def four? (a b c d : UInt8) : Option Char := do
  let y ← continued? b
  let z ← continued? c
  let w ← continued? d
  charFrom? 0x10000 ((((a.toNat - 0xF0) * 64 + y) * 64 + z) * 64 + w)

/-- The number of bytes of a character whose first byte is the given one. -/
def size? (a : UInt8) : Option Nat :=
  let n := a.toNat
  if n < 0x80 then some 1
  else if n < 0xC0 then none
  else if n < 0xE0 then some 2
  else if n < 0xF0 then some 3
  else if n < 0xF8 then some 4
  else none

/-- Reads the bytes, with the characters already read in reverse order. -/
def decodeFrom (read : List Char) : List UInt8 → Option (List Char)
  | [] => some read.reverse
  | a :: rest =>
    match size? a, rest with
    | some 1, rest => decodeFrom (Char.ofNat a.toNat :: read) rest
    | some 2, b :: rest =>
      match two? a b with
      | some x => decodeFrom (x :: read) rest
      | none => none
    | some 3, b :: c :: rest =>
      match three? a b c with
      | some x => decodeFrom (x :: read) rest
      | none => none
    | some 4, b :: c :: d :: rest =>
      match four? a b c d with
      | some x => decodeFrom (x :: read) rest
      | none => none
    | _, _ => none

def decode (bytes : List UInt8) : Option (List Char) :=
  decodeFrom [] bytes

/-- The text with every line end written as a single line feed. -/
def withLineFeeds : List Char → List Char
  | [] => []
  | '\r' :: '\n' :: rest => '\n' :: withLineFeeds rest
  | c :: rest => (if c == '\r' then '\n' else c) :: withLineFeeds rest

end DomainCompiler.Utf8
