set_option autoImplicit false

/-! # Byte strings

The bytes of buffers, headers and segments are lists of octets. Positions are natural
numbers counted from the front. This file holds the part of a list between two positions
(`slice`), the replacement of a stretch of it (`overlay`), network byte order (`be16`,
`be16Bytes`), the byte order of a little-endian machine (`le16`, `leBytes`), and hexadecimal
text.
-/

namespace PacketPath

abbrev Bytes := List UInt8

namespace Bytes

/-- The byte at position `i`, or zero past the end. -/
def byte (b : Bytes) (i : Nat) : UInt8 := b.getD i 0

/-- The bytes from position `first` up to, not including, position `last`. -/
def slice (b : Bytes) (first last : Nat) : Bytes := (b.take last).drop first

/-- `b` with the bytes from position `pos` on replaced by `patch`, for a patch that fits. -/
def overlay (b : Bytes) (pos : Nat) (patch : Bytes) : Bytes :=
  b.take pos ++ patch ++ b.drop (pos + patch.length)

/-- `b` with the bytes between two positions replaced by as many others. -/
def replace? (b : Bytes) (span : Nat × Nat) (patch : Bytes) : Option Bytes :=
  if span.1 ≤ span.2 ∧ span.2 ≤ b.length ∧ patch.length = span.2 - span.1 then
    some (b.overlay span.1 patch)
  else none

/-- `n` zero bytes. -/
def zeros (n : Nat) : Bytes := List.replicate n 0

@[simp] theorem length_zeros (n : Nat) : (zeros n).length = n := List.length_replicate

theorem zeros_add (m n : Nat) : zeros (m + n) = zeros m ++ zeros n :=
  List.replicate_append_replicate.symm

theorem length_slice {b : Bytes} {first last : Nat} (h : last ≤ b.length) :
    (slice b first last).length = last - first := by
  simp [slice, Nat.min_eq_left h]

theorem length_overlay {b patch : Bytes} {pos : Nat} (h : pos + patch.length ≤ b.length) :
    (overlay b pos patch).length = b.length := by
  simp [overlay]; omega

/-- What is laid over a string behind a part of it leaves this part as it is. -/
theorem overlay_append {a b patch : Bytes} {pos : Nat} (h : pos = a.length) :
    (a ++ b).overlay pos patch = a ++ patch ++ b.drop patch.length := by
  subst h
  simp [overlay]

/-- Bytes laid over zeros have zeros on both sides. -/
theorem overlay_zeros {size pos : Nat} {patch : Bytes} (hp : pos + patch.length ≤ size) :
    (zeros size).overlay pos patch
      = zeros pos ++ patch ++ zeros (size - (pos + patch.length)) := by
  have hpos : min pos size = pos := by omega
  simp only [overlay, zeros, List.take_replicate, List.drop_replicate, hpos]

/-! ## Sixteen-bit words -/

/-- The value of two bytes, the first being the high one. -/
def word (high low : UInt8) : Nat := high.toNat * 256 + low.toNat

theorem word_lt (high low : UInt8) : word high low < 65536 := by
  have := high.toNat_lt; have := low.toNat_lt; simp only [word]; omega

/-- The big-endian word at position `i`. -/
def be16 (b : Bytes) (i : Nat) : Nat := word (b.byte i) (b.byte (i + 1))

/-- The two bytes of `n` modulo 2^16, high byte first. -/
def be16Bytes (n : Nat) : Bytes := [UInt8.ofNat (n / 256), UInt8.ofNat n]

/-- The four bytes of `n` modulo 2^32, high byte first. -/
def be32Bytes (n : Nat) : Bytes := be16Bytes (n / 65536) ++ be16Bytes n

theorem word_be16Bytes {n : Nat} (h : n < 65536) :
    word (UInt8.ofNat (n / 256)) (UInt8.ofNat n) = n := by
  simp only [word, UInt8.toNat_ofNat']; omega

/-- The word that a little-endian machine loads from two consecutive bytes. -/
def le16 (first second : UInt8) : UInt16 := UInt16.ofNat (word second first)

/-! ## Little-endian numbers -/

/-- The `width` low bytes of `n`, low byte first. -/
def leBytes : Nat → Nat → Bytes
  | 0, _ => []
  | width + 1, n => UInt8.ofNat n :: leBytes width (n / 256)

/-- The number with the given bytes, low byte first. -/
def ofLeBytes : Bytes → Nat
  | [] => 0
  | x :: rest => x.toNat + 256 * ofLeBytes rest

@[simp] theorem length_leBytes (width n : Nat) : (leBytes width n).length = width := by
  induction width generalizing n with
  | zero => rfl
  | succ width ih => simp [leBytes, ih]

/-! ## Hexadecimal text -/

def hexDigit (n : Nat) : Char := if n < 10 then Char.ofNat (48 + n) else Char.ofNat (87 + n)

/-- Two lower-case hexadecimal digits for each byte. -/
def toHex (b : Bytes) : String :=
  String.ofList (b.flatMap fun x => [hexDigit (x.toNat / 16), hexDigit (x.toNat % 16)])

end Bytes

end PacketPath
