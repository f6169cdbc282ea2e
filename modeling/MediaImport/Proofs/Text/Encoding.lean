import MediaImport.Text.Bytes

/-!
# Encoded numbers

How UTF-8 spreads a number over bytes.  A number takes one to four bytes, and never more than it
needs.  Characters are written in this way.
-/

namespace MediaImport.Utf8

/-- Bytes that spell a number: each byte after the first has six of its bits, and the first one
says how many bytes there are.  No fewer bytes would do. -/
inductive Encodes : Nat → Bytes → Prop
  | one {number : Nat} (small : number < 0x80) : Encodes number [UInt8.ofNat number]
  | two (high low : Nat) (highSmall : high < 32) (lowSmall : low < 64)
      (shortest : 0x80 ≤ high * 64 + low) :
      Encodes (high * 64 + low) [UInt8.ofNat (high + 0xc0), UInt8.ofNat (low + 0x80)]
  | three (high middle low : Nat) (highSmall : high < 16) (middleSmall : middle < 64)
      (lowSmall : low < 64) (shortest : 0x800 ≤ (high * 64 + middle) * 64 + low) :
      Encodes ((high * 64 + middle) * 64 + low)
        [UInt8.ofNat (high + 0xe0), UInt8.ofNat (middle + 0x80), UInt8.ofNat (low + 0x80)]
  | four (high second third low : Nat) (highSmall : high < 8) (secondSmall : second < 64)
      (thirdSmall : third < 64) (lowSmall : low < 64)
      (shortest : 0x10000 ≤ ((high * 64 + second) * 64 + third) * 64 + low) :
      Encodes (((high * 64 + second) * 64 + third) * 64 + low)
        [UInt8.ofNat (high + 0xf0), UInt8.ofNat (second + 0x80), UInt8.ofNat (third + 0x80),
          UInt8.ofNat (low + 0x80)]

/-- A character is written as the number that it is. -/
theorem encodes_utf8EncodeChar (character : Char) :
    Encodes character.toNat (String.utf8EncodeChar character) := by
  have valid : character.toNat < 0xd800 ∨
      0xdfff < character.toNat ∧ character.toNat < 0x110000 := character.valid
  unfold String.utf8EncodeChar
  simp only [Char.toNat_val]
  generalize character.toNat = number at valid
  split
  · next small => exact .one (by omega)
  split
  · next small =>
    rw [Nat.mod_eq_of_lt (by omega : number / 64 < 32)]
    have joined : number / 64 * 64 + number % 64 = number := by omega
    have encodes := Encodes.two (number / 64) (number % 64) (by omega) (by omega) (by omega)
    rwa [joined] at encodes
  split
  · next small =>
    rw [Nat.mod_eq_of_lt (by omega : number / 4096 < 16)]
    have joined : (number / 4096 * 64 + number / 64 % 64) * 64 + number % 64 = number := by
      omega
    have encodes := Encodes.three (number / 4096) (number / 64 % 64) (number % 64)
      (by omega) (by omega) (by omega) (by omega)
    rwa [joined] at encodes
  · next large =>
    rw [Nat.mod_eq_of_lt (by omega : number / 262144 < 8)]
    have joined :
        ((number / 262144 * 64 + number / 4096 % 64) * 64 + number / 64 % 64) * 64 +
          number % 64 = number := by
      omega
    have encodes := Encodes.four (number / 262144) (number / 4096 % 64) (number / 64 % 64)
      (number % 64) (by omega) (by omega) (by omega) (by omega) (by omega)
    rwa [joined] at encodes

end MediaImport.Utf8
