import Mathlib
import RadioLink.Proofs.CheckPolynomial

/-!
The check of a byte string is a remainder. The register stays below the degree of the generator, so it is not
only congruent to what it has seen but the remainder of its division, however the bytes were handed over. The
register before the first byte counts as sixteen ones in front; it drops out of the difference of two checks of
strings of one length, which depends on the difference of the strings alone.
-/

namespace RadioLink

open Polynomial

namespace Bytes

def xor (first second : Bytes) : Bytes := List.zipWith (· ^^^ ·) first second

theorem length_xor {first second : Bytes} (lengths : first.length = second.length) :
    (xor first second).length = first.length := by
  rw [xor, List.length_zipWith, lengths, Nat.min_self]

theorem poly_xor {first second : Bytes} (lengths : first.length = second.length) :
    poly (xor first second) = poly first + poly second := by
  induction first generalizing second with
  | nil =>
    rw [List.eq_nil_of_length_eq_zero lengths.symm]
    exact (add_zero _).symm
  | cons a rest ih =>
    cases second with
    | nil => cases lengths
    | cons b others =>
      have shorter : rest.length = others.length := Nat.succ.inj lengths
      have cut : xor (a :: rest) (b :: others) = (a ^^^ b) :: xor rest others := rfl
      rw [cut, poly, poly, poly, ih shorter, length_xor shorter, UInt8.toNat_xor, Crc.ofBits_xor, shorter]
      ring

end Bytes

namespace Crc

theorem monic_generator : generator.Monic := by
  unfold generator
  monicity!

/-- The register is the remainder of whatever it is congruent to. -/
theorem ofBits_eq_modByMonic {register : UInt16} {p : (ZMod 2)[X]}
    (same : residue (ofBits register.toNat) = residue p) : ofBits register.toNat = p %ₘ generator := by
  have reduced : (ofBits register.toNat).degree < generator.degree := by
    rw [degree_generator]
    exact degree_ofBits_lt register.toNat_lt
  have divides : generator ∣ ofBits register.toNat - p :=
    residue_eq_zero_iff.mp (by rw [map_sub, same, sub_self])
  rw [← modByMonic_eq_of_dvd_sub monic_generator divides, (modByMonic_eq_self_iff monic_generator).mpr reduced]

theorem ofBits_start : ofBits start.toNat = ∑ i ∈ Finset.range 16, X ^ i := by
  have ones : start.toNat = 2 ^ 16 - 1 := rfl
  ext i
  rw [ones, coeff_ofBits, Nat.testBit_two_pow_sub_one, finsetSum_coeff]
  simp only [coeff_X_pow]
  rw [Finset.sum_ite_eq]
  simp [coefficient]

/-- A check may be continued after any number of bytes. -/
theorem foldl_update (register : UInt16) (parts : List Bytes) :
    parts.foldl update register = update register parts.flatten := by
  rw [update, List.foldl_flatten]
  rfl

theorem residue_crc16_xor {first second : Bytes} (lengths : first.length = second.length) :
    residue (ofBits (crc16 first ^^^ crc16 second).toNat) = residue ((first.xor second).poly * X ^ 16) := by
  have cancelled : residue (ofBits start.toNat * X ^ (8 * second.length)) +
      residue (ofBits start.toNat * X ^ (8 * second.length)) = 0 := by
    rw [← map_add, CharTwo.add_self_eq_zero, map_zero]
  rw [UInt16.toNat_xor, ofBits_xor, map_add, crc16, crc16, residue_update, residue_update, lengths, map_add,
    map_add, Bytes.poly_xor lengths, add_mul, map_add]
  linear_combination cancelled

/-- The check is polynomial division. However a message is split over updates, the register at the end is the
remainder of sixteen ones with the message behind them, moved up by sixteen; and the difference of the checks of two
strings of one length is the remainder of the difference of the strings, moved up by sixteen. -/
theorem check_is_remainder (message : Bytes) (parts : List Bytes) (split : parts.flatten = message) :
    (ofBits (parts.foldl update start).toNat).degree < 16 ∧
      ofBits (parts.foldl update start).toNat =
        ((∑ i ∈ Finset.range 16, X ^ i) * X ^ (8 * message.length) + message.poly * X ^ 16) %ₘ
          (X ^ 16 + X ^ 12 + X ^ 5 + 1) ∧
      parts.foldl update start = crc16 message ∧
      ∀ first second : Bytes, first.length = second.length →
        ofBits (crc16 first ^^^ crc16 second).toNat =
          ((first.xor second).poly * X ^ 16) %ₘ (X ^ 16 + X ^ 12 + X ^ 5 + 1) := by
  subst split
  refine ⟨degree_ofBits_lt (UInt16.toNat_lt _), ?_, foldl_update start parts, fun first second lengths => ?_⟩
  · rw [foldl_update, ← ofBits_start]
    exact ofBits_eq_modByMonic (residue_update start parts.flatten)
  · exact ofBits_eq_modByMonic (residue_crc16_xor lengths)

/-- The digits one to nine in three parts, and two strings that differ in the last bit of their first byte. -/
theorem check_is_remainder_digits :
    ofBits 0x29b1 =
        ((∑ i ∈ Finset.range 16, X ^ i) * X ^ 72 +
          Bytes.poly [0x31, 0x32, 0x33, 0x34, 0x35, 0x36, 0x37, 0x38, 0x39] * X ^ 16) %ₘ
          (X ^ 16 + X ^ 12 + X ^ 5 + 1) ∧
      ofBits (crc16 [0x31, 0x32] ^^^ crc16 [0x30, 0x32]).toNat =
        (Bytes.poly [1, 0] * X ^ 16) %ₘ (X ^ 16 + X ^ 12 + X ^ 5 + 1) := by
  obtain ⟨-, remainder, -, difference⟩ :=
    check_is_remainder [0x31, 0x32, 0x33, 0x34, 0x35, 0x36, 0x37, 0x38, 0x39]
      [[0x31, 0x32, 0x33], [], [0x34, 0x35, 0x36, 0x37, 0x38, 0x39]] rfl
  have register : [[0x31, 0x32, 0x33], [], [0x34, 0x35, 0x36, 0x37, 0x38, 0x39]].foldl update start = 0x29b1 := by
    decide +kernel
  rw [register] at remainder
  exact ⟨remainder, difference [0x31, 0x32] [0x30, 0x32] rfl⟩

end Crc

end RadioLink
