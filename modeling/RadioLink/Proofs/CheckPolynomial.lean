import Mathlib
import RadioLink.Checksum

/-!
The cyclic check as division of polynomials over the field of two elements. A number stands for the
polynomial that has its bits as coefficients, and a byte string for the one that has its bits, first
bit first, as coefficients from the highest down. A shift of the register is multiplication by `X`
up to a multiple of the generator, so the register holds the remainder of what it has seen.
-/

namespace RadioLink

open Polynomial

namespace Crc

def coefficient (b : Bool) : ZMod 2 := if b then 1 else 0

theorem coefficient_xor (a b : Bool) :
    coefficient (a ^^ b) = coefficient a + coefficient b := by
  cases a <;> cases b <;> decide

theorem coefficient_injective : Function.Injective coefficient := by decide

/-- The polynomial that has the bits of a number as coefficients. -/
noncomputable def ofBits (n : Nat) : (ZMod 2)[X] :=
  ∑ i ∈ Finset.range n.size, monomial i (coefficient (n.testBit i))

@[simp] theorem coeff_ofBits (n i : Nat) : (ofBits n).coeff i = coefficient (n.testBit i) := by
  rw [ofBits, finsetSum_coeff]
  simp only [coeff_monomial]
  rw [Finset.sum_ite_eq']
  by_cases inside : i ∈ Finset.range n.size
  · rw [if_pos inside]
  · have small : n < 2 ^ i := Nat.size_le.mp (by simpa using inside)
    rw [if_neg inside, Nat.testBit_eq_false_of_lt small]
    rfl

theorem ofBits_injective : Function.Injective ofBits := by
  intro a b same
  apply Nat.eq_of_testBit_eq
  intro i
  apply coefficient_injective
  rw [← coeff_ofBits, same, coeff_ofBits]

theorem ofBits_xor (a b : Nat) : ofBits (a ^^^ b) = ofBits a + ofBits b := by
  ext i
  rw [coeff_add, coeff_ofBits, coeff_ofBits, coeff_ofBits, Nat.testBit_xor, coefficient_xor]

/-- Digits in front are multiplied by a power of `X`. -/
theorem ofBits_mul_add (a : Nat) {b width : Nat} (small : b < 2 ^ width) :
    ofBits (2 ^ width * a + b) = ofBits a * X ^ width + ofBits b := by
  ext i
  rw [coeff_add, coeff_mul_X_pow', coeff_ofBits, coeff_ofBits, coeff_ofBits,
    Nat.testBit_two_pow_mul_add a small]
  by_cases low : i < width
  · rw [if_pos low, if_neg (by omega), zero_add]
  · have high : b < 2 ^ i := lt_of_lt_of_le small (Nat.pow_le_pow_right (by decide) (by omega))
    rw [if_neg low, if_pos (by omega), Nat.testBit_eq_false_of_lt high]
    exact (add_zero _).symm

@[simp] theorem ofBits_zero : ofBits 0 = 0 := by
  ext i
  rw [coeff_ofBits, Nat.zero_testBit, coeff_zero]
  rfl

@[simp] theorem ofBits_one : ofBits 1 = 1 := by
  simp [ofBits, coefficient]

theorem ofBits_mul (a width : Nat) : ofBits (2 ^ width * a) = ofBits a * X ^ width := by
  have shifted := ofBits_mul_add a (Nat.two_pow_pos width)
  rwa [Nat.add_zero, ofBits_zero, add_zero] at shifted

theorem degree_ofBits_lt {n width : Nat} (small : n < 2 ^ width) : (ofBits n).degree < width := by
  rw [degree_lt_iff_coeff_zero]
  intro i high
  have smaller : n < 2 ^ i := lt_of_lt_of_le small (Nat.pow_le_pow_right (by decide) high)
  rw [coeff_ofBits, Nat.testBit_eq_false_of_lt smaller]
  rfl

/-- The polynomial that the register is reduced by. -/
noncomputable def generator : (ZMod 2)[X] := X ^ 16 + X ^ 12 + X ^ 5 + 1

theorem degree_generator : generator.degree = 16 := by
  unfold generator
  compute_degree!

theorem generator_eq : generator = X ^ 16 + ofBits 0x1021 := by
  have low : ofBits 0x1021 = X ^ 12 + X ^ 5 + 1 := by
    have split : 0x1021 = 2 ^ 12 * 1 + (2 ^ 5 * 1 + 1) := by decide
    rw [split, ofBits_mul_add 1 (by decide), ofBits_mul_add 1 (by decide), ofBits_one]
    ring
  rw [low, generator]
  ring

/-- The highest bit is set exactly if the test that the shift makes says so. -/
theorem and_highest (register : UInt16) : register &&& 0x8000 ≠ 0 ↔ register.toNat.testBit 15 := by
  have masked : (register &&& 0x8000).toNat = (register.toNat.testBit 15).toNat * 2 ^ 15 := by
    rw [UInt16.toNat_and, ← Nat.and_two_pow]
    rfl
  rw [ne_eq, ← UInt16.toNat_inj, masked]
  cases register.toNat.testBit 15 <;> decide

/-- A shift multiplies by `X` and takes the generator away if the degree has become too large. -/
theorem ofBits_shift (register : UInt16) :
    ofBits (shift register).toNat =
      X * ofBits register.toNat + if register.toNat.testBit 15 then generator else 0 := by
  have small : register.toNat < 2 ^ 16 := register.toNat_lt
  have doubled : X * ofBits register.toNat = ofBits (2 * register.toNat) := by
    rw [show 2 * register.toNat = 2 ^ 1 * register.toNat from rfl, ofBits_mul, pow_one, mul_comm]
  have moved : (register <<< 1).toNat = 2 * register.toNat % 2 ^ 16 := by
    rw [UInt16.toNat_shiftLeft, Nat.shiftLeft_eq, Nat.mul_comm]
    rfl
  have mask : (0x1021 : UInt16).toNat = 0x1021 := rfl
  -- The bit that falls off at the top is the leading term of the generator.
  rw [shift, doubled]
  simp only [and_highest]
  by_cases highest : register.toNat.testBit 15 = true
  · have quotient : register.toNat / 2 ^ 15 % 2 = 1 := by
      simpa [Nat.testBit_eq_decide_div_mod_eq] using highest
    have rest : 2 * register.toNat % 2 ^ 16 < 2 ^ 16 := Nat.mod_lt _ (by decide)
    have split : 2 * register.toNat = 2 ^ 16 * 1 + 2 * register.toNat % 2 ^ 16 := by omega
    have whole : ofBits (2 * register.toNat) = X ^ 16 + ofBits (2 * register.toNat % 2 ^ 16) := by
      conv_lhs => rw [split]
      rw [ofBits_mul_add 1 rest, ofBits_one, one_mul]
    have cancelled : (X ^ 16 + X ^ 16 : (ZMod 2)[X]) = 0 := CharTwo.add_self_eq_zero _
    rw [if_pos highest, if_pos highest, UInt16.toNat_xor, moved, mask, ofBits_xor, whole, generator_eq]
    linear_combination -cancelled
  · have quotient : ¬register.toNat / 2 ^ 15 % 2 = 1 := by
      simpa [Nat.testBit_eq_decide_div_mod_eq] using highest
    rw [if_neg highest, if_neg highest, moved, Nat.mod_eq_of_lt (by omega), add_zero]

/-- What is left of a polynomial when multiples of the generator do not count. -/
noncomputable def residue : (ZMod 2)[X] →+* AdjoinRoot generator := AdjoinRoot.mk generator

theorem residue_eq_zero_iff {p : (ZMod 2)[X]} : residue p = 0 ↔ generator ∣ p :=
  AdjoinRoot.mk_eq_zero

theorem residue_generator : residue generator = 0 := residue_eq_zero_iff.mpr dvd_rfl

/-- The register is not changed by reduction. -/
theorem residue_ofBits_injective {a b : UInt16}
    (same : residue (ofBits a.toNat) = residue (ofBits b.toNat)) : a = b := by
  have divides : generator ∣ ofBits a.toNat - ofBits b.toNat :=
    residue_eq_zero_iff.mp (by rw [map_sub, same, sub_self])
  have small : (ofBits a.toNat - ofBits b.toNat).degree < generator.degree := by
    rw [degree_generator]
    exact lt_of_le_of_lt (degree_sub_le _ _)
      (max_lt (degree_ofBits_lt a.toNat_lt) (degree_ofBits_lt b.toNat_lt))
  have equal : ofBits a.toNat = ofBits b.toNat :=
    sub_eq_zero.mp (eq_zero_of_dvd_of_degree_lt divides small)
  exact UInt16.toNat_inj.mp (ofBits_injective equal)

theorem residue_shift (register : UInt16) :
    residue (ofBits (shift register).toNat) = residue (X * ofBits register.toNat) := by
  rw [ofBits_shift, map_add]
  split
  · rw [residue_generator, add_zero]
  · rw [map_zero, add_zero]

theorem residue_shifts (count : Nat) (register : UInt16) :
    residue (ofBits (shifts count register).toNat) = residue (X ^ count * ofBits register.toNat) := by
  induction count generalizing register with
  | zero => rw [shifts, pow_zero, one_mul]
  | succ count ih => rw [shifts, ih, map_mul, residue_shift, ← map_mul, ← mul_assoc, ← pow_succ]

theorem residue_step (register : UInt16) (b : UInt8) :
    residue (ofBits (step register b).toNat) =
      residue (ofBits register.toNat * X ^ 8 + ofBits b.toNat * X ^ 16) := by
  have fits : b.toNat < 2 ^ 8 := b.toNat_lt
  have moved : (b.toUInt16 <<< 8).toNat = 2 ^ 8 * b.toNat := by
    rw [UInt16.toNat_shiftLeft, Nat.shiftLeft_eq, Nat.mul_comm]
    exact Nat.mod_eq_of_lt (by change 2 ^ 8 * b.toNat < 2 ^ 16; omega)
  rw [step, residue_shifts, UInt16.toNat_xor, ofBits_xor, moved, ofBits_mul]
  exact congrArg residue (by ring)

end Crc

namespace Bytes

/-- A byte string as a polynomial, the first bit as its highest coefficient. -/
noncomputable def poly : Bytes → (ZMod 2)[X]
  | [] => 0
  | b :: rest => Crc.ofBits b.toNat * X ^ (8 * rest.length) + poly rest

theorem poly_append (first second : Bytes) :
    poly (first ++ second) = poly first * X ^ (8 * second.length) + poly second := by
  induction first with
  | nil => simp [poly]
  | cons b rest ih =>
    rw [List.cons_append, poly, ih, poly, List.length_append, Nat.mul_add, pow_add]
    ring

end Bytes

namespace Crc

/-- The register holds the remainder of what it had before, moved up, and of the bytes that it was
given. -/
theorem residue_update (register : UInt16) (bytes : Bytes) :
    residue (ofBits (update register bytes).toNat) =
      residue (ofBits register.toNat * X ^ (8 * bytes.length) + bytes.poly * X ^ 16) := by
  induction bytes generalizing register with
  | nil => simp [update, Bytes.poly]
  | cons b rest ih =>
    change residue (ofBits (update (step register b) rest).toNat) = _
    rw [ih, map_add, map_mul, residue_step, ← map_mul, ← map_add, Bytes.poly, List.length_cons]
    exact congrArg residue (by ring)

end Crc

end RadioLink
