import Mathlib
import RadioLink.Proofs.CheckPolynomial
import RadioLink.Proofs.FrameCodec

/-!
Corrupted frames. Byte strings of one length with the same check differ in their bits by a multiple of
the generator. Such a multiple has an even number of terms, since the generator has `X + 1` as a
factor; it never has just two, since no power of `X` below the length of a frame leaves the remainder
one; and its terms do not fit into a window of sixteen. In a frame the check stands before the payload
and has its bytes the other way round, so its bits are counted where the division would put them.
-/

namespace RadioLink

open Polynomial

namespace Crc

theorem eq_one_of_ne_zero : ∀ x : ZMod 2, x ≠ 0 → x = 1 := by decide

theorem isCoprime_generator_X_pow (n : Nat) : IsCoprime generator (X ^ n) := by
  have base : IsCoprime generator X := by
    refine ⟨1, -(X ^ 15 + X ^ 11 + X ^ 4), ?_⟩
    rw [generator]
    ring
  exact base.pow_right

theorem eval_generator : generator.eval 1 = 0 := by
  simp only [generator, eval_add, eval_pow, eval_X, eval_one, one_pow]
  decide

/-- The number of terms is the value at one. -/
theorem even_card_support {p : (ZMod 2)[X]} (divides : generator ∣ p) : Even p.support.card := by
  have root : p.eval 1 = 0 := by
    obtain ⟨q, rfl⟩ := divides
    rw [eval_mul, eval_generator, zero_mul]
  have count : p.eval 1 = (p.support.card : ZMod 2) := by
    rw [eval_eq_sum, Polynomial.sum, Finset.card_eq_sum_ones, Nat.cast_sum]
    apply Finset.sum_congr rfl
    intro i member
    rw [one_pow, mul_one, Nat.cast_one, eq_one_of_ne_zero _ (mem_support_iff.mp member)]
  exact ZMod.natCast_eq_zero_iff_even.mp (count ▸ root)

theorem shifts_eq_iterate (count : Nat) (register : UInt16) :
    shifts count register = shift^[count] register := by
  induction count generalizing register with
  | zero => rfl
  | succ count ih => rw [shifts, ih, Function.iterate_succ_apply]

/-- In as many shifts as a frame has bits the register does not get back to one. -/
theorem shifts_one_ne_one {count : Nat} (positive : 0 < count) (small : count < 1080) :
    shifts count 1 ≠ 1 := by
  have never : (1 : UInt16) ∉ List.iterate shift (shift 1) 1079 := by decide +kernel
  intro back
  apply never
  rw [List.mem_iterate]
  refine ⟨count - 1, by omega, ?_⟩
  rw [← Function.iterate_succ_apply, Nat.succ_eq_add_one, Nat.sub_add_cancel positive,
    ← shifts_eq_iterate, back]

theorem not_dvd_two_terms {low high : Nat} (order : low < high) (near : high < 1080) :
    ¬generator ∣ (X ^ low + X ^ high : (ZMod 2)[X]) := by
  intro divides
  have factored : (X ^ low + X ^ high : (ZMod 2)[X]) = X ^ low * (X ^ (high - low) - 1) := by
    rw [mul_sub, ← pow_add, Nat.add_sub_cancel' order.le, mul_one, CharTwo.sub_eq_add, add_comm]
  rw [factored] at divides
  have remainder : residue (X ^ (high - low) - 1) = 0 :=
    residue_eq_zero_iff.mpr ((isCoprime_generator_X_pow low).dvd_of_dvd_mul_left divides)
  rw [map_sub, sub_eq_zero] at remainder
  have one : ofBits (1 : UInt16).toNat = 1 := ofBits_one
  apply @shifts_one_ne_one (high - low) (by omega) (by omega)
  apply residue_ofBits_injective
  rw [residue_shifts, one, mul_one, remainder]

theorem four_le_card_support {p : (ZMod 2)[X]} (divides : generator ∣ p) (nonzero : p ≠ 0)
    (short : ∀ i ∈ p.support, i < 1080) : 4 ≤ p.support.card := by
  have even := even_card_support divides
  have notZero : p.support.card ≠ 0 := by
    rw [ne_eq, Finset.card_eq_zero, support_eq_empty]
    exact nonzero
  have notTwo : p.support.card ≠ 2 := by
    intro two
    obtain ⟨low, high, order, x, y, hx, hy, rfl⟩ := card_support_eq_two.mp two
    obtain rfl := eq_one_of_ne_zero x hx
    obtain rfl := eq_one_of_ne_zero y hy
    have member : high ∈ (C 1 * X ^ low + C 1 * X ^ high : (ZMod 2)[X]).support := by
      rw [mem_support_iff]
      simp [coeff_X_pow, order.ne']
    rw [C_1, one_mul, one_mul] at divides
    exact not_dvd_two_terms order (short high member) divides
  obtain ⟨half, total⟩ := even
  omega

/-- A multiple of the generator with all its terms in a window would be one of lower degree. -/
theorem exists_outside_window {p : (ZMod 2)[X]} (divides : generator ∣ p) (nonzero : p ≠ 0)
    (start : Nat) : ∃ i ∈ p.support, ¬(start ≤ i ∧ i < start + 16) := by
  by_contra inside
  push Not at inside
  -- What is left after the power of `X` at the start of the window has a degree below sixteen.
  have low : X ^ start ∣ p := by
    rw [X_pow_dvd_iff]
    intro i below
    by_contra member
    have := (inside i (mem_support_iff.mpr member)).1
    omega
  obtain ⟨q, rfl⟩ := low
  have smaller : q.degree < generator.degree := by
    rw [degree_generator]
    apply (degree_lt_iff_coeff_zero q 16).mpr
    intro i high
    by_contra member
    have shifted : (X ^ start * q).coeff (i + start) = q.coeff i := coeff_X_pow_mul q start i
    have := (inside (i + start) (mem_support_iff.mpr (shifted ▸ member))).2
    omega
  have factor := (isCoprime_generator_X_pow start).dvd_of_dvd_mul_left divides
  rw [eq_zero_of_dvd_of_degree_lt factor smaller, mul_zero] at nonzero
  exact nonzero rfl

end Crc

namespace Bytes

/-- A bit of a byte string, the highest bit of the first byte first. -/
def bitAt (bytes : Bytes) (position : Nat) : Bool :=
  (bytes.byteAt (position / 8)).toNat.testBit (7 - position % 8)

def differing (first second : Bytes) : Finset Nat :=
  {position ∈ Finset.range (8 * first.length) | first.bitAt position ≠ second.bitAt position}

theorem mem_differing {first second : Bytes} {position : Nat} :
    position ∈ differing first second ↔
      position < 8 * first.length ∧ first.bitAt position ≠ second.bitAt position := by
  rw [differing, Finset.mem_filter, Finset.mem_range]

theorem bitAt_append_left {first : Bytes} (second : Bytes) {position : Nat}
    (inside : position < 8 * first.length) : (first ++ second).bitAt position = first.bitAt position := by
  rw [bitAt, bitAt, byteAt, byteAt, List.getD_append _ _ _ _ (by omega)]

theorem bitAt_append_right (first second : Bytes) (position : Nat) :
    (first ++ second).bitAt (8 * first.length + position) = second.bitAt position := by
  have quotient : (8 * first.length + position) / 8 = first.length + position / 8 := by omega
  have rest : (8 * first.length + position) % 8 = position % 8 := by omega
  rw [bitAt, bitAt, byteAt, byteAt, quotient, rest, List.getD_append_right _ _ _ _ (by omega),
    Nat.add_sub_cancel_left]

theorem bitAt_cons (b : UInt8) (rest : Bytes) {position : Nat} (inside : position < 8) :
    bitAt (b :: rest) position = b.toNat.testBit (7 - position) := by
  rw [bitAt, Nat.div_eq_of_lt inside, Nat.mod_eq_of_lt inside]
  rfl

theorem testBit_byte_high (b : UInt8) {i : Nat} (high : 8 ≤ i) : b.toNat.testBit i = false :=
  Nat.testBit_eq_false_of_lt
    (lt_of_lt_of_le b.toNat_lt (Nat.pow_le_pow_right (by decide) high))

/-- Bytes with the same bits are the same. -/
theorem byteAt_eq_of_bitAt {first second : Bytes} (i : Nat)
    (same : ∀ position, position / 8 = i → first.bitAt position = second.bitAt position) :
    first.byteAt i = second.byteAt i := by
  apply UInt8.toNat_inj.mp
  apply Nat.eq_of_testBit_eq
  intro j
  by_cases inside : j < 8
  · have bit := same (8 * i + (7 - j)) (by omega)
    have quotient : (8 * i + (7 - j)) / 8 = i := by omega
    have rest : 7 - (8 * i + (7 - j)) % 8 = j := by omega
    rwa [bitAt, bitAt, quotient, rest] at bit
  · rw [testBit_byte_high _ (by omega), testBit_byte_high _ (by omega)]

theorem eq_of_bitAt {first second : Bytes} (lengths : first.length = second.length)
    (same : ∀ position < 8 * first.length, first.bitAt position = second.bitAt position) :
    first = second := by
  apply List.ext_getElem lengths
  intro i left right
  have bytes : first.byteAt i = second.byteAt i := by
    apply byteAt_eq_of_bitAt
    intro position inside
    exact same position (by omega)
  simpa [byteAt, left, right] using bytes

theorem coeff_poly (bytes : Bytes) (i : Nat) :
    bytes.poly.coeff i =
      if i < 8 * bytes.length then Crc.coefficient (bytes.bitAt (8 * bytes.length - 1 - i)) else 0 := by
  induction bytes with
  | nil => simp [poly]
  | cons b rest ih =>
    rw [poly, coeff_add, coeff_mul_X_pow', ih, Crc.coeff_ofBits, List.length_cons]
    by_cases later : i < 8 * rest.length
    · have position : 8 * (rest.length + 1) - 1 - i = 8 * [b].length + (8 * rest.length - 1 - i) := by
        rw [List.length_singleton]
        omega
      have bit := bitAt_append_right [b] rest (8 * rest.length - 1 - i)
      rw [List.singleton_append] at bit
      rw [if_neg (by omega), if_pos later, if_pos (by omega), position, bit, zero_add]
    · rw [if_pos (by omega), if_neg later, add_zero]
      by_cases first : i < 8 * (rest.length + 1)
      · have position : 7 - (8 * (rest.length + 1) - 1 - i) = i - 8 * rest.length := by omega
        rw [if_pos first, bitAt_cons b rest (by omega), position]
      · rw [if_neg first, testBit_byte_high b (by omega)]
        rfl

/-- The terms of the difference of two byte strings are the bits in which they differ. -/
theorem support_poly_add {first second : Bytes} (lengths : first.length = second.length) :
    (first.poly + second.poly).support =
      (differing first second).image (fun position => 8 * first.length - 1 - position) := by
  have unequal : ∀ a b : Bool, Crc.coefficient a + Crc.coefficient b ≠ 0 ↔ a ≠ b := by decide
  ext i
  rw [mem_support_iff, coeff_add, coeff_poly, coeff_poly, ← lengths, Finset.mem_image]
  by_cases inside : i < 8 * first.length
  · rw [if_pos inside, if_pos inside, unequal]
    constructor
    · intro different
      exact ⟨8 * first.length - 1 - i, mem_differing.mpr ⟨by omega, different⟩, by omega⟩
    · rintro ⟨position, member, rfl⟩
      obtain ⟨bound, different⟩ := mem_differing.mp member
      rwa [show 8 * first.length - 1 - (8 * first.length - 1 - position) = position by omega]
  · rw [if_neg inside, if_neg inside, add_zero]
    constructor
    · intro nonzero
      exact absurd rfl nonzero
    · rintro ⟨position, member, rfl⟩
      have bound := (mem_differing.mp member).1
      omega

theorem card_support_poly_add {first second : Bytes} (lengths : first.length = second.length) :
    (first.poly + second.poly).support.card = (differing first second).card := by
  rw [support_poly_add lengths]
  apply Finset.card_image_of_injOn
  intro i left j right same
  have := (mem_differing.mp left).1
  have := (mem_differing.mp right).1
  dsimp only at same
  omega

theorem card_differing_append {first first' : Bytes} (lengths : first.length = first'.length)
    (second second' : Bytes) :
    (differing (first ++ second) (first' ++ second')).card =
      (differing first first').card + (differing second second').card := by
  simp only [differing, Finset.card_filter, List.length_append, Nat.mul_add, Finset.sum_range_add]
  congr 1
  · apply Finset.sum_congr rfl
    intro position member
    have inside : position < 8 * first.length := Finset.mem_range.mp member
    rw [bitAt_append_left second inside, bitAt_append_left second' (lengths ▸ inside)]
  · apply Finset.sum_congr rfl
    intro position _
    have moved := bitAt_append_right first' second' position
    rw [← lengths] at moved
    rw [bitAt_append_right, moved]

theorem differing_self (bytes : Bytes) : differing bytes bytes = ∅ := by
  simp [differing]

/-- The order of the bytes does not matter for the number of bits. -/
theorem card_differing_reverse {first second : Bytes} (lengths : first.length = second.length) :
    (differing first.reverse second.reverse).card = (differing first second).card := by
  induction first generalizing second with
  | nil =>
    obtain rfl := List.length_eq_zero_iff.mp lengths.symm
    rfl
  | cons b rest ih =>
    obtain ⟨c, others, rfl⟩ := List.exists_cons_of_length_eq_add_one lengths.symm
    have tails : rest.length = others.length := by simpa using lengths
    have heads : [b].length = [c].length := rfl
    have whole := card_differing_append heads rest others
    rw [List.singleton_append, List.singleton_append] at whole
    rw [List.reverse_cons, List.reverse_cons, card_differing_append (by simpa using tails), ih tails,
      whole, Nat.add_comm]

end Bytes

namespace Bytes

theorem poly_reverse_ofUInt16 (n : UInt16) : poly (ofUInt16 n).reverse = Crc.ofBits n.toNat := by
  have small : n.toNat < 2 ^ 16 := n.toNat_lt
  have low : (UInt8.ofNat n.toNat).toNat = n.toNat % 2 ^ 8 := UInt8.toNat_ofNat'
  have high : (UInt8.ofNat (n.toNat / 256)).toNat = n.toNat / 2 ^ 8 := by
    rw [UInt8.toNat_ofNat']
    omega
  have split := Crc.ofBits_mul_add (n.toNat / 2 ^ 8) (Nat.mod_lt n.toNat (Nat.two_pow_pos 8))
  rw [Nat.div_add_mod] at split
  rw [split, ← low, ← high]
  change Crc.ofBits (UInt8.ofNat (n.toNat / 256)).toNat * X ^ 8 +
    (Crc.ofBits (UInt8.ofNat n.toNat).toNat * X ^ 0 + 0) = _
  rw [pow_zero, mul_one, add_zero]

theorem mem_differing_append {first first' : Bytes} (lengths : first.length = first'.length)
    (second second' : Bytes) (position : Nat) :
    8 * first.length + position ∈ differing (first ++ second) (first' ++ second') ↔
      position ∈ differing second second' := by
  have moved := bitAt_append_right first' second' position
  rw [← lengths] at moved
  rw [mem_differing, mem_differing, bitAt_append_right, moved, List.length_append, Nat.mul_add,
    Nat.add_lt_add_iff_left]

end Bytes

namespace Crc

/-- Two different byte strings that differ by a multiple of the generator and are not longer than a frame
differ in an even number of bits, in at least four, and not only in sixteen bits in a row. -/
theorem differing_of_dvd {first second : Bytes} (lengths : first.length = second.length)
    (short : first.length ≤ 135) (divides : generator ∣ first.poly + second.poly)
    (different : (first.differing second).Nonempty) :
    Even (first.differing second).card ∧ 4 ≤ (first.differing second).card ∧
      ∀ start, ∃ position ∈ first.differing second, ¬(start ≤ position ∧ position < start + 16) := by
  have count := Bytes.card_support_poly_add lengths
  have nonzero : first.poly + second.poly ≠ 0 := by
    intro zero
    rw [zero, support_zero, Finset.card_empty] at count
    exact different.card_ne_zero count.symm
  have terms := Bytes.support_poly_add lengths
  refine ⟨count ▸ even_card_support divides, ?_, ?_⟩
  · rw [← count]
    apply four_le_card_support divides nonzero
    intro i member
    rw [terms] at member
    obtain ⟨position, inside, rfl⟩ := Finset.mem_image.mp member
    have := (Bytes.mem_differing.mp inside).1
    omega
  · intro start
    obtain ⟨i, member, outside⟩ :=
      exists_outside_window divides nonzero (8 * first.length - (start + 16))
    rw [terms] at member
    obtain ⟨position, inside, rfl⟩ := Finset.mem_image.mp member
    have := (Bytes.mem_differing.mp inside).1
    exact ⟨position, inside, by omega⟩

/-- Byte strings of one length that take the register to the same value differ by a multiple of the
generator. -/
theorem dvd_of_update_eq {register : UInt16} {first second : Bytes}
    (lengths : first.length = second.length) (same : update register first = update register second) :
    generator ∣ first.poly + second.poly := by
  have equal : residue (ofBits (update register first).toNat) =
      residue (ofBits (update register second).toNat) := by rw [same]
  rw [residue_update, residue_update, lengths, map_add, map_add, add_right_inj, ← sub_eq_zero,
    ← map_sub, ← sub_mul, CharTwo.sub_eq_add, residue_eq_zero_iff] at equal
  exact (isCoprime_generator_X_pow 16).dvd_of_dvd_mul_right equal

end Crc

namespace Frame

namespace Header

/-- A frame with its check moved behind the payload, highest byte first, where a division would leave
the remainder. -/
def codeword (header : Header) (payload : Bytes) : Bytes :=
  { header with crc := 0 }.bytes ++ payload ++ (Bytes.ofUInt16 header.crc).reverse

theorem length_codeword (header : Header) (payload : Bytes) :
    (header.codeword payload).length = headerLength + payload.length + 2 := by
  simp only [codeword, List.length_append, length_bytes, List.length_reverse, Bytes.ofUInt16,
    Bytes.length_ofNat]

/-- What is left of a frame whose check is right depends on its length alone. -/
theorem residue_codeword {header : Header} {payload : Bytes}
    (valid : header.check payload = header.crc) :
    Crc.residue (header.codeword payload).poly =
      Crc.residue (Crc.ofBits Crc.start.toNat * X ^ (8 * (headerLength + payload.length))) := by
  let covered : Bytes := { header with crc := 0 }.bytes ++ payload
  have size : covered.length = headerLength + payload.length := by
    rw [List.length_append, length_bytes]
  have check : header.crc = Crc.update Crc.start covered := by
    rw [← valid]
    exact List.foldl_append.symm
  have remainder := Crc.residue_update Crc.start covered
  rw [← check, size] at remainder
  have width : (Bytes.ofUInt16 header.crc).reverse.length = 2 := by
    rw [List.length_reverse, Bytes.ofUInt16, Bytes.length_ofNat]
  have doubled : covered.poly * X ^ 16 + covered.poly * X ^ 16 = 0 := CharTwo.add_self_eq_zero _
  calc
    Crc.residue (header.codeword payload).poly
      = Crc.residue (covered.poly * X ^ 16) + Crc.residue (Crc.ofBits header.crc.toNat) := by
        change Crc.residue (covered ++ (Bytes.ofUInt16 header.crc).reverse).poly = _
        rw [Bytes.poly_append, Bytes.poly_reverse_ofUInt16, width, map_add]
    _ = Crc.residue (covered.poly * X ^ 16 + (Crc.ofBits Crc.start.toNat *
          X ^ (8 * (headerLength + payload.length)) + covered.poly * X ^ 16)) := by
        rw [remainder, ← map_add]
    _ = _ := congrArg Crc.residue (by linear_combination doubled)

theorem dvd_of_valid {header header' : Header} {payload payload' : Bytes}
    (lengths : payload.length = payload'.length) (valid : header.check payload = header.crc)
    (valid' : header'.check payload' = header'.crc) :
    Crc.generator ∣ (header.codeword payload).poly + (header'.codeword payload').poly := by
  rw [← Crc.residue_eq_zero_iff, map_add, residue_codeword valid, residue_codeword valid', lengths,
    ← map_add, CharTwo.add_self_eq_zero, map_zero]

/-- Moving the check does not change in how many bits two frames differ. -/
theorem card_differing_codeword (header header' : Header) {payload payload' : Bytes}
    (lengths : payload.length = payload'.length) :
    ((header.codeword payload).differing (header'.codeword payload')).card =
      ((header.bytes ++ payload).differing (header'.bytes ++ payload')).card := by
  have heads : [header.msgId, header.len, header.dataId].length =
      [header'.msgId, header'.len, header'.dataId].length := rfl
  have checks : (Bytes.ofUInt16 header.crc).length = (Bytes.ofUInt16 header'.crc).length := rfl
  simp only [codeword, bytes]
  rw [Bytes.card_differing_append (by simp [lengths, Bytes.ofUInt16]),
    Bytes.card_differing_append (by simp [Bytes.ofUInt16]), Bytes.card_differing_append heads,
    Bytes.card_differing_reverse checks, Bytes.differing_self, Finset.card_empty,
    Bytes.card_differing_append (by simp [Bytes.ofUInt16]), Bytes.card_differing_append heads]
  omega

theorem bytes_injective : Function.Injective Header.bytes := by
  intro header header' same
  have read := header.ofBytes_append []
  rw [same, header'.ofBytes_append] at read
  exact (Except.ok.inj read).symm

end Header

variable {header header' : Header} {payload payload' : Bytes}

/-- Two frames with a right check differ in an even number of bits, and in at least four. -/
theorem differing_of_valid (lengths : payload.length = payload'.length)
    (fits : payload.length ≤ maxPayload) (valid : header.check payload = header.crc)
    (valid' : header'.check payload' = header'.crc)
    (different : ((header.bytes ++ payload).differing (header'.bytes ++ payload')).Nonempty) :
    Even ((header.bytes ++ payload).differing (header'.bytes ++ payload')).card ∧
      4 ≤ ((header.bytes ++ payload).differing (header'.bytes ++ payload')).card := by
  have count := Header.card_differing_codeword header header' lengths
  have codewords : (header.codeword payload).length = (header'.codeword payload').length := by
    rw [Header.length_codeword, Header.length_codeword, lengths]
  have short : (header.codeword payload).length ≤ 135 := by
    rw [Header.length_codeword]
    change payload.length ≤ 128 at fits
    change 5 + payload.length + 2 ≤ 135
    omega
  have moved : ((header.codeword payload).differing (header'.codeword payload')).Nonempty := by
    rw [← Finset.card_ne_zero, count]
    exact different.card_ne_zero
  obtain ⟨even, four, -⟩ :=
    Crc.differing_of_dvd codewords short (Header.dvd_of_valid lengths valid valid') moved
  rw [count] at even four
  exact ⟨even, four⟩

/-- Two frames with the same header and a right check do not differ only in sixteen bits in a row. -/
theorem exists_outside_of_valid (lengths : payload.length = payload'.length)
    (fits : payload.length ≤ maxPayload) (valid : header.check payload = header.crc)
    (valid' : header.check payload' = header.crc)
    (different : ((header.bytes ++ payload).differing (header.bytes ++ payload')).Nonempty)
    (start : Nat) :
    ∃ position ∈ (header.bytes ++ payload).differing (header.bytes ++ payload'),
      ¬(start ≤ position ∧ position < start + 16) := by
  have divides := Crc.dvd_of_update_eq lengths (valid.trans valid'.symm)
  have short : payload.length ≤ 135 := fits.trans (by decide)
  have inPayload : (payload.differing payload').Nonempty := by
    obtain ⟨position, member⟩ := different
    obtain ⟨-, unequal⟩ := Bytes.mem_differing.mp member
    have late : 8 * header.bytes.length ≤ position := by
      by_contra early
      have inside : position < 8 * header.bytes.length := by omega
      rw [Bytes.bitAt_append_left payload inside, Bytes.bitAt_append_left payload' inside] at unequal
      exact unequal rfl
    obtain ⟨rest, rfl⟩ := Nat.exists_eq_add_of_le late
    exact ⟨rest, (Bytes.mem_differing_append rfl payload payload' rest).mp member⟩
  obtain ⟨-, -, wide⟩ := Crc.differing_of_dvd lengths short divides inPayload
  obtain ⟨position, member, outside⟩ := wide (start - 8 * header.bytes.length)
  refine ⟨_, (Bytes.mem_differing_append rfl payload payload' position).mpr member, ?_⟩
  omega

/-- Bits that are the same in all of the header make the header the same. -/
theorem header_eq_of_differing
    (inPayload : ∀ position ∈ (header.bytes ++ payload).differing (header'.bytes ++ payload'),
      8 * headerLength ≤ position) : header' = header := by
  apply Header.bytes_injective
  apply Bytes.eq_of_bitAt
  · rw [Header.length_bytes, Header.length_bytes]
  intro position inside
  rw [Header.length_bytes] at inside
  have within : position < 8 * header.bytes.length := by rwa [Header.length_bytes]
  have within' : position < 8 * header'.bytes.length := by rwa [Header.length_bytes]
  rw [← Bytes.bitAt_append_left payload' within', ← Bytes.bitAt_append_left payload within]
  by_contra unequal
  have member : position ∈ (header.bytes ++ payload).differing (header'.bytes ++ payload') := by
    rw [Bytes.mem_differing, List.length_append]
    exact ⟨by omega, Ne.symm unequal⟩
  have := inPayload position member
  omega

/-- A corrupted frame is noticed. A byte string as long as the encoding of a payload that differs from it
in some bits, none of them in the length byte, is refused for its check if the bits are at most three,
or odd in number, or all in the payload and within sixteen bits in a row. -/
theorem corruption_detected (msgId dataId : UInt8) {payload : Bytes} {room : Nat}
    (fits : payload.length ≤ maxPayload) (enough : headerLength + payload.length ≤ room) :
    ∃ frame, encode msgId dataId payload room = .ok frame ∧
      ∀ altered : Bytes, altered.length = frame.length → (frame.differing altered).Nonempty →
        (∀ position ∈ frame.differing altered, position / 8 ≠ 1) →
        ((frame.differing altered).card ≤ 3 ∨ Odd (frame.differing altered).card ∨
          ∃ start, ∀ position ∈ frame.differing altered,
            8 * headerLength ≤ position ∧ start ≤ position ∧ position < start + 16) →
        ∃ expected computed, decode altered = .error (.crcMismatch expected computed) := by
  let parcel : Parcel := ⟨msgId, dataId, payload, fits⟩
  refine ⟨parcel.header.bytes ++ payload, ?_, ?_⟩
  · rw [parcel.encode_eq_ite, if_neg (Nat.not_lt.mpr enough)]
  intro altered lengths different spared kind
  have long : headerLength ≤ altered.length := by
    rw [lengths, List.length_append, Header.length_bytes]
    omega
  obtain ⟨header, rest, rfl⟩ := Header.exists_bytes_append long
  have rests : payload.length = rest.length := by
    rw [List.length_append, List.length_append, Header.length_bytes, Header.length_bytes] at lengths
    omega
  have len : parcel.header.len = header.len := by
    change (parcel.header.bytes ++ payload).byteAt 1 = (header.bytes ++ rest).byteAt 1
    apply Bytes.byteAt_eq_of_bitAt
    intro position second
    by_contra unequal
    refine spared position (Bytes.mem_differing.mpr ⟨?_, unequal⟩) second
    rw [List.length_append, Header.length_bytes]
    change position < 8 * (5 + payload.length)
    omega
  have size : header.len.toNat = rest.length := by
    rw [← len, parcel.toNat_len, ← rests]
  -- With the length right, only the check is left to refuse the frame.
  have decoded := decode_sized size (rests ▸ fits) []
  rw [List.append_nil] at decoded
  refine ⟨header.crc, header.check rest, ?_⟩
  rw [decoded, if_neg]
  intro valid
  obtain ⟨even, four⟩ := differing_of_valid rests fits rfl valid different
  rcases kind with few | odd | ⟨start, window⟩
  · omega
  · exact Nat.not_even_iff_odd.mpr odd even
  · -- The check itself is among the bits that are the same, so only the payload counts.
    have same : header = parcel.header :=
      header_eq_of_differing fun position member => (window position member).1
    subst same
    obtain ⟨position, member, outside⟩ := exists_outside_of_valid rests fits rfl valid different start
    exact outside (window position member).2

/-- One bit of each byte of the check and one of the payload are wrong. -/
theorem corruption_detected_scattered :
    Bytes.differing [1, 2, 0x50, 0xd8, 0x33, 0xaa, 0xbb] [1, 2, 0x50, 0xd9, 0xb3, 0xaa, 0xb9] =
        {31, 32, 54} ∧
      ∃ expected computed,
        decode [1, 2, 0x50, 0xd9, 0xb3, 0xaa, 0xb9] = .error (.crcMismatch expected computed) := by
  obtain ⟨frame, encoded, detected⟩ := @corruption_detected 1 0x50 [0xaa, 0xbb] 7 (by decide) (by decide)
  have bytes : encode 1 0x50 [0xaa, 0xbb] 7 = .ok [1, 2, 0x50, 0xd8, 0x33, 0xaa, 0xbb] := by
    decide +kernel
  obtain rfl := Except.ok.inj (encoded.symm.trans bytes)
  have bits : Bytes.differing [1, 2, 0x50, 0xd8, 0x33, 0xaa, 0xbb] [1, 2, 0x50, 0xd9, 0xb3, 0xaa, 0xb9] =
      {31, 32, 54} := by decide +kernel
  refine ⟨bits, detected _ rfl ?_ ?_ (.inl ?_)⟩
  · rw [bits]
    decide
  · rw [bits]
    decide
  · rw [bits]
    decide

end Frame

end RadioLink
