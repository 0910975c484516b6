import Mathlib
import RadioLink.CommandLine.Numbers

/-!
Digests as they are written on the command line. A byte is read from two characters as a number would be, so next to
two hexadecimal digits a plus sign with one digit is also taken. A text without a plus sign is accepted exactly if it
is written in 32 digits, and is then what its digest is rendered as, up to the case of letters.
-/

namespace RadioLink

namespace Text

variable {c : Char}

def HexDigit (c : Char) : Prop :=
  ('0' ≤ c ∧ c ≤ '9') ∨ ('a' ≤ c ∧ c ≤ 'f') ∨ ('A' ≤ c ∧ c ≤ 'F')

theorem hexDigit_iff : HexDigit c ↔ ∃ value, hexDigit? c = some value := by
  unfold HexDigit hexDigit?
  split
  next decimal => exact ⟨fun _ => ⟨_, rfl⟩, fun _ => .inl decimal⟩
  next other =>
    split
    next lower => exact ⟨fun _ => ⟨_, rfl⟩, fun _ => .inr (.inl lower)⟩
    next further =>
      split
      next upper => exact ⟨fun _ => ⟨_, rfl⟩, fun _ => .inr (.inr upper)⟩
      next neither => simp [other, further, neither]

theorem not_hexDigit_plus : ¬HexDigit '+' := by
  unfold HexDigit
  decide

theorem HexDigit.toNat_lt (digit : HexDigit c) : c.toNat < 128 := by
  have bound : c ≤ 'f' := by
    rcases digit with ⟨-, decimal⟩ | ⟨-, lower⟩ | ⟨-, upper⟩
    · exact decimal.trans (by decide)
    · exact lower
    · exact upper.trans (by decide)
  exact lt_of_le_of_lt (UInt32.le_iff_toNat_le.mp (Char.le_def.mp bound)) (by decide)

/-- A digit as it is written in lower case. -/
theorem digit_of_hexDigit? {value : Nat} (read : hexDigit? c = some value) :
    value < 16 ∧ c.toLower = Nat.digitChar value := by
  have table : ∀ code : Fin 128, ∀ value ∈ hexDigit? (Char.ofNat code),
      value < 16 ∧ (Char.ofNat code).toLower = Nat.digitChar value := by
    decide +kernel
  have small := (hexDigit_iff.mpr ⟨value, read⟩).toNat_lt
  have entry := table ⟨c.toNat, small⟩ value
  rw [Char.ofNat_toNat] at entry
  exact entry read

theorem pair_lt {a b : Char} {high low : Nat} (first : hexDigit? a = some high) (second : hexDigit? b = some low) :
    16 * high + low < 256 := by
  have upper := (digit_of_hexDigit? first).1
  have lower := (digit_of_hexDigit? second).1
  omega

theorem toList_hexByte {high low : Nat} (first : high < 16) (second : low < 16) :
    (hexByte (UInt8.ofNat (16 * high + low))).toList = [Nat.digitChar high, Nat.digitChar low] := by
  have table : ∀ high low : Fin 16,
      List.replicate (2 - (Nat.toDigits 16 (UInt8.ofNat (16 * high + low)).toNat).length) '0' ++
        Nat.toDigits 16 (UInt8.ofNat (16 * high + low)).toNat = [Nat.digitChar high, Nat.digitChar low] := by
    decide +kernel
  rw [hexByte, hex, String.toList_ofList]
  exact table ⟨high, first⟩ ⟨low, second⟩

theorem toList_hexBytes_cons (byte : UInt8) (bytes : Bytes) :
    (hexBytes (byte :: bytes)).toList = (hexByte byte).toList ++ (hexBytes bytes).toList := by
  rw [hexBytes, hexBytes, String.toList_join, String.toList_join]
  rfl

end Text

namespace CommandLine

open Text

/-- A byte as it may be written: two digits, or a plus sign and one digit. -/
inductive Pair : Char → Char → UInt8 → Prop
  | digits {a b : Char} {high low : Nat} (first : hexDigit? a = some high) (second : hexDigit? b = some low) :
    Pair a b (UInt8.ofNat (16 * high + low))
  | signed {b : Char} {low : Nat} (second : hexDigit? b = some low) : Pair '+' b (UInt8.ofNat low)

theorem digit?_sixteen (c : Char) : digit? 16 c = hexDigit? c := by
  rw [digit?]
  rcases read : hexDigit? c with _ | value
  · rfl
  · exact if_pos (decide_eq_true (digit_of_hexDigit? read).1)

theorem digitsFrom?_cons (read : Nat) (c : Char) (rest : List Char) :
    digitsFrom? 16 read (c :: rest) =
      (hexDigit? c).bind fun value => digitsFrom? 16 (16 * read + value) rest := by
  rw [digitsFrom?, digit?_sixteen]
  rfl

theorem unsigned_of_ne {c : Char} (other : c ≠ '+') (rest : List Char) : unsigned (c :: rest) = c :: rest := by
  unfold unsigned
  split
  next same => exact absurd (List.cons.inj same).1 other
  next => rfl

theorem number?_signed (b : Char) : number? 16 256 ['+', b] = hexDigit? b := by
  change (digitsFrom? 16 0 [b]).filter (· < 256) = _
  rw [digitsFrom?_cons]
  rcases read : hexDigit? b with _ | low
  · rfl
  · have small : low < 256 := lt_trans (digit_of_hexDigit? read).1 (by decide)
    simp [digitsFrom?, Option.filter, small]

theorem number?_digits {a : Char} (other : a ≠ '+') (b : Char) :
    number? 16 256 [a, b] =
      (hexDigit? a).bind fun high => (hexDigit? b).map fun low => 16 * high + low := by
  rw [number?, unsigned_of_ne other]
  change (digitsFrom? 16 0 [a, b]).filter (· < 256) = _
  rw [digitsFrom?_cons]
  rcases first : hexDigit? a with _ | high
  · rfl
  rw [Option.bind_some, Option.bind_some, digitsFrom?_cons]
  rcases second : hexDigit? b with _ | low
  · rfl
  · simp [digitsFrom?, Option.filter, pair_lt first second]

/-- Two characters are read as a byte exactly if they are a way to write it. -/
theorem number?_pair_iff {a b : Char} {byte : UInt8} :
    (∃ value, number? 16 256 [a, b] = some value ∧ UInt8.ofNat value = byte) ↔ Pair a b byte := by
  constructor
  · rintro ⟨value, read, rfl⟩
    by_cases sign : a = '+'
    · subst sign
      rw [number?_signed] at read
      exact .signed read
    · rw [number?_digits sign, Option.bind_eq_some_iff] at read
      obtain ⟨high, first, rest⟩ := read
      obtain ⟨low, second, rfl⟩ := Option.map_eq_some_iff.mp rest
      exact .digits first second
  · intro pair
    cases pair with
    | @digits a b high low first second =>
      have other : a ≠ '+' := by
        rintro rfl
        exact not_hexDigit_plus (hexDigit_iff.mpr ⟨high, first⟩)
      refine ⟨16 * high + low, ?_, rfl⟩
      rw [number?_digits other, first, second]
      rfl
    | @signed b low second => exact ⟨low, (number?_signed b).trans second, rfl⟩

inductive Spelling : List Char → Bytes → Prop
  | nil : Spelling [] []
  | cons {a b : Char} {byte : UInt8} {text : List Char} {bytes : Bytes} (pair : Pair a b byte)
    (rest : Spelling text bytes) : Spelling (a :: b :: text) (byte :: bytes)

theorem hexPairs?_iff {text : List Char} {bytes : Bytes} : hexPairs? text = some bytes ↔ Spelling text bytes := by
  fun_induction hexPairs? text generalizing bytes with
  | case1 =>
    constructor
    · intro same
      cases same
      exact .nil
    · rintro ⟨⟩
      rfl
  | case2 c =>
    constructor
    · intro read
      cases read
    · intro spelling
      cases spelling
  | case3 a b text ih =>
    constructor
    · intro read
      obtain ⟨value, first, others⟩ := Option.bind_eq_some_iff.mp read
      obtain ⟨later, rest, same⟩ := Option.bind_eq_some_iff.mp others
      cases same
      exact .cons (number?_pair_iff.mp ⟨value, first, rfl⟩) (ih.mp rest)
    · intro spelling
      cases spelling with
      | cons pair rest =>
        obtain ⟨value, first, rfl⟩ := number?_pair_iff.mpr pair
        rw [first, ih.mpr rest]
        rfl

theorem exists_pair {text : List Char} {count : Nat} (even : text.length = 2 * (count + 1)) :
    ∃ a b others, text = a :: b :: others ∧ others.length = 2 * count := by
  cases text with
  | nil =>
    rw [List.length_nil] at even
    omega
  | cons a tail =>
    cases tail with
    | nil =>
      rw [List.length_singleton] at even
      omega
    | cons b others =>
      rw [List.length_cons, List.length_cons] at even
      exact ⟨a, b, others, rfl, by omega⟩

namespace Spelling

variable {text : List Char} {bytes : Bytes}

theorem length_eq (spelling : Spelling text bytes) : text.length = 2 * bytes.length := by
  induction spelling with
  | nil => rfl
  | cons pair rest ih =>
    rw [List.length_cons, List.length_cons, List.length_cons, ih]
    omega

/-- Each byte is written where twice as many characters come before it. -/
theorem iff_pairs : Spelling text bytes ↔ text.length = 2 * bytes.length ∧
    ∀ i < bytes.length, ∃ a b, text[2 * i]? = some a ∧ text[2 * i + 1]? = some b ∧ Pair a b (bytes.byteAt i) := by
  constructor
  · intro spelling
    refine ⟨spelling.length_eq, ?_⟩
    induction spelling with
    | nil => exact fun i inside => absurd inside (Nat.not_lt_zero i)
    | @cons a b byte text bytes pair rest ih =>
      intro i inside
      cases i with
      | zero => exact ⟨a, b, rfl, rfl, pair⟩
      | succ i => exact ih i (Nat.lt_of_succ_lt_succ inside)
  · rintro ⟨even, pairs⟩
    induction bytes generalizing text with
    | nil =>
      rw [List.length_eq_zero_iff.mp even]
      exact .nil
    | cons byte bytes ih =>
      obtain ⟨a, b, others, rfl, shorter⟩ := exists_pair even
      obtain ⟨_, _, first, second, pair⟩ := pairs 0 (Nat.zero_lt_succ _)
      cases first
      cases second
      exact .cons pair (ih shorter fun i inside => pairs (i + 1) (Nat.succ_lt_succ inside))

/-- Any digits spell something. -/
theorem exists_of_digits {count : Nat} (even : text.length = 2 * count) (digits : ∀ c ∈ text, HexDigit c) :
    ∃ bytes : Bytes, bytes.length = count ∧ Spelling text bytes := by
  induction count generalizing text with
  | zero =>
    rw [List.length_eq_zero_iff.mp even]
    exact ⟨[], rfl, .nil⟩
  | succ count ih =>
    obtain ⟨a, b, others, rfl, shorter⟩ := exists_pair even
    obtain ⟨bytes, size, rest⟩ := ih shorter fun c member =>
      digits c (List.mem_cons_of_mem _ (List.mem_cons_of_mem _ member))
    obtain ⟨high, first⟩ := hexDigit_iff.mp (digits a List.mem_cons_self)
    obtain ⟨low, second⟩ := hexDigit_iff.mp (digits b (List.mem_cons_of_mem _ List.mem_cons_self))
    exact ⟨_ :: bytes, congrArg Nat.succ size, .cons (.digits first second) rest⟩

/-- Without a plus sign, the text is what the bytes are rendered as. -/
theorem rendered (spelling : Spelling text bytes) (unsigned : '+' ∉ text) :
    (∀ c ∈ text, HexDigit c) ∧ text.map Char.toLower = (hexBytes bytes).toList := by
  induction spelling with
  | nil => exact ⟨fun c member => absurd member List.not_mem_nil, rfl⟩
  | @cons a b byte text bytes pair rest ih =>
    obtain ⟨digits, same⟩ := ih fun member => unsigned (List.mem_cons_of_mem _ (List.mem_cons_of_mem _ member))
    cases pair with
    | digits first second =>
      obtain ⟨high, upper⟩ := digit_of_hexDigit? first
      obtain ⟨low, lower⟩ := digit_of_hexDigit? second
      constructor
      · rw [List.forall_mem_cons, List.forall_mem_cons]
        exact ⟨hexDigit_iff.mpr ⟨_, first⟩, hexDigit_iff.mpr ⟨_, second⟩, digits⟩
      · rw [toList_hexBytes_cons, toList_hexByte high low, ← same, List.map_cons, List.map_cons, upper, lower]
        rfl
    | signed => exact absurd List.mem_cons_self unsigned

end Spelling

theorem digest?_iff {text : String} {digest : Digest} :
    digest? text = some digest ↔ Spelling text.toList digest.bytes := by
  rw [← hexPairs?_iff]
  constructor
  · intro read
    obtain ⟨bytes, spelled, sized⟩ := Option.bind_eq_some_iff.mp read
    unfold Octets.ofBytes? at sized
    split at sized
    · cases sized
      exact spelled
    · cases sized
  · intro spelled
    refine Option.bind_eq_some_iff.mpr ⟨digest.bytes, spelled, ?_⟩
    rw [Octets.ofBytes?, dif_pos digest.size]

/-- Two characters that are no sign have the value of their digits. -/
theorem Pair.value {a b : Char} {byte : UInt8} (pair : Pair a b byte) (unsigned : a ≠ '+') :
    ∃ high low, hexDigit? a = some high ∧ hexDigit? b = some low ∧ byte.toNat = 16 * high + low := by
  cases pair with
  | @digits a b high low first second =>
    exact ⟨high, low, first, second, UInt8.toNat_ofNat_of_lt' (pair_lt first second)⟩
  | signed => exact absurd rfl unsigned

section

variable {text : String} {digest : Digest}

theorem digest?_iff_pairs :
    digest? text = some digest ↔
      text.length = 32 ∧ ∀ i < 16, ∃ a b, text.toList[2 * i]? = some a ∧ text.toList[2 * i + 1]? = some b ∧
        Pair a b (digest.bytes.byteAt i) := by
  rw [digest?_iff, Spelling.iff_pairs, digest.size, String.length_toList]

theorem exists_digest_of_digits (size : text.length = 32) (digits : ∀ c ∈ text.toList, HexDigit c) :
    ∃ digest, digest? text = some digest := by
  have even : text.toList.length = 2 * 16 := by rw [String.length_toList, size]
  obtain ⟨bytes, size, spelling⟩ := Spelling.exists_of_digits even digits
  exact ⟨⟨bytes, size⟩, digest?_iff.mpr spelling⟩

end

/-- The text of a digest is read by its digits: it is accepted exactly if it has 32 of them and nothing else, each
byte has the value of its two digits, and the text is what the digest is rendered as, up to the case of letters. -/
def ReadsDigits (text : String) : Prop :=
  ((∃ digest, digest? text = some digest) ↔ text.length = 32 ∧ ∀ c ∈ text.toList, HexDigit c) ∧
    ∀ digest, digest? text = some digest →
      (∀ i < 16, ∃ a b high low, text.toList[2 * i]? = some a ∧ text.toList[2 * i + 1]? = some b ∧
        hexDigit? a = some high ∧ hexDigit? b = some low ∧ (digest.bytes.byteAt i).toNat = 16 * high + low) ∧
      text.toLower = hexBytes digest.bytes

/-- A digest may be written with plus signs. A text is accepted exactly if it has 32 characters and each two of them
are two hexadecimal digits, or a plus sign and one digit, that give the byte. It is read by its digits exactly if it
is refused or has no plus sign. -/
theorem digest_reads_digits_iff (text : String) :
    (∀ digest, digest? text = some digest ↔
      text.length = 32 ∧ ∀ i < 16, ∃ a b, text.toList[2 * i]? = some a ∧ text.toList[2 * i + 1]? = some b ∧
        Pair a b (digest.bytes.byteAt i)) ∧
    (ReadsDigits text ↔ ¬((∃ digest, digest? text = some digest) ∧ '+' ∈ text.toList)) := by
  refine ⟨fun digest => digest?_iff_pairs, ?_, ?_⟩
  · rintro ⟨accepts, -⟩ ⟨accepted, plus⟩
    exact not_hexDigit_plus ((accepts.mp accepted).2 '+' plus)
  · intro proper
    have unsigned {digest : Digest} (read : digest? text = some digest) : '+' ∉ text.toList :=
      fun plus => proper ⟨⟨digest, read⟩, plus⟩
    refine ⟨⟨?_, fun written => exists_digest_of_digits written.1 written.2⟩, fun digest read => ⟨?_, ?_⟩⟩
    · rintro ⟨digest, read⟩
      exact ⟨(digest?_iff_pairs.mp read).1, ((digest?_iff.mp read).rendered (unsigned read)).1⟩
    · intro i inside
      obtain ⟨a, b, first, second, pair⟩ := (digest?_iff_pairs.mp read).2 i inside
      have digit : a ≠ '+' := by
        rintro rfl
        exact unsigned read (List.mem_of_getElem? first)
      obtain ⟨high, low, upper, lower, value⟩ := pair.value digit
      exact ⟨a, b, high, low, first, second, upper, lower, value⟩
    · apply String.toList_inj.mp
      rw [String.toLower, String.toList_map]
      exact ((digest?_iff.mp read).rendered (unsigned read)).2

/-- A plus sign in place of the first digit. -/
theorem digest_reads_digits_iff_signed :
    (digest? "+123456789abcdef0123456789abcdef").map Octets.bytes =
        some [0x01, 0x23, 0x45, 0x67, 0x89, 0xab, 0xcd, 0xef, 0x01, 0x23, 0x45, 0x67, 0x89, 0xab, 0xcd, 0xef] ∧
      ¬ReadsDigits "+123456789abcdef0123456789abcdef" := by
  have read : (digest? "+123456789abcdef0123456789abcdef").map Octets.bytes =
      some [0x01, 0x23, 0x45, 0x67, 0x89, 0xab, 0xcd, 0xef, 0x01, 0x23, 0x45, 0x67, 0x89, 0xab, 0xcd, 0xef] := by
    decide +kernel
  obtain ⟨digest, accepted, -⟩ := Option.map_eq_some_iff.mp read
  refine ⟨read, fun right => ?_⟩
  exact (digest_reads_digits_iff _).2.mp right ⟨⟨digest, accepted⟩, by decide +kernel⟩

end CommandLine

end RadioLink
