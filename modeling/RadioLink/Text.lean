import RadioLink.Bytes

/-!
Hexadecimal text: padded numbers for messages, plain byte strings for digests, and the dump that
accompanies traced frames.
-/

namespace RadioLink.Text

/-- Digits of `n` in base sixteen, lower case, at least `width` of them. -/
def hex (width n : Nat) : String :=
  let digits := Nat.toDigits 16 n
  String.ofList (List.replicate (width - digits.length) '0' ++ digits)

def hexByte (b : UInt8) : String := hex 2 b.toNat

/-- A byte as it stands in messages: `0x0f`. -/
def tagged (b : UInt8) : String := "0x" ++ hexByte b

/-- A 16-bit word as it stands in messages: `0x00ff`. -/
def taggedWord (w : UInt16) : String := "0x" ++ hex 4 w.toNat

/-- Every byte as two digits, nothing between them. -/
def hexBytes (bytes : Bytes) : String := String.join (bytes.map hexByte)

/-- The bytes of a list in brackets, two hexadecimal digits each. -/
def hexList (bytes : Bytes) : String := "[" ++ ", ".intercalate (bytes.map hexByte) ++ "]"

/-- The bytes of a list in brackets, in decimal. -/
def decimalList (bytes : Bytes) : String :=
  "[" ++ ", ".intercalate (bytes.map fun b => toString b.toNat) ++ "]"

/-- Line number `row` of a dump: the offset of its first byte and up to sixteen bytes. -/
def dumpRow (row : Nat) (bytes : Bytes) : String :=
  (hex 8 (16 * row)).toUpper ++ "  " ++ " ".intercalate (bytes.map fun b => (hexByte b).toUpper)

/-- Sixteen bytes a line. -/
def dump (bytes : Bytes) : String :=
  "\n".intercalate ((bytes.chunks 16).mapIdx dumpRow)

/-- The value of a hexadecimal digit of either case. -/
def hexDigit? (c : Char) : Option Nat :=
  if '0' ≤ c ∧ c ≤ '9' then some (c.toNat - '0'.toNat)
  else if 'a' ≤ c ∧ c ≤ 'f' then some (c.toNat - 'a'.toNat + 10)
  else if 'A' ≤ c ∧ c ≤ 'F' then some (c.toNat - 'A'.toNat + 10)
  else none

/-- The bytes that pairs of hexadecimal digits spell; anything else reads as the digit zero. -/
def unhex : List Char → Bytes
  | a :: b :: rest =>
    UInt8.ofNat (16 * (hexDigit? a).getD 0 + (hexDigit? b).getD 0) :: unhex rest
  | _ => []

/-- The lines of a text in which every line ends with a newline. -/
def lines (text : String) : List String :=
  match (text.splitOn "\n").reverse with
  | "" :: rest => rest.reverse
  | all => all.reverse

end RadioLink.Text
