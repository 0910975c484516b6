import RadioLink.Bytes
import RadioLink.Text

/-!
Numbers and digests as they are written on the command line. A plus sign in front of a number is
allowed, also in front of a single digit of a digest.
-/

namespace RadioLink.CommandLine

/-- Drops one plus sign. -/
def unsigned : List Char → List Char
  | '+' :: rest => rest
  | text => text

/-- The value of a digit below `base`. -/
def digit? (base : Nat) (c : Char) : Option Nat :=
  (Text.hexDigit? c).filter (· < base)

/-- The number that digits spell after what has been read; there may be none. -/
def digitsFrom? (base : Nat) (read : Nat) : List Char → Option Nat
  | [] => some read
  | c :: rest => do digitsFrom? base (base * read + (← digit? base c)) rest

/-- An unsigned number below `bound`, with at least one digit. -/
def number? (base bound : Nat) (text : List Char) : Option Nat :=
  match unsigned text with
  | [] => none
  | digits => (digitsFrom? base 0 digits).filter (· < bound)

def uint32? (text : String) : Option UInt32 :=
  (number? 10 UInt32.size text.toList).map UInt32.ofNat

/-- Bytes written as two characters each. -/
def hexPairs? : List Char → Option Bytes
  | [] => some []
  | [_] => none
  | a :: b :: rest => do
    let value ← number? 16 256 [a, b]
    return UInt8.ofNat value :: (← hexPairs? rest)

/-- A digest of sixteen bytes. -/
def digest? (text : String) : Option Digest := do
  Octets.ofBytes? 16 (← hexPairs? text.toList)

end RadioLink.CommandLine
