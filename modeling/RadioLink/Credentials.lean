import RadioLink.Bytes
import RadioLink.Text

/-!
Names and passwords of wireless networks. Both travel in fields of 32 bytes, so neither may be
longer than that in UTF-8.
-/

namespace RadioLink

structure Credentials where
  ssid : String := ""
  password : String := ""
  ssid_fits : ssid.utf8ByteSize ≤ 32 := by decide
  password_fits : password.utf8ByteSize ≤ 32 := by decide
  deriving DecidableEq, Repr

namespace Credentials

/-- The length of one field on the wire. -/
def fieldLength : Nat := 32

/-- No network at all. -/
def blank : Credentials := {}

instance : Inhabited Credentials := ⟨blank⟩

/-- `none` when either text does not fit its field. -/
def ofTexts? (ssid password : String) : Option Credentials :=
  if fits : ssid.utf8ByteSize ≤ 32 ∧ password.utf8ByteSize ≤ 32 then
    some { ssid, password, ssid_fits := fits.1, password_fits := fits.2 }
  else none

/-- A slot without a name is not configured. -/
def isEmpty (credentials : Credentials) : Bool := credentials.ssid.isEmpty

def utf8 (text : String) : Bytes := text.toUTF8.data.toList

/-- The body of a join request: name and password, each filled up with zeros. -/
def bytes (credentials : Credentials) : Bytes :=
  (utf8 credentials.ssid).padTo fieldLength ++ (utf8 credentials.password).padTo fieldLength

/-- Start of the name of a generated access point. -/
def generatedName : String := "Chromatron_"

def generatedPassword : String := "12345678"

/-- The access point that a device offers when none is configured: its name ends with the last
three bytes of the hardware address. -/
def generated (mac : Mac) : Credentials :=
  (ofTexts? (generatedName ++ Text.hexBytes (mac.bytes.drop 3)) generatedPassword).getD blank

/-- The shortest password of an access point, in bytes. -/
def minAccessPointPassword : Nat := 8

end Credentials

end RadioLink
