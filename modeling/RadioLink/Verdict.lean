import RadioLink.Bytes

/-!
What to do about the firmware, given the digests of the image file, of the configuration and of the
co-processor's flash.
-/

namespace RadioLink

inductive Verdict where
  /-- All three agree. -/
  | runExisting
  /-- File and configuration agree, the flash holds something else. -/
  | flashFromFile
  /-- The flash is as configured and the file is not: the file is probably a bad upload. -/
  | runExistingStaleFile
  /-- The flash is as in the file and the configuration is out of date. -/
  | adoptFileDigest
  /-- Nothing agrees. -/
  | bestEffort
  deriving DecidableEq, Repr

namespace Verdict

/-- Whether the image already in flash is started as it is. -/
def runsExisting (verdict : Verdict) : Bool := verdict ≠ .flashFromFile

def reconcile (file config flash : Digest) : Verdict :=
  if file = config then
    if config = flash then .runExisting else .flashFromFile
  else if config = flash then .runExistingStaleFile
  else if file = flash then .adoptFileDigest
  else .bestEffort

def name : Verdict → String
  | runExisting => "RunExisting"
  | flashFromFile => "FlashFromFile"
  | runExistingStaleFile => "RunExistingStaleFile"
  | adoptFileDigest => "AdoptFileDigest"
  | bestEffort => "BestEffort"

end Verdict

end RadioLink
