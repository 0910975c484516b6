import RadioLink.Config
import RadioLink.Flasher

/-!
One provisioning cycle: get in step with the boot loader, start the flasher stub, compare digests
and act on the verdict. The flash is written only when file and configuration agree and the flash
differs, and a write counts only after its digest was read back.
-/

namespace RadioLink.Provisioning

/-- How a cycle ended. -/
inductive Outcome where
  /-- The flash was left alone. -/
  | verified (verdict : Verdict)
  /-- The image was written and read back. -/
  | flashed
  deriving DecidableEq, Repr

def Outcome.name : Outcome → String
  | verified verdict => "Verified(" ++ verdict.name ++ ")"
  | flashed => "Flashed"

/-- What a cycle works on. The verdict is kept also when the cycle fails later. -/
structure Workbench (σ : Type) where
  port : Slip.Port σ
  store : ConfigStore
  verdict : Option Verdict := none

namespace Workbench

variable {σ α : Type}

def note (bench : Workbench σ) (notice : Notice) : Workbench σ :=
  { bench with port := bench.port.note notice }

/-- Runs an operation of the packet port. -/
def onPort (action : Action ProvisionError (Slip.Port σ) α) :
    Action ProvisionError (Workbench σ) α :=
  action.within Workbench.port fun port bench => { bench with port }

end Workbench

open Workbench

variable {σ : Type} [Peer σ]

/-- The stub needs this long after a change of baud rate. -/
def stubSettleMs : Nat := 50

/-- Starts the flasher stub. -/
def startStub (settings : Settings) (stub : Firmware.Stub) :
    Action ProvisionError (Slip.Port σ) Unit := do
  Loader.sync
  Loader.loadStub stub settings.stubBaudRate
  Slip.Port.discard.mapError .io
  (Slip.Port.setBaud settings.stubBaudRate).mapError .io
  Action.change (Slip.Port.delayMs · stubSettleMs)
  Flasher.awaitGreeting

/-- Writes the image and reads its digest back. -/
def flash (image : Firmware.Image) (expected : FirmwareDescriptor) :
    Action ProvisionError (Workbench σ) Outcome := do
  if image.payload.length ≠ expected.length.toNat then
    throw (.imageLengthMismatch image.payload.length expected.length.toNat)
  Action.change (note · (.loadingFirmware expected.length.toNat))
  Action.ofExcept (image.rewind.mapError .io)
  onPort (Flasher.writeImage 0 image expected.length)
  let written ← onPort (Flasher.digest 0 expected.length)
  if written ≠ image.digest then throw .digestMismatch
  Action.change (note · .flashLoadDone)
  pure .flashed

/-- Carries out a verdict. -/
def actOn (verdict : Verdict) (image : Firmware.Image) (expected : FirmwareDescriptor) :
    Action ProvisionError (Workbench σ) Outcome := do
  match verdict with
  | .runExisting => Action.change (note · .firmwareValid)
  | .runExistingStaleFile => Action.change (note · .fileDigestMismatch)
  | .adoptFileDigest =>
    Action.change (note · .digestRestored)
    Action.change fun bench => { bench with store := bench.store.write (.firmwareMd5 image.digest) }
  | .bestEffort => Action.change (note · .digestsDisagree)
  | .flashFromFile => return ← flash image expected
  pure (.verified verdict)

/-- One cycle. The co-processor must be held in its boot loader. -/
def run (settings : Settings) (image : Firmware.Image) (stub : Firmware.Stub) :
    Action ProvisionError (Workbench σ) Outcome := do
  onPort (startStub settings stub)
  let expected := (← get).store.config.firmware
  let flashDigest ← onPort (Flasher.digest 0 expected.length)
  let fileDigest ← Action.ofExcept (image.readDigest.mapError .io)
  let verdict := Verdict.reconcile fileDigest expected.md5 flashDigest
  Action.change fun bench => { bench.note (.decided verdict) with verdict := some verdict }
  actOn verdict image expected

end RadioLink.Provisioning
