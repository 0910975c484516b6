import RadioLink.Link.Reception

/-!
Boot, provisioning and health of the link as a machine of five states. A request to shut down is
looked at between two steps only, so a provisioning cycle under way runs to its end first.
-/

namespace RadioLink

inductive Stage where
  /-- Checking the firmware in flash, and writing it anew when needed. -/
  | bootRom
  /-- Starting the application firmware and resetting the link. -/
  | bootApp
  /-- Traffic flows; `entered` after the first pass. -/
  | alive (entered : Bool)
  /-- The co-processor is parked for a while. -/
  | error
  /-- The co-processor is parked for good, once `done`. -/
  | shutdown (withError done : Bool)
  deriving DecidableEq, Repr

def Stage.isShutdown : Stage → Bool
  | .shutdown _ _ => true
  | _ => false

structure Lifecycle (σ : Type) where
  link : Link σ
  stage : Stage := .bootRom
  /-- Failed provisioning cycles since the last success or fallback. -/
  attempts : Nat := 0
  shutdownRequested : Bool := false

namespace Lifecycle

variable {σ : Type}

/-- The pause between two passes over a live link. -/
def alivePause : Micros := 1000

/-- How long the co-processor stays parked after an error. -/
def errorHoldMs : Nat := 50000

def requestShutdown (cycle : Lifecycle σ) : Lifecycle σ := { cycle with shutdownRequested := true }

/-- The co-processor has been parked for good. -/
def isDone (cycle : Lifecycle σ) : Bool :=
  match cycle.stage with
  | .shutdown _ done => done
  | _ => false

/-- The exit status, once done. -/
def exitStatus (cycle : Lifecycle σ) : Option Nat :=
  match cycle.stage with
  | .shutdown withError true => some (if withError then 1 else 0)
  | _ => none

/-- Announces a stage that is entered. -/
def announce (link : Link σ) (stage : StageName) (state : LinkState) : Link σ :=
  (link.note (.entered stage)).setState state

variable [Peer σ]

/-- What follows a provisioning cycle that failed: another one as long as tries remain, then the
image in flash if the latest verdict allows it, and the error stage otherwise. -/
def afterFailure (cycle : Lifecycle σ) (error : ProvisionError) : Lifecycle σ :=
  let attempts := cycle.attempts + 1
  let tries := cycle.link.settings.maxLoaderTries
  let cycle := { cycle with link := cycle.link.note (.provisioningFailed attempts tries error) }
  if attempts < tries then { cycle with attempts, stage := .bootRom }
  else if cycle.link.verdict.any Verdict.runsExisting then
    { cycle with link := cycle.link.note .runningFlash, attempts := 0, stage := .bootApp }
  else { cycle with link := cycle.link.note .loaderGaveUp, attempts := 0, stage := .error }

def stepBootRom (cycle : Lifecycle σ) : Lifecycle σ :=
  let (result, link) := Link.provision.outcome (announce cycle.link .bootRom .booting)
  match result with
  | .ok none => { cycle with link := link.note .imageNotFound, attempts := 0, stage := .bootApp }
  | .ok (some .flashed) =>
    { cycle with link := link.note .firmwareUpdated, attempts := 0, stage := .bootApp }
  | .ok (some (.verified _)) => { cycle with link, attempts := 0, stage := .bootApp }
  | .error error => { cycle with link }.afterFailure error

/-- Starts the application firmware and resets the link. -/
def bootApplication : Action LinkError (Link σ) Bool := do
  Link.enterMode .application
  Link.handshake

def stepBootApp (cycle : Lifecycle σ) : Lifecycle σ :=
  let fresh := (announce cycle.link .bootApp .booting).resetSession
  let (result, link) := bootApplication.outcome fresh
  match result with
  | .ok true => { cycle with link, stage := .alive false }
  | .ok false => { cycle with link := link.note .noResetAnswer, stage := .bootApp }
  | .error error => { cycle with link := link.note (.bootFailed error), stage := .bootApp }

def stepAlive (cycle : Lifecycle σ) (entered : Bool) : Lifecycle σ :=
  let ready := if entered then cycle.link else announce cycle.link .alive .alive
  let (result, link) := Link.tick.outcome ready
  match result with
  | .ok () => { cycle with link := link.onLine (·.delay alivePause), stage := .alive true }
  | .error error => { cycle with link := link.note (.linkLost error), stage := .error }

def stepError (cycle : Lifecycle σ) : Lifecycle σ :=
  let (result, link) := Link.holdReset.outcome (announce cycle.link .error .error)
  let noted :=
    match result with
    | .ok () => link
    | .error error => link.note (.holdFailed error)
  { cycle with link := noted.delayMs errorHoldMs, stage := .bootRom }

def stepShutdown (cycle : Lifecycle σ) (withError : Bool) : Lifecycle σ :=
  let (result, link) := Link.holdReset.outcome (announce cycle.link .shutdown .shutdown)
  match result with
  | .ok () => { cycle with link, stage := .shutdown withError true }
  | .error error => { cycle with link := link.note (.parkFailed error), stage := .shutdown true true }

/-- The work of the current stage and the transition it asks for. -/
def work (cycle : Lifecycle σ) : Lifecycle σ :=
  match cycle.stage with
  | .bootRom => cycle.stepBootRom
  | .bootApp => cycle.stepBootApp
  | .alive entered => cycle.stepAlive entered
  | .error => cycle.stepError
  | .shutdown withError _ => cycle.stepShutdown withError

/-- One step. A requested shutdown replaces the work of any stage but shutdown itself. -/
def step (cycle : Lifecycle σ) : Lifecycle σ :=
  if cycle.shutdownRequested && !cycle.stage.isShutdown then
    { cycle with stage := .shutdown false false }
  else cycle.work

/-- Steps until the co-processor is parked, at most `fuel` of them. -/
def run : (fuel : Nat) → Lifecycle σ → Option Nat × Lifecycle σ
  | 0, cycle => (none, cycle)
  | fuel + 1, cycle =>
    let next := cycle.step
    match next.exitStatus with
    | some status => (some status, next)
    | none => run fuel next

end Lifecycle

end RadioLink
