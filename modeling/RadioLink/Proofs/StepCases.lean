import RadioLink.Lifecycle
import RadioLink.Proofs.Actions

/-!
What one step of the machine can do. Each case names the operation that the stage runs, how it went
and what the step leaves behind; what holds of every step is read off the cases.
-/

namespace RadioLink

variable {σ : Type}

def Link.Noted (before after : Link σ) : Prop :=
  ∃ log, after = before.onLine fun line => { line with log }

namespace Lifecycle

/-- The link with which the alive stage starts its pass; the first pass announces the stage. -/
def entering (cycle : Lifecycle σ) (entered : Bool) : Link σ :=
  if entered then cycle.link else announce cycle.link .alive .alive

variable [Peer σ]

inductive Stepped (cycle : Lifecycle σ) : Stage → Lifecycle σ → Prop where
  /-- A requested shutdown takes the place of the work. -/
  | asked {stage : Stage} (requested : cycle.shutdownRequested = true)
      (running : stage.isShutdown = false) :
      Stepped cycle stage { cycle with stage := .shutdown false false }
  | provisioned {outcome : Option Provisioning.Outcome} {link after : Link σ}
      (calm : cycle.shutdownRequested = false)
      (ran : Link.provision.outcome (announce cycle.link .bootRom .booting) = (.ok outcome, link))
      (noted : link.Noted after) :
      Stepped cycle .bootRom { cycle with link := after, attempts := 0, stage := .bootApp }
  /-- Provisioning failed, and tries remain. -/
  | again {error : ProvisionError} {link after : Link σ} (calm : cycle.shutdownRequested = false)
      (ran : Link.provision.outcome (announce cycle.link .bootRom .booting) = (.error error, link))
      (noted : link.Noted after) (more : cycle.attempts + 1 < link.settings.maxLoaderTries) :
      Stepped cycle .bootRom
        { cycle with link := after, attempts := cycle.attempts + 1, stage := .bootRom }
  /-- Provisioning failed for the last time. -/
  | gaveUp {error : ProvisionError} {link after : Link σ} {stage : Stage}
      (calm : cycle.shutdownRequested = false)
      (ran : Link.provision.outcome (announce cycle.link .bootRom .booting) = (.error error, link))
      (noted : link.Noted after) (spent : link.settings.maxLoaderTries ≤ cycle.attempts + 1)
      (next : stage = if link.verdict.any Verdict.runsExisting then .bootApp else .error) :
      Stepped cycle .bootRom { cycle with link := after, attempts := 0, stage }
  | booted {link : Link σ} (calm : cycle.shutdownRequested = false)
      (ran : bootApplication.outcome (announce cycle.link .bootApp .booting).resetSession =
        (.ok true, link)) :
      Stepped cycle .bootApp { cycle with link, stage := .alive false }
  /-- The start failed or was not answered. -/
  | unanswered {result : Except LinkError Bool} {link after : Link σ}
      (calm : cycle.shutdownRequested = false)
      (ran : bootApplication.outcome (announce cycle.link .bootApp .booting).resetSession =
        (result, link))
      (noted : link.Noted after) :
      Stepped cycle .bootApp { cycle with link := after, stage := .bootApp }
  | passed {entered : Bool} {link : Link σ} (calm : cycle.shutdownRequested = false)
      (ran : Link.tick.outcome (cycle.entering entered) = (.ok (), link)) :
      Stepped cycle (.alive entered)
        { cycle with link := link.onLine (·.delay alivePause), stage := .alive true }
  | lost {entered : Bool} {error : LinkError} {link after : Link σ}
      (calm : cycle.shutdownRequested = false)
      (ran : Link.tick.outcome (cycle.entering entered) = (.error error, link))
      (noted : link.Noted after) :
      Stepped cycle (.alive entered) { cycle with link := after, stage := .error }
  | rested {result : Except LinkError Unit} {link after : Link σ}
      (calm : cycle.shutdownRequested = false)
      (ran : Link.holdReset.outcome (announce cycle.link .error .error) = (result, link))
      (noted : link.Noted after) :
      Stepped cycle .error { cycle with link := after.delayMs errorHoldMs, stage := .bootRom }
  | parked {withError done : Bool} {link : Link σ}
      (ran : Link.holdReset.outcome (announce cycle.link .shutdown .shutdown) = (.ok (), link)) :
      Stepped cycle (.shutdown withError done)
        { cycle with link, stage := .shutdown withError true }
  | unparked {withError done : Bool} {error : LinkError} {link after : Link σ}
      (ran : Link.holdReset.outcome (announce cycle.link .shutdown .shutdown) =
        (.error error, link))
      (noted : link.Noted after) :
      Stepped cycle (.shutdown withError done)
        { cycle with link := after, stage := .shutdown true true }

theorem step_cases (cycle : Lifecycle σ) : Stepped cycle cycle.stage cycle.step := by
  unfold step
  split
  next asked =>
    rw [Bool.and_eq_true, Bool.not_eq_true'] at asked
    exact .asked asked.1 asked.2
  next unasked =>
    have calm : cycle.stage.isShutdown = false → cycle.shutdownRequested = false := by
      intro running
      simpa [running] using unasked
    unfold work
    split
    next rom =>
      have calm := calm (by rw [rom]; rfl)
      simp only [rom, stepBootRom]
      rcases ran : Link.provision.outcome (announce cycle.link .bootRom .booting) with
        ⟨error | _ | _ | _, link⟩
      · dsimp only [afterFailure]
        split
        next more => exact .again calm ran ⟨_, rfl⟩ more
        next spent =>
          split
          next runs => exact .gaveUp calm ran ⟨_, rfl⟩ (Nat.not_lt.mp spent) (if_pos runs).symm
          next stays => exact .gaveUp calm ran ⟨_, rfl⟩ (Nat.not_lt.mp spent) (if_neg stays).symm
      all_goals exact .provisioned calm ran ⟨_, rfl⟩
    next app =>
      have calm := calm (by rw [app]; rfl)
      simp only [app, stepBootApp]
      rcases ran : bootApplication.outcome (announce cycle.link .bootApp .booting).resetSession with
        ⟨error | _ | _, link⟩
      · exact .unanswered calm ran ⟨_, rfl⟩
      · exact .unanswered calm ran ⟨_, rfl⟩
      · exact .booted calm ran
    next entered alive =>
      have calm := calm (by rw [alive]; rfl)
      simp only [alive, stepAlive]
      rw [← entering]
      rcases ran : Link.tick.outcome (cycle.entering entered) with ⟨error | _, link⟩
      · exact .lost calm ran ⟨_, rfl⟩
      · exact .passed calm ran
    next error =>
      have calm := calm (by rw [error]; rfl)
      simp only [error, stepError]
      rcases ran : Link.holdReset.outcome (announce cycle.link .error .error) with ⟨error | _, link⟩
      · exact .rested calm ran ⟨_, rfl⟩
      · exact .rested calm ran ⟨_, rfl⟩
    next withError done shutdown =>
      simp only [shutdown, stepShutdown]
      rcases ran : Link.holdReset.outcome (announce cycle.link .shutdown .shutdown) with
        ⟨error | _, link⟩
      · exact .unparked ran ⟨_, rfl⟩
      · exact .parked ran

end Lifecycle

end RadioLink
