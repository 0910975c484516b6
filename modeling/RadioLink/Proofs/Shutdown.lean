import RadioLink.Proofs.AliveStage

/-!
Shutting down. A request takes effect between two steps: the next step enters the shutdown stage and
leaves the line alone, the one after it masks the ready edge and asserts reset. From then on the
machine stays where it is, and whatever further steps are made only assert reset again.
-/

namespace RadioLink

def Stage.withError : Stage → Bool
  | .shutdown withError _ => withError
  | _ => false

variable {σ : Type} [Peer σ]

inductive Link.Held (link : Link σ) : Except LinkError Unit × Link σ → Prop where
  | held {after : Link σ} {noise : List Event} (far : Noise noise)
      (did : Line.Did (.irq false :: .done (.reset true) :: noise) link.line after.line) :
      Held link (.ok (), after)
  | failed {fault : Fault} {after : Link σ}
      (did : Line.Did [.irq false, .failed (.reset true)] link.line after.line) :
      Held link (.error (.io fault), after)

theorem Link.holdReset_cases (link : Link σ) : Held link (holdReset.outcome link) := by
  have mask : Line.Did [.irq false] link.line (link.line.setIrq false) := .record link.line _
  have called := Line.call_cases (.reset true) (link.line.setIrq false)
  rw [holdReset, Action.outcome_change_bind, device, outcome_onTransport, Transport.device,
    Action.outcome_within, Action.outcome_mapError]
  change Held link (((Line.call (.reset true)).outcome (link.line.setIrq false)).1.mapError _, _)
  rcases called with ⟨fault, failed, episode⟩ | ⟨noise, far, done, episode⟩
  · rw [failed]
    exact .failed (mask.append episode.did)
  · rw [done]
    exact .held far (mask.append episode.did)

namespace Lifecycle

inductive Parks (cycle : Lifecycle σ) (withError : Bool) : Prop where
  | parked {noise : List Event} (far : Noise noise)
      (events : cycle.stepEvents = .irq false :: .done (.reset true) :: noise)
      (stage : cycle.step.stage = .shutdown withError true)
  | failed (events : cycle.stepEvents = [.irq false, .failed (.reset true)])
      (stage : cycle.step.stage = .shutdown true true)

variable {cycle : Lifecycle σ} {withError done : Bool}

theorem parks (shutdown : cycle.stage = .shutdown withError done) : Parks cycle withError := by
  have held := Link.holdReset_cases (announce cycle.link .shutdown .shutdown)
  have stepped := step_cases cycle
  rw [shutdown] at stepped
  generalize next : cycle.step = after at stepped
  cases stepped with
  | asked _ running => cases running
  | parked ran =>
    rw [ran] at held
    cases held with
    | @held _ noise far did =>
      have whole : Line.Did (.irq false :: .done (.reset true) :: noise) cycle.link.line
          cycle.step.link.line := by
        rw [next]
        exact did
      exact .parked far whole.since_eq (by rw [next])
  | unparked ran noted =>
    rw [ran] at held
    obtain ⟨log, rfl⟩ := noted
    cases held with
    | failed did =>
      have whole : Line.Did [.irq false, .failed (.reset true)] cycle.link.line
          cycle.step.link.line := by
        rw [next]
        exact did
      exact .failed whole.since_eq (by rw [next])

namespace Parks

theorem stage (parks : Parks cycle withError) :
    ∃ later, cycle.step.stage = .shutdown later true ∧ (withError = true → later = true) := by
  cases parks with
  | parked _ _ stage => exact ⟨withError, stage, id⟩
  | failed _ stage => exact ⟨true, stage, fun _ => rfl⟩

theorem unreleased (parks : Parks cycle withError) : .done (.reset false) ∉ cycle.stepEvents := by
  cases parks with
  | @parked noise far events _ =>
    rw [events]
    intro member
    have reaction : Event.done (.reset false) ∈ noise := by simpa using member
    exact absurd (far _ reaction) (by simp [Event.isFarSide])
  | failed events _ => simp [events]

/-- The exit status tells whether the co-processor is parked. -/
theorem exitStatus (parks : Parks cycle false) :
    cycle.step.exitStatus = some (if .done (.reset true) ∈ cycle.stepEvents then 0 else 1) := by
  cases parks with
  | parked _ events stage => simp [Lifecycle.exitStatus, stage, events]
  | failed events stage => simp [Lifecycle.exitStatus, stage, events]

end Parks

theorem step_requested (cycle : Lifecycle σ) :
    cycle.step.shutdownRequested = cycle.shutdownRequested := by
  have stepped := step_cases cycle
  generalize cycle.stage = stage, cycle.step = next at stepped ⊢
  cases stepped <;> rfl

theorem step_of_requested (requested : cycle.shutdownRequested = true)
    (running : cycle.stage.isShutdown = false) :
    cycle.step = { cycle with stage := .shutdown false false } := by
  simp [step, requested, running]

omit [Peer σ] in
theorem asked_of_requested (requested : cycle.shutdownRequested = true) (request : Bool) :
    cycle.asked request = cycle := by
  cases request with
  | false => rfl
  | true =>
    cases cycle
    cases requested
    rfl

omit [Peer σ] in
theorem exitStatus_of_running (running : cycle.stage.isShutdown = false) :
    cycle.exitStatus = none := by
  unfold exitStatus
  split
  next parked => simp [parked, Stage.isShutdown] at running
  next => rfl

variable {start : Lifecycle σ} {requests : Nat → Bool} {n : Nat}

/-- The shutdown stage is never left, and an error in it is not forgotten. -/
theorem trail_shutdown (shutdown : (start.trail requests n).stage = .shutdown withError done)
    (later : Nat) :
    ∃ failed parked, (start.trail requests (n + later)).stage = .shutdown failed parked ∧
      (withError = true → failed = true) := by
  induction later with
  | zero => exact ⟨withError, done, shutdown, id⟩
  | succ later ih =>
    obtain ⟨before, _, stage, kept⟩ := ih
    obtain ⟨after, next, keeps⟩ := (parks stage).stage
    exact ⟨after, true, (trail_stage start requests (n + later)).trans next, keeps ∘ kept⟩

theorem trail_requested (requested : (start.trail requests n).shutdownRequested = true)
    (later : Nat) : (start.trail requests (n + later)).shutdownRequested = true := by
  induction later with
  | zero => exact requested
  | succ later ih =>
    have still := (step_requested (start.trail requests (n + later))).trans ih
    show ((start.trail requests (n + later)).step.asked _).shutdownRequested = true
    rw [asked_of_requested still, still]

theorem trail_succ (requested : (start.trail requests n).shutdownRequested = true) :
    start.trail requests (n + 1) = (start.trail requests n).step :=
  asked_of_requested ((step_requested _).trans requested) _

structure ShutsDown (start : Lifecycle σ) (requests : Nat → Bool) (n : Nat) : Prop where
  /-- The next step enters the shutdown stage and does nothing else. -/
  enters : start.trail requests (n + 1) =
      { start.trail requests n with stage := .shutdown false false } ∧
    (start.trail requests n).stepEvents = []
  /-- The step after it masks the ready edge and asserts reset. -/
  parks : ∃ noise, Noise noise ∧
    ((start.trail requests (n + 1)).stepEvents = .irq false :: .done (.reset true) :: noise ∨
      (start.trail requests (n + 1)).stepEvents = .irq false :: .failed (.reset true) :: noise)
  /-- The run has not returned before. -/
  runs : ∀ k, k ≤ n + 1 → (start.trail requests k).exitStatus = none
  /-- It returns now, and its status tells whether the call that asserts reset succeeded. -/
  returns : ∀ fuel, (start.trail requests n).run (fuel + 2) =
    (some (if .done (.reset true) ∈ (start.trail requests (n + 1)).stepEvents then 0 else 1),
      start.trail requests (n + 2))
  /-- However many steps follow, the machine stays in the shutdown stage. -/
  stays : ∀ m, n < m → (start.trail requests m).stage.isShutdown = true
  /-- Reset is never released again. -/
  unreleased : ∀ m, n ≤ m → .done (.reset false) ∉ (start.trail requests m).stepEvents
  sticks : ∀ m k, n < m → m ≤ k → (start.trail requests m).stage.withError = true →
    (start.trail requests k).stage.withError = true

theorem run_of_requested (requested : (start.trail requests n).shutdownRequested = true)
    (running : (start.trail requests n).stage.isShutdown = false) (fuel : Nat) :
    (start.trail requests n).run (fuel + 2) =
      (some (if .done (.reset true) ∈ (start.trail requests (n + 1)).stepEvents then 0 else 1),
        start.trail requests (n + 2)) := by
  have entered : (start.trail requests (n + 1)).stage = .shutdown false false := by
    rw [trail_succ requested, step_of_requested requested running]
  have unparked : (start.trail requests (n + 1)).exitStatus = none := by
    simp [exitStatus, entered]
  have parked : (start.trail requests (n + 2)).exitStatus =
      some (if .done (.reset true) ∈ (start.trail requests (n + 1)).stepEvents then 0 else 1) := by
    rw [trail_succ (trail_requested requested 1)]
    exact (parks entered).exitStatus
  rw [run, ← trail_succ requested, unparked, run, ← trail_succ (trail_requested requested 1), parked]

/-- A request to shut down parks the co-processor from every stage: the next step enters the shutdown
stage without a call, the one after it masks the ready edge and asserts reset, and then the run
returns, with zero if and only if reset was asserted. No further step leaves the stage, releases
reset or forgets an error. -/
theorem shutdown_parks (start : Lifecycle σ) (requests : Nat → Bool) (n : Nat)
    (requested : (start.trail requests n).shutdownRequested = true)
    (running : (start.trail requests n).stage.isShutdown = false) :
    start.ShutsDown requests n := by
  have next := step_of_requested requested running
  have entered : (start.trail requests (n + 1)).stage = .shutdown false false := by
    rw [trail_succ requested, next]
  have silent : (start.trail requests n).stepEvents = [] := by
    rw [stepEvents, next]
    exact (Line.Did.refl (start.trail requests n).link.line).since_eq
  refine ⟨⟨(trail_succ requested).trans next, silent⟩, ?_, ?_, run_of_requested requested running,
    ?_, ?_, ?_⟩
  · cases parks entered with
    | parked far events _ => exact ⟨_, far, .inl events⟩
    | failed events _ => exact ⟨[], .nil, .inr events⟩
  · intro k early
    by_cases latest : k = n + 1
    · simp [latest, exitStatus, entered]
    · -- had the run been in the shutdown stage before, it would be there still
      apply exitStatus_of_running
      by_contra shutdown
      obtain ⟨later, rfl⟩ : ∃ later, n = k + later := Nat.exists_eq_add_of_le (by omega)
      cases stage : (start.trail requests k).stage with
      | shutdown withError done =>
        obtain ⟨_, _, still, -⟩ := trail_shutdown stage later
        simp [still, Stage.isShutdown] at running
      | _ => simp [stage, Stage.isShutdown] at shutdown
  · intro m later
    obtain ⟨more, rfl⟩ := Nat.exists_eq_add_of_le (Nat.succ_le_of_lt later)
    obtain ⟨_, _, stage, -⟩ := trail_shutdown entered more
    rw [stage]
    rfl
  · intro m later
    by_cases first : m = n
    · simp [first, silent]
    · obtain ⟨more, rfl⟩ : ∃ more, m = n + 1 + more := Nat.exists_eq_add_of_le (by omega)
      obtain ⟨_, _, stage, -⟩ := trail_shutdown entered more
      exact (parks stage).unreleased
  · intro m k later order error
    obtain ⟨more, rfl⟩ := Nat.exists_eq_add_of_le (Nat.succ_le_of_lt later)
    obtain ⟨rest, rfl⟩ := Nat.exists_eq_add_of_le order
    obtain ⟨_, _, stage, -⟩ := trail_shutdown entered more
    obtain ⟨_, _, last, kept⟩ := trail_shutdown stage rest
    rw [stage] at error
    rw [last]
    exact kept error

/-- The reset line works for one start of the application and is stuck from then on. -/
def stuckReset : Simulation.Script := { failures := [(.reset, 2)] }

def stuckStart : Lifecycle Simulation.Script :=
  { link := Link.start { peer := stuckReset } {} {} (.fixed none none) none }

/-- A live link is shut down, and parking fails. -/
theorem shutdown_parks_stuck :
    (stuckStart.trail (· == 3) 3).stage = .alive true ∧
    (stuckStart.trail (· == 3) 4).stepEvents = [.irq false, .failed (.reset true)] ∧
    ((stuckStart.trail (· == 3) 3).run 2).1 = some 1 := by
  have alive : (stuckStart.trail (· == 3) 3).stage = .alive true := by decide +kernel
  have ends := shutdown_parks stuckStart (· == 3) 3 (by decide +kernel) (by rw [alive]; rfl)
  have failed : (stuckStart.trail (· == 3) 4).stepEvents = [.irq false, .failed (.reset true)] := by
    decide +kernel
  refine ⟨alive, failed, ?_⟩
  rw [ends.returns 0, failed]
  rfl

end Lifecycle

end RadioLink
