import RadioLink.Proofs.BootSequence
import RadioLink.Proofs.FlashDiscipline
import RadioLink.Proofs.LineSteps
import RadioLink.Proofs.StepCases
import RadioLink.Simulation.Peer

/-!
After a broken write the flash is not started. A cycle that wrote the flash and did not confirm it
leaves the verdict that the flash must be written. Nothing but a cycle that returns a result can
replace that verdict, so neither running out of tries nor any number of restarts after an error
leads on to the application.
-/

namespace RadioLink

open Provisioning Flasher

variable {σ α ε : Type}

namespace Link

/-- The link still holds the same verdict, and what decides on the next cycle is as it was. -/
def Holds (before after : Link σ) : Prop :=
  after.verdict = before.verdict ∧ after.images = before.images ∧ after.settings = before.settings

instance : IsPreorder (Link σ) Holds where
  refl _ := ⟨rfl, rfl, rfl⟩
  trans _ _ _ early late :=
    ⟨late.1.trans early.1, late.2.1.trans early.2.1, late.2.2.trans early.2.2⟩

theorem OnlyTransport.holds {before after : Link σ} (only : OnlyTransport before after) :
    Holds before after := by
  have same : after = { before with transport := after.transport } := only
  refine ⟨?_, ?_, ?_⟩ <;> rw [same]

theorem Noted.holds {before after : Link σ} (noted : Noted before after) : Holds before after := by
  obtain ⟨log, rfl⟩ := noted
  exact ⟨rfl, rfl, rfl⟩

theorem holds_onTransport (action : Action ε (Transport σ) α) :
    Action.Keeps Holds (onTransport action) :=
  fun link => (onlyTransport_onTransport action link).holds

theorem holds_dispatch (link : Link σ) (frame : Frame) : Holds link (link.dispatch frame) := by
  unfold dispatch
  dsimp only
  split <;> exact ⟨rfl, rfl, rfl⟩

def Unwritten (before after : Link σ) : Prop := before.line.Writes (fun _ => False) after.line

instance : IsPreorder (Link σ) Unwritten where
  refl _ := .same rfl
  trans _ _ _ := .trans

theorem unwritten_setIrq (enabled : Bool) :
    Action.Keeps Unwritten (Action.change (onLine (·.setIrq enabled)) : Action LinkError (Link σ) _) :=
  .change fun link => ⟨[.irq enabled], .record link.line _, by simp [Event.written?]⟩

theorem unwritten_briefed (link : Link σ) : Unwritten link link.briefed :=
  .same (history_briefed link)

theorem holds_briefed (link : Link σ) : Holds link link.briefed :=
  (onlyTransport_briefed link).holds

variable [Peer σ]

theorem receptionKeeps_holds : ReceptionKeeps (Holds : Link σ → Link σ → Prop) where
  alarm _ _ := ⟨rfl, rfl, rfl⟩
  note _ _ := ⟨rfl, rfl, rfl⟩
  dispatch := holds_dispatch
  pump := holds_onTransport _
  arm := holds_onTransport _
  poll := holds_onTransport _

theorem holds_tick : Action.Keeps Holds (tick : Action LinkError (Link σ) Unit) :=
  receptionKeeps_holds.tick (fun _ => ⟨rfl, rfl, rfl⟩) fun _ => ⟨rfl, rfl, rfl⟩

theorem unwritten_call {c : Call} (other : ∀ data, c ≠ .write data) :
    Action.Keeps Unwritten (device (Line.call c) : Action LinkError (Link σ) Unit) := by
  have called : Action.Keeps (Line.Writes fun _ => False) (Line.call c : Action Fault (Line σ) Unit) :=
    Line.Writes.call fun data same => other data same
  exact .within (Q := fun before after => before.line.Writes (fun _ => False) after.line)
    (.within (Q := Line.Writes fun _ => False) called.mapError fun _ _ kept => kept)
    fun _ _ kept => kept

theorem unwritten_delayMs (ms : Nat) :
    Action.Keeps Unwritten (Action.change (delayMs · ms) : Action LinkError (Link σ) _) :=
  .change fun link => .delay _ link.line _

theorem unwritten_enterMode (mode : BootMode) :
    Action.Keeps Unwritten (enterMode mode : Action LinkError (Link σ) Unit) := by
  have dropped : Action.Keeps Unwritten
      (onTransport Transport.resetReceived : Action LinkError (Link σ) Unit) := fun link =>
    unwritten_call (c := .clear) (by simp)
      { link with transport := { link.transport with received := [] } }
  refine .bind .get fun link => ?_
  exact .bind (unwritten_setIrq false) fun _ => .bind (unwritten_call (by simp)) fun _ =>
    .bind (unwritten_call (by simp)) fun _ => .bind (unwritten_delayMs _) fun _ =>
    .bind (unwritten_call (by simp)) fun _ => .bind (unwritten_delayMs _) fun _ =>
    .bind (unwritten_call (by simp)) fun _ => dropped

def Supplied (images : Firmware.Source) : Prop :=
  ∀ cycle, (images.offer cycle).firmware ≠ .ok none ∧ (images.offer cycle).stub ≠ .ok none

inductive Provisioned (link : Link σ) :
    Except ProvisionError (Option Provisioning.Outcome) × Link σ → Prop where
  /-- It fails before it writes anything. -/
  | failed {error : ProvisionError} {after : Link σ} (holds : Holds link after)
      (unwritten : Unwritten link after) : Provisioned link (.error error, after)
  /-- It takes a course after the reset into the boot loader. -/
  | ran {settings : Settings} {image : Firmware.Image} {stub : Firmware.Stub} {bench : Workbench σ}
      {reached after : Link σ} {events : List Event}
      {result : Except ProvisionError Provisioning.Outcome}
      (images : after.images = link.images) (same : after.settings = link.settings)
      (unwritten : Unwritten link reached)
      (did : Line.Did events reached.line after.line) (verdict : bench.verdict = link.verdict)
      (course : Course settings image stub bench events result after.verdict after.store) :
      Provisioned link (result.map some, after)

theorem provision_cases (link : Link σ) (supplied : Supplied link.images) :
    Provisioned link (provision.outcome link) := by
  obtain ⟨offered, fitted⟩ := supplied link.cycles
  have holds := trans_of Holds (holds_briefed link) (onlyTransport_enterMode .rom link.briefed).holds
  have unwritten := (unwritten_briefed link).trans (unwritten_enterMode .rom link.briefed)
  have cycle := provision_cycle link
  generalize provision.outcome link = run at cycle
  cases cycle with
  | imageless lacking => exact absurd lacking offered
  | stubless lacking => exact absurd lacking fitted
  | unread error => exact .failed (holds_briefed link) (unwritten_briefed link)
  | stuck entered =>
    rw [entered] at holds unwritten
    exact .failed holds unwritten
  | @ran image reached stub _ entered =>
    rw [entered] at holds unwritten
    rw [Action.outcome_map, runProvisioning, Action.outcome_get_bind, Action.outcome_within]
    obtain ⟨events, did, course⟩ := run_course reached.settings image stub
      { port := { line := reached.transport.line }, store := reached.store,
        verdict := reached.verdict }
    exact .ran holds.2.1 holds.2.2 unwritten did holds.1 course

namespace Provisioned

variable {link : Link σ} {outcome : Except ProvisionError (Option Provisioning.Outcome) × Link σ}

omit [Peer σ]

theorem error_verdict (provisioned : Provisioned link outcome) {error : ProvisionError}
    (failed : outcome.1 = .error error) :
    outcome.2.verdict = link.verdict ∨ outcome.2.verdict = some .flashFromFile := by
  cases provisioned with
  | failed holds _ => exact .inl holds.1
  | ran _ _ _ _ verdict course =>
    rcases course.decided with ⟨_, _, same, _⟩ | ⟨choice, _, chosen, _, ⟨ok, _⟩ | ⟨flashes, _⟩⟩
    · exact .inl (same.trans verdict)
    · rw [ok] at failed
      cases failed
    · exact .inr (flashes ▸ chosen)

theorem images_eq (provisioned : Provisioned link outcome) :
    outcome.2.images = link.images ∧ outcome.2.settings = link.settings := by
  cases provisioned with
  | failed holds _ => exact holds.2
  | ran images same _ _ _ _ => exact ⟨images, same⟩

/-- The command that writes the flash is sent only on the verdict to do so. -/
theorem flash_verdict (provisioned : Provisioned link outcome)
    (wrote : ∃ event ∈ link.line.since outcome.2.line,
      event.offers (commandPacket writeCommand) = true) :
    outcome.2.verdict = some .flashFromFile ∧
      (outcome.1 = .ok (some .flashed) ∨ ∃ error, outcome.1 = .error error) := by
  obtain ⟨event, member, offered⟩ := wrote
  have elsewhere : ∀ {events : List Event},
      (∀ event ∈ events, ∀ data, event.written? = some data → False) → event ∉ events :=
    fun silent member => silent event member _ (beq_iff_eq.mp offered)
  cases provisioned with
  | failed _ unwritten =>
    obtain ⟨events, did, silent⟩ := unwritten
    rw [did.since_eq] at member
    exact absurd member (elsewhere silent)
  | ran _ _ unwritten did _ course =>
    obtain ⟨early, before, silent⟩ := unwritten
    rw [(before.append did).since_eq] at member
    have own := (List.mem_append.mp member).resolve_left (elsewhere silent)
    have choice := course.decision_flash ⟨event, own, offered⟩
    rcases course.decided with ⟨undecided, _⟩ | ⟨chosen, decided, verdict, _, ⟨_, stays⟩ | ⟨_, result⟩⟩
    · rw [choice] at undecided
      cases undecided
    · rw [choice] at decided
      exact absurd (Option.some.inj decided).symm stays
    · refine ⟨verdict.trans (decided.symm.trans choice), ?_⟩
      rcases result with flashed | ⟨error, failed⟩
      · exact .inl (by rw [flashed]; rfl)
      · exact .inr ⟨error, by rw [failed]; rfl⟩

end Provisioned

end Link

namespace Lifecycle

def asked (cycle : Lifecycle σ) (request : Bool) : Lifecycle σ :=
  if request then cycle.requestShutdown else cycle

theorem asked_link (cycle : Lifecycle σ) (request : Bool) :
    (cycle.asked request).link = cycle.link := by
  cases request <;> rfl

theorem asked_stage (cycle : Lifecycle σ) (request : Bool) :
    (cycle.asked request).stage = cycle.stage := by
  cases request <;> rfl

theorem holds_entering (cycle : Lifecycle σ) (entered : Bool) :
    cycle.link.Holds (cycle.entering entered) := by
  cases entered <;> exact ⟨rfl, rfl, rfl⟩

variable [Peer σ]

def provisioning? (cycle : Lifecycle σ) :
    Option (Except ProvisionError (Option Provisioning.Outcome)) :=
  if cycle.stage = .bootRom ∧ cycle.shutdownRequested = false then
    some (Link.provision.outcome (announce cycle.link .bootRom .booting)).1
  else none

def stepEvents (cycle : Lifecycle σ) : List Event := cycle.link.line.since cycle.step.link.line

def WritesFlash (cycle : Lifecycle σ) : Prop :=
  ∃ event ∈ cycle.link.line.since cycle.step.link.line,
    event.offers (commandPacket writeCommand) = true

theorem mode_of_provisioning {cycle : Lifecycle σ}
    {result : Except ProvisionError (Option Provisioning.Outcome)}
    (running : cycle.provisioning? = some result) :
    cycle.stage = .bootRom ∧ cycle.shutdownRequested = false := by
  unfold provisioning? at running
  split at running
  · assumption
  · cases running

/-- A step that runs no provisioning cycle keeps the verdict. -/
theorem step_holds {cycle : Lifecycle σ} (idle : cycle.provisioning? = none) :
    cycle.link.Holds cycle.step.link := by
  have stepped := step_cases cycle
  generalize staged : cycle.stage = stage at stepped
  generalize cycle.step = next at stepped ⊢
  have boot := (onlyTransport_bootApplication
    (announce cycle.link .bootApp .booting).resetSession).holds
  have rest := (Link.onlyTransport_holdReset (announce cycle.link .error .error)).holds
  have park := (Link.onlyTransport_holdReset (announce cycle.link .shutdown .shutdown)).holds
  cases stepped with
  | asked => exact ⟨rfl, rfl, rfl⟩
  | provisioned calm | again calm | gaveUp calm =>
    rw [provisioning?, if_pos ⟨staged, calm⟩] at idle
    cases idle
  | booted _ ran =>
    rw [ran] at boot
    exact boot
  | unanswered _ ran noted =>
    rw [ran] at boot
    exact trans_of Link.Holds boot noted.holds
  | @passed entered _ _ ran =>
    have kept := Link.holds_tick (cycle.entering entered)
    rw [ran] at kept
    exact trans_of Link.Holds (holds_entering cycle entered) kept
  | @lost entered _ _ _ _ ran noted =>
    have kept := Link.holds_tick (cycle.entering entered)
    rw [ran] at kept
    exact trans_of Link.Holds (holds_entering cycle entered) (trans_of Link.Holds kept noted.holds)
  | rested _ ran noted =>
    rw [ran] at rest
    exact trans_of Link.Holds rest noted.holds
  | parked ran =>
    rw [ran] at park
    exact park
  | unparked ran noted =>
    rw [ran] at park
    exact trans_of Link.Holds park noted.holds

/-- A step that runs a provisioning cycle takes over what the cycle leaves, and goes on as the policy
says. -/
theorem step_ran {cycle : Lifecycle σ}
    {result : Except ProvisionError (Option Provisioning.Outcome)}
    (running : cycle.provisioning? = some result) :
    ∃ after, Link.provision.outcome (announce cycle.link .bootRom .booting) = (result, after) ∧
      cycle.step.link.line.history = after.line.history ∧ after.Holds cycle.step.link ∧
      ∀ error, result = .error error → cycle.step.stage =
        if cycle.attempts + 1 < after.settings.maxLoaderTries then .bootRom
        else if after.verdict.any Verdict.runsExisting then .bootApp else .error := by
  obtain ⟨rom, calm⟩ := mode_of_provisioning running
  rw [provisioning?, if_pos ⟨rom, calm⟩] at running
  have stepped := step_cases cycle
  rw [rom] at stepped
  generalize cycle.step = next at stepped ⊢
  cases stepped with
  | asked requested => simp [calm] at requested
  | @provisioned _ link _ _ ran noted =>
    obtain ⟨log, rfl⟩ := noted
    rw [ran] at running
    cases running
    exact ⟨link, ran, rfl, ⟨rfl, rfl, rfl⟩, by simp⟩
  | @again _ link _ _ ran noted more =>
    obtain ⟨log, rfl⟩ := noted
    rw [ran] at running
    cases running
    exact ⟨link, ran, rfl, ⟨rfl, rfl, rfl⟩, fun _ _ => (if_pos more).symm⟩
  | @gaveUp _ link _ _ _ ran noted spent next =>
    obtain ⟨log, rfl⟩ := noted
    rw [ran] at running
    cases running
    refine ⟨link, ran, rfl, ⟨rfl, rfl, rfl⟩, fun _ _ => ?_⟩
    rw [if_neg (Nat.not_lt.mpr spent)]
    exact next

theorem step_provisions {cycle : Lifecycle σ} (supplied : Link.Supplied cycle.link.images)
    {result : Except ProvisionError (Option Provisioning.Outcome)}
    (running : cycle.provisioning? = some result) :
    ∃ after, Link.Provisioned (announce cycle.link .bootRom .booting) (result, after) ∧
      cycle.step.link.line.history = after.line.history ∧ after.Holds cycle.step.link ∧
      ∀ error, result = .error error → cycle.step.stage =
        if cycle.attempts + 1 < after.settings.maxLoaderTries then .bootRom
        else if after.verdict.any Verdict.runsExisting then .bootApp else .error := by
  obtain ⟨after, ran, taken⟩ := step_ran running
  have provisioned := Link.provision_cases (announce cycle.link .bootRom .booting) supplied
  rw [ran] at provisioned
  exact ⟨after, provisioned, taken⟩

theorem step_images {cycle : Lifecycle σ} (supplied : Link.Supplied cycle.link.images) :
    cycle.step.link.images = cycle.link.images := by
  rcases running : cycle.provisioning? with - | result
  · exact (step_holds running).2.1
  · obtain ⟨after, provisioned, _, holds, _⟩ := step_provisions supplied running
    exact holds.2.1.trans provisioned.images_eq.1

/-- The verdict to write the flash stays until a cycle returns a result. -/
theorem step_pending {cycle : Lifecycle σ} (supplied : Link.Supplied cycle.link.images)
    (unsettled : ∀ outcome, cycle.provisioning? ≠ some (.ok outcome))
    (pending : cycle.link.verdict = some .flashFromFile) :
    cycle.step.link.verdict = some .flashFromFile := by
  rcases running : cycle.provisioning? with - | result
  · exact (step_holds running).1.trans pending
  · obtain ⟨after, provisioned, _, holds, _⟩ := step_provisions supplied running
    cases result with
    | ok outcome => exact absurd running (unsettled outcome)
    | error error =>
      rcases provisioned.error_verdict rfl with same | flash
      · exact holds.1.trans (same.trans pending)
      · exact holds.1.trans flash

/-- A broken write leaves the verdict to write the flash. -/
theorem step_broken {cycle : Lifecycle σ} (supplied : Link.Supplied cycle.link.images)
    {result : Except ProvisionError (Option Provisioning.Outcome)}
    (running : cycle.provisioning? = some result) (wrote : cycle.WritesFlash)
    (unconfirmed : result ≠ .ok (some .flashed)) :
    cycle.step.link.verdict = some .flashFromFile ∧ ∃ error, result = .error error := by
  obtain ⟨after, provisioned, history, holds, _⟩ := step_provisions supplied running
  have sent : ∃ event ∈ (announce cycle.link .bootRom .booting).line.since after.line,
      event.offers (commandPacket writeCommand) = true := by
    simp only [WritesFlash, Line.since, history] at wrote ⊢
    exact wrote
  obtain ⟨flash, result⟩ := provisioned.flash_verdict sent
  exact ⟨holds.1.trans flash, result.resolve_left unconfirmed⟩

/-- A failed cycle that leaves the verdict to write the flash does not lead to the application. -/
theorem step_stage {cycle : Lifecycle σ} (supplied : Link.Supplied cycle.link.images)
    (unsettled : ∀ outcome, cycle.provisioning? ≠ some (.ok outcome))
    (pending : cycle.step.link.verdict = some .flashFromFile) (rom : cycle.stage = .bootRom) :
    cycle.step.stage ≠ .bootApp ∧
      (cycle.provisioning? ≠ none → cycle.link.settings.maxLoaderTries ≤ cycle.attempts + 1 →
        cycle.step.stage = .error) := by
  rcases running : cycle.provisioning? with - | result
  · have requested : cycle.shutdownRequested = true := by
      by_contra unasked
      rw [provisioning?, if_pos ⟨rom, by simpa using unasked⟩] at running
      cases running
    have parked : cycle.step = { cycle with stage := .shutdown false false } := by
      simp [step, requested, rom, Stage.isShutdown]
    rw [parked]
    exact ⟨by simp, by simp⟩
  · obtain ⟨after, provisioned, _, holds, stage⟩ := step_provisions supplied running
    cases result with
    | ok outcome => exact absurd running (unsettled outcome)
    | error error =>
      have settings : after.settings = cycle.link.settings := provisioned.images_eq.2
      have verdict : after.verdict = some .flashFromFile := holds.1.symm.trans pending
      have runs : (some Verdict.flashFromFile).any Verdict.runsExisting = false := rfl
      rw [stage error rfl, settings, verdict, runs]
      refine ⟨?_, fun _ spent => ?_⟩
      · split <;> simp
      · rw [if_neg (by omega)]
        rfl

/-- The states of a run before each of its steps; `requests` tells where a shutdown is requested. -/
def trail (start : Lifecycle σ) (requests : Nat → Bool) : Nat → Lifecycle σ
  | 0 => start.asked (requests 0)
  | n + 1 => (trail start requests n).step.asked (requests (n + 1))

theorem trail_stage (start : Lifecycle σ) (requests : Nat → Bool) (n : Nat) :
    (start.trail requests (n + 1)).stage = (start.trail requests n).step.stage :=
  asked_stage _ _

theorem trail_supplied {start : Lifecycle σ} (requests : Nat → Bool)
    (supplied : Link.Supplied start.link.images) (n : Nat) :
    Link.Supplied (start.trail requests n).link.images := by
  induction n with
  | zero => rwa [trail, asked_link]
  | succ n ih => rwa [trail, asked_link, step_images ih]

/-- After a broken write the verdict to write the flash is there before every later step, up to the
next cycle that returns a result. -/
theorem trail_pending {start : Lifecycle σ} {requests : Nat → Bool}
    (supplied : Link.Supplied start.link.images) {i : Nat}
    {result : Except ProvisionError (Option Provisioning.Outcome)}
    (running : (start.trail requests i).provisioning? = some result)
    (wrote : (start.trail requests i).WritesFlash) (unconfirmed : result ≠ .ok (some .flashed))
    (later : Nat)
    (unsettled : ∀ k, i < k → k ≤ i + later →
      ∀ outcome, (start.trail requests k).provisioning? ≠ some (.ok outcome)) :
    (start.trail requests (i + later)).step.link.verdict = some .flashFromFile ∧
      ∀ outcome, (start.trail requests (i + later)).provisioning? ≠ some (.ok outcome) := by
  induction later with
  | zero =>
    obtain ⟨pending, error, failed⟩ :=
      step_broken (trail_supplied requests supplied i) running wrote unconfirmed
    refine ⟨pending, fun outcome settled => ?_⟩
    rw [Nat.add_zero, running, failed] at settled
    cases settled
  | succ later ih =>
    have pending := (ih fun k after upto => unsettled k after (by omega)).1
    have still := unsettled (i + (later + 1)) (by omega) (Nat.le_refl _)
    refine ⟨step_pending (trail_supplied requests supplied _) still ?_, still⟩
    rw [← Nat.add_assoc, trail, asked_link]
    exact pending

/-- Once a provisioning cycle has sent the command that writes the flash and has not returned that
it was written, no step leads from the boot loader to the application until a later cycle returns a
result; running out of tries leads to the error stage. -/
theorem broken_write_not_started (start : Lifecycle σ) (requests : Nat → Bool)
    (supplied : Link.Supplied start.link.images) (i j : Nat) (order : i ≤ j)
    (result : Except ProvisionError (Option Provisioning.Outcome))
    (running : (start.trail requests i).provisioning? = some result)
    (wrote : (start.trail requests i).WritesFlash) (unconfirmed : result ≠ .ok (some .flashed))
    (unsettled : ∀ k, i < k → k ≤ j →
      ∀ outcome, (start.trail requests k).provisioning? ≠ some (.ok outcome))
    (rom : (start.trail requests j).stage = .bootRom) :
    (start.trail requests (j + 1)).stage ≠ .bootApp ∧
      ((start.trail requests j).provisioning? ≠ none →
        (start.trail requests j).link.settings.maxLoaderTries ≤
          (start.trail requests j).attempts + 1 →
        (start.trail requests (j + 1)).stage = .error) := by
  obtain ⟨later, rfl⟩ := Nat.exists_eq_add_of_le order
  obtain ⟨pending, stuck⟩ := trail_pending supplied running wrote unconfirmed later unsettled
  rw [trail, asked_stage]
  exact step_stage (trail_supplied requests supplied _) stuck pending rom

def accepting (op : UInt8) : Simulation.Reply :=
  [{ bytes := Slip.encode [[Loader.Response.direction, op, 0, 0, 0, 0, 0, 0, 0, 0]] }]

/-- A co-processor that goes along until the image itself is sent, and is gone from then on. -/
def vanishing : Simulation.Script :=
  { onWrite := [[], accepting Loader.syncOp, accepting Loader.memBeginOp,
      accepting Loader.memDataOp, accepting Loader.memEndOp,
      [], [{ bytes := Slip.encode [List.replicate 16 1] }],
      [], [{ bytes := Slip.encode [[0, 0, 0, 0]] }]]
    onBaud := [[], [{ bytes := Slip.encode [greeting] }]]
    failures := [(.write, 9)] }

def vanishingStart : Lifecycle Simulation.Script :=
  { link := Link.start { peer := vanishing } { maxLoaderTries := 1 } { firmware := { length := 4 } }
      { offer := fun _ =>
          { firmware := .ok (some (.ok ([imageMagic, 0, 0, 0] ++ List.replicate 16 0)))
            stub := .ok (some ⟨0, 0, 0, [0], []⟩) } }
      none }

/-- The first cycle breaks off in the middle of the image. After the error stage a second one fails
before it has compared anything, and that leads to the error stage again. -/
theorem broken_write_not_started_vanishing :
    (vanishingStart.trail (fun _ => false) 0).WritesFlash ∧
    (vanishingStart.trail (fun _ => false) 2).stage = .bootRom ∧
    (vanishingStart.trail (fun _ => false) 3).stage = .error := by
  have wrote : (vanishingStart.trail (fun _ => false) 0).WritesFlash := by
    unfold WritesFlash
    decide +kernel
  have broken : (vanishingStart.trail (fun _ => false) 0).provisioning? =
      some (.error (.io Simulation.Script.unplugged)) := by decide +kernel
  have parked : (vanishingStart.trail (fun _ => false) 1).provisioning? = none := by decide +kernel
  have failed : (vanishingStart.trail (fun _ => false) 2).provisioning? =
      some (.error (.io Simulation.Script.unplugged)) := by decide +kernel
  have rom : (vanishingStart.trail (fun _ => false) 2).stage = .bootRom := by decide +kernel
  have spent : (vanishingStart.trail (fun _ => false) 2).link.settings.maxLoaderTries ≤
      (vanishingStart.trail (fun _ => false) 2).attempts + 1 := by decide +kernel
  have unsettled : ∀ k, 0 < k → k ≤ 2 → ∀ outcome,
      (vanishingStart.trail (fun _ => false) k).provisioning? ≠ some (.ok outcome) := by
    intro k positive bound outcome settled
    obtain rfl | rfl : k = 1 ∨ k = 2 := by omega
    · rw [parked] at settled
      cases settled
    · rw [failed] at settled
      cases settled
  have supplied : Link.Supplied vanishingStart.link.images := fun _ => ⟨nofun, nofun⟩
  refine ⟨wrote, rom, ?_⟩
  exact (broken_write_not_started vanishingStart (fun _ => false) supplied 0 2 (by decide) _ broken
    wrote nofun unsettled rom).2 (by rw [failed]; exact nofun) spent

end Lifecycle

end RadioLink
