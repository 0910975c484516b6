import RadioLink.Proofs.MessageEffects
import RadioLink.Proofs.RunClock

/-!
The seconds a session reports. The alarm that counts them is armed when the link is seen connected,
and a second is counted only after it has gone off, so within a session the count stays behind the
clock. The start of a new session clears the count and leaves the alarm armed. By then the alarm has
gone off, since the co-processor was parked for longer than a second, and the first pass of the new
session counts a second that belongs to the old one if it finds the link connected.
-/

namespace RadioLink

namespace Desk

def SameUptime (before after : Desk) : Prop := after.telemetry.uptime = before.telemetry.uptime

/-- No message changes the seconds. -/
theorem sameUptime_dispatch (state : LinkState) (dataId : UInt8) (payload : Bytes) :
    Action.Keeps SameUptime (dispatch state dataId payload) := by
  intro desk
  have takes := dispatch_takes desk state dataId payload
  generalize (dispatch state dataId payload).outcome desk = run at takes ⊢
  cases takes <;> rfl

end Desk

namespace Uptime

inductive Looks (uptime : Uptime) (now : Micros) (telemetry : Telemetry) :
    Uptime × Telemetry → Prop where
  | off (down : telemetry.isConnected = false) :
      Looks uptime now telemetry ({ tick := .off }, { telemetry with uptime := 0 })
  | armed (up : telemetry.isConnected = true) (idle : uptime.tick.deadline = none) :
      Looks uptime now telemetry ({ tick := .due now second }, telemetry)
  | counted {deadline : Micros} (up : telemetry.isConnected = true)
      (set : uptime.tick.deadline = some deadline) (due : deadline ≤ now) :
      Looks uptime now telemetry
        ({ tick := .due now second }, { telemetry with uptime := telemetry.uptime + 1 })
  | waiting {deadline : Micros} (up : telemetry.isConnected = true)
      (set : uptime.tick.deadline = some deadline) (early : now < deadline) :
      Looks uptime now telemetry (uptime, telemetry)

theorem poll_looks (uptime : Uptime) (now : Micros) (telemetry : Telemetry) :
    Looks uptime now telemetry (uptime.poll now telemetry) := by
  unfold poll
  split
  next down => exact .off (by simpa using down)
  next up =>
    have connected : telemetry.isConnected = true := by simpa using up
    rcases set : uptime.tick.deadline with - | deadline
    · rw [if_pos (by simp [Alarm.isArmed, set])]
      exact .armed connected set
    · rw [if_neg (by simp [Alarm.isArmed, set])]
      split
      next due =>
        simp only [Alarm.expired, set, decide_eq_true_eq] at due
        exact .counted connected set due
      next early =>
        simp only [Alarm.expired, set, decide_eq_true_eq, Nat.not_le] at early
        exact .waiting connected set early

end Uptime

namespace Link

variable {σ α ε : Type}

structure Steady (before after : Link σ) : Prop where
  now : after.line.now = before.line.now
  alarm : after.uptime = before.uptime
  seconds : after.telemetry.uptime = before.telemetry.uptime

theorem Steady.trans {before middle after : Link σ} (early : Steady before middle)
    (late : Steady middle after) : Steady before after :=
  ⟨late.now.trans early.now, late.alarm.trans early.alarm, late.seconds.trans early.seconds⟩

def SameCount (before after : Link σ) : Prop :=
  after.uptime = before.uptime ∧ after.telemetry.uptime = before.telemetry.uptime

instance : IsPreorder (Link σ) SameCount where
  refl _ := ⟨rfl, rfl⟩
  trans _ _ _ early late := ⟨late.1.trans early.1, late.2.trans early.2⟩

theorem sameCount_onTransport (action : Action ε (Transport σ) α) :
    Action.Keeps SameCount (onTransport action) := by
  intro link
  rw [outcome_onTransport]
  exact ⟨rfl, rfl⟩

theorem sameCount_dispatch (link : Link σ) (frame : Frame) : SameCount link (link.dispatch frame) := by
  have kept := Desk.sameUptime_dispatch link.state frame.dataId frame.payload
    { dispatcher := link.dispatcher, telemetry := link.telemetry, store := link.store,
      sink := link.sink, handled := link.handled, log := link.transport.line.log }
  unfold dispatch
  dsimp only
  split <;> exact ⟨rfl, kept⟩

variable [Peer σ]

theorem receptionKeeps_sameCount : ReceptionKeeps (SameCount : Link σ → Link σ → Prop) where
  alarm _ _ := ⟨rfl, rfl⟩
  note _ _ := ⟨rfl, rfl⟩
  dispatch := sameCount_dispatch
  pump := sameCount_onTransport _
  arm := sameCount_onTransport _
  poll := sameCount_onTransport _

/-- How a pass deals with the seconds: it fails and leaves them alone, or it looks at the clock once,
at its end. -/
inductive Ticks (link : Link σ) : Except LinkError Unit × Link σ → Prop where
  | failed {error : LinkError} {after : Link σ} (steady : Steady link after) :
      Ticks link (.error error, after)
  | through {reached : Link σ} (steady : Steady link reached) :
      Ticks link (.ok (), reached.countUptime)

theorem tick_ticks (link : Link σ) : Ticks link (tick.outcome link) := by
  have same := receptionKeeps_sameCount.receive link
  have ran := receive_cases link
  rw [tick, Action.outcome_bind, Action.outcome_attempt]
  generalize receive.outcome link = run at ran same ⊢
  cases ran with
  | broken faulty =>
    obtain ⟨_, episode, _⟩ := faulty
    exact .failed ⟨episode.instant, same.1, same.2⟩
  | @through after _ episode _ =>
    obtain ⟨⟨_, sent, _⟩, _, _⟩ :=
      Association.sends_poll after.toAssociation after.telemetry after.settings.connectTimeout
    dsimp only
    rw [Action.outcome_change_bind, Action.outcome_change]
    exact .through ⟨sent.instant.trans episode.instant, same.1, same.2⟩

theorem alarm_holdReset (link : Link σ) : (holdReset.outcome link).2.uptime = link.uptime := by
  have same : (holdReset.outcome link).2 =
    { link with transport := (holdReset.outcome link).2.transport } := onlyTransport_holdReset link
  rw [same]

omit [Peer σ] in
theorem countUptime_looks (link : Link σ) :
    link.uptime.Looks link.line.now link.telemetry
      (link.countUptime.uptime, link.countUptime.telemetry) :=
  Uptime.poll_looks link.uptime link.transport.now link.telemetry

omit [Peer σ] in
theorem countUptime_isConnected (link : Link σ) :
    link.countUptime.telemetry.isConnected = link.telemetry.isConnected := by
  have looks := countUptime_looks link
  generalize link.countUptime.uptime = uptime at looks
  generalize link.countUptime.telemetry = telemetry at looks ⊢
  cases looks <;> rfl

/-- The count is in step with the clock since a moment: as many seconds have passed, and the next one
is not counted before it is over. An alarm at the end of the clock never goes off in time. -/
structure InStep (since : Micros) (link : Link σ) : Prop where
  counted : since + link.telemetry.uptime.toNat * 1000000 ≤ link.line.now
  next : ∀ deadline, link.uptime.tick.deadline = some deadline →
    since + (link.telemetry.uptime.toNat + 1) * 1000000 ≤ deadline ∨ Micros.last ≤ deadline

namespace InStep

variable {since : Micros} {link : Link σ}

omit [Peer σ]

theorem seconds_succ_le (seconds : UInt32) : (seconds + 1).toNat ≤ seconds.toNat + 1 := by
  rw [UInt32.toNat_add]
  exact Nat.mod_le _ _

/-- An alarm that is armed now goes off when the next second is over. -/
theorem next_due {seconds : Nat} {now : Micros} (counted : since + seconds * 1000000 ≤ now) :
    since + (seconds + 1) * 1000000 ≤ now.after Uptime.second ∨
      Micros.last ≤ now.after Uptime.second := by
  have due : ∀ since seconds now last : Nat, since + seconds * 1000000 ≤ now →
      since + (seconds + 1) * 1000000 ≤ min (now + 1000000) last ∨
        last ≤ min (now + 1000000) last := by omega
  exact due since seconds now Micros.last counted

/-- A look at the clock keeps in step. The alarm matters only if the link is connected. -/
theorem count (counted : since + link.telemetry.uptime.toNat * 1000000 ≤ link.line.now)
    (next : link.telemetry.isConnected = true →
      ∀ deadline, link.uptime.tick.deadline = some deadline →
        since + (link.telemetry.uptime.toNat + 1) * 1000000 ≤ deadline ∨ Micros.last ≤ deadline)
    (running : link.line.now < Micros.last) : InStep since link.countUptime := by
  have now : link.countUptime.line.now = link.line.now := rfl
  have looks := countUptime_looks link
  suffices both : since + link.countUptime.telemetry.uptime.toNat * 1000000 ≤ link.line.now ∧
      ∀ deadline, link.countUptime.uptime.tick.deadline = some deadline →
        since + (link.countUptime.telemetry.uptime.toNat + 1) * 1000000 ≤ deadline ∨
          Micros.last ≤ deadline from ⟨now ▸ both.1, both.2⟩
  generalize link.countUptime.uptime = uptime at looks ⊢
  generalize link.countUptime.telemetry = telemetry at looks ⊢
  cases looks with
  | off down =>
    have start : ∀ since seconds now : Nat, since + seconds * 1000000 ≤ now →
        since + 0 * 1000000 ≤ now := by omega
    exact ⟨start _ _ _ counted, fun _ set => by cases set⟩
  | armed up idle =>
    refine ⟨counted, fun deadline set => ?_⟩
    rw [← Option.some.inj set]
    exact next_due counted
  | @counted deadline up set due =>
    have whole : since + (link.telemetry.uptime.toNat + 1) * 1000000 ≤ link.line.now := by
      rcases next up deadline set with late | never
      · exact Nat.le_trans late due
      · exact absurd (Nat.le_trans never due) (Nat.not_le.mpr running)
    have fewer : ∀ since seconds more now : Nat, more ≤ seconds + 1 →
        since + (seconds + 1) * 1000000 ≤ now → since + more * 1000000 ≤ now := by omega
    have more := fewer _ _ _ _ (seconds_succ_le link.telemetry.uptime) whole
    refine ⟨more, fun deadline set => ?_⟩
    rw [← Option.some.inj set]
    exact next_due more
  | waiting up set early => exact ⟨counted, next up⟩

/-- What comes later is in step as well, as long as nothing was counted. -/
theorem later {after : Link σ} (inStep : InStep since link) (ages : link.line.Ages after.line)
    (running : after.line.now < Micros.last) (alarm : after.uptime = link.uptime)
    (seconds : after.telemetry.uptime = link.telemetry.uptime) : InStep since after := by
  refine ⟨?_, ?_⟩
  · rw [seconds]
    exact Nat.le_trans inStep.counted (ages.le running)
  · rw [alarm, seconds]
    exact inStep.next

end InStep

end Link

/-- How far the alarm of the seconds may be ahead of the clock in a stage. Before a pass has been made
it has gone off. -/
def Stage.slack : Stage → Micros
  | .bootRom | .bootApp | .alive false => 0
  | _ => Uptime.second

theorem Stage.slack_le (stage : Stage) : stage.slack ≤ Uptime.second := by
  unfold slack
  split
  · exact Nat.zero_le _
  · exact Nat.zero_le _
  · exact Nat.zero_le _
  · exact Nat.le_refl _

namespace Lifecycle

variable {σ : Type} [Peer σ] {cycle next : Lifecycle σ}

def Tended (cycle : Lifecycle σ) : Prop :=
  ∀ deadline, cycle.link.uptime.tick.deadline = some deadline →
    deadline ≤ cycle.link.line.now.after cycle.stage.slack

omit [Peer σ] in
theorem Tended.of_same (tended : cycle.Tended) (ages : cycle.link.line.Ages next.link.line)
    (alarm : next.link.uptime = cycle.link.uptime) (slack : cycle.stage.slack ≤ next.stage.slack) :
    next.Tended := by
  intro deadline set
  rw [alarm] at set
  calc deadline
    _ ≤ cycle.link.line.now.after cycle.stage.slack := tended deadline set
    _ ≤ next.link.line.now.after cycle.stage.slack := ages _
    _ ≤ next.link.line.now.after next.stage.slack := Micros.after_mono _ slack

/-- What a start of the application firmware does to clock, alarm and seconds. The alarm stays as the
session before left it. -/
structure Restarts (cycle next : Lifecycle σ) : Prop where
  ages : cycle.link.line.Ages next.link.line
  soon : next.link.line.now ≤ cycle.link.line.now + 480050
  alarm : next.link.uptime = cycle.link.uptime
  seconds : next.link.telemetry.uptime = 0
  stage : next.stage = .alive false ∨ next.stage = .bootApp

theorem Stepped.restarts (stepped : Stepped cycle .bootApp next)
    (running : next.stage.isShutdown = false) : Restarts cycle next := by
  obtain ⟨ages, soon⟩ :=
    takes_bootApplication (announce cycle.link .bootApp .booting).resetSession
  have only := onlyTransport_bootApplication (announce cycle.link .bootApp .booting).resetSession
  have fresh : ∀ link : Link σ,
      Link.OnlyTransport (announce cycle.link .bootApp .booting).resetSession link →
        link.uptime = cycle.link.uptime ∧ link.telemetry.uptime = 0 := by
    intro link only
    have same : link = { (announce cycle.link .bootApp .booting).resetSession with
      transport := link.transport } := only
    rw [same]
    exact ⟨rfl, rfl⟩
  cases stepped with
  | asked => cases running
  | @booted link _ ran =>
    rw [ran] at ages soon only
    obtain ⟨alarm, seconds⟩ := fresh link only
    exact ⟨ages, soon, alarm, seconds, .inl rfl⟩
  | @unanswered _ link _ _ ran noted =>
    rw [ran] at ages soon only
    obtain ⟨alarm, seconds⟩ := fresh link only
    obtain ⟨log, rfl⟩ := noted
    exact ⟨ages, soon, alarm, seconds, .inr rfl⟩

omit [Peer σ] in
theorem Restarts.asked (restarts : Restarts cycle next) (request : Bool) :
    Restarts cycle (next.asked request) := by
  obtain ⟨ages, soon, alarm, seconds, stage⟩ := restarts
  rw [← asked_link next request] at ages soon alarm seconds
  rw [← asked_stage next request] at stage
  exact ⟨ages, soon, alarm, seconds, stage⟩

inductive Lives (cycle next : Lifecycle σ) : Prop where
  | lost (steady : Link.Steady cycle.link next.link)
      (stage : ∀ entered, next.stage ≠ .alive entered)
  | on {reached : Link σ} (steady : Link.Steady cycle.link reached)
      (link : next.link = reached.countUptime.onLine (·.delay alivePause))
      (stage : next.stage = .alive true)

theorem Stepped.lives {entered : Bool} (stepped : Stepped cycle (.alive entered) next) :
    Lives cycle next := by
  have announced : Link.Steady cycle.link (cycle.entering entered) := by
    cases entered <;> exact ⟨rfl, rfl, rfl⟩
  have ticks := Link.tick_ticks (cycle.entering entered)
  cases stepped with
  | asked => exact .lost ⟨rfl, rfl, rfl⟩ (by simp)
  | passed _ ran =>
    rw [ran] at ticks
    cases ticks with
    | through steady => exact .on (announced.trans steady) rfl rfl
  | lost _ ran noted =>
    rw [ran] at ticks
    obtain ⟨log, rfl⟩ := noted
    cases ticks with
    | failed steady =>
      obtain ⟨now, alarm, seconds⟩ := announced.trans steady
      exact .lost ⟨now, alarm, seconds⟩ (by simp)

theorem Lives.asked (lives : Lives cycle next) (request : Bool) :
    Lives cycle (next.asked request) := by
  cases lives with
  | lost steady stage =>
    exact .lost (by rwa [asked_link]) (by rwa [asked_stage])
  | on steady link stage =>
    exact .on steady (by rwa [asked_link]) (by rwa [asked_stage])

theorem Lives.ages (lives : Lives cycle next) : cycle.link.line.Ages next.link.line := by
  cases lives with
  | lost steady _ => exact .same steady.now
  | @on reached steady link _ =>
    rw [link]
    exact trans_of Line.Ages (.same steady.now) (.delay reached.line alivePause)

/-- A pass leaves the alarm off, alone, or armed for a second from now. -/
theorem Lives.tended (lives : Lives cycle next) (tended : cycle.Tended)
    (slack : next.stage.slack = Uptime.second) : next.Tended := by
  have ages := lives.ages
  cases lives with
  | lost steady _ => exact tended.of_same ages steady.alarm (slack ▸ cycle.stage.slack_le)
  | @on reached steady link _ =>
    have later : reached.line.now.after Uptime.second ≤ next.link.line.now.after Uptime.second := by
      rw [link]
      exact Line.Ages.delay reached.line alivePause _
    have alarm : next.link.uptime = reached.countUptime.uptime := by rw [link]; rfl
    intro deadline set
    rw [slack]
    rw [alarm] at set
    have looks := Link.countUptime_looks reached
    generalize reached.countUptime.uptime = uptime at looks set
    generalize reached.countUptime.telemetry = telemetry at looks
    cases looks with
    | off _ => cases set
    | armed _ _ => exact Option.some.inj set ▸ later
    | counted _ _ _ => exact Option.some.inj set ▸ later
    | waiting _ _ _ =>
      rw [steady.alarm] at set
      calc deadline
        _ ≤ cycle.link.line.now.after cycle.stage.slack := tended deadline set
        _ ≤ cycle.link.line.now.after Uptime.second := Micros.after_mono _ cycle.stage.slack_le
        _ ≤ next.link.line.now.after Uptime.second := ages _

/-- A pass keeps in step, if the alarm it finds belongs to the session. -/
theorem Lives.inStep {since : Micros} (lives : Lives cycle next)
    (counted : since + cycle.link.telemetry.uptime.toNat * 1000000 ≤ cycle.link.line.now)
    (due : next.stage = .alive true → next.link.telemetry.isConnected = true →
      ∀ deadline, cycle.link.uptime.tick.deadline = some deadline →
        since + (cycle.link.telemetry.uptime.toNat + 1) * 1000000 ≤ deadline ∨
          Micros.last ≤ deadline)
    (running : next.link.line.now < Micros.last) :
    since + next.link.telemetry.uptime.toNat * 1000000 ≤ next.link.line.now ∧
      (next.stage = .alive true → next.link.InStep since) := by
  cases lives with
  | lost steady stage =>
    rw [steady.seconds, steady.now]
    exact ⟨counted, fun alive => absurd alive (stage true)⟩
  | @on reached steady link stage =>
    rw [← steady.seconds, ← steady.now] at counted
    have connected : next.link.telemetry.isConnected = reached.telemetry.isConnected := by
      rw [link]
      exact Link.countUptime_isConnected reached
    have paused : reached.countUptime.line.Ages next.link.line := by
      rw [link]
      exact .delay reached.line alivePause
    have still : reached.line.now < Micros.last :=
      Nat.lt_of_le_of_lt (paused.le running) running
    have looked : reached.countUptime.InStep since := by
      refine .count counted (fun up deadline set => ?_) still
      rw [steady.alarm] at set
      rw [steady.seconds]
      exact due stage (connected.trans up) deadline set
    have later : next.link.InStep since :=
      looked.later paused running (by rw [link]; rfl) (by rw [link]; rfl)
    exact ⟨later.counted, fun _ => later⟩

/-- The clock never runs backwards, and the alarm is kept as each stage has it. The error stage parks
the co-processor for longer than a second. -/
theorem step_tended (tended : cycle.Tended) :
    cycle.link.line.Ages cycle.step.link.line ∧ cycle.step.Tended := by
  have provision := Link.provision_ages (announce cycle.link .bootRom .booting)
  have stepped := step_cases cycle
  generalize staged : cycle.stage = stage at stepped
  generalize cycle.step = next at stepped ⊢
  have early : stage.slack = 0 → ∀ slack, cycle.stage.slack ≤ slack := by
    intro none slack
    rw [staged, none]
    exact Nat.zero_le slack
  cases stepped with
  | asked => exact ⟨.same rfl, tended.of_same (.same rfl) rfl cycle.stage.slack_le⟩
  | provisioned _ ran noted | again _ ran noted | gaveUp _ ran noted =>
    rw [ran] at provision
    obtain ⟨log, rfl⟩ := noted
    obtain ⟨ages, alarm⟩ := provision
    exact ⟨ages, tended.of_same ages alarm (early rfl _)⟩
  | booted calm ran =>
    have restarts := Stepped.restarts (.booted calm ran) rfl
    exact ⟨restarts.ages, tended.of_same restarts.ages restarts.alarm (early rfl _)⟩
  | unanswered calm ran noted =>
    have restarts := Stepped.restarts (.unanswered calm ran noted) rfl
    exact ⟨restarts.ages, tended.of_same restarts.ages restarts.alarm (early rfl _)⟩
  | passed calm ran =>
    have lives := Stepped.lives (.passed calm ran)
    exact ⟨lives.ages, lives.tended tended rfl⟩
  | lost calm ran noted =>
    have lives := Stepped.lives (.lost calm ran noted)
    exact ⟨lives.ages, lives.tended tended rfl⟩
  | @rested _ _ after _ ran noted =>
    have still := Link.now_holdReset (announce cycle.link .error .error)
    have alarm := Link.alarm_holdReset (announce cycle.link .error .error)
    rw [ran] at still alarm
    have kept : after.line.now = cycle.link.line.now ∧ after.uptime = cycle.link.uptime := by
      obtain ⟨log, rfl⟩ := noted
      exact ⟨still, alarm⟩
    have now := Line.now_delay after.line (.ofMillis errorHoldMs)
    rw [kept.1] at now
    refine ⟨fun span => ?_, fun deadline set => ?_⟩
    · change _ ≤ Micros.after (after.line.delay (.ofMillis errorHoldMs)).now span
      rw [now]
      exact Micros.after_le_after_after _ _ _
    · have due := tended deadline (kept.2 ▸ set)
      rw [staged] at due
      change deadline ≤ Micros.after (after.line.delay (.ofMillis errorHoldMs)).now 0
      rw [now, Micros.after_zero_after]
      exact Nat.le_trans due (Micros.after_mono _ (by decide))
  | parked ran =>
    have still := Link.now_holdReset (announce cycle.link .shutdown .shutdown)
    have alarm := Link.alarm_holdReset (announce cycle.link .shutdown .shutdown)
    rw [ran] at still alarm
    exact ⟨.same still, tended.of_same (.same still) alarm cycle.stage.slack_le⟩
  | unparked ran noted =>
    have still := Link.now_holdReset (announce cycle.link .shutdown .shutdown)
    have alarm := Link.alarm_holdReset (announce cycle.link .shutdown .shutdown)
    rw [ran] at still alarm
    obtain ⟨log, rfl⟩ := noted
    exact ⟨.same still, tended.of_same (.same still) alarm cycle.stage.slack_le⟩

section

variable {start : Lifecycle σ} {requests : Nat → Bool}

theorem trail_tended (idle : start.link.uptime.tick = .off) (n : Nat) :
    (start.trail requests n).Tended := by
  induction n with
  | zero =>
    intro deadline set
    rw [trail, asked_link, idle] at set
    cases set
  | succ n ih =>
    intro deadline set
    rw [trail_stage]
    rw [trail, asked_link] at set ⊢
    exact (step_tended ih).2 deadline set

theorem trail_ages (idle : start.link.uptime.tick = .off) (n later : Nat) :
    (start.trail requests n).link.line.Ages (start.trail requests (n + later)).link.line := by
  induction later with
  | zero => exact .same rfl
  | succ later ih =>
    rw [← Nat.add_assoc, trail, asked_link]
    exact trans_of Line.Ages ih (step_tended (trail_tended idle (n + later))).1

/-- The alarm of the session before is still armed, and the first pass of the session that step `b`
starts finds the link connected. -/
def CountsStaleAlarm (start : Lifecycle σ) (requests : Nat → Bool) (b : Nat) : Prop :=
  (start.trail requests b).link.uptime.tick.isArmed = true ∧
    (start.trail requests (b + 2)).stage = .alive true ∧
    (start.trail requests (b + 2)).link.telemetry.isConnected = true

variable {b m : Nat} {entered : Bool}

theorem trail_lives {k : Nat} (alive : (start.trail requests k).stage = .alive entered) :
    Lives (start.trail requests k) (start.trail requests (k + 1)) := by
  have stepped := step_cases (start.trail requests k)
  rw [alive] at stepped
  exact stepped.lives.asked _

theorem trail_restarts (booted : (start.trail requests b).stage = .bootApp)
    (alive : (start.trail requests (b + 1)).stage = .alive entered) :
    Restarts (start.trail requests b) (start.trail requests (b + 1)) := by
  have stepped := step_cases (start.trail requests b)
  rw [booted] at stepped
  rw [trail_stage] at alive
  exact (stepped.restarts (by rw [alive]; rfl)).asked _

/-- Unless the first pass counts the alarm of the session before, every pass keeps in step with the
clock since the session was reset. -/
theorem session_inStep (idle : start.link.uptime.tick = .off)
    (booted : (start.trail requests b).stage = .bootApp)
    (session : ∀ k, b < k → k ≤ m → ∃ entered, (start.trail requests k).stage = .alive entered)
    (running : (start.trail requests (m + 1)).link.line.now < Micros.last)
    (fresh : ¬CountsStaleAlarm start requests b) (later : Nat) (within : b + 1 + later ≤ m) :
    (start.trail requests b).link.line.now +
        (start.trail requests (b + 2 + later)).link.telemetry.uptime.toNat * 1000000 ≤
          (start.trail requests (b + 2 + later)).link.line.now ∧
      ((start.trail requests (b + 2 + later)).stage = .alive true →
        (start.trail requests (b + 2 + later)).link.InStep (start.trail requests b).link.line.now) := by
  -- the clock has not come to its end at any step, since it never goes back
  have before : ∀ k, k ≤ m + 1 → (start.trail requests k).link.line.now < Micros.last := by
    intro k early
    obtain ⟨more, total⟩ := Nat.exists_eq_add_of_le early
    rw [total] at running
    exact Nat.lt_of_le_of_lt ((trail_ages idle k more).le running) running
  induction later with
  | zero =>
    obtain ⟨entered, alive⟩ := session (b + 1) (by omega) (by omega)
    have restarts := trail_restarts booted alive
    have order := restarts.ages.le (before (b + 1) (by omega))
    refine (trail_lives alive).inStep ?_ (fun stage connected deadline set => ?_)
      (before (b + 2) (by omega))
    · rw [restarts.seconds]
      exact order
    · rw [restarts.alarm] at set
      have armed : (start.trail requests b).link.uptime.tick.isArmed = true := by
        simp [Alarm.isArmed, set]
      exact absurd ⟨armed, stage, connected⟩ fresh
  | succ later ih =>
    obtain ⟨counted, inStep⟩ := ih (by omega)
    obtain ⟨entered, alive⟩ := session (b + 2 + later) (by omega) (by omega)
    obtain ⟨passed, earlier⟩ := session (b + 1 + later) (by omega) (by omega)
    have on : (start.trail requests (b + 2 + later)).stage = .alive true := by
      have lives := trail_lives earlier
      rw [show b + 1 + later + 1 = b + 2 + later by omega] at lives
      cases lives with
      | lost _ gone => exact absurd alive (gone entered)
      | on _ _ stage => exact stage
    exact (trail_lives alive).inStep counted (fun _ _ => (inStep on).next) (before _ (by omega))

/-- The first pass counts a second that the alarm of the session before has waited for. -/
theorem stale_second (idle : start.link.uptime.tick = .off)
    (booted : (start.trail requests b).stage = .bootApp)
    (alive : (start.trail requests (b + 1)).stage = .alive entered)
    (stale : CountsStaleAlarm start requests b) :
    (start.trail requests (b + 2)).link.telemetry.uptime = 1 ∧
      (start.trail requests (b + 2)).link.line.now ≤
        (start.trail requests b).link.line.now + 481050 := by
  obtain ⟨armed, stage, connected⟩ := stale
  have restarts := trail_restarts booted alive
  have tended : (start.trail requests (b + 1)).Tended := trail_tended idle (b + 1)
  have first : (start.trail requests (b + 1)).stage = .alive false := by
    rcases restarts.stage with stage | stage
    · exact stage
    · rw [stage] at alive
      cases alive
  rcases set : (start.trail requests b).link.uptime.tick.deadline with - | deadline
  · simp [Alarm.isArmed, set] at armed
  rw [← restarts.alarm] at set
  -- before the first pass an armed alarm has gone off
  have due : deadline ≤ (start.trail requests (b + 1)).link.line.now := by
    have soon := tended deadline set
    rw [first] at soon
    exact Nat.le_trans soon (Nat.min_le_left _ _)
  cases trail_lives alive with
  | lost _ gone => exact absurd stage (gone true)
  | @on reached steady link _ =>
    have looks := Link.countUptime_looks reached
    have seconds : (start.trail requests (b + 2)).link.telemetry.uptime =
        reached.countUptime.telemetry.uptime := by rw [link]; rfl
    have up : reached.telemetry.isConnected = true := by
      rw [link] at connected
      exact (Link.countUptime_isConnected reached).symm.trans connected
    rw [← steady.alarm] at set
    rw [← steady.now] at due
    refine ⟨?_, ?_⟩
    · rw [seconds]
      generalize reached.countUptime.uptime = uptime at looks
      generalize reached.countUptime.telemetry = telemetry at looks ⊢
      cases looks with
      | off down => simp [up] at down
      | armed _ none => simp [set] at none
      | counted _ _ _ =>
        rw [steady.seconds, restarts.seconds]
        rfl
      | waiting _ same early =>
        rw [set] at same
        cases same
        exact absurd due (Nat.not_le.mpr early)
    · have paused : (start.trail requests (b + 2)).link.line.now ≤ reached.line.now + 1000 := by
        rw [link]
        exact (Line.now_delay reached.line alivePause).trans_le (Micros.after_le_add _ _)
      rw [steady.now] at paused
      have sum : ∀ reset booted now : Nat, booted ≤ reset + 480050 → now ≤ booted + 1000 →
          now ≤ reset + 481050 := by omega
      exact sum _ _ _ restarts.soon paused

end

/-- As long as the clock has not come to its end, the seconds that a session reports are at most those
that have passed since its start reset the session, unless the first pass counts the alarm of the
session before. Then it reports a second that belongs to that one. -/
theorem uptime_within_session_iff (start : Lifecycle σ) (requests : Nat → Bool)
    (idle : start.link.uptime.tick = .off) (b m : Nat) (lasts : b < m)
    (booted : (start.trail requests b).stage = .bootApp)
    (session : ∀ k, b < k → k ≤ m → ∃ entered, (start.trail requests k).stage = .alive entered)
    (running : (start.trail requests (m + 1)).link.line.now < Micros.last) :
    (∀ k, b < k → k ≤ m →
      (start.trail requests (k + 1)).link.telemetry.uptime.toNat * 1000000 ≤
        (start.trail requests (k + 1)).link.line.now - (start.trail requests b).link.line.now) ↔
    ¬start.CountsStaleAlarm requests b := by
  constructor
  · intro within stale
    obtain ⟨entered, alive⟩ := session (b + 1) (by omega) (by omega)
    obtain ⟨seconds, soon⟩ := stale_second idle booted alive stale
    have counted := within (b + 1) (by omega) (by omega)
    rw [seconds] at counted
    have early : ∀ reset now : Nat, now ≤ reset + 481050 → ¬1 * 1000000 ≤ now - reset := by omega
    exact early _ _ soon counted
  · intro fresh k after upto
    obtain ⟨later, rfl⟩ : ∃ later, k = b + 1 + later := Nat.exists_eq_add_of_le (by omega)
    have counted := (session_inStep idle booted session running fresh later upto).1
    rw [show b + 2 + later = b + 1 + later + 1 by omega] at counted
    have rest : ∀ reset seconds now : Nat, reset + seconds * 1000000 ≤ now →
        seconds * 1000000 ≤ now - reset := by omega
    exact rest _ _ _ counted

/-- A co-processor on a loose plug: a read that fails sets the plug right for good. -/
structure LoosePlug where
  script : Simulation.Script

instance : Peer LoosePlug where
  answer plug now call := (plug.script.answer now call).map id LoosePlug.mk
  grant plug _ room :=
    let granted := plug.script.grant room
    (granted.1, ⟨if granted.1.isOk then granted.2 else { granted.2 with failures := [] }⟩)
  elapse plug now := (plug.script.elapse now).map id LoosePlug.mk

def looseStatus : Simulation.Script :=
  let connected : Simulation.Reply := [{ bytes := [0x02, 0x01, 0x01, 0x01, 0x74, 0x87, 0x01] }]
  { onPulse := [connected, [], connected], failures := [(.read, 2)] }

def looseStart : Lifecycle LoosePlug :=
  { link := Link.start { peer := ⟨looseStatus⟩ } {} {} (.fixed none none) none }

/-- The link is lost when it is hardly connected, and boots again fifty seconds later. The first pass
of the second session already reports a second. -/
theorem uptime_within_session_iff_loose :
    (looseStart.trail (fun _ => false) 6).stage = .bootApp ∧
    looseStart.CountsStaleAlarm (fun _ => false) 6 ∧
    ¬∀ k, 6 < k → k ≤ 7 →
      (looseStart.trail (fun _ => false) (k + 1)).link.telemetry.uptime.toNat * 1000000 ≤
        (looseStart.trail (fun _ => false) (k + 1)).link.line.now -
          (looseStart.trail (fun _ => false) 6).link.line.now := by
  have booted : (looseStart.trail (fun _ => false) 6).stage = .bootApp := by decide +kernel
  have alive : (looseStart.trail (fun _ => false) 7).stage = .alive false := by decide +kernel
  have stale : looseStart.CountsStaleAlarm (fun _ => false) 6 :=
    ⟨by decide +kernel, by decide +kernel, by decide +kernel⟩
  have session : ∀ k, 6 < k → k ≤ 7 →
      ∃ entered, (looseStart.trail (fun _ => false) k).stage = .alive entered := by
    intro k after upto
    rw [show k = 7 by omega]
    exact ⟨false, alive⟩
  have within := uptime_within_session_iff looseStart (fun _ => false) rfl 6 7 (by decide) booted
    session (by decide +kernel)
  exact ⟨booted, stale, fun counted => within.mp counted stale⟩

end Lifecycle

end RadioLink
