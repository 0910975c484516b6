import RadioLink.Proofs.Sending

/-!
The phases of the association manager. What one poll can do is said once, each case with the guard
under which it happens; what holds of every poll and of every run is read off the cases. The alarm
runs exactly in the phases in which the manager waits, so it never waits without an end.
-/

namespace RadioLink

namespace Association

variable {σ : Type}

structure Chooses (assoc : Association σ) (telemetry : Telemetry) : Prop where
  phase : assoc.manager.phase = .select
  apart : telemetry.isConnected = false
  ready : assoc.transport.isReady = true

def tries (assoc : Association σ) : Bool :=
  !assoc.store.config.accessPointEnabled && !assoc.store.config.noStations

/-- What the manager asks for when it chooses: the phase in which it then waits, the type of the
request, its credentials, and whether these are generated. -/
inductive Asks (assoc : Association σ) (telemetry : Telemetry) :
    Phase → UInt8 → Credentials → Bool → Prop where
  | network (tries : assoc.tries = true)
      (named : (assoc.store.config.station assoc.manager.router).isEmpty = false) :
      Asks assoc telemetry .joining Message.connectId
        (assoc.store.config.station assoc.manager.router) false
  | generated (offers : assoc.tries = false) (known : telemetry.mac ≠ Octets.zero 6)
      (unnamed : assoc.store.config.accessPoint.isEmpty = true) :
      Asks assoc telemetry .apJoining Message.accessPointId (.generated telemetry.mac) true
  | configured (offers : assoc.tries = false) (known : telemetry.mac ≠ Octets.zero 6)
      (named : assoc.store.config.accessPoint.isEmpty = false)
      (long : checkPassword assoc.store.config.accessPoint = .ok ()) :
      Asks assoc telemetry .apJoining Message.accessPointId assoc.store.config.accessPoint false

def Waits (assoc : Association σ) (telemetry : Telemetry) : Prop :=
  match assoc.manager.phase with
  | .select => telemetry.isConnected = false ∧ (assoc.transport.isReady = true →
      assoc.tries = false ∧ telemetry.mac = Octets.zero 6)
  | .joining | .apJoining | .backoff => telemetry.isConnected = false ∧
      assoc.manager.alarm.expired assoc.transport.now = false
  | .connected => telemetry.isConnected = true ∧ (assoc.transport.isReady = true →
      assoc.ports.changed = false ∧ assoc.manager.alarm.expired assoc.transport.now = false)

inductive Polled (assoc : Association σ) (telemetry : Telemetry) (timeout : Micros) :
    Association σ → Prop where
  | waited (waits : assoc.Waits telemetry) : Polled assoc telemetry timeout assoc
  | connected (other : assoc.manager.phase ≠ .connected) (up : telemetry.isConnected = true) :
      Polled assoc telemetry timeout (assoc.enterConnected telemetry)
  /-- The slot is empty. -/
  | passed (chooses : assoc.Chooses telemetry) (tries : assoc.tries = true)
      (unnamed : (assoc.store.config.station assoc.manager.router).isEmpty = true) :
      Polled assoc telemetry timeout
        (assoc.setManager { assoc.manager with generatedAp := false }.advance)
  /-- The request does not go out, and the manager goes on choosing. -/
  | unheard {phase : Phase} {dataId : UInt8} {credentials : Credentials} {generated : Bool}
      {error : LinkError} {transport : Transport σ} (chooses : assoc.Chooses telemetry)
      (asks : assoc.Asks telemetry phase dataId credentials generated)
      (tries : assoc.transport.Tries dataId credentials.bytes (.error error) transport) :
      Polled assoc telemetry timeout
        { assoc with transport, manager := { assoc.manager with generatedAp := generated } }
  | asked {phase : Phase} {dataId : UInt8} {credentials : Credentials} {generated : Bool}
      {transport : Transport σ} (chooses : assoc.Chooses telemetry)
      (asks : assoc.Asks telemetry phase dataId credentials generated)
      (tries : assoc.transport.Tries dataId credentials.bytes (.ok ()) transport) :
      Polled assoc telemetry timeout
        { assoc with
          transport
          manager := { assoc.manager with generatedAp := generated }.enter phase
            assoc.transport.now timeout }
  /-- The password of the configured access point is too short. -/
  | disabled {error : NetworkError} {transport : Transport σ} (chooses : assoc.Chooses telemetry)
      (offers : assoc.tries = false) (known : telemetry.mac ≠ Octets.zero 6)
      (named : assoc.store.config.accessPoint.isEmpty = false)
      (short : checkPassword assoc.store.config.accessPoint = .error error)
      (noted : assoc.transport.Noted transport) :
      Polled assoc telemetry timeout
        { assoc with
          transport
          store := assoc.store.write (.accessPointEnabled false)
          manager := assoc.manager.enterBackoff assoc.transport.now }
  | joinTimedOut {transport : Transport σ} (phase : assoc.manager.phase = .joining)
      (apart : telemetry.isConnected = false)
      (late : assoc.manager.alarm.expired assoc.transport.now = true)
      (noted : assoc.transport.Noted transport) :
      Polled assoc telemetry timeout
        { assoc with
          transport, manager := assoc.manager.advance.enterBackoff assoc.transport.now }
  | offerTimedOut (phase : assoc.manager.phase = .apJoining) (apart : telemetry.isConnected = false)
      (late : assoc.manager.alarm.expired assoc.transport.now = true) :
      Polled assoc telemetry timeout
        (assoc.setManager (assoc.manager.enterBackoff assoc.transport.now))
  | resumed (phase : assoc.manager.phase = .backoff) (apart : telemetry.isConnected = false)
      (late : assoc.manager.alarm.expired assoc.transport.now = true) :
      Polled assoc telemetry timeout (assoc.setManager assoc.manager.restart)
  | dropped {transport : Transport σ} (phase : assoc.manager.phase = .connected)
      (apart : telemetry.isConnected = false) (noted : assoc.transport.Noted transport) :
      Polled assoc telemetry timeout
        { assoc with transport, manager := assoc.manager.enterBackoff assoc.transport.now }
  /-- A copy of the port table is due. -/
  | pushed {result : Except LinkError Unit} {transport : Transport σ}
      (phase : assoc.manager.phase = .connected) (up : telemetry.isConnected = true)
      (due : assoc.ports.changed = true ∨
        assoc.manager.alarm.expired assoc.transport.now = true)
      (ready : assoc.transport.isReady = true)
      (tries : assoc.transport.Tries Message.portsId assoc.ports.bytes result transport) :
      Polled assoc telemetry timeout
        { assoc with
          transport
          ports := if result = .ok () then assoc.ports.clearChanged else assoc.ports
          manager := { assoc.manager with
            alarm := .due assoc.transport.now Manager.portsInterval } }

variable [Peer σ] {assoc : Association σ} {telemetry : Telemetry} {timeout : Micros}

theorem startAccessPoint_cases {credentials : Credentials} {generated : Bool}
    (chooses : assoc.Chooses telemetry)
    (asks : assoc.Asks telemetry .apJoining Message.accessPointId credentials generated) :
    Polled assoc telemetry timeout
      ((assoc.setManager { assoc.manager with generatedAp := generated }).startAccessPoint
        credentials timeout) := by
  have tried := (Transport.send_tries Message.accessPointId credentials.bytes
    (assoc.transport.note (.startingAccessPoint credentials.ssid))).of_note
  simp only [startAccessPoint, send, note, setManager]
  generalize (Transport.send Message.accessPointId credentials.bytes).outcome
    (assoc.transport.note (.startingAccessPoint credentials.ssid)) = run at tried ⊢
  obtain ⟨result, transport⟩ := run
  cases result with
  | error error => exact .unheard chooses asks (tried.note _)
  | ok => exact .asked chooses asks tried

theorem trySlot_cases (chooses : assoc.Chooses telemetry) (tries : assoc.tries = true) :
    Polled assoc telemetry timeout (assoc.trySlot timeout) := by
  unfold trySlot
  dsimp only
  split
  next unnamed => exact .passed chooses tries unnamed
  next named =>
    have asks : assoc.Asks telemetry .joining Message.connectId
        (assoc.store.config.station assoc.manager.router) false :=
      .network tries (Bool.eq_false_of_not_eq_true named)
    have tried := (Transport.send_tries Message.connectId
      (assoc.store.config.station assoc.manager.router).bytes (assoc.transport.note
        (.connecting (assoc.store.config.station assoc.manager.router).ssid))).of_note
    simp only [send, note, setManager]
    generalize (Transport.send Message.connectId
      (assoc.store.config.station assoc.manager.router).bytes).outcome (assoc.transport.note
        (.connecting (assoc.store.config.station assoc.manager.router).ssid)) = run at tried ⊢
    obtain ⟨result, transport⟩ := run
    cases result with
    | error error => exact .unheard chooses asks (tried.note _)
    | ok => exact .asked chooses asks tried

theorem offerAccessPoint_cases (chooses : assoc.Chooses telemetry) (offers : assoc.tries = false) :
    Polled assoc telemetry timeout (assoc.offerAccessPoint telemetry timeout) := by
  unfold offerAccessPoint
  split
  next unknown =>
    apply Polled.waited
    unfold Waits
    rw [chooses.phase]
    exact ⟨chooses.apart, fun _ => ⟨offers, unknown⟩⟩
  next known =>
    dsimp only
    split
    next unnamed => exact startAccessPoint_cases chooses (.generated offers known unnamed)
    next named =>
      have some := Bool.eq_false_of_not_eq_true named
      split
      next error short => exact .disabled chooses offers known some short ⟨_, rfl⟩
      next long => exact startAccessPoint_cases chooses (.configured offers known some long)

theorem pushPorts_cases (phase : assoc.manager.phase = .connected)
    (up : telemetry.isConnected = true)
    (due : assoc.ports.changed = true ∨ assoc.manager.alarm.expired assoc.transport.now = true)
    (ready : assoc.transport.isReady = true) :
    Polled assoc telemetry timeout assoc.pushPorts := by
  have tried := Transport.send_tries Message.portsId assoc.ports.bytes assoc.transport
  simp only [pushPorts, send, setManager]
  generalize (Transport.send Message.portsId assoc.ports.bytes).outcome assoc.transport = run
    at tried ⊢
  obtain ⟨result, transport⟩ := run
  cases result with
  | error error => exact .pushed phase up due ready (tried.note _)
  | ok => exact .pushed phase up due ready tried

omit [Peer σ] in
theorem Waits.of_early (phase : assoc.manager.phase = .joining ∨ assoc.manager.phase = .apJoining ∨
    assoc.manager.phase = .backoff) (apart : ¬telemetry.isConnected = true)
    (early : ¬assoc.manager.alarm.expired assoc.transport.now = true) : assoc.Waits telemetry := by
  have waits : telemetry.isConnected = false ∧
      assoc.manager.alarm.expired assoc.transport.now = false :=
    ⟨Bool.eq_false_of_not_eq_true apart, Bool.eq_false_of_not_eq_true early⟩
  unfold Waits
  rcases phase with phase | phase | phase
  · rw [phase]
    exact waits
  · rw [phase]
    exact waits
  · rw [phase]
    exact waits

theorem poll_cases (assoc : Association σ) (telemetry : Telemetry) (timeout : Micros) :
    Polled assoc telemetry timeout (assoc.poll telemetry timeout) := by
  have apart_eq (apart : ¬telemetry.isConnected = true) : telemetry.isConnected = false :=
    Bool.eq_false_of_not_eq_true apart
  unfold poll
  dsimp only
  split
  next phase =>
    split
    next up => exact .connected (by rw [phase]; decide) up
    next apart =>
      split
      next ready =>
        have chooses : assoc.Chooses telemetry := ⟨phase, apart_eq apart, ready⟩
        unfold select
        dsimp only
        split
        next tries => exact trySlot_cases chooses tries
        next offers => exact offerAccessPoint_cases chooses (Bool.eq_false_of_not_eq_true offers)
      next unready =>
        apply Polled.waited
        unfold Waits
        rw [phase]
        exact ⟨apart_eq apart, fun ready => absurd ready unready⟩
  next phase =>
    split
    next up => exact .connected (by rw [phase]; decide) up
    next apart =>
      split
      next late => exact .joinTimedOut phase (apart_eq apart) late ⟨_, rfl⟩
      next early => exact .waited (.of_early (.inl phase) apart early)
  next phase =>
    split
    next up => exact .connected (by rw [phase]; decide) up
    next apart =>
      split
      next late => exact .offerTimedOut phase (apart_eq apart) late
      next early => exact .waited (.of_early (.inr (.inl phase)) apart early)
  next phase =>
    split
    next up => exact .connected (by rw [phase]; decide) up
    next apart =>
      split
      next late => exact .resumed phase (apart_eq apart) late
      next early => exact .waited (.of_early (.inr (.inr phase)) apart early)
  next phase =>
    split
    next apart => exact .dropped phase (by simpa using apart) ⟨_, rfl⟩
    next up =>
      have connected : telemetry.isConnected = true := by simpa using up
      split
      next due =>
        rw [Bool.and_eq_true, Bool.or_eq_true] at due
        exact pushPorts_cases phase connected due.1 due.2
      next idle =>
        apply Polled.waited
        unfold Waits
        rw [phase]
        refine ⟨connected, fun ready => ?_⟩
        simpa [ready] using idle

end Association

def Phase.next : Phase → List Phase
  | select => [joining, apJoining, backoff, connected]
  | joining | apJoining => [connected, backoff]
  | backoff => [select, connected]
  | connected => [backoff]

namespace Manager

/-- The manager looks at a slot that exists, and its alarm runs exactly while it waits. -/
structure Timed (manager : Manager) : Prop where
  slot : manager.router < stationCount
  armed : manager.alarm.isArmed = true ↔ manager.phase ≠ .select

theorem timed_new : Timed {} := ⟨by decide, by decide⟩

theorem Timed.restart {manager : Manager} (timed : manager.Timed) : manager.restart.Timed :=
  ⟨timed.slot, iff_of_false Bool.false_ne_true (fun other => other rfl)⟩

theorem Timed.enter {manager : Manager} (slot : manager.router < stationCount) {phase : Phase}
    (waiting : phase ≠ .select) (now timeout : Micros) : (manager.enter phase now timeout).Timed :=
  ⟨slot, iff_of_true rfl waiting⟩

theorem advance_lt (manager : Manager) : manager.advance.router < stationCount :=
  Nat.mod_lt _ (by decide)

end Manager

def WritesOneFrame (events : List Event) : Prop :=
  events.filterMap Event.written? = [] ∨
    ∃ parcel : Parcel, events.filterMap Event.written? = [parcel.wire]

namespace Transport

variable {σ : Type} {before after : Transport σ}

def SendsOne (before after : Transport σ) : Prop :=
  ∃ events, Line.Episode events before.line after.line ∧ Sending events ∧ WritesOneFrame events

theorem Noted.sendsOne (noted : Noted before after) : SendsOne before after := by
  obtain ⟨log, rfl⟩ := noted
  exact ⟨[], .quiet rfl rfl rfl, by simp [Sending], .inl rfl⟩

theorem Tries.sendsOne {dataId : UInt8} {payload : Bytes} {result : Except LinkError Unit}
    (tries : Tries dataId payload before result after) : SendsOne before after := by
  obtain ⟨⟨events, episode, sending⟩, -⟩ := tries.sends
  refine ⟨events, episode, sending, ?_⟩
  rw [← episode.did.since_eq]
  rcases before.refuses_or_ready payload with ⟨_, refuses⟩ | ⟨fits, ready⟩
  · rw [(tries.noted_of_refuses refuses).events_eq]
    exact .inl rfl
  · exact .inr ⟨_, tries.written fits ready⟩

end Transport

namespace Association

variable {σ : Type} {assoc after : Association σ} {telemetry : Telemetry} {timeout : Micros}

theorem enterConnected_transport (assoc : Association σ) (telemetry : Telemetry) :
    assoc.transport.Noted (assoc.enterConnected telemetry).transport := by
  unfold enterConnected
  dsimp only
  split
  · exact ⟨_, rfl⟩
  · exact ⟨_, rfl⟩

theorem enterConnected_phase (assoc : Association σ) (telemetry : Telemetry) :
    (assoc.enterConnected telemetry).manager.phase = .connected := by
  unfold enterConnected
  dsimp only
  split
  · rfl
  · rfl

theorem timed_enterConnected (timed : assoc.manager.Timed) (telemetry : Telemetry) :
    (assoc.enterConnected telemetry).manager.Timed := by
  unfold enterConnected
  dsimp only
  split
  · exact .enter timed.slot (by decide) _ _
  · exact ⟨timed.slot, iff_of_true rfl Phase.noConfusion⟩

theorem Asks.leaves {phase : Phase} {dataId : UInt8} {credentials : Credentials} {generated : Bool}
    (asks : assoc.Asks telemetry phase dataId credentials generated) :
    phase ≠ .select ∧ phase ∈ Phase.next .select := by
  cases asks with
  | network => decide
  | generated => decide
  | configured => decide

namespace Polled

theorem timed (polled : Polled assoc telemetry timeout after) (timed : assoc.manager.Timed) :
    after.manager.Timed := by
  cases polled with
  | waited => exact timed
  | connected => exact timed_enterConnected timed telemetry
  -- the next two go on choosing, and the alarm stays off
  | passed => exact ⟨Manager.advance_lt _, timed.armed⟩
  | unheard => exact ⟨timed.slot, timed.armed⟩
  | asked _ asks _ => exact ⟨timed.slot, iff_of_true rfl asks.leaves.1⟩
  | disabled | offerTimedOut | dropped => exact .enter timed.slot (by decide) _ _
  | joinTimedOut => exact .enter (Manager.advance_lt _) (by decide) _ _
  | resumed => exact timed.restart
  | pushed phase _ _ _ _ => exact ⟨timed.slot, iff_of_true rfl (by rw [phase]; decide)⟩

theorem phase_eq (polled : Polled assoc telemetry timeout after) :
    after.manager.phase = assoc.manager.phase ∨
      after.manager.phase ∈ assoc.manager.phase.next := by
  cases polled with
  | waited | passed | unheard | pushed => exact .inl rfl
  | connected other _ =>
    -- a report of a connection is heeded in every phase that is not connected yet
    right
    rw [enterConnected_phase]
    revert other
    cases assoc.manager.phase <;> decide
  | asked chooses asks _ =>
    right
    rw [chooses.phase]
    exact asks.leaves.2
  | disabled chooses =>
    right
    rw [chooses.phase]
    show Phase.backoff ∈ Phase.next .select
    decide
  | joinTimedOut phase | offerTimedOut phase =>
    right
    rw [phase]
    show Phase.backoff ∈ Phase.next .joining
    decide
  | resumed phase =>
    right
    rw [phase]
    show Phase.select ∈ Phase.next .backoff
    decide
  | dropped phase =>
    right
    rw [phase]
    show Phase.backoff ∈ Phase.next .connected
    decide

theorem sendsOne (polled : Polled assoc telemetry timeout after) :
    assoc.transport.SendsOne after.transport := by
  have silent : assoc.transport.Noted assoc.transport := ⟨_, rfl⟩
  cases polled with
  | waited | passed | offerTimedOut | resumed => exact silent.sendsOne
  | connected => exact (enterConnected_transport assoc telemetry).sendsOne
  | unheard _ _ tries | asked _ _ tries | pushed _ _ _ _ tries => exact tries.sendsOne
  | disabled _ _ _ _ _ noted | joinTimedOut _ _ _ noted | dropped _ _ noted =>
    exact noted.sendsOne

end Polled

end Association

/-- All that a poll depends on besides the manager: the line with its clock and its ready signal, the
configuration, the port table, what the co-processor reports and the time given to a join. -/
structure Occasion (σ : Type) where
  transport : Transport σ
  store : ConfigStore
  ports : PortTable
  telemetry : Telemetry
  timeout : Micros

inductive Turn (σ : Type) where
  | restart
  | poll (occasion : Occasion σ)

namespace Manager

variable {σ : Type}

def on (manager : Manager) (occasion : Occasion σ) : Association σ :=
  { transport := occasion.transport, store := occasion.store, ports := occasion.ports, manager }

variable [Peer σ]

def polled (manager : Manager) (occasion : Occasion σ) : Association σ :=
  (manager.on occasion).poll occasion.telemetry occasion.timeout

def turn (manager : Manager) : Turn σ → Manager
  | .restart => manager.restart
  | .poll occasion => (manager.polled occasion).manager

def after (turns : List (Turn σ)) : Manager := turns.foldl turn {}

theorem timed_turn {manager : Manager} (timed : manager.Timed) (turn : Turn σ) :
    (manager.turn turn).Timed := by
  cases turn with
  | restart => exact timed.restart
  | poll occasion =>
    have cases := Association.poll_cases (manager.on occasion) occasion.telemetry occasion.timeout
    exact cases.timed timed

theorem timed_after (turns : List (Turn σ)) : (after turns).Timed := by
  induction turns using List.reverseRecOn with
  | nil => exact timed_new
  | append_singleton turns turn ih =>
    unfold after at ih ⊢
    rw [List.foldl_concat]
    exact timed_turn ih turn

/-- The manager never waits without a timer. In every run of polls and restarts, each poll on an
occasion of its own, the slot exists and the alarm runs exactly in the phases other than the choice;
a poll writes at most one frame, takes no time, and leaves a phase only for one that can follow it. -/
theorem timed_while_waiting (turns : List (Turn σ)) :
    (after turns).router < 4 ∧
    ((after turns).alarm.isArmed = true ↔ (after turns).phase ≠ .select) ∧
    ∀ occasion : Occasion σ,
      WritesOneFrame
        (occasion.transport.line.since ((after turns).polled occasion).transport.line) ∧
      ((after turns).polled occasion).transport.now = occasion.transport.now ∧
      (((after turns).polled occasion).manager.phase = (after turns).phase ∨
        ((after turns).polled occasion).manager.phase ∈ (after turns).phase.next) := by
  have timed := timed_after turns
  refine ⟨timed.slot, timed.armed, fun occasion => ?_⟩
  have cases := Association.poll_cases ((after turns).on occasion) occasion.telemetry
    occasion.timeout
  obtain ⟨events, episode, _, one⟩ := cases.sendsOne
  have happened : occasion.transport.line.since ((after turns).polled occasion).transport.line =
      events := episode.did.since_eq
  rw [happened]
  exact ⟨one, episode.instant, cases.phase_eq⟩

end Manager

end RadioLink
